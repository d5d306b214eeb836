import Sdsce.Guarantees.Streams.RuntimeEntries

/-!
# One stream for a session

A channel is registered only in the entry that its session has now, and only the stream that made
it takes it out again. So a session has at most one stream, and a stream that was refused disturbs
no other, whatever is deleted and made afresh in between.
-/
namespace Sdsce.Guarantees.Streams

open Sdsce.Theory Sdsce.Source Function

/-- A registered channel belongs to the entry of its session and to the one stream that has bound
it; every stream has made its own channel. -/
structure Exclusive (r : Runtime) (streams : ThreadId → Stream) : Prop where
  found : ∀ p events, (r.heap p).events = some events → r.find p.sessionID = some p
  bound : ∀ p events, (r.heap p).events = some events → ∃ i, streams i = .bound events
  made : ∀ i events, (streams i).channel = some events → events < r.next
  apart : ∀ i j events, (streams i).channel = some events → (streams j).channel = some events →
    i = j

namespace Exclusive

variable {r r' : Runtime} {streams : ThreadId → Stream} {i : ThreadId} {p : StatePtr}

variable (here : Exclusive r streams)

include here

/-- Operations that register nothing and keep the entries in which something is registered. -/
theorem mono
    (old : ∀ p events, (r'.heap p).events = some events → (r.heap p).events = some events)
    (find : ∀ p events, (r'.heap p).events = some events → r.find p.sessionID = some p →
      r'.find p.sessionID = some p) (next : r.next ≤ r'.next) : Exclusive r' streams where
  found p events held := find p events held (here.found p events (old p events held))
  bound p events held := here.bound p events (old p events held)
  made i events mine := (here.made i events mine).trans_le next
  apart := here.apart

theorem same (h : SameEntries r r') : Exclusive r' streams :=
  here.mono (fun p _ held => (congrArg Prod.snd (h.view p)).symm.trans held)
    (fun p _ _ found => (h.find p.sessionID).trans found) h.next

variable {id : String} {state : RuntimeSessionState}

theorem created (h : Created r id r') : Exclusive r' streams := by
  have old (p : StatePtr) (events : Chan) (held : (r'.heap p).events = some events) :
      p ≠ ⟨id, r.next⟩ ∧ (r.heap p).events = some events := by
    have different : p ≠ ⟨id, r.next⟩ := by
      rintro rfl
      cases (congrArg Prod.snd h.empty).symm.trans held
    exact ⟨different, (congrArg Prod.snd (h.view p different)).symm.trans held⟩
  refine here.mono (fun p events held => (old p events held).2) (fun p events held found => ?_)
    h.next.le
  rw [h.find p.sessionID fun same => ?_]
  · exact found
  · cases h.missing.symm.trans (same ▸ found)

theorem dropped (entry : r.find id = some p)
    (unbound : (r.heap p).events = none) (h : Dropped r id r') : Exclusive r' streams := by
  have old (q : StatePtr) (events : Chan) (held : (r'.heap q).events = some events) :
      (r.heap q).events = some events := (congrArg Prod.snd (h.view q)).symm.trans held
  refine here.mono old (fun q events held found => ?_) h.next
  rw [h.find q.sessionID fun same => ?_]
  · exact found
  · cases entry.symm.trans (same ▸ found)
    cases unbound.symm.trans (old p events held)

theorem calm {β : Type} {a : RuntimeAct β} (h : Calm r a r') :
    Exclusive r' streams ∧
      ∀ p events, (r.heap p).events = some events → (r'.heap p).events = some events := by
  cases h with
  | same h => exact ⟨here.same h, fun p _ held => (congrArg Prod.snd (h.view p)).trans held⟩
  | created id h =>
    refine ⟨here.created h, fun p events held => ?_⟩
    have different : p ≠ ⟨id, r.next⟩ := by
      rintro rfl
      cases h.missing.symm.trans (here.found _ events held)
    exact (congrArg Prod.snd (h.view p different)).trans held
  | dropped id p found unbound h =>
    exact ⟨here.dropped found unbound h, fun q _ held =>
      (congrArg Prod.snd (h.view q)).trans held⟩

theorem ensure (id : String) : Exclusive (r.ensure id).1 streams ∧
    ∀ p events, (r.heap p).events = some events →
      ((r.ensure id).1.heap p).events = some events := by
  have effect : Calm r (.ensureSessionState id) (r.ensure id).1 :=
    (ensure_entries r id).elim .same (.created id)
  exact here.calm effect

theorem write (kept : state.events = (r.heap p).events) :
    Exclusive (r.write p state) streams ∧
      ∀ q events, (r.heap q).events = some events →
        ((r.write p state).heap q).events = some events := by
  have unchanged (q : StatePtr) : ((r.write p state).heap q).events = (r.heap q).events := by
    by_cases same : q = p
    · subst same
      exact (congrArg Prod.snd (view_write_self r q state)).trans kept
    · exact congrArg Prod.snd (view_write_of_ne r state same)
  exact ⟨here.mono (fun q _ held => (unchanged q).symm.trans held)
    (fun _ _ _ found => found) le_rfl,
    fun q _ held => (unchanged q).trans held⟩

/-- A stream that has made its channel goes on with it. -/
theorem advance {stream : Stream}
    (own : stream.channel = (streams i).channel) (unbound : ∀ events, streams i ≠ .bound events) :
    Exclusive r (Function.update streams i stream) := by
  have channel (j : ThreadId) :
      (Function.update streams i stream j).channel = (streams j).channel := by
    by_cases same : j = i
    · subst same
      rw [update_self, own]
    · rw [update_of_ne same]
  refine ⟨here.found, fun p events held => ?_, fun j events mine => ?_,
    fun j k events mine other => ?_⟩
  · obtain ⟨j, stream⟩ := here.bound p events held
    have different : j ≠ i := by
      rintro rfl
      exact unbound events stream
    exact ⟨j, (update_of_ne different ..).trans stream⟩
  · exact here.made j events ((channel j).symm.trans mine)
  · exact here.apart j k events ((channel j).symm.trans mine) ((channel k).symm.trans other)

/-- A stream makes a new channel. -/
theorem opens (closed : streams i = .closed) :
    Exclusive { r with channels := Function.update r.channels r.next [], next := r.next + 1 }
      (Function.update streams i (.opened r.next)) := by
  have other (j : ThreadId) (events : Chan)
      (held : (Function.update streams i (.opened r.next) j).channel = some events) :
      j = i ∧ events = r.next ∨ j ≠ i ∧ (streams j).channel = some events := by
    by_cases same : j = i
    · subst same
      rw [update_self] at held
      cases held
      exact .inl ⟨rfl, rfl⟩
    · rw [update_of_ne same] at held
      exact .inr ⟨same, held⟩
  refine ⟨here.found, fun p events held => ?_, fun j events held => ?_,
    fun j k events held held' => ?_⟩
  · obtain ⟨j, bound⟩ := here.bound p events held
    have different : j ≠ i := by
      rintro rfl
      cases closed.symm.trans bound
    exact ⟨j, (update_of_ne different ..).trans bound⟩
  · rcases other j events held with ⟨_, rfl⟩ | ⟨_, before⟩
    · exact Nat.lt_succ_self _
    · exact (here.made j events before).trans (Nat.lt_succ_self _)
  rcases other j events held with ⟨rfl, rfl⟩ | ⟨_, before⟩
  · rcases other k _ held' with ⟨rfl, _⟩ | ⟨_, before⟩
    · rfl
    · exact absurd (here.made k _ before) (lt_irrefl _)
  · rcases other k events held' with ⟨rfl, rfl⟩ | ⟨_, before'⟩
    · exact absurd (here.made j _ before) (lt_irrefl _)
    · exact here.apart j k events before before'

/-- A stream registers its channel in the entry of the session. -/
theorem register {events : Chan} (found : r.find p.sessionID = some p)
    (mine : streams i = .bound events) (registered : state.events = some events) :
    Exclusive (r.write p state) streams := by
  have held (q : StatePtr) (other : Chan)
      (held : ((r.write p state).heap q).events = some other) :
      q = p ∧ other = events ∨ (r.heap q).events = some other := by
    by_cases same : q = p
    · subst same
      have now := (congrArg Prod.snd (view_write_self r q state)).symm.trans held
      cases registered.symm.trans now
      exact .inl ⟨rfl, rfl⟩
    · exact .inr ((congrArg Prod.snd (view_write_of_ne r state same)).symm.trans held)
  refine ⟨fun q other h => ?_, fun q other h => ?_, here.made, here.apart⟩
  · rcases held q other h with ⟨rfl, _⟩ | before
    · exact found
    · exact here.found q other before
  · rcases held q other h with ⟨_, rfl⟩ | before
    · exact ⟨i, mine⟩
    · exact here.bound q other before

/-- The channel of the session's entry is taken out, and the entry may be deleted. -/
theorem unregister {condition : Bool} (entry : r.find id = some p) :
    Exclusive ((r.write p { r.heap p with events := none }).deleteWhen id condition) streams ∧
      ∀ q events, (r.heap q).events = some events → q = p ∨
        (((r.write p { r.heap p with events := none }).deleteWhen id condition).heap q).events =
          some events := by
  let unbound := r.write p { r.heap p with events := none }
  have heap : (unbound.deleteWhen id condition).heap = unbound.heap :=
    unbound.deleteWhen_heap id condition
  have next : (unbound.deleteWhen id condition).next = r.next := by
    unfold Runtime.deleteWhen
    split <;> rfl
  have at_p : (unbound.heap p).events = none := congrArg Prod.snd (view_write_self r p _)
  have other (q : StatePtr) (different : q ≠ p) :
      (unbound.heap q).events = (r.heap q).events :=
    congrArg Prod.snd (view_write_of_ne r _ different)
  refine ⟨here.mono ?_ ?_ next.ge, ?_⟩
  · intro q events held
    rw [heap] at held
    have different : q ≠ p := by
      rintro rfl
      cases at_p.symm.trans held
    exact (other q different).symm.trans held
  · intro q events held found
    unfold Runtime.deleteWhen
    split
    · have different : q.sessionID ≠ id := by
        intro same
        cases entry.symm.trans (same ▸ found)
        rw [heap, at_p] at held
        cases held
      unfold Runtime.find at found ⊢
      rw [AList.lookup_erase_ne different]
      exact found
    · exact found
  · intro q events held
    rw [heap]
    by_cases same : q = p
    · exact .inl same
    · exact .inr ((other q same).trans held)

end Exclusive

variable {streams : ThreadId → Stream} {i : ThreadId} {e : Oracle} {id : String}
  {events other : Chan} {g : Gateway} {pool : Pool}

/-- What a thread does in the runtime manager keeps the channels apart; a refused stream changes
nothing, and a registered channel is taken out only when the stream that has bound it unbinds. -/
theorem exec_exclusive {r r' : Runtime} {l : Local} {β : Type} {a : RuntimeAct β} {b : β}
    (here : Exclusive r streams) (mine : streams i = l.stream) (allowed : l.allowsRuntime a)
    (ran : r.exec i a e = some (r', b)) :
    Exclusive r' (Function.update streams i (l.nextRuntime a b).stream) ∧
      ((l.nextRuntime a b).stream.isRefused = true → r' = r) ∧
      ∀ p events, (r.heap p).events = some events →
        (r'.heap p).events = some events ∨ unbinds a = true ∧ streams i = .bound events := by
  have stay {s : Stream} (same : s = l.stream) : Function.update streams i s = streams := by
    rw [same, ← mine, update_eq_self]
  by_cases serene : Serene a
  · obtain ⟨kept, registered⟩ := here.calm (exec_calm serene ran)
    obtain ⟨accepted, same⟩ := serene.stays allowed b
    rw [same, stay rfl]
    refine ⟨kept, fun refused => ?_, fun p events held => .inl (registered p events held)⟩
    rw [accepted] at refused
    cases refused
  · cases a with
    | makeEvents =>
      cases ran
      exact ⟨here.opens (mine.trans allowed), nofun, fun p events held => .inl held⟩
    | bindLocked id events =>
      have opened : streams i = .opened events := mine.trans allowed
      have unbound (other : Chan) : streams i ≠ .bound other := by
        rw [opened]
        nofun
      rcases exec_bindLocked ran with ⟨rfl, rfl⟩ | ⟨accepted, free, pending, rfl⟩
      · exact ⟨here.advance (by rw [opened]; rfl) unbound, fun _ => rfl,
          fun p other held => .inl held⟩
      obtain ⟨reply, rfl⟩ := Option.isSome_iff_exists.mp accepted
      obtain ⟨ensured, registered⟩ := here.ensure id
      have bound : Exclusive (r.ensure id).1 (Function.update streams i (.bound events)) :=
        ensured.advance (by rw [opened]; rfl) unbound
      refine ⟨bound.register (find_self (find_ensure r id)) (update_self ..) rfl,
        nofun, fun p other held => .inl ?_⟩
      have different : p ≠ (r.ensure id).2 := by
        rintro rfl
        cases free.symm.trans (registered _ other held)
      exact (congrArg Prod.snd (view_write_of_ne _ _ different)).trans (registered p other held)
    | cleanupSessionState id events =>
      rw [show (l.nextRuntime (.cleanupSessionState id events) b) = l from rfl, stay rfl]
      rcases exec_cleanupSessionState ran with rfl | ⟨p, found, held, rfl⟩
      · exact ⟨here, fun _ => rfl, fun p other held => .inl held⟩
      -- the channel is registered, so its stream has bound it: the stream was not refused
      obtain ⟨j, owner⟩ := here.bound p events held
      have channel : (streams i).channel = some events := by
        rw [mine]
        rcases allowed with bound | refused
        · rw [bound]
          rfl
        · rw [refused]
          rfl
      obtain rfl : j = i := here.apart j i events (by rw [owner]; rfl) channel
      obtain ⟨kept, registered⟩ := here.unregister found
      refine ⟨kept, fun refused => ?_, fun q other before => ?_⟩
      · rw [← mine, owner] at refused
        cases refused
      rcases registered q other before with rfl | after
      · cases held.symm.trans before
        exact .inr ⟨rfl, owner⟩
      · exact .inl after
    | lockEval p =>
      obtain ⟨_, rfl⟩ := exec_lockEval ran
      have locked : { r.heap p with evalMu := some i }.events = (r.heap p).events := rfl
      obtain ⟨kept, registered⟩ := here.write locked
      refine ⟨(stay rfl).symm ▸ kept, fun refused => ?_, fun q other held =>
        .inl (registered q other held)⟩
      cases allowed.2.symm.trans refused
    | unlockEval p =>
      cases ran
      have unlocked : { r.heap p with evalMu := none }.events = (r.heap p).events := rfl
      obtain ⟨kept, registered⟩ := here.write unlocked
      refine ⟨(stay rfl).symm ▸ kept, fun refused => ?_, fun q other held =>
        .inl (registered q other held)⟩
      cases allowed.2.symm.trans refused
    | _ => exact absurd trivial serene

/-! ## Runs of the provider -/

/-- The provider together with the local states of its threads. -/
abbrev provider : Machine Act ThreadId Oracle (World × (ThreadId → Local)) :=
  machine.observe protocol

/-- A channel that some entry of the session holds, the one it has now or an earlier one. -/
def Registered (r : Runtime) (id : String) (events : Chan) : Prop :=
  ∃ p, p.sessionID = id ∧ (r.heap p).events = some events

theorem Exclusive.registered_unique {r : Runtime} (here : Exclusive r streams)
    (held : Registered r id events) (held' : Registered r id other) : other = events := by
  obtain ⟨p, rfl, held⟩ := held
  obtain ⟨q, same, held'⟩ := held'
  have found := here.found q other held'
  rw [same, here.found p events held] at found
  cases found
  exact Option.some.inj (held'.symm.trans held)

def streamsOf (loc : ThreadId → Local) (i : ThreadId) : Stream := (loc i).stream

theorem streamsOf_update (loc : ThreadId → Local) (i : ThreadId) (l : Local) :
    streamsOf (Function.update loc i l) = Function.update (streamsOf loc) i l.stream :=
  comp_update Local.stream loc i l

theorem action_exclusive {w w' : World} {loc : ThreadId → Local} {β : Type} {a : Act β} {b : β}
    (here : Exclusive w.runtime (streamsOf loc)) (allowed : protocol.allows (loc i) a)
    (executed : machine.exec i a e w = some (w', b)) :
    Exclusive w'.runtime (streamsOf (Function.update loc i (protocol.next (loc i) a b))) ∧
      ((protocol.next (loc i) a b).stream.isRefused = true → w'.runtime = w.runtime) ∧
      ∀ p events, (w.runtime.heap p).events = some events →
        (w'.runtime.heap p).events = some events ∨ (loc i).stream = .bound events := by
  rw [streamsOf_update]
  rcases exec_runtime executed with ⟨op, rfl, ran⟩ | ⟨apart, same⟩
  · obtain ⟨kept, refused, registered⟩ := exec_exclusive here rfl allowed ran
    exact ⟨kept, refused, fun p events held => (registered p events held).imp_right And.right⟩
  · rw [next_apart apart, same, show (loc i).stream = streamsOf loc i from rfl, update_eq_self]
    exact ⟨here, fun _ => rfl, fun p events held => .inl held⟩

theorem provider_exclusive {c : Config Act ThreadId (World × (ThreadId → Local)) Reply}
    (run : provider.Reach (observedBoot g pool) c) :
    protocol.Followed (fun _ _ => True) c ∧
      Exclusive c.shared.1.runtime (streamsOf c.shared.2) := by
  have start : Exclusive (observedBoot g pool).shared.1.runtime
      (streamsOf (observedBoot g pool).shared.2) := ⟨nofun, nofun, nofun, nofun⟩
  refine Protocol.Followed.invariant
    (J := fun s => Exclusive s.1.runtime (streamsOf s.2))
    (observedBoot_followed g pool) run start ?_
  intro i β a e w w' b loc allowed ran here
  exact (action_exclusive here allowed ran).1

/-- In every run of the provider: at most one channel is registered for a session, in the entry
that the session has, and exactly one stream has bound it; a stream whose bind is refused changes
nothing in the runtime manager, then and later; and a registered channel is taken out by no one but
the stream that has bound it. -/
theorem streams_bind_exclusively {g : Gateway} {pool : Pool}
    {c : Config Act ThreadId (World × (ThreadId → Local)) Reply}
    (run : provider.Reach (observedBoot g pool) c) :
    (∀ id events, Registered c.shared.1.runtime id events →
      (∃ p, c.shared.1.runtime.find id = some p ∧
        (c.shared.1.runtime.heap p).events = some events) ∧
      (∀ other, Registered c.shared.1.runtime id other → other = events) ∧
      ∃! i, (c.shared.2 i).stream = .bound events) ∧
    ∀ i e c', provider.stepAt c i e = some c' →
      ((c'.shared.2 i).stream.isRefused = true → c'.shared.1.runtime = c.shared.1.runtime) ∧
      ∀ p events, (c.shared.1.runtime.heap p).events = some events →
        (c'.shared.1.runtime.heap p).events = some events ∨
          (c.shared.2 i).stream = .bound events := by
  obtain ⟨followed, here⟩ := provider_exclusive run
  constructor
  · rintro _ events ⟨p, rfl, held⟩
    refine ⟨⟨p, here.found p events held, held⟩, fun other held' => ?_, ?_⟩
    · exact here.registered_unique ⟨p, rfl, held⟩ held'
    obtain ⟨i, bound⟩ := here.bound p events held
    refine ⟨i, bound, fun j bound' => here.apart j i events ?_ ?_⟩
    · exact congrArg Stream.channel bound'
    · exact congrArg Stream.channel bound
  · intro i e c' stepped
    obtain ⟨_, same | ⟨β, a, b, allowed, ran, moved⟩⟩ := followed.step stepped
    · rw [same]
      exact ⟨fun _ => rfl, fun p events held => .inl held⟩
    · obtain ⟨_, refused, registered⟩ := action_exclusive here allowed ran
      rw [moved, update_self]
      exact ⟨refused, registered⟩

/-- A stream that binds the sample session and waits. -/
def listen : Handler := .paymentSession [.request ⟨"s", none⟩]

/-- Two streams on one session: the second is refused and leaves. -/
def contended : Config Act ThreadId (World × (ThreadId → Local)) Reply :=
  provider.play [Sample.whole 0, Sample.whole 1, Sample.whole 2]
    (observedBoot Sample.gateway (Sample.pool [Sample.start 1, listen, listen]))

theorem streams_bind_exclusively_contended :
    (contended.shared.2 2).stream.isRefused = true ∧
      (∀ other, Registered contended.shared.1.runtime "s" other → other = 0) ∧
      ∃! i, (contended.shared.2 i).stream = .bound 0 := by
  have run : provider.Reach (observedBoot Sample.gateway
      (Sample.pool [Sample.start 1, listen, listen])) contended := Machine.play_reach _ _
  have registered : Registered contended.shared.1.runtime "s" 0 :=
    ⟨⟨"s", 1⟩, rfl, by decide +kernel⟩
  obtain ⟨_, only, bound⟩ := (streams_bind_exclusively run).1 "s" 0 registered
  exact ⟨by decide +kernel, only, bound⟩

end Sdsce.Guarantees.Streams
