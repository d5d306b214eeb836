import Sdsce.Guarantees.ReadConsistency
import Sdsce.Source.Handlers
import Sdsce.Theory.Sequential

/-!
# Repository calls that run alone

What the methods of the in-memory repository and the signer check answer, and what they leave
behind, when no other goroutine moves meanwhile. A method that answers an error has written
nothing.
-/
namespace Sdsce.Guarantees.Alone

open Sdsce.Theory Sdsce.Source Sdsce.Source.InMemory Function

variable {i : ThreadId} {w w' : World} {β : Type}

/-- The repository, the runtime manager and the signer cache are as they were. -/
structure Untouched (w w' : World) : Prop where
  store : w'.store = w.store
  runtime : w'.runtime = w.runtime
  authCache : w'.authCache = w.authCache

theorem Untouched.refl (w : World) : Untouched w w := ⟨rfl, rfl, rfl⟩

variable {w₁ w₂ w₃ : World} {id : String} {session : Session} {r : Except RepoError Unit}
  {rav : SignedRAV} {payer signer : Address} {p : StatePtr}

theorem Untouched.trans (first : Untouched w₁ w₂) (second : Untouched w₂ w₃) : Untouched w₁ w₃ :=
  ⟨second.store.trans first.store, second.runtime.trans first.runtime,
    second.authCache.trans first.authCache⟩

/-- Only the repository may have moved. -/
structure OnlyStore (w w' : World) : Prop where
  runtime : w'.runtime = w.runtime
  authCache : w'.authCache = w.authCache

theorem Untouched.onlyStore (same : Untouched w w') : OnlyStore w w' :=
  ⟨same.runtime, same.authCache⟩

theorem OnlyStore.trans (first : OnlyStore w₁ w₂) (second : OnlyStore w₂ w₃) : OnlyStore w₁ w₃ :=
  ⟨second.runtime.trans first.runtime, second.authCache.trans first.authCache⟩

/-! ## Single actions -/

theorem outside_runs {a : OutsideAct β} {b : β} (ran : machine.Runs i (outside a) w b w') :
    Untouched w w' := by
  obtain ⟨e, executed⟩ := ran.perform_inv
  cases executed
  exact ⟨rfl, rfl, rfl⟩

theorem note_runs {note : Note} (ran : machine.Runs i (gateway (.note note)) w () w') :
    Untouched w w' := by
  obtain ⟨e, executed⟩ := ran.perform_inv
  cases executed
  exact ⟨rfl, rfl, rfl⟩

theorem sessionsGet_runs {found : Option Session}
    (ran : machine.Runs i (store (.sessionsGet id)) w found w') :
    found = w.store.sessions.lookup id ∧ w' = w := by
  obtain ⟨e, executed⟩ := ran.perform_inv
  cases executed
  exact ⟨rfl, rfl⟩

theorem recordsGet_runs {key : String} {found : Option CollectionRecord}
    (ran : machine.Runs i (store (.recordsGet key)) w found w') :
    found = w.store.records.lookup key ∧ w' = w := by
  obtain ⟨e, executed⟩ := ran.perform_inv
  cases executed
  exact ⟨rfl, rfl⟩

theorem sessionGet_runs {r : Except RepoError Session}
    (ran : machine.Runs i (sessionGet id) w r w') :
    w' = w ∧ match w.store.sessions.lookup id with
      | none => r = .error (.sessionNotFound id)
      | some session => r = .ok session := by
  obtain ⟨found, mid, read, rest⟩ := ran.bind_inv
  obtain ⟨rfl, rfl⟩ := sessionsGet_runs read
  revert rest
  cases mid.store.sessions.lookup id with
  | none | some => exact fun rest => rest.ret_inv.symm

/-! ## Writes of the repository -/

theorem compareAndSwap_runs {update : SessionUpdate} {done : Bool}
    (ran : machine.Runs i (store (.sessionsCompareAndSwap id session update)) w done w') :
    OnlyStore w w' ∧ w'.store = if done then { w.store with
      sessions := w.store.sessions.insert id (update.apply session) } else w.store := by
  obtain ⟨e, executed⟩ := ran.perform_inv
  by_cases lands : w.store.sessions.lookup id = some session ∧ e.yes = true
  · simp only [machine, World.exec, Store.exec, if_pos lands] at executed
    cases executed
    exact ⟨⟨rfl, rfl⟩, rfl⟩
  · simp only [machine, World.exec, Store.exec, if_neg lands] at executed
    cases executed
    exact ⟨⟨rfl, rfl⟩, rfl⟩

/-- The outcomes of a compare-and-swap loop. -/
inductive Swaps (id : String) (update : Time → SessionUpdate) (w w' : World) :
    Except RepoError Unit → Prop
  | missing (absent : w.store.sessions.lookup id = none) (kept : w'.store = w.store) :
      Swaps id update w w' (.error (.sessionNotFound id))
  | swapped {session : Session} {now : Time} (present : w.store.sessions.lookup id = some session)
      (wrote : w'.store = { w.store with
        sessions := w.store.sessions.insert id ((update now).apply session) }) :
      Swaps id update w w' (.ok ())

theorem swapSession_runs {update : Time → SessionUpdate}
    (ran : machine.Runs i (swapSession id update) w r w') :
    OnlyStore w w' ∧ Swaps id update w w' r := by
  -- a swap that is lost to nobody changes nothing, and the loop starts again where it was
  refine Machine.Runs.retry_inv (J := Untouched w)
    (Q := fun r w' => OnlyStore w w' ∧ Swaps id update w w' r) ran (.refl w) ?_ ?_
  · intro s s' here turn
    obtain ⟨found, mid, read, rest⟩ := turn.bind_inv
    obtain ⟨rfl, rfl⟩ := sessionsGet_runs read
    split at rest
    · cases rest.ret_inv.1
    obtain ⟨now, mid, clock, rest⟩ := rest.bind_inv
    obtain ⟨done, mid', swap, rest⟩ := rest.bind_inv
    obtain ⟨frame, wrote⟩ := compareAndSwap_runs swap
    cases done with
    | false =>
      obtain ⟨-, rfl⟩ := rest.ret_inv
      exact (here.trans (outside_runs clock)).trans ⟨wrote, frame.runtime, frame.authCache⟩
    | true => cases rest.ret_inv.1
  · intro s r s' here turn
    obtain ⟨found, mid, read, rest⟩ := turn.bind_inv
    obtain ⟨rfl, rfl⟩ := sessionsGet_runs read
    split at rest
    · next absent =>
        obtain ⟨same, rfl⟩ := rest.ret_inv
        cases same
        exact ⟨here.onlyStore, .missing (here.store ▸ absent) here.store⟩
    rename_i session present
    obtain ⟨now, mid, clock, rest⟩ := rest.bind_inv
    obtain ⟨done, mid', swap, rest⟩ := rest.bind_inv
    obtain ⟨frame, wrote⟩ := compareAndSwap_runs swap
    have before := here.trans (outside_runs clock)
    cases done with
    | false => cases rest.ret_inv.1
    | true =>
      obtain ⟨same, rfl⟩ := rest.ret_inv
      cases same
      rw [before.store] at wrote
      exact ⟨before.onlyStore.trans frame, .swapped (here.store ▸ present) wrote⟩

/-- A section under `collectionMu` starts with the mutex free and leaves it free. -/
theorem withCollectionMu_runs {p : Program β} {r : β}
    (ran : machine.Runs i (withCollectionMu p) w r w') :
    w.store.collectionMu = none ∧ ∃ mid,
      machine.Runs i p { w with store := { w.store with collectionMu := some i } } r mid ∧
      w' = { mid with store := { mid.store with collectionMu := none } } := by
  obtain ⟨_, locked, lock, rest⟩ := ran.bind_inv
  obtain ⟨result, mid, body, rest⟩ := rest.bind_inv
  obtain ⟨_, unlocked, unlock, rest⟩ := rest.bind_inv
  obtain ⟨rfl, rfl⟩ := rest.ret_inv
  obtain ⟨e, executed⟩ := lock.perform_inv
  obtain ⟨e', executed'⟩ := unlock.perform_inv
  cases executed'
  cases free : w.store.collectionMu with
  | some j =>
    simp only [machine, World.exec, Store.exec, free] at executed
    cases executed
  | none =>
    simp only [machine, World.exec, Store.exec, free] at executed
    cases executed
    exact ⟨rfl, mid, body, rfl⟩

/-- The record that a RAV gets, given the records of the repository. -/
def nextRecord (records : AList fun _ : String => CollectionRecord) (id : String)
    (rav : SignedRAV) (now : Time) : Except RepoError CollectionRecord := do
  let record ← newCollectionRecordFromRAV id rav now
  nextCollectible record (records.lookup (collectionMapKey record.key))

theorem nextCollectibleLocked_runs {r : Except RepoError CollectionRecord}
    (ran : machine.Runs i (collectionNextCollectibleLocked id rav) w r w') :
    Untouched w w' ∧ ∃ now, r = nextRecord w.store.records id rav now := by
  obtain ⟨now, mid, clock, rest⟩ := ran.bind_inv
  have same := outside_runs clock
  cases fresh : newCollectionRecordFromRAV id rav now with
  | error err =>
    rw [fresh] at rest
    obtain ⟨rfl, rfl⟩ := rest.ret_inv
    refine ⟨same, now, ?_⟩
    rw [nextRecord, fresh]
    rfl
  | ok record =>
    rw [fresh] at rest
    obtain ⟨current, mid', read, rest⟩ := rest.bind_inv
    obtain ⟨rfl, rfl⟩ := recordsGet_runs read
    obtain ⟨rfl, rfl⟩ := rest.ret_inv
    refine ⟨same, now, ?_⟩
    rw [nextRecord, fresh, same.store]
    rfl

theorem setRecord_runs {next : CollectionRecord} {r : Unit}
    (ran : machine.Runs i (setRecord next) w r w') :
    OnlyStore w w' ∧ w'.store = { w.store with
      records := w.store.records.insert (collectionMapKey next.key) next } := by
  obtain ⟨e, executed⟩ := ran.perform_inv
  cases executed
  exact ⟨⟨rfl, rfl⟩, rfl⟩

theorem getOrSet_runs {found : Bool}
    (ran : machine.Runs i (store (.sessionsGetOrSet session)) w found w') :
    OnlyStore w w' ∧ if found then w'.store = w.store
      else w.store.sessions.lookup session.id = none ∧ w'.store = { w.store with
        sessions := w.store.sessions.insert session.id session } := by
  obtain ⟨e, executed⟩ := ran.perform_inv
  cases present : w.store.sessions.lookup session.id with
  | some other =>
    simp only [machine, World.exec, Store.exec, present] at executed
    cases executed
    exact ⟨⟨rfl, rfl⟩, rfl⟩
  | none =>
    simp only [machine, World.exec, Store.exec, present] at executed
    cases executed
    exact ⟨⟨rfl, rfl⟩, rfl, rfl⟩

/-- The outcomes of `SessionUpdateRAVAndBaseline` with a RAV. -/
inductive Commits (id : String) (rav : SignedRAV) (update : Time → SessionUpdate) (w w' : World) :
    Except RepoError Unit → Prop
  | refused {err : RepoError} {now : Time}
      (conflict : nextRecord w.store.records id rav now = .error err)
      (kept : w'.store = w.store) : Commits id rav update w w' (.error err)
  | missing (absent : w.store.sessions.lookup id = none) (kept : w'.store = w.store) :
      Commits id rav update w w' (.error (.sessionNotFound id))
  | committed {session : Session} {next : CollectionRecord} {now : Time} (later : Time)
      (settles : nextRecord w.store.records id rav now = .ok next)
      (present : w.store.sessions.lookup id = some session)
      (sessions : w'.store.sessions = w.store.sessions.insert id ((update later).apply session)) :
      Commits id rav update w w' (.ok ())

theorem updateRAVAndBaseline_runs {blocks bytes reqs : UInt64} {cost : Int}
    (ran : machine.Runs i (sessionUpdateRAVAndBaseline id (some rav) blocks bytes reqs cost)
      w r w') :
    OnlyStore w w' ∧
      Commits id rav (.ravAndBaseline (some rav) blocks bytes reqs cost) w w' r := by
  obtain ⟨free, mid, body, rfl⟩ := withCollectionMu_runs ran
  obtain ⟨decision, mid₁, decide, rest⟩ := body.bind_inv
  obtain ⟨same, now, rfl⟩ := nextCollectibleLocked_runs decide
  split at rest
  · next err conflict =>
      obtain ⟨rfl, rfl⟩ := rest.ret_inv
      refine ⟨⟨same.runtime, same.authCache⟩, .refused conflict ?_⟩
      simp only [same.store, ← free]
  rename_i next settles
  obtain ⟨swap, mid₂, swapped, rest⟩ := rest.bind_inv
  obtain ⟨frame, outcome⟩ := swapSession_runs swapped
  cases outcome with
  | missing absent kept =>
    obtain ⟨rfl, rfl⟩ := rest.ret_inv
    rw [same.store] at absent kept
    have unmoved := same.onlyStore.trans frame
    refine ⟨⟨unmoved.runtime, unmoved.authCache⟩, .missing absent ?_⟩
    simp only [kept, ← free]
  | @swapped session later present wrote =>
    obtain ⟨_, mid₃, set, rest⟩ := rest.bind_inv
    obtain ⟨frame', stored⟩ := setRecord_runs set
    obtain ⟨rfl, rfl⟩ := rest.ret_inv
    rw [same.store] at present wrote
    have unmoved := (same.onlyStore.trans frame).trans frame'
    refine ⟨⟨unmoved.runtime, unmoved.authCache⟩, .committed later settles present ?_⟩
    simp only [stored, wrote]

/-- `SessionCreate` writes nothing when it answers an error. -/
theorem sessionCreate_runs (ran : machine.Runs i (sessionCreate session) w r w') :
    match r with
    | .error _ => w'.store = w.store
    | .ok () => w.store.sessions.lookup session.id = none ∧
        w'.store.sessions = w.store.sessions.insert session.id session := by
  unfold sessionCreate at ran
  split at ran
  · obtain ⟨rfl, rfl⟩ := ran.ret_inv
    rfl
  split at ran
  · obtain ⟨found, mid, set, rest⟩ := ran.bind_inv
    obtain ⟨-, stored⟩ := getOrSet_runs set
    cases found with
    | true =>
      obtain ⟨rfl, rfl⟩ := rest.ret_inv
      exact stored
    | false =>
      obtain ⟨rfl, rfl⟩ := rest.ret_inv
      exact ⟨stored.1, congrArg Store.sessions stored.2⟩
  · next rav given =>
      obtain ⟨free, mid, body, rfl⟩ := withCollectionMu_runs ran
      obtain ⟨decision, mid₁, decide, rest⟩ := body.bind_inv
      obtain ⟨same, now, rfl⟩ := nextCollectibleLocked_runs decide
      split at rest
      · obtain ⟨rfl, rfl⟩ := rest.ret_inv
        simp only [same.store, ← free]
      obtain ⟨found, mid₂, set, rest⟩ := rest.bind_inv
      obtain ⟨-, stored⟩ := getOrSet_runs set
      rw [same.store] at stored
      cases found with
      | true =>
        obtain ⟨rfl, rfl⟩ := rest.ret_inv
        simp only [if_true] at stored
        simp only [stored, ← free]
      | false =>
        obtain ⟨_, mid₃, recorded, rest⟩ := rest.bind_inv
        obtain ⟨rfl, rfl⟩ := rest.ret_inv
        refine ⟨stored.1, ?_⟩
        simp only [(setRecord_runs recorded).2, stored.2]

/-! ## The signer check -/

/-- The payer signs for itself; anybody else needs the contract's word, which the cache keeps. -/
def Authorized (w : World) (payer signer : Address) : Prop :=
  signer = payer ∨ ∃ expires,
    w.authCache.lookup (String.ofList (payer.pretty ++ '|' :: signer.pretty)) = some (true, expires)

theorem queryAuthorization_runs {r : Except String Bool}
    (ran : machine.Runs i (Gateway.queryAuthorization payer signer) w r w') :
    w'.store = w.store ∧ w'.runtime = w.runtime ∧ (r = .ok true → Authorized w' payer signer) := by
  obtain ⟨now, mid, clock, rest⟩ := ran.bind_inv
  have same := outside_runs clock
  obtain ⟨cached, mid₁, read, rest⟩ := rest.bind_inv
  obtain ⟨e, executed⟩ := read.perform_inv
  cases executed
  split at rest
  · next entry fresh =>
      obtain ⟨rfl, rfl⟩ := rest.ret_inv
      refine ⟨same.store, same.runtime, fun granted => .inr ⟨entry.2, ?_⟩⟩
      rw [(Option.filter_eq_some_iff.mp fresh).1, ← Except.ok.inj granted]
  obtain ⟨answer, mid₂, query, rest⟩ := rest.bind_inv
  have asked := outside_runs query
  cases answer with
  | error err =>
    obtain ⟨rfl, rfl⟩ := rest.ret_inv
    exact ⟨asked.store.trans same.store, asked.runtime.trans same.runtime, nofun⟩
  | ok answer =>
    obtain ⟨later, mid₃, clock', rest⟩ := rest.bind_inv
    have read' := (same.trans asked).trans (outside_runs clock')
    obtain ⟨_, mid₄, set, rest⟩ := rest.bind_inv
    obtain ⟨rfl, rfl⟩ := rest.ret_inv
    obtain ⟨e', executed'⟩ := set.perform_inv
    cases executed'
    refine ⟨read'.store, read'.runtime, fun granted => .inr ⟨later + Gateway.authCacheLifetime, ?_⟩⟩
    cases granted
    exact AList.lookup_insert mid₃.authCache

theorem isSignerAuthorized_runs {g : Gateway} {r : Except String Bool}
    (ran : machine.Runs i (g.isSignerAuthorized payer signer) w r w') :
    w'.store = w.store ∧ w'.runtime = w.runtime ∧ (r = .ok true → Authorized w' payer signer) := by
  obtain ⟨answer, mid, check, rest⟩ := ran.bind_inv
  obtain ⟨_, mid', noted, rest⟩ := rest.bind_inv
  have same := note_runs noted
  obtain ⟨rfl, rfl⟩ := rest.ret_inv
  have checked : mid.store = w.store ∧ mid.runtime = w.runtime ∧
      (r = .ok true → Authorized mid payer signer) := by
    unfold Gateway.checkAuthorization at check
    split at check
    · next self =>
        obtain ⟨rfl, rfl⟩ := check.ret_inv
        exact ⟨rfl, rfl, fun _ => .inl (of_decide_eq_true self).symm⟩
    · split at check
      · exact queryAuthorization_runs check
      · obtain ⟨rfl, rfl⟩ := check.ret_inv
        exact ⟨rfl, rfl, nofun⟩
  refine ⟨same.store.trans checked.1, same.runtime.trans checked.2.1, fun granted => ?_⟩
  unfold Authorized
  rw [same.authCache]
  exact checked.2.2 granted

/-! ## The runtime manager -/

/-- The runtime state of a session; a session without an entry has nothing in it. -/
def stateOf (r : Runtime) (id : String) : RuntimeSessionState :=
  match r.live.lookup id with
  | none => {}
  | some gen => r.heap ⟨id, gen⟩

/-- The entry that the map holds under the pointer's session. -/
def Live (r : Runtime) (p : StatePtr) : Prop := r.live.lookup p.sessionID = some p.gen

theorem stateOf_live {r : Runtime} (live : Live r p) : stateOf r p.sessionID = r.heap p := by
  rw [stateOf, live]

theorem Live.find {r : Runtime} (live : Live r p) : r.find p.sessionID = some p := by
  rw [Runtime.find, live, Option.map_some]

theorem Live.write {r : Runtime} (live : Live r p) (q : StatePtr) (state : RuntimeSessionState) :
    Live (r.write q state) p :=
  live

theorem ensure_live (r : Runtime) (id : String) : Live (r.ensure id).1 (r.ensure id).2 := by
  unfold Live Runtime.ensure
  split
  · assumption
  · exact AList.lookup_insert r.live

theorem stateOf_ensure (r : Runtime) (id other : String) :
    stateOf (r.ensure id).1 other = stateOf r other := by
  unfold Runtime.ensure
  split
  · rfl
  rename_i absent
  by_cases same : other = id
  · subst same
    simp only [stateOf, absent, AList.lookup_insert, update_self]
  simp only [stateOf, AList.lookup_insert_ne same]
  split
  · rfl
  · refine update_of_ne ?_ _ _
    intro clash
    exact same (congrArg StatePtr.sessionID clash)

theorem stateOf_write {r : Runtime} (live : Live r p) (state : RuntimeSessionState)
    (other : String) :
    stateOf (r.write p state) other = if other = p.sessionID then state else stateOf r other := by
  split
  · next same =>
      subst same
      rw [stateOf, Runtime.write, live]
      exact update_self ..
  · next differs =>
      simp only [stateOf, Runtime.write]
      split
      · rfl
      · refine update_of_ne ?_ _ _
        intro clash
        exact differs (congrArg StatePtr.sessionID clash)

theorem ensureSessionState_runs (ran : machine.Runs i (runtime (.ensureSessionState id)) w p w') :
    p = (w.runtime.ensure id).2 ∧ w' = { w with runtime := (w.runtime.ensure id).1 } := by
  obtain ⟨e, executed⟩ := ran.perform_inv
  have same : some ({ w with runtime := (w.runtime.ensure id).1 }, (w.runtime.ensure id).2) =
    some (w', p) := executed
  cases Option.some.inj same
  exact ⟨rfl, rfl⟩

theorem lockEval_runs {r : Unit} (ran : machine.Runs i (runtime (.lockEval p)) w r w') :
    (w.runtime.heap p).evalMu = none ∧ w' = { w with
      runtime := w.runtime.write p { w.runtime.heap p with evalMu := some i } } := by
  obtain ⟨e, executed⟩ := ran.perform_inv
  cases free : (w.runtime.heap p).evalMu with
  | some j =>
    simp only [machine, World.exec, Runtime.exec, free] at executed
    cases executed
  | none =>
    simp only [machine, World.exec, Runtime.exec, free] at executed
    cases executed
    exact ⟨rfl, rfl⟩

/-- The closure of `withSessionEval` runs on a live entry whose mutex it has found free. -/
theorem withSessionEval_runs {fn : StatePtr → Program β} {r : β}
    (ran : machine.Runs i (Gateway.withSessionEval id fn) w r w') :
    ∃ p mid, p.sessionID = id ∧ Live (w.runtime.ensure id).1 p ∧
      (stateOf w.runtime id).evalMu = none ∧
      machine.Runs i (fn p) { w with
        runtime := (w.runtime.ensure id).1.write p
          { stateOf w.runtime id with evalMu := some i } } r mid ∧
      w' = { mid with runtime := mid.runtime.write p { mid.runtime.heap p with evalMu := none } }
    := by
  obtain ⟨p, w₁, ensured, rest⟩ := ran.bind_inv
  obtain ⟨_, w₂, lock, rest⟩ := rest.bind_inv
  obtain ⟨result, mid, body, rest⟩ := rest.bind_inv
  obtain ⟨_, w₃, unlock, rest⟩ := rest.bind_inv
  obtain ⟨rfl, rfl⟩ := rest.ret_inv
  obtain ⟨e, executed⟩ := unlock.perform_inv
  cases executed
  obtain ⟨rfl, rfl⟩ := ensureSessionState_runs ensured
  obtain ⟨free, rfl⟩ := lockEval_runs lock
  have live := ensure_live w.runtime id
  have name := w.runtime.ensure_sessionID id
  have here : (w.runtime.ensure id).1.heap (w.runtime.ensure id).2 = stateOf w.runtime id := by
    rw [← stateOf_ensure w.runtime id, ← stateOf_live live, name]
  rw [here] at free body
  exact ⟨(w.runtime.ensure id).2, mid, name, live, free, body, rfl⟩

/-- A closure that leaves the runtime manager alone leaves every session's state alone. -/
theorem stateOf_released {r : Runtime} (name : p.sessionID = id) (live : Live (r.ensure id).1 p)
    (free : (stateOf r id).evalMu = none) {held : Runtime}
    (locked : held = (r.ensure id).1.write p { stateOf r id with evalMu := some i })
    (other : String) :
    stateOf (held.write p { held.heap p with evalMu := none }) other = stateOf r other := by
  subst name locked
  have written : ((r.ensure p.sessionID).1.write p
      { stateOf r p.sessionID with evalMu := some i }).heap p =
      { stateOf r p.sessionID with evalMu := some i } := update_self ..
  rw [written, stateOf_write (live.write p _), stateOf_write live, stateOf_ensure]
  split
  · next same =>
      rw [same]
      calc { stateOf r p.sessionID with evalMu := none }
          = { stateOf r p.sessionID with evalMu := (stateOf r p.sessionID).evalMu } := by rw [free]
        _ = stateOf r p.sessionID := rfl
  · rfl

end Sdsce.Guarantees.Alone
