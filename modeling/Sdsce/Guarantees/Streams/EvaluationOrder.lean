import Sdsce.Guarantees.Streams.Binding

/-!
# Evaluations of one session

`withSessionEval` holds the mutex of the entry that it has looked up, and entries are deleted and
made afresh. Evaluations of a session exclude one another as long as the mutex that is taken
belongs to the entry that the session has, and no entry is deleted while its mutex is held.
-/
namespace Sdsce.Guarantees.Streams

open Sdsce.Theory Sdsce.Source Function

/-- An entry is locked only while its session has it, and is not deleted while it is locked. -/
def lastsRuntime (r : Runtime) {β : Type} : RuntimeAct β → Bool
  | .lockEval p => r.find p.sessionID = some p
  | .cleanupSessionState id events =>
    (r.find id).all fun p =>
      decide ((r.heap p).events = some events) && (r.heap p).pendingRAV.isNone &&
        (r.heap p).queuedResponse.isNone → (r.heap p).evalMu = none
  | .clearQueuedControl id =>
    (r.find id).all fun p => (r.heap p).events = none → (r.heap p).evalMu = none
  | _ => true

def entryLasts (_ : ThreadId) {β : Type} (a : Act β) (w : World) : Bool :=
  match a with
  | .runtime a => lastsRuntime w.runtime a
  | _ => true

/-- The mutex of an entry is held by the thread that evaluates, and a held entry is the one that
its session has. -/
structure Serial (r : Runtime) (evals : ThreadId → Option StatePtr) : Prop where
  held : ∀ i p, evals i = some p → (r.heap p).evalMu = some i
  found : ∀ p i, (r.heap p).evalMu = some i → r.find p.sessionID = some p
  old : ∀ id p, r.find id = some p → p.gen < r.next

namespace Serial

variable {r r' : Runtime} {evals : ThreadId → Option StatePtr} {i : ThreadId} {p : StatePtr}

variable (here : Serial r evals)

include here

/-- Operations that leave the mutexes alone and delete no entry that is locked. -/
theorem mono (evalMu : ∀ p, (r'.heap p).evalMu = (r.heap p).evalMu)
    (find : ∀ p i, (r.heap p).evalMu = some i → r.find p.sessionID = some p →
      r'.find p.sessionID = some p)
    (old : ∀ id p, r'.find id = some p → r.find id = some p) (next : r.next ≤ r'.next) :
    Serial r' evals where
  held i p mine := (evalMu p).trans (here.held i p mine)
  found p i locked := by
    rw [evalMu] at locked
    exact find p i locked (here.found p i locked)
  old id p found := (here.old id p (old id p found)).trans_le next

theorem same (h : SameEntries r r') : Serial r' evals :=
  here.mono (fun p => congrArg Prod.fst (h.view p)) (fun _ _ _ found => (h.find _).trans found)
    (fun id _ found => (h.find id).symm.trans found) h.next

theorem created {id : String} (h : Created r id r') : Serial r' evals := by
  have evalMu (p : StatePtr) (different : p ≠ ⟨id, r.next⟩) :
      (r'.heap p).evalMu = (r.heap p).evalMu := congrArg Prod.fst (h.view p different)
  refine ⟨fun i p mine => ?_, fun p i locked => ?_, fun other p found => ?_⟩
  · have locked := here.held i p mine
    have different : p ≠ ⟨id, r.next⟩ := by
      rintro rfl
      exact absurd (here.old _ _ (here.found _ i locked)) (lt_irrefl _)
    rw [evalMu p different]
    exact locked
  · have different : p ≠ ⟨id, r.next⟩ := by
      rintro rfl
      cases (congrArg Prod.fst h.empty).symm.trans locked
    rw [evalMu p different] at locked
    have found := here.found p i locked
    rw [h.find p.sessionID fun same => ?_]
    · exact found
    · cases h.missing.symm.trans (same ▸ found)
  · by_cases same : other = id
    · subst same
      cases h.found.symm.trans found
      exact h.next
    · exact (here.old other p ((h.find other same).symm.trans found)).trans h.next

theorem dropped {id : String} (entry : r.find id = some p)
    (free : (r.heap p).evalMu = none) (h : Dropped r id r') : Serial r' evals := by
  refine here.mono (fun q => congrArg Prod.fst (h.view q)) (fun q i locked found => ?_)
    (fun other q found => ?_) h.next
  · rw [h.find q.sessionID fun same => ?_]
    · exact found
    · cases entry.symm.trans (same ▸ found)
      cases free.symm.trans locked
  · by_cases same : other = id
    · subst same
      cases h.gone.symm.trans found
    · exact (h.find other same).symm.trans found

theorem write {state : RuntimeSessionState}
    (kept : state.evalMu = (r.heap p).evalMu) : Serial (r.write p state) evals := by
  refine here.mono (fun q => ?_) (fun _ _ _ found => found) (fun _ _ found => found) le_rfl
  by_cases same : q = p
  · subst same
    exact (congrArg Prod.fst (view_write_self r q state)).trans kept
  · exact congrArg Prod.fst (view_write_of_ne r state same)

theorem lock (free : (r.heap p).evalMu = none)
    (entry : r.find p.sessionID = some p) :
    Serial (r.write p { r.heap p with evalMu := some i }) (Function.update evals i (some p)) := by
  refine ⟨fun j q mine => ?_, fun q j locked => ?_, here.old⟩
  · by_cases same : j = i
    · subst same
      rw [update_self] at mine
      cases mine
      exact congrArg Prod.fst (view_write_self r p _)
    · rw [update_of_ne same] at mine
      have locked := here.held j q mine
      have different : q ≠ p := by
        rintro rfl
        cases free.symm.trans locked
      exact (congrArg Prod.fst (view_write_of_ne r _ different)).trans locked
  · by_cases same : q = p
    · exact same ▸ entry
    · exact here.found q j ((congrArg Prod.fst (view_write_of_ne r _ same)).symm.trans locked)

theorem unlock (mine : evals i = some p) :
    Serial (r.write p { r.heap p with evalMu := none }) (Function.update evals i none) := by
  refine ⟨fun j q theirs => ?_, fun q j locked => ?_, here.old⟩
  · by_cases same : j = i
    · subst same
      rw [update_self] at theirs
      cases theirs
    rw [update_of_ne same] at theirs
    have locked := here.held j q theirs
    have different : q ≠ p := by
      rintro rfl
      exact same (Option.some.inj (locked.symm.trans (here.held i q mine)))
    exact (congrArg Prod.fst (view_write_of_ne r _ different)).trans locked
  · by_cases same : q = p
    · subst same
      cases (congrArg Prod.fst (view_write_self r q _)).symm.trans locked
    · exact here.found q j ((congrArg Prod.fst (view_write_of_ne r _ same)).symm.trans locked)

end Serial

/-- What a thread does in the runtime manager keeps the evaluations apart. -/
theorem exec_serial {r r' : Runtime} {evals : ThreadId → Option StatePtr} {i : ThreadId} {l : Local}
    {e : Oracle} {β : Type} {a : RuntimeAct β} {b : β} (here : Serial r evals)
    (mine : evals i = l.eval) (allowed : l.allowsRuntime a) (lasts : lastsRuntime r a = true)
    (ran : r.exec i a e = some (r', b)) :
    Serial r' (Function.update evals i (l.nextRuntime a b).eval) := by
  have stay (same : (l.nextRuntime a b).eval = l.eval) (kept : Serial r' evals) :
      Serial r' (Function.update evals i (l.nextRuntime a b).eval) := by
    rw [same, ← mine, update_eq_self]
    exact kept
  by_cases serene : Serene a
  · refine stay (congrArg Local.eval (serene.stays allowed b).2) ?_
    cases exec_calm serene ran with
    | same h => exact here.same h
    | created id h => exact here.created h
    | dropped id p found unbound h =>
      refine here.dropped found ?_ h
      simpa [lastsRuntime, found, unbound] using lasts
  · cases a with
    | makeEvents =>
      cases ran
      exact stay rfl (here.same ⟨fun _ => rfl, fun _ => rfl, Nat.le_succ _⟩)
    | bindLocked id events =>
      have ensured : Serial (r.ensure id).1 evals :=
        (ensure_entries r id).elim here.same here.created
      rcases exec_bindLocked ran with ⟨rfl, rfl⟩ | ⟨accepted, _, pending, rfl⟩
      · exact stay rfl here
      · obtain ⟨reply, rfl⟩ := Option.isSome_iff_exists.mp accepted
        exact stay rfl (ensured.write rfl)
    | cleanupSessionState id events =>
      refine stay rfl ?_
      rcases exec_cleanupSessionState ran with rfl | ⟨p, found, held, rfl⟩
      · exact here
      have unbound : Serial (r.write p { r.heap p with events := none }) evals := here.write rfl
      unfold Runtime.deleteWhen
      split
      · next settled =>
          refine unbound.dropped (p := p) found ?_ (SameEntries.drop (.refl _) id)
          refine (congrArg Prod.fst (view_write_self r p _)).trans ?_
          simp only [lastsRuntime, found, held, Option.all_some, decide_true, Bool.true_and,
            settled, forall_const, decide_eq_true_eq] at lasts
          exact lasts
      · exact unbound
    | lockEval p =>
      obtain ⟨free, rfl⟩ := exec_lockEval ran
      exact here.lock free (by simpa [lastsRuntime] using lasts)
    | unlockEval p =>
      cases ran
      exact here.unlock (mine.trans allowed.1)
    | _ => exact absurd trivial serene

/-! ## Runs of the provider -/

def evalsOf (loc : ThreadId → Local) (i : ThreadId) : Option StatePtr := (loc i).eval

theorem evalsOf_update (loc : ThreadId → Local) (i : ThreadId) (l : Local) :
    evalsOf (Function.update loc i l) = Function.update (evalsOf loc) i l.eval :=
  comp_update Local.eval loc i l

/-- The provider, all of whose steps respect the lifetime of entries that are locked. -/
abbrev lastingProvider : Machine Act ThreadId Oracle (World × (ThreadId → Local)) :=
  (machine.restrict entryLasts).observe protocol

theorem action_serial {w w' : World} {loc : ThreadId → Local} {i : ThreadId} {e : Oracle}
    {β : Type} {a : Act β} {b : β} (here : Serial w.runtime (evalsOf loc))
    (allowed : protocol.allows (loc i) a)
    (executed : (machine.restrict entryLasts).exec i a e w = some (w', b)) :
    Serial w'.runtime (evalsOf (Function.update loc i (protocol.next (loc i) a b))) := by
  simp only [Machine.restrict] at executed
  split at executed
  · next lasts =>
      rw [evalsOf_update]
      rcases exec_runtime executed with ⟨op, rfl, ran⟩ | ⟨apart, same⟩
      · exact exec_serial here rfl allowed lasts ran
      · rw [next_apart apart, same, show (loc i).eval = evalsOf loc i from rfl, update_eq_self]
        exact here
  · cases executed

/-- In every run in which an entry is locked only while its session has it, and is not deleted
while it is locked, no two threads evaluate one session at a time. -/
theorem evaluations_exclude {g : Gateway} {pool : Pool}
    {c : Config Act ThreadId (World × (ThreadId → Local)) Reply}
    (run : lastingProvider.Reach (observedBoot g pool) c) {i j : ThreadId} {p q : StatePtr}
    (first : (c.shared.2 i).eval = some p) (second : (c.shared.2 j).eval = some q)
    (session : p.sessionID = q.sessionID) : i = j := by
  have start : Serial (observedBoot g pool).shared.1.runtime
      (evalsOf (observedBoot g pool).shared.2) := ⟨nofun, nofun, nofun⟩
  have here : Serial c.shared.1.runtime (evalsOf c.shared.2) := by
    refine (Protocol.Followed.invariant (J := fun s => Serial s.1.runtime (evalsOf s.2))
      (observedBoot_followed g pool) run start ?_).2
    intro i β a e w w' b loc allowed ran here
    exact action_serial here allowed ran
  have locked := here.held i p first
  have locked' := here.held j q second
  have found := here.found p i locked
  rw [session, here.found q j locked'] at found
  cases found
  exact Option.some.inj (locked.symm.trans locked')

/-- A gateway that asks for no RAV in the runs below. -/
def patient : Gateway := { Sample.gateway with ravRequestThreshold := 100 }

def crowd : Pool := Sample.pool [Sample.start 1, listen, Sample.report 1, Sample.report 1]

/-- One report evaluates the session while another waits. -/
def inTurn : Config Act ThreadId (World × (ThreadId → Local)) Reply :=
  lastingProvider.play [Sample.whole 0, Sample.whole 1, Sample.steps 2 8, Sample.steps 3 200]
    (observedBoot patient crowd)

theorem evaluations_exclude_in_turn :
    (inTurn.shared.2 2).eval = some ⟨"s", 1⟩ ∧
      ∀ j q, (inTurn.shared.2 j).eval = some q → q.sessionID = "s" → 2 = j := by
  have run : lastingProvider.Reach (observedBoot patient crowd) inTurn := Machine.play_reach _ _
  have first : (inTurn.shared.2 2).eval = some ⟨"s", 1⟩ := by decide +kernel
  exact ⟨first, fun j q second session => evaluations_exclude run first second session.symm⟩

/-- The stream closes while the first report evaluates the session: its entry is deleted, and the
second report evaluates under a new one. -/
def overlapping : Config Act ThreadId (World × (ThreadId → Local)) Reply :=
  provider.play [Sample.whole 0, Sample.whole 1, Sample.steps 2 8, (1, { choice := .done }, 200),
    Sample.steps 3 8] (observedBoot patient crowd)

theorem evaluations_overlap : ∃ c, provider.Reach (observedBoot patient crowd) c ∧
    ∃ i j p q, i ≠ j ∧ (c.shared.2 i).eval = some p ∧ (c.shared.2 j).eval = some q ∧
      p.sessionID = q.sessionID := by
  refine ⟨overlapping, Machine.play_reach _ _, 2, 3, ⟨"s", 1⟩, ⟨"s", 2⟩, by decide, ?_, ?_, rfl⟩
  · decide +kernel
  · decide +kernel

end Sdsce.Guarantees.Streams
