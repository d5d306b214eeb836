import Sdsce.Guarantees.Streams.Binding

/-!
# Who accesses an entry of the runtime manager under which mutex

Every access to the `events`, `pendingRAV` and `queuedResponse` of an entry, with the mutexes held
at that moment. The operations of the runtime manager hold `mu`. The closure of
`handleRAVSubmission` holds the entry's `evalMu` and not `mu`.
-/
namespace Sdsce.Guarantees.Streams

open Sdsce.Theory Sdsce.Source

inductive Field where
  | events | pendingRAV | queuedResponse
deriving DecidableEq, Repr

structure Access where
  entry : StatePtr
  field : Field
  write : Bool
deriving DecidableEq

/-- `runtimeManager.mu`, and the mutex of each entry. -/
inductive Mutex where
  | manager
  | eval (p : StatePtr)
deriving DecidableEq

def reads (p : StatePtr) (field : Field) : Access := ⟨p, field, false⟩

def writes (p : StatePtr) (field : Field) : Access := ⟨p, field, true⟩

/-- The accesses of an operation, in the order of the source. -/
def accesses (r : Runtime) {β : Type} : RuntimeAct β → List Access
  | .readPendingRAV p => [reads p .pendingRAV]
  | .dropPendingRAV p => [writes p .pendingRAV]
  | .dropQueuedResponse p => [writes p .queuedResponse]
  | .bindLocked id _ =>
    let p := (r.ensure id).2
    let current := (r.ensure id).1.heap p
    if current.events.isSome then [reads p .events]
    else
      [reads p .events, reads p .pendingRAV] ++
        (if current.pendingRAV.isSome then [reads p .queuedResponse] else []) ++
        (if current.pendingRAV.isSome && current.queuedResponse.isNone then
          [writes p .pendingRAV] else []) ++
        [writes p .events, reads p .queuedResponse, reads p .pendingRAV]
  | .runtimeState id => (r.find id).toList.flatMap fun p => [reads p .events, reads p .pendingRAV]
  | .dispatchLocked id _ _ =>
    let p := (r.ensure id).2
    [reads p .events, writes p .queuedResponse, writes p .pendingRAV, reads p .pendingRAV]
  | .clearQueuedResponse id events queued _ => (r.find id).toList.flatMap fun p =>
    let current := r.heap p
    if current.events ≠ some events then [reads p .events]
    else if current.queuedResponse.map Queued.ref ≠ some queued.ref then
      [reads p .events, reads p .queuedResponse]
    else [reads p .events, reads p .queuedResponse, writes p .queuedResponse,
      writes p .pendingRAV, reads p .events]
  | .cleanupSessionState id events => (r.find id).toList.flatMap fun p =>
    let current := r.heap p
    if current.events ≠ some events then [reads p .events]
    else [reads p .events, writes p .events, reads p .pendingRAV] ++
      if current.pendingRAV.isNone then [reads p .queuedResponse] else []
  | .clearPendingRAV id => (r.find id).toList.flatMap fun p => [writes p .pendingRAV]
  | .clearQueuedControl id => (r.find id).toList.flatMap fun p =>
    [writes p .pendingRAV, writes p .queuedResponse, reads p .events]
  | .hasPendingRAV id => (r.find id).toList.flatMap fun p => [reads p .pendingRAV]
  | .hasPendingPaymentControl id => (r.find id).toList.flatMap fun p =>
    if (r.heap p).pendingRAV.isSome then [reads p .pendingRAV]
    else [reads p .pendingRAV, reads p .queuedResponse]
  | .ensureSessionState _ | .lockEval _ | .unlockEval _ | .makeEvents | .trySend _ _
  | .select _ _ => []

/-- The operation is a section under `runtimeManager.mu`. -/
def underManager {β : Type} : RuntimeAct β → Bool
  | .ensureSessionState _ | .bindLocked _ _ | .runtimeState _ | .dispatchLocked _ _ _
  | .clearQueuedResponse _ _ _ _ | .cleanupSessionState _ _ | .clearPendingRAV _
  | .clearQueuedControl _ | .hasPendingRAV _ | .hasPendingPaymentControl _ => true
  | .lockEval _ | .unlockEval _ | .readPendingRAV _ | .dropPendingRAV _ | .dropQueuedResponse _
  | .makeEvents | .trySend _ _ | .select _ _ => false

variable {x : Access} {g : Gateway} {pool : Pool} {i : ThreadId}

theorem accesses_guarded {r : Runtime} {β : Type} {a : RuntimeAct β} (made : x ∈ accesses r a) :
    (underManager a = true ∧ direct a = none) ∨
      (underManager a = false ∧ direct a = some x.entry) := by
  cases a with
  | readPendingRAV p | dropPendingRAV p | dropQueuedResponse p =>
    obtain rfl := List.mem_singleton.mp made
    exact .inr ⟨rfl, rfl⟩
  | ensureSessionState | lockEval | unlockEval | makeEvents | trySend | select =>
    exact absurd made List.not_mem_nil
  | _ => exact .inl ⟨rfl, rfl⟩

/-! ## The next step of a thread -/

abbrev Observed := Config Act ThreadId (World × (ThreadId → Local)) Reply

/-- What a thread reads and writes in its next step. -/
def accessesAt (c : Observed) (i : ThreadId) : List Access :=
  match c.threads i with
  | .act (.runtime a) _ => accesses c.shared.1.runtime a
  | _ => []

/-- The entry that the next step accesses outside `mu`. -/
def directAt (c : Observed) (i : ThreadId) : Option StatePtr :=
  match c.threads i with
  | .act (.runtime a) _ => direct a
  | _ => none

/-- The mutexes that a thread holds in its next step. -/
def holdsAt (c : Observed) (i : ThreadId) : Mutex → Bool
  | .manager =>
    match c.threads i with
    | .act (.runtime a) _ => underManager a
    | _ => false
  | .eval p => (c.shared.2 i).eval = some p

variable {c : Observed}

/-- An access is made under `mu`, or it is direct and the thread holds the entry's `evalMu`. -/
theorem access_guarded (run : provider.Reach (observedBoot g pool) c) (made : x ∈ accessesAt c i) :
    (holdsAt c i .manager = true ∧ directAt c i = none) ∨
      (holdsAt c i .manager = false ∧ directAt c i = some x.entry ∧
        holdsAt c i (.eval x.entry) = true) := by
  have follows := ((observedBoot_followed g pool).invariant (J := fun _ => True) run trivial
    fun _ _ _ _ _ _ _ _ _ _ _ => trivial).1 i
  unfold accessesAt at made
  unfold holdsAt directAt
  split at made
  · next a k thread =>
      rw [thread] at follows
      simp only
      obtain under | ⟨outside, mine⟩ := accesses_guarded made
      · exact .inl under
      refine .inr ⟨outside, mine, decide_eq_true ?_⟩
      have allowed : (c.shared.2 i).allowsRuntime a := follows.1
      cases a with
      | readPendingRAV | dropPendingRAV | dropQueuedResponse =>
        cases mine
        exact allowed.1
      | _ => cases mine
  · exact absurd made List.not_mem_nil

/-- A thread holds the `evalMu` of one entry at most. -/
theorem holdsAt_eval_unique {p q : StatePtr} (here : holdsAt c i (.eval p) = true)
    (there : holdsAt c i (.eval q) = true) : p = q := by
  have same := (of_decide_eq_true here).symm.trans (of_decide_eq_true there)
  exact Option.some.inj same

/-- What a thread holds in a direct access: the mutex of that entry and no other. -/
theorem holdsAt_direct (run : provider.Reach (observedBoot g pool) c) (made : x ∈ accessesAt c i)
    (outside : directAt c i = some x.entry) {m : Mutex} (held : holdsAt c i m = true) :
    m = .eval x.entry := by
  obtain ⟨_, none⟩ | ⟨free, _, mine⟩ := access_guarded run made
  · rw [none] at outside
    cases outside
  cases m with
  | manager =>
    rw [free] at held
    cases held
  | eval p => rw [holdsAt_eval_unique held mine]

/-- Two accesses to a field of one entry are made under a common mutex, unless one of them is made
outside `mu` and the other by a thread that does not hold the entry's `evalMu`. -/
theorem accesses_share_mutex_iff {g : Gateway} {pool : Pool} {c c' : Observed}
    (run : provider.Reach (observedBoot g pool) c) (run' : provider.Reach (observedBoot g pool) c')
    {i j : ThreadId} {x y : Access} (first : x ∈ accessesAt c i) (second : y ∈ accessesAt c' j)
    (entry : y.entry = x.entry) :
    (∃ m, holdsAt c i m = true ∧ holdsAt c' j m = true) ↔
      ¬ ((directAt c i = some x.entry ∧ holdsAt c' j (.eval x.entry) = false) ∨
        (directAt c' j = some x.entry ∧ holdsAt c i (.eval x.entry) = false)) := by
  constructor
  · rintro ⟨m, mine, theirs⟩ (⟨outside, lacks⟩ | ⟨outside, lacks⟩)
    · rw [holdsAt_direct run first outside mine, lacks] at theirs
      cases theirs
    · rw [← entry] at outside lacks
      rw [holdsAt_direct run' second outside theirs, lacks] at mine
      cases mine
  · intro guarded
    obtain ⟨lacks, lacks'⟩ := not_or.mp guarded
    obtain ⟨mine, _⟩ | ⟨_, outside, mine⟩ := access_guarded run first
    · obtain ⟨theirs, _⟩ | ⟨_, outside, theirs⟩ := access_guarded run' second
      · exact ⟨.manager, mine, theirs⟩
      · rw [entry] at outside theirs
        exact ⟨.eval x.entry, Bool.not_eq_false _ ▸ fun free => lacks' ⟨outside, free⟩, theirs⟩
    · exact ⟨.eval x.entry, mine, Bool.not_eq_false _ ▸ fun free => lacks ⟨outside, free⟩⟩

/-- A stream has accepted a payment and is about to drop the request it answers, while a call of
`SubmitRAV` is about to look for that request. -/
def racing : Observed :=
  provider.play [Sample.whole 0, Sample.whole 1, Sample.steps 2 35, Sample.steps 3 1]
    (observedBoot Sample.gateway (Sample.pool [Sample.start 1, Sample.report 2,
      Sample.pay (Sample.rav 3) 2, Sample.submit (Sample.rav 5)]))

def racedEntry : StatePtr := ⟨"s", 0⟩

theorem racing_accesses : writes racedEntry .pendingRAV ∈ accessesAt racing 2 ∧
    reads racedEntry .pendingRAV ∈ accessesAt racing 3 ∧
    holdsAt racing 2 .manager = false ∧ (racing.shared.2 3).eval = none := by
  decide +kernel

/-- One thread writes `pendingRAV`, the other reads it, and no mutex keeps them apart. -/
theorem pendingRAV_raced :
    provider.Reach (observedBoot Sample.gateway (Sample.pool [Sample.start 1, Sample.report 2,
      Sample.pay (Sample.rav 3) 2, Sample.submit (Sample.rav 5)])) racing ∧
    writes racedEntry .pendingRAV ∈ accessesAt racing 2 ∧
    reads racedEntry .pendingRAV ∈ accessesAt racing 3 ∧
    ∀ m, ¬ (holdsAt racing 2 m = true ∧ holdsAt racing 3 m = true) := by
  obtain ⟨writing, reading, outside, idle⟩ := racing_accesses
  refine ⟨Machine.play_reach _ _, writing, reading, ?_⟩
  rintro m ⟨mine, theirs⟩
  cases m with
  | manager =>
    rw [outside] at mine
    cases mine
  | eval p =>
    rw [holdsAt, idle] at theirs
    cases theirs

theorem accesses_share_mutex_iff_racing :
    (∃ m, holdsAt racing 2 m = true ∧ holdsAt racing 3 m = true) ↔
      ¬ ((directAt racing 2 = some racedEntry ∧ holdsAt racing 3 (.eval racedEntry) = false) ∨
        (directAt racing 3 = some racedEntry ∧ holdsAt racing 2 (.eval racedEntry) = false)) := by
  obtain ⟨writing, reading, _⟩ := racing_accesses
  exact accesses_share_mutex_iff (Machine.play_reach _ _) (Machine.play_reach _ _) writing reading
    rfl

end Sdsce.Guarantees.Streams
