import Sdsce.Source.Metering
import Sdsce.Theory.Protocol

/-!
# No metering event is lost or reported twice

An event that `Emit` places is in the channel, in the hand of the loop, in the active batch or in a
report, and these stand in the order in which the events were placed. `Emit` sends under the mutex
that `beginShutdown` takes, so nothing comes into the channel once the loop drains it.
-/
namespace Sdsce.Guarantees.MeteringConservation

open Sdsce.Theory Sdsce.Source Sdsce.Source.Metering Function

variable {g : Emitter} {s s' : Shared} {i : Metering.ThreadId} {o : Metering.Oracle}

/-- What is reported of an event. -/
def reported (g : Emitter) (ev : EmittedEvent) : ProtoEvent :=
  eventToProto (ev.withNetwork g.network)

/-! ## How far a goroutine has come -/

inductive Phase where
  | idle
  /-- `Emit` holds `mu`. -/
  | locked
  /-- `Emit` holds `mu` and has seen that the shutdown has not begun. -/
  | admitted
  /-- `Shutdown` has waited for the loop. -/
  | stopped
  | looping
  | blocked
  | taking (ev : EmittedEvent) (flush : Bool)
  | ticked
  | reporting (batch : List ProtoEvent) (flush : Bool)
  | cleared
  | closing
  | closingLocked
  | closingSet
  | flushing
  | drained
  | flushed
  | ended
deriving DecidableEq

namespace Phase

/-- The phase is one of the loop. -/
def ofLoop : Phase → Bool
  | idle | locked | admitted | stopped => false
  | _ => true

/-- The goroutine holds `mu`. -/
def holds : Phase → Bool
  | locked | admitted | closingLocked | closingSet => true
  | _ => false

/-- The shutdown has begun. -/
def closed : Phase → Bool
  | closingSet | flushing | taking _ true | drained | reporting _ true | flushed | ended => true
  | _ => false

/-- The loop has found the channel empty, for the last time. -/
def empty : Phase → Bool
  | drained | reporting _ true | flushed | ended => true
  | _ => false

/-- The active batch is one that was reported. -/
def counted : Phase → Bool
  | cleared | flushed | ended => true
  | _ => false

/-- The event that the loop has received. -/
def inHand : Phase → List EmittedEvent
  | taking ev _ => [ev]
  | _ => []

def afterCase : Case → Phase
  | .terminating => closing
  | .tick => ticked
  | .received ev => taking ev false

def allows (g : Emitter) (p : Phase) {β : Type} : MeteringAct β → Prop
  | .isTerminating | .terminate | .awaitDone => p = idle
  | .lockMu => p = idle ∨ p = closing
  | .unlockMu => p = locked ∨ p = closingSet
  | .isShuttingDown => p = locked
  | .setShuttingDown => p = closingLocked
  | .trySend _ => p = admitted
  | .select => p = looping
  | .wake => p = blocked
  | .tryReceive => p = flushing
  | .getBatch => p = ticked ∨ p = drained
  | .appendBatch event => ∃ ev flush, p = taking ev flush ∧ event = reported g ev
  | .clearBatch => p = cleared
  | .report events => ∃ flush, p = reporting events flush
  | .closeDone => p = flushed

def next (p : Phase) {β : Type} (a : MeteringAct β) (b : β) : Phase :=
  match β, a, b, p with
  | _, .lockMu, _, closing => closingLocked
  | _, .lockMu, _, _ => locked
  | _, .unlockMu, _, closingSet => flushing
  | _, .unlockMu, _, _ => idle
  | _, .isShuttingDown, begun, _ => if begun then locked else admitted
  | _, .setShuttingDown, _, _ => closingSet
  | _, .trySend _, _, _ => locked
  | _, .select, none, _ => blocked
  | _, .select, some case, _ => afterCase case
  | _, .wake, case, _ => afterCase case
  | _, .tryReceive, some ev, _ => taking ev true
  | _, .tryReceive, none, _ => drained
  | _, .getBatch, batch, drained => if batch = [] then flushed else reporting batch true
  | _, .getBatch, batch, _ => if batch = [] then cleared else reporting batch false
  | _, .appendBatch _, _, taking _ true => flushing
  | _, .appendBatch _, _, _ => looping
  | _, .clearBatch, _, _ => looping
  | _, .report _, _, reporting _ true => flushed
  | _, .report _, _, _ => cleared
  | _, .closeDone, _, _ => ended
  | _, .awaitDone, _, _ => stopped
  | _, _, _, _ => idle

end Phase

def protocol (g : Emitter) : Protocol MeteringAct Phase where
  allows p := p.allows g
  next p := p.next

theorem emit_follows (batch : List ProtoEvent) (flush : Bool) :
    (protocol g).Follows (Metering.emit batch)
      (if batch = [] then if flush then .flushed else .cleared else .reporting batch flush)
      fun _ p => p = if flush then .flushed else .cleared := by
  unfold Metering.emit
  split
  · rfl
  refine ⟨⟨flush, rfl⟩, fun _ => ?_⟩
  cases flush with
  | true | false => rfl

theorem nextCase_follows :
    (protocol g).Follows nextCase .looping fun case p => p = .afterCase case := by
  refine ⟨rfl, fun case => ?_⟩
  cases case with
  | none => exact ⟨rfl, fun _ => rfl⟩
  | some case => rfl

theorem flushAndClose_follows :
    (protocol g).Follows (flushAndClose g) .flushing fun _ p => p = .flushed := by
  refine .retry (· = .flushing) rfl ?_
  rintro _ rfl
  refine ⟨rfl, fun received => ?_⟩
  cases received with
  | some ev => exact ⟨⟨ev, true, rfl, rfl⟩, fun _ => rfl⟩
  | none => exact ⟨.inr rfl, fun batch => (emit_follows batch true).bind fun _ _ last => last⟩

theorem launch_follows : (protocol g).Follows (launch g) .looping fun _ p => p = .ended := by
  refine Protocol.Follows.bind (R := fun _ p => p = .flushed)
    (.retry (· = .looping) rfl ?_) ?_
  · rintro _ rfl
    refine nextCase_follows.bind ?_
    rintro case _ rfl
    cases case with
    | terminating =>
      refine ⟨.inr rfl, fun _ => ⟨rfl, fun _ => ⟨.inr rfl, fun _ => ?_⟩⟩⟩
      exact flushAndClose_follows.bind fun _ _ last => last
    | tick =>
      refine ⟨.inl rfl, fun batch => ?_⟩
      refine (emit_follows batch false).bind ?_
      rintro _ _ rfl
      exact ⟨rfl, fun _ => rfl⟩
    | received ev => exact ⟨⟨ev, false, rfl, rfl⟩, fun _ => rfl⟩
  · rintro _ _ rfl
    exact ⟨rfl, fun _ => rfl⟩

theorem emitCall_follows (ev : Event) (sessionID : String) :
    (protocol g).Follows (EventEmitter.emit g ev sessionID) .idle fun _ p => p = .idle := by
  unfold EventEmitter.emit
  split
  · rfl
  refine ⟨rfl, fun terminating => ?_⟩
  cases terminating with
  | true => rfl
  | false =>
    refine ⟨.inl rfl, fun _ => ⟨rfl, fun begun => ?_⟩⟩
    cases begun with
    | true => exact ⟨.inl rfl, fun _ => rfl⟩
    | false =>
      refine ⟨rfl, fun sent => ?_⟩
      cases sent with
      | true | false => exact ⟨.inl rfl, fun _ => rfl⟩

theorem shutdown_follows :
    (protocol g).Follows Metering.shutdown .idle fun first p => first = true → p = .stopped := by
  refine ⟨rfl, fun first => ?_⟩
  cases first with
  | true => exact ⟨rfl, fun _ _ => rfl⟩
  | false => exact nofun

/-! ## The mutex -/

variable {c : Choice}

theorem select_frame {case : Option Case} (ran : s.select c = some (s', case)) :
    s'.mu = s.mu ∧ s'.shuttingDown = s.shuttingDown ∧ (s.done = true → s'.done = true) := by
  unfold Shared.select at ran
  split at ran
  · split at ran <;> cases ran
    exact ⟨rfl, rfl, id⟩
  · cases ran
    exact ⟨rfl, rfl, id⟩
  · split at ran <;> cases ran
    exact ⟨rfl, rfl, id⟩
  · split at ran <;> cases ran
    exact ⟨rfl, rfl, id⟩

theorem wake_frame {case : Case} (ran : s.wake c = some (s', case)) :
    s'.mu = s.mu ∧ s'.shuttingDown = s.shuttingDown ∧ (s.done = true → s'.done = true) := by
  unfold Shared.wake at ran
  split at ran
  · cases ran
    exact ⟨rfl, rfl, id⟩
  split at ran
  · split at ran <;> cases ran
    exact ⟨rfl, rfl, id⟩
  · cases ran
    exact ⟨rfl, rfl, id⟩
  · cases ran
  · cases ran

theorem trySend_frame (ev : EmittedEvent) : (s.trySend g ev).1.mu = s.mu ∧
    (s.trySend g ev).1.shuttingDown = s.shuttingDown ∧
    (s.done = true → (s.trySend g ev).1.done = true) := by
  unfold Shared.trySend
  split
  · exact ⟨rfl, rfl, id⟩
  split
  · exact ⟨rfl, rfl, id⟩
  · exact ⟨rfl, rfl, id⟩

/-- Who holds the mutex, what `Emit` has seen under it, and what `Shutdown` has waited for. -/
structure Locks (s : Shared) (loc : Metering.ThreadId → Phase) : Prop where
  role : ∀ i, (loc i).ofLoop = true ↔ i = 0
  mutex : ∀ i, (loc i).holds = true → s.mu = some i
  seen : ∀ i, loc i = .admitted → s.shuttingDown = false
  waited : ∀ i, loc i = .stopped → s.done = true

namespace Locks

variable {loc : Metering.ThreadId → Phase} {p : Phase}

theorem update (h : Locks s loc) (role : p.ofLoop = (loc i).ofLoop)
    (mutex : p.holds = true → s'.mu = some i) (seen : p = .admitted → s'.shuttingDown = false)
    (waited : p = .stopped → s'.done = true)
    (others : ∀ j, j ≠ i → ((loc j).holds = true → s'.mu = some j) ∧
      (loc j = .admitted → s'.shuttingDown = false))
    (finished : s.done = true → s'.done = true) : Locks s' (Function.update loc i p) where
  role := (forall_update_iff loc fun j p => p.ofLoop = true ↔ j = 0).mpr
    ⟨role ▸ h.role i, fun j _ => h.role j⟩
  mutex := (forall_update_iff loc fun j p => p.holds = true → s'.mu = some j).mpr
    ⟨mutex, fun j other => (others j other).1⟩
  seen := (forall_update_iff loc fun _ p => p = .admitted → s'.shuttingDown = false).mpr
    ⟨seen, fun j other => (others j other).2⟩
  waited := (forall_update_iff loc fun _ p => p = .stopped → s'.done = true).mpr
    ⟨waited, fun j _ stopped => finished (h.waited j stopped)⟩

theorem move (h : Locks s loc) (mu : s'.mu = s.mu) (flag : s'.shuttingDown = s.shuttingDown)
    (finished : s.done = true → s'.done = true) (role : p.ofLoop = (loc i).ofLoop)
    (holds : p.holds = (loc i).holds) (seen : p = .admitted → s.shuttingDown = false)
    (waited : p = .stopped → s'.done = true) : Locks s' (Function.update loc i p) := by
  refine h.update role ?_ (flag ▸ seen) waited (fun j _ => ?_) finished
  · rw [mu, holds]
    exact h.mutex i
  · rw [mu, flag]
    exact ⟨h.mutex j, h.seen j⟩

theorem lock (h : Locks s loc) (free : s.mu = none) (role : p.ofLoop = (loc i).ofLoop)
    (unseen : p ≠ .admitted) (running : p ≠ .stopped) :
    Locks { s with mu := some i } (Function.update loc i p) := by
  refine h.update role (fun _ => rfl) (absurd · unseen) (absurd · running)
    (fun j _ => ⟨fun holds => ?_, h.seen j⟩) id
  cases free.symm.trans (h.mutex j holds)

theorem unheld (h : Locks s loc) (held : (loc i).holds = true) {j : Metering.ThreadId}
    (other : j ≠ i) : (loc j).holds ≠ true :=
  fun holds => other (Option.some.inj ((h.mutex j holds).symm.trans (h.mutex i held)))

theorem unlock (h : Locks s loc) (held : (loc i).holds = true) (role : p.ofLoop = (loc i).ofLoop)
    (free : p.holds = false) (running : p ≠ .stopped) :
    Locks { s with mu := none } (Function.update loc i p) := by
  refine h.update role (fun holds => ?_) (fun admitted => ?_) (absurd · running)
    (fun j other => ⟨(absurd · (h.unheld held other)), h.seen j⟩) id
  · cases free.symm.trans holds
  · rw [admitted] at free
    cases free

/-- The loop sets the flag under the mutex: no `Emit` has looked at it and not yet sent. -/
theorem begins (h : Locks s loc) (here : loc i = .closingLocked) :
    Locks { s with shuttingDown := true } (Function.update loc i .closingSet) := by
  have held : (loc i).holds = true := by
    rw [here]
    rfl
  refine h.update (by rw [here]; rfl) (fun _ => h.mutex i held) nofun nofun
    (fun j other => ⟨h.mutex j, fun admitted => ?_⟩) id
  exact absurd (by rw [admitted]; rfl) (h.unheld held other)

end Locks

/-! ## The flow of events -/

/-- The events that were placed and are not reported, in their order. -/
def underway (g : Emitter) (s : Shared) (p : Phase) : List ProtoEvent :=
  (if p.counted then [] else s.activeBatch) ++
    (p.inHand ++ s.handed.toList ++ s.buffer).map (reported g)

/-- What the phase of the loop says about the events. -/
structure Flow (g : Emitter) (s : Shared) (p : Phase) : Prop where
  closed : p.closed = true → s.shuttingDown = true
  empty : p.empty = true → s.buffer = []
  handing : p ≠ .blocked → s.waiting = false ∧ s.handed = none
  waiting : s.waiting = true → s.handed = none ∧ (s.terminating = false → s.buffer = [])
  batch : ∀ events flush, p = .reporting events flush → s.activeBatch = events ∧ events ≠ []
  reports : ∀ batch ∈ s.reports, batch ≠ []
  account : s.placed.map (reported g) = s.reports.flatten ++ underway g s p
  done : s.done = true → p = .ended

namespace Flow

variable {p : Phase}

theorem terminate (h : Flow g s p) : Flow g { s with terminating := true } p :=
  ⟨h.closed, h.empty, h.handing, fun waits => ⟨(h.waiting waits).1, nofun⟩, h.batch, h.reports,
    h.account, h.done⟩

theorem relock (h : Flow g s p) (mu : Option Metering.ThreadId) : Flow g { s with mu } p :=
  ⟨h.closed, h.empty, h.handing, h.waiting, h.batch, h.reports, h.account, h.done⟩

theorem closed_of_empty (here : p.empty = true) : p.closed = true := by
  cases p with
  | reporting batch flush =>
    cases flush with
    | true => rfl
    | false => cases here
  | drained | flushed | ended => rfl
  | _ => cases here

theorem trySend (h : Flow g s p) (ev : EmittedEvent) (opened : s.shuttingDown = false) :
    Flow g (s.trySend g ev).1 p := by
  have running : p.empty = false := by
    by_contra last
    have begun := h.closed (closed_of_empty (by simpa using last))
    rw [opened] at begun
    cases begun
  unfold Shared.trySend
  split
  · next waits =>
      obtain ⟨nothing, noOwner⟩ := h.waiting waits.1
      have vacant := noOwner (by simpa using waits.2)
      have here : p = .blocked := by
        by_contra other
        have := (h.handing other).1
        rw [waits.1] at this
        cases this
      refine ⟨h.closed, h.empty, fun other => absurd here other, nofun, h.batch, h.reports, ?_,
        h.done⟩
      have account := h.account
      simp only [underway, nothing, vacant, Option.toList_none, List.append_nil] at account
      simp only [underway, vacant, List.map_append, account, Option.toList_some, List.append_nil,
        List.append_assoc]
  split
  · next waits room =>
      refine ⟨h.closed, fun last => ?_, h.handing, fun waiting => ?_, h.batch, h.reports, ?_,
        h.done⟩
      · rw [running] at last
        cases last
      · refine ⟨(h.waiting waiting).1, fun going => absurd ⟨waiting, ?_⟩ waits⟩
        simpa using going
      · have account := h.account
        simp only [underway, List.map_append, account, List.append_assoc]
  · exact h

/-- The loop moves on with no event handed to it and none reported. -/
theorem pass {q : Phase} (h : Flow g s p) (alive : p ≠ .ended) (done : s'.done = s.done)
    (placed : s'.placed = s.placed) (reports : s'.reports = s.reports)
    (still : s'.waiting = false ∧ s'.handed = none)
    (closed : q.closed = true → s'.shuttingDown = true) (empty : q.empty = true → s'.buffer = [])
    (batch : ∀ events flush, q = .reporting events flush → s'.activeBatch = events ∧ events ≠ [])
    (same : underway g s' q = underway g s p) : Flow g s' q where
  closed := closed
  empty := empty
  handing _ := still
  waiting waits := by
    rw [still.1] at waits
    cases waits
  batch := batch
  reports := reports ▸ h.reports
  account := by rw [placed, reports, same, h.account]
  done finished := absurd (h.done (done ▸ finished)) alive

variable {c : Choice} {flush : Bool}

theorem select {case : Option Case} (h : Flow g s .looping)
    (ran : s.select c = some (s', case)) : Flow g s' (Phase.next .looping .select case) := by
  have still := h.handing nofun
  unfold Shared.select at ran
  cases c with
  | terminating =>
    dsimp only at ran
    split at ran
    · cases ran
      exact h.pass nofun rfl rfl rfl still nofun nofun nofun rfl
    · cases ran
  | tick =>
    cases ran
    exact h.pass nofun rfl rfl rfl still nofun nofun nofun rfl
  | receive =>
    dsimp only at ran
    split at ran
    · cases ran
    rename_i ev rest queued
    cases ran
    refine h.pass nofun rfl rfl rfl still nofun nofun nofun ?_
    simp only [underway, queued, still.2]
    rfl
  | block =>
    dsimp only at ran
    split at ran
    · next calm =>
        cases ran
        exact ⟨nofun, nofun, fun other => absurd rfl other, fun _ => ⟨still.2, fun _ => calm.2⟩,
          nofun, h.reports, h.account, fun done => nomatch h.done done⟩
    · cases ran

theorem wake {case : Case} (h : Flow g s .blocked) (ran : s.wake c = some (s', case)) :
    Flow g s' (.afterCase case) := by
  unfold Shared.wake at ran
  split at ran
  · next ev handed =>
      cases ran
      have still : s.waiting = false := by
        by_contra waits
        have nothing := (h.waiting (by simpa using waits)).1
        rw [handed] at nothing
        cases nothing
      refine h.pass nofun rfl rfl rfl ⟨still, rfl⟩ nofun nofun nofun ?_
      simp only [underway, handed]
      rfl
  · next nothing =>
      cases c with
      | terminating =>
        dsimp only at ran
        split at ran
        · cases ran
          exact h.pass nofun rfl rfl rfl ⟨rfl, nothing⟩ nofun nofun nofun rfl
        · cases ran
      | tick =>
        cases ran
        exact h.pass nofun rfl rfl rfl ⟨rfl, nothing⟩ nofun nofun nofun rfl
      | receive | block => cases ran

theorem tryReceive {received : Option EmittedEvent} (h : Flow g s .flushing)
    (ran : (machine g).exec i .tryReceive o s = some (s', received)) :
    Flow g s' (Phase.next .flushing .tryReceive received) := by
  have still := h.handing nofun
  have begun := h.closed rfl
  simp only [machine, Shared.exec] at ran
  split at ran
  · next vacant =>
      cases ran
      exact h.pass nofun rfl rfl rfl still (fun _ => begun) (fun _ => vacant) nofun rfl
  · next ev rest queued =>
      cases ran
      refine h.pass nofun rfl rfl rfl still (fun _ => begun) nofun nofun ?_
      simp only [underway, queued, still.2]
      rfl

theorem getBatch (h : Flow g s p) (here : p = .ticked ∨ p = .drained) :
    Flow g s (Phase.next p .getBatch s.activeBatch) := by
  have reading (events : List ProtoEvent) (nil : s.activeBatch ≠ []) (flush : Bool)
      (same : Phase.reporting s.activeBatch true = .reporting events flush ∨
        Phase.reporting s.activeBatch false = .reporting events flush) :
      s.activeBatch = events ∧ events ≠ [] := by
    rcases same with same | same
    · cases same
      exact ⟨rfl, nil⟩
    · cases same
      exact ⟨rfl, nil⟩
  rcases here with rfl | rfl
  · have still := h.handing nofun
    by_cases nil : s.activeBatch = []
    · rw [show Phase.next .ticked .getBatch s.activeBatch = .cleared from if_pos nil]
      refine h.pass nofun rfl rfl rfl still nofun nofun nofun ?_
      simp only [underway, nil]
      rfl
    · rw [show Phase.next .ticked .getBatch s.activeBatch = .reporting s.activeBatch false from
        if_neg nil]
      exact h.pass nofun rfl rfl rfl still nofun nofun
        (fun events flush same => reading events nil flush (.inr same)) rfl
  · have still := h.handing nofun
    have begun := h.closed rfl
    have vacant := h.empty rfl
    by_cases nil : s.activeBatch = []
    · rw [show Phase.next .drained .getBatch s.activeBatch = .flushed from if_pos nil]
      refine h.pass nofun rfl rfl rfl still (fun _ => begun) (fun _ => vacant) nofun ?_
      simp only [underway, nil]
      rfl
    · rw [show Phase.next .drained .getBatch s.activeBatch = .reporting s.activeBatch true from
        if_neg nil]
      exact h.pass nofun rfl rfl rfl still (fun _ => begun) (fun _ => vacant)
        (fun events flush same => reading events nil flush (.inl same)) rfl

theorem appendBatch {ev : EmittedEvent} (h : Flow g s (.taking ev flush)) :
    Flow g { s with activeBatch := s.activeBatch ++ [reported g ev] }
      (if flush then .flushing else .looping) := by
  have still := h.handing nofun
  have moved : s.activeBatch ++ [reported g ev] ++
      ([] ++ s.handed.toList ++ s.buffer).map (reported g) =
      s.activeBatch ++ ([ev] ++ s.handed.toList ++ s.buffer).map (reported g) := by
    simp only [List.append_assoc, List.nil_append, List.map_append, List.map_cons, List.map_nil]
  cases flush with
  | true => exact h.pass nofun rfl rfl rfl still (fun _ => h.closed rfl) nofun nofun moved
  | false => exact h.pass nofun rfl rfl rfl still nofun nofun nofun moved

theorem report {events : List ProtoEvent} (h : Flow g s (.reporting events flush)) :
    Flow g { s with reports := s.reports ++ [events] } (if flush then .flushed else .cleared) := by
  obtain ⟨active, nonempty⟩ := h.batch events flush rfl
  have still := h.handing nofun
  have reports : ∀ batch ∈ s.reports ++ [events], batch ≠ [] := by
    intro batch member
    rcases List.mem_append.mp member with old | new
    · exact h.reports batch old
    · rw [List.mem_singleton.mp new]
      exact nonempty
  have account := h.account
  rw [underway, active] at account
  have counted : s.placed.map (reported g) = (s.reports ++ [events]).flatten ++
      ([] ++ ([] ++ s.handed.toList ++ s.buffer).map (reported g)) := by
    rw [account, List.flatten_append, List.flatten_singleton]
    exact (List.append_assoc _ _ _).symm
  cases flush with
  | true =>
    exact ⟨fun _ => h.closed rfl, fun _ => h.empty rfl, fun _ => still, h.waiting, nofun, reports,
      counted, fun done => nomatch h.done done⟩
  | false =>
    exact ⟨nofun, nofun, fun _ => still, h.waiting, nofun, reports, counted,
      fun done => nomatch h.done done⟩

end Flow

/-- The invariant: the mutex, and the flow of events as far as the loop has come. -/
structure Sound (g : Emitter) (s : Shared) (loc : Metering.ThreadId → Phase) : Prop where
  locks : Locks s loc
  flow : Flow g s (loc 0)

namespace Sound

variable {loc : Metering.ThreadId → Phase}

variable {p : Phase}

theorem other (locks : Locks s' (Function.update loc i p)) (away : i ≠ 0)
    (flow : Flow g s' (loc 0)) :
    Sound g s' (Function.update loc i p) :=
  ⟨locks, (update_of_ne away.symm p loc).symm ▸ flow⟩

theorem loop (locks : Locks s' (Function.update loc 0 p)) (flow : Flow g s' p) :
    Sound g s' (Function.update loc 0 p) :=
  ⟨locks, (update_self 0 p loc).symm ▸ flow⟩

theorem away (h : Sound g s loc) (here : loc i = p) (outside : p.ofLoop = false) : i ≠ 0 := by
  rintro rfl
  have inside := (h.locks.role 0).mpr rfl
  rw [here, outside] at inside
  cases inside

theorem atLoop (h : Sound g s loc) (here : loc i = p) (inside : p.ofLoop = true) : i = 0 :=
  (h.locks.role i).mp (here ▸ inside)

variable {q : Phase}

theorem onward (h : Sound g s loc) (here : loc i = p) (inside : p.ofLoop = true) (mu : s'.mu = s.mu)
    (flag : s'.shuttingDown = s.shuttingDown) (finished : s.done = true → s'.done = true)
    (role : q.ofLoop = true) (holds : q.holds = p.holds) (flow : Flow g s p → Flow g s' q) :
    Sound g s' (Function.update loc i q) := by
  cases h.atLoop here inside
  refine loop (h.locks.move mu flag finished (by rw [here, inside, role]) (by rw [here, holds])
    ?_ ?_)
    (flow (here ▸ h.flow))
  · rintro rfl
    cases role
  · rintro rfl
    cases role

theorem outside (h : Sound g s loc) (here : loc i = p) (apart : p.ofLoop = false)
    (mu : s'.mu = s.mu) (flag : s'.shuttingDown = s.shuttingDown)
    (finished : s.done = true → s'.done = true) (role : q.ofLoop = false)
    (holds : q.holds = p.holds) (seen : q = .admitted → s.shuttingDown = false)
    (waited : q = .stopped → s'.done = true) (flow : Flow g s (loc 0) → Flow g s' (loc 0)) :
    Sound g s' (Function.update loc i q) :=
  other (h.locks.move mu flag finished (by rw [here, apart, role]) (by rw [here, holds])
    seen waited)
    (h.away here apart) (flow h.flow)

theorem afterCase_role (case : Case) :
    (Phase.afterCase case).ofLoop = true ∧ (Phase.afterCase case).holds = false := by
  cases case with
  | terminating | tick | received => exact ⟨rfl, rfl⟩

theorem lockMu (h : Sound g s loc) (allowed : (loc i).allows g .lockMu) (free : s.mu = none) :
    Sound g { s with mu := some i } (Function.update loc i ((loc i).next .lockMu ())) := by
  rcases allowed with here | here
  · have locks : Locks { s with mu := some i } (Function.update loc i .locked) :=
      h.locks.lock free (by rw [here]; rfl) nofun nofun
    rw [here]
    exact other locks (h.away here rfl) (h.flow.relock _)
  · cases h.atLoop here rfl
    have locks : Locks { s with mu := some 0 } (Function.update loc 0 .closingLocked) :=
      h.locks.lock free (by rw [here]; rfl) nofun nofun
    have flow : Flow g s .closing := here ▸ h.flow
    rw [here]
    exact loop locks (flow.pass nofun rfl rfl rfl (flow.handing nofun) nofun nofun nofun rfl)

theorem unlockMu (h : Sound g s loc) (allowed : (loc i).allows g .unlockMu) :
    Sound g { s with mu := none } (Function.update loc i ((loc i).next .unlockMu ())) := by
  rcases allowed with here | here
  · have locks : Locks { s with mu := none } (Function.update loc i .idle) :=
      h.locks.unlock (by rw [here]; rfl) (by rw [here]; rfl) rfl nofun
    rw [here]
    exact other locks (h.away here rfl) (h.flow.relock _)
  · cases h.atLoop here rfl
    have locks : Locks { s with mu := none } (Function.update loc 0 .flushing) :=
      h.locks.unlock (by rw [here]; rfl) (by rw [here]; rfl) rfl nofun
    have flow : Flow g s .closingSet := here ▸ h.flow
    rw [here]
    exact loop locks (flow.pass nofun rfl rfl rfl (flow.handing nofun) (fun _ => flow.closed rfl)
      nofun nofun rfl)

theorem setShuttingDown (h : Sound g s loc) (here : loc i = .closingLocked) :
    Sound g { s with shuttingDown := true } (Function.update loc i .closingSet) := by
  cases h.atLoop here rfl
  have flow : Flow g s .closingLocked := here ▸ h.flow
  exact loop (h.locks.begins here)
    (flow.pass nofun rfl rfl rfl (flow.handing nofun) (fun _ => rfl) nofun nofun rfl)

theorem step {β : Type} {a : MeteringAct β} {b : β} (h : Sound g s loc)
    (allowed : (loc i).allows g a) (ran : (machine g).exec i a o s = some (s', b)) :
    Sound g s' (Function.update loc i ((loc i).next a b)) := by
  cases a with
  | isTerminating =>
    cases ran
    exact h.outside allowed rfl rfl rfl id rfl rfl nofun nofun id
  | terminate =>
    cases ran
    exact h.outside allowed rfl rfl rfl id rfl rfl nofun nofun Flow.terminate
  | awaitDone =>
    simp only [machine, Shared.exec] at ran
    split at ran
    · next finished =>
        cases ran
        exact h.outside allowed rfl rfl rfl id rfl rfl nofun (fun _ => finished) id
    · cases ran
  | lockMu =>
    simp only [machine, Shared.exec] at ran
    split at ran
    · next free =>
        cases ran
        exact h.lockMu allowed free
    · cases ran
  | unlockMu =>
    cases ran
    exact h.unlockMu allowed
  | isShuttingDown =>
    cases ran
    have here : loc i = .locked := allowed
    cases begun : s.shuttingDown with
    | true => exact h.outside here rfl rfl rfl id rfl rfl nofun nofun id
    | false => exact h.outside here rfl rfl rfl id rfl rfl (fun _ => begun) nofun id
  | setShuttingDown =>
    cases ran
    exact h.setShuttingDown allowed
  | trySend ev =>
    have here : loc i = .admitted := allowed
    have opened := h.locks.seen i here
    have effect : s' = (s.trySend g ev).1 := congrArg Prod.fst (Option.some.inj ran).symm
    obtain ⟨mu, flag, finished⟩ := trySend_frame (g := g) (s := s) ev
    rw [effect]
    exact h.outside here rfl mu flag finished rfl rfl nofun nofun
      fun flow => flow.trySend ev opened
  | select =>
    have here : loc i = .looping := allowed
    have kept := select_frame ran
    cases b with
    | none => exact h.onward here rfl kept.1 kept.2.1 kept.2.2 rfl rfl fun flow => flow.select ran
    | some case =>
      obtain ⟨role, free⟩ := afterCase_role case
      exact h.onward here rfl kept.1 kept.2.1 kept.2.2 role free fun flow => flow.select ran
  | wake =>
    have here : loc i = .blocked := allowed
    have kept := wake_frame ran
    obtain ⟨role, free⟩ := afterCase_role b
    exact h.onward here rfl kept.1 kept.2.1 kept.2.2 role free fun flow => flow.wake ran
  | tryReceive =>
    have here : loc i = .flushing := allowed
    have received := fun flow : Flow g s .flushing => flow.tryReceive ran
    simp only [machine, Shared.exec] at ran
    split at ran
    · cases ran
      exact h.onward here rfl rfl rfl id rfl rfl received
    · cases ran
      exact h.onward here rfl rfl rfl id rfl rfl received
  | getBatch =>
    cases ran
    have reads := fun flow : Flow g s (loc i) => flow.getBatch allowed
    rcases allowed with here | here
    · rw [here] at reads ⊢
      refine h.onward here rfl rfl rfl id ?_ ?_ reads
      · unfold Phase.next
        dsimp only
        split <;> rfl
      · unfold Phase.next
        dsimp only
        split <;> rfl
    · rw [here] at reads ⊢
      refine h.onward here rfl rfl rfl id ?_ ?_ reads
      · unfold Phase.next
        dsimp only
        split <;> rfl
      · unfold Phase.next
        dsimp only
        split <;> rfl
  | appendBatch event =>
    cases ran
    obtain ⟨ev, flush, here, rfl⟩ := allowed
    rw [here]
    cases flush with
    | true | false => exact h.onward here rfl rfl rfl id rfl rfl Flow.appendBatch
  | clearBatch =>
    cases ran
    have here : loc i = .cleared := allowed
    refine h.onward here rfl rfl rfl id rfl rfl fun flow => ?_
    exact flow.pass nofun rfl rfl rfl (flow.handing nofun) nofun nofun nofun rfl
  | report events =>
    cases ran
    obtain ⟨flush, here⟩ := allowed
    rw [here]
    cases flush with
    | true | false => exact h.onward here rfl rfl rfl id rfl rfl Flow.report
  | closeDone =>
    cases ran
    have here : loc i = .flushed := allowed
    refine h.onward here rfl rfl rfl (fun _ => rfl) rfl rfl fun flow => ?_
    exact ⟨fun _ => flow.closed rfl, fun _ => flow.empty rfl, fun _ => flow.handing nofun,
      flow.waiting, nofun, flow.reports, flow.account, fun _ => rfl⟩

end Sound

/-- The phase that a goroutine starts in. -/
def firstPhase (i : Metering.ThreadId) : Phase := if i = 0 then .looping else .idle

theorem firstPhase_cases (i : Metering.ThreadId) :
    i = 0 ∧ firstPhase i = .looping ∨ i ≠ 0 ∧ firstPhase i = .idle := by
  by_cases first : i = 0
  · exact .inl ⟨first, if_pos first⟩
  · exact .inr ⟨first, if_neg first⟩

theorem start_sound (g : Emitter) : Sound g {} firstPhase := by
  refine ⟨⟨fun i => ?_, fun i here => ?_, fun i here => ?_, fun i here => ?_⟩, ?_⟩
  · rcases firstPhase_cases i with ⟨first, phase⟩ | ⟨other, phase⟩
    · rw [phase]
      exact ⟨fun _ => first, fun _ => rfl⟩
    · rw [phase]
      exact ⟨nofun, fun zero => absurd zero other⟩
  · rcases firstPhase_cases i with ⟨_, phase⟩ | ⟨_, phase⟩ <;> simp [phase, Phase.holds] at here
  · rcases firstPhase_cases i with ⟨_, phase⟩ | ⟨_, phase⟩ <;> simp [phase] at here
  · rcases firstPhase_cases i with ⟨_, phase⟩ | ⟨_, phase⟩ <;> simp [phase] at here
  · exact ⟨nofun, nofun, fun _ => ⟨rfl, rfl⟩, nofun, nofun, nofun, rfl, nofun⟩

/-- What the answer of a goroutine says about its last phase. -/
def ends : Reply → Phase → Prop
  | .shutDown first, p => first = true → p = .stopped
  | .launched, p => p = .ended
  | .emitted _, p => p = .idle

theorem threads_follow (g : Emitter) (calls : Metering.ThreadId → Call) (i : Metering.ThreadId) :
    (protocol g).Follows (threads g calls i) (firstPhase i) ends := by
  unfold threads firstPhase
  split
  · exact launch_follows.bind fun _ _ last => last
  · cases calls i with
    | emit ev sessionID => exact (emitCall_follows ev sessionID).bind fun _ _ last => last
    | shutdown => exact shutdown_follows.bind fun _ _ last => last

/-- In every state reached, what was reported is the beginning of what was placed, batch after
batch and in order; once a shutdown is complete nothing is missing from it. -/
theorem metering_conserves (g : Emitter) (calls : Metering.ThreadId → Call)
    {c : Config MeteringAct Metering.ThreadId Shared Reply}
    (run : (machine g).Reach (Metering.start g calls) c) :
    c.shared.reports.flatten <+: c.shared.placed.map (reported g) ∧
      (∀ batch ∈ c.shared.reports, batch ≠ []) ∧
      ∀ i, c.threads i = .ret (.shutDown true) →
        c.shared.reports.flatten = c.shared.placed.map (reported g) := by
  obtain ⟨loc, observed⟩ := run.observed (protocol g) firstPhase
  have begins : (protocol g).Followed ends ((Metering.start g calls).observe firstPhase) :=
    threads_follow g calls
  obtain ⟨followed, sound⟩ := begins.invariant (J := fun s => Sound g s.1 s.2) observed
    (start_sound g) fun i β a e s s' b loc allowed ran sound => sound.step allowed ran
  have account := sound.flow.account
  refine ⟨⟨_, account.symm⟩, sound.flow.reports, fun i returned => ?_⟩
  have last := followed i
  rw [returned] at last
  have finished := sound.flow.done (sound.locks.waited i (last rfl))
  dsimp only at finished account
  have flow := sound.flow
  dsimp only at flow
  rw [finished] at account flow
  rw [account, underway, flow.empty rfl, (flow.handing nofun).2]
  exact (List.append_nil _).symm

/-- Two events and a shutdown. -/
def busyCalls : Metering.ThreadId → Call
  | 1 => .emit ⟨"/blocks", "org", "key", "", 7, [("blocks_count", 1)]⟩ "session-1"
  | 2 => .emit ⟨"/blocks", "org", "key", "", 8, [("bytes_count", 1024)]⟩ "session-1"
  | _ => .shutdown

def smallEmitter : Emitter := ⟨"mainnet", 2, false⟩

/-- The first event is reported at a tick; the second is in the channel when the shutdown
begins. -/
def busyRun : Config MeteringAct Metering.ThreadId Shared Reply :=
  (machine smallEmitter).play
    [(1, {}, 10), (0, { choice := .receive }, 3), (0, { choice := .tick }, 5), (2, {}, 10),
      (3, {}, 2), (0, { choice := .terminating }, 30), (3, {}, 5)]
      (Metering.start smallEmitter busyCalls)

theorem metering_conserves_busy : busyRun.threads 3 = .ret (.shutDown true) ∧
    busyRun.shared.reports.length = 2 ∧
    busyRun.shared.reports.flatten = busyRun.shared.placed.map (reported smallEmitter) := by
  have run : (machine smallEmitter).Reach (Metering.start smallEmitter busyCalls) busyRun :=
    Machine.play_reach _ _
  have returned : busyRun.threads 3 = .ret (.shutDown true) := rfl
  exact ⟨returned, by decide +kernel,
    (metering_conserves smallEmitter busyCalls run).2.2 3 returned⟩

end Sdsce.Guarantees.MeteringConservation
