import Sdsce.Source.Repository
import Sdsce.Theory.Program

/-!
# The metering emitter

`provider/plugin/metering.go`: `Emit` puts events into a channel, the loop of `launch` collects them
and reports a batch at each tick, and on shutdown it takes what is left. `Shutdown` belongs to the
shutter: the first call closes `Terminating` and runs the callback of `newMeteringEmitter`, which
waits for the loop.

A goroutine that waits in a `select` takes an event directly from the sender; no other state of the
channel differs from a queue.
-/
namespace Sdsce.Source.Metering

open Sdsce.Theory

abbrev ThreadId := Nat

/-- `dmetering.Event`, as far as it is read here. The metrics stand in the order in which the loop
of `eventToProto` meets them, with the values that `int64` makes of them. -/
structure Event where
  endpoint : String
  organizationID : String
  apiKeyID : String
  network : String
  timestamp : Time
  metrics : List (String × Int64)
deriving DecidableEq

structure EmittedEvent where
  event : Event
  sessionID : String
deriving DecidableEq

/-- `usagev1.Event`. -/
structure ProtoEvent where
  organizationId : String
  apiKeyId : String
  endpoint : String
  network : String
  sdsSessionId : String
  timestamp : Time
  metrics : List (String × Int64)
deriving DecidableEq

def eventToProto (ev : EmittedEvent) : ProtoEvent where
  organizationId := ev.event.organizationID
  apiKeyId := ev.event.apiKeyID
  endpoint := ev.event.endpoint
  network := ev.event.network
  sdsSessionId := ev.sessionID
  timestamp := ev.event.timestamp
  metrics := ev.event.metrics

/-- `ev.Network = e.network`. -/
def EmittedEvent.withNetwork (ev : EmittedEvent) (network : String) : EmittedEvent :=
  { ev with event := { ev.event with network } }

/-- The parameters of `newMeteringEmitter`. -/
structure Emitter where
  network : String
  bufferSize : Nat
  panicOnDrop : Bool

/-- The fields of `meteringEmitter`. `waiting` says that the loop is blocked in its `select`, and
`handed` is the event that a sender has given it there. `placed` and `reports` are history
variables: the events that went into the channel, and the batches that `Report` was called with. -/
structure Shared where
  mu : Option ThreadId := none
  buffer : List EmittedEvent := []
  waiting : Bool := false
  handed : Option EmittedEvent := none
  activeBatch : List ProtoEvent := []
  done : Bool := false
  shuttingDown : Bool := false
  terminating : Bool := false
  placed : List EmittedEvent := []
  reports : List (List ProtoEvent) := []

/-- The case that a `select` of the loop takes. -/
inductive Case where
  | terminating
  | tick
  | received (ev : EmittedEvent)

inductive MeteringAct : Type → Type
  | isTerminating : MeteringAct Bool
  | lockMu : MeteringAct Unit
  | unlockMu : MeteringAct Unit
  | isShuttingDown : MeteringAct Bool
  | setShuttingDown : MeteringAct Unit
  /-- A send with a `default`. -/
  | trySend (ev : EmittedEvent) : MeteringAct Bool
  /-- The `select` of the loop, which may block. -/
  | select : MeteringAct (Option Case)
  /-- A blocked `select` goes on. -/
  | wake : MeteringAct Case
  /-- A receive with a `default`. -/
  | tryReceive : MeteringAct (Option EmittedEvent)
  | getBatch : MeteringAct (List ProtoEvent)
  | appendBatch (ev : ProtoEvent) : MeteringAct Unit
  | clearBatch : MeteringAct Unit
  | report (events : List ProtoEvent) : MeteringAct (Option String)
  | closeDone : MeteringAct Unit
  /-- `Shutdown` closes `Terminating`; answers whether this call is the first. -/
  | terminate : MeteringAct Bool
  | awaitDone : MeteringAct Unit

/-- Which ready case a `select` takes. -/
inductive Choice where
  | terminating | tick | receive | block

structure Oracle where
  choice : Choice := .block
  err : Option String := none

namespace Shared

/-- A send finds room in the channel, or the loop waits for it. -/
def trySend (e : Emitter) (ev : EmittedEvent) (s : Shared) : Shared × Bool :=
  if s.waiting ∧ ¬ s.terminating then
    ({ s with waiting := false, handed := some ev, placed := s.placed ++ [ev] }, true)
  else if s.buffer.length < e.bufferSize then
    ({ s with buffer := s.buffer ++ [ev], placed := s.placed ++ [ev] }, true)
  else (s, false)

def select (choice : Choice) (s : Shared) : Option (Shared × Option Case) :=
  match choice with
  | .terminating => if s.terminating then some (s, some .terminating) else none
  | .tick => some (s, some .tick)
  | .receive =>
    match s.buffer with
    | [] => none
    | ev :: rest => some ({ s with buffer := rest }, some (.received ev))
  | .block =>
    if ¬ s.terminating ∧ s.buffer = [] then some ({ s with waiting := true }, none) else none

def wake (choice : Choice) (s : Shared) : Option (Shared × Case) :=
  match s.handed with
  | some ev => some ({ s with handed := none }, .received ev)
  | none =>
    match choice with
    | .terminating =>
      if s.terminating then some ({ s with waiting := false }, .terminating) else none
    | .tick => some ({ s with waiting := false }, .tick)
    | .receive | .block => none

def exec (e : Emitter) (i : ThreadId) {β : Type} (a : MeteringAct β) (o : Oracle) (s : Shared) :
    Option (Shared × β) :=
  match β, a with
  | _, .isTerminating => some (s, s.terminating)
  | _, .lockMu => if s.mu = none then some ({ s with mu := some i }, ()) else none
  | _, .unlockMu => some ({ s with mu := none }, ())
  | _, .isShuttingDown => some (s, s.shuttingDown)
  | _, .setShuttingDown => some ({ s with shuttingDown := true }, ())
  | _, .trySend ev => some (s.trySend e ev)
  | _, .select => s.select o.choice
  | _, .wake => s.wake o.choice
  | _, .tryReceive =>
    match s.buffer with
    | [] => some (s, none)
    | ev :: rest => some ({ s with buffer := rest }, some ev)
  | _, .getBatch => some (s, s.activeBatch)
  | _, .appendBatch ev => some ({ s with activeBatch := s.activeBatch ++ [ev] }, ())
  | _, .clearBatch => some ({ s with activeBatch := [] }, ())
  | _, .report events => some ({ s with reports := s.reports ++ [events] }, o.err)
  | _, .closeDone => some ({ s with done := true }, ())
  | _, .terminate => some ({ s with terminating := true }, !s.terminating)
  | _, .awaitDone => if s.done then some (s, ()) else none

end Shared

def machine (e : Emitter) : Machine MeteringAct ThreadId Oracle Shared where
  exec := Shared.exec e

abbrev Program := Prog MeteringAct

def perform {β : Type} (a : MeteringAct β) : Program β := .perform a

/-- `emit`: an empty batch is not reported, and a failed report is not repeated. -/
def emit (events : List ProtoEvent) : Program Unit := do
  if events = [] then return ()
  else
    let _ ← perform (.report events)
    return ()

/-- One `select` of the loop. -/
def nextCase : Program Case := do
  match ← perform .select with
  | some case => return case
  | none => perform .wake

def beginShutdown : Program Unit := do
  perform .lockMu
  perform .setShuttingDown
  perform .unlockMu

def flushAndClose (e : Emitter) : Program Unit :=
  .retry do
    match ← perform .tryReceive with
    | some ev =>
      perform (.appendBatch (eventToProto (ev.withNetwork e.network)))
      return none
    | none =>
      let events ← perform .getBatch
      emit events
      return some ()

def launch (e : Emitter) : Program Unit := do
  .retry do
    match ← nextCase with
    | .terminating =>
      beginShutdown
      flushAndClose e
      return some ()
    | .tick =>
      let events ← perform .getBatch
      emit events
      perform .clearBatch
      return none
    | .received ev =>
      perform (.appendBatch (eventToProto (ev.withNetwork e.network)))
      return none
  perform .closeDone

/-- What becomes of an event. -/
inductive Outcome where
  | placed
  | dropped
  | panicked
deriving DecidableEq

/-- `Emit`. The deferred `Unlock` runs also when it panics. -/
def EventEmitter.emit (e : Emitter) (ev : Event) (sessionID : String) : Program Outcome := do
  if ev.endpoint = "" then return .dropped
  else if ← perform .isTerminating then return .dropped
  else
    perform .lockMu
    if ← perform .isShuttingDown then
      perform .unlockMu
      return .dropped
    else if ← perform (.trySend ⟨ev, sessionID⟩) then
      perform .unlockMu
      return .placed
    else
      perform .unlockMu
      return if e.panicOnDrop then .panicked else .dropped

/-- `Shutdown`; answers whether it was the first call, which waits for the loop. -/
def shutdown : Program Bool := do
  if ← perform .terminate then
    perform .awaitDone
    return true
  else return false

inductive Call where
  | emit (ev : Event) (sessionID : String)
  | shutdown

inductive Reply where
  | launched
  | emitted (outcome : Outcome)
  | shutDown (first : Bool)

def Call.program (e : Emitter) : Call → Program Reply
  | .emit ev sessionID => do
    let outcome ← EventEmitter.emit e ev sessionID
    return .emitted outcome
  | .shutdown => do
    let first ← Metering.shutdown
    return .shutDown first

def launchProgram (e : Emitter) : Program Reply := do
  launch e
  return .launched

/-- Thread 0 is the loop; every other thread makes a call. -/
def threads (e : Emitter) (calls : ThreadId → Call) (i : ThreadId) : Program Reply :=
  if i = 0 then launchProgram e else (calls i).program e

def start (e : Emitter) (calls : ThreadId → Call) : Config MeteringAct ThreadId Shared Reply :=
  ⟨{}, threads e calls⟩

end Sdsce.Source.Metering
