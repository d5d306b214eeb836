import Sdsce.Source.Consumer

/-!
# The ingress of the consumer sidecar

The progress summary of a stream, the termination coordinator and the end of a finite stream of
`consumer/sidecar/ingress.go`. A response is read for the block numbers in it only; a message or a
field that is absent is an `Option`.

The goroutine of the payment control is that of `Source.Consumer`, its result now handed to the
coordinator. One action is one section under the coordinator's mutex, one status call, one `select`,
or one action of the payment control. What the provider answers and what wakes the `select` is read
from an oracle.
-/
namespace Sdsce.Source.Ingress

open Sdsce.Theory

/-! ## Progress of a stream -/

/-- `pbsubstreamsrpcv2.Response`, with the number of the clock or of the last valid block. -/
inductive ResponseV2 where
  | blockScopedData (clock : Option UInt64)
  | blockUndoSignal (lastValidBlock : Option UInt64)
  | other
deriving DecidableEq

/-- `pbsubstreamsrpcv4.Response`: data comes in batches. -/
inductive ResponseV4 where
  | blockScopedDatas (clocks : List (Option UInt64))
  | blockUndoSignal (lastValidBlock : Option UInt64)
  | other
deriving DecidableEq

/-- `ingressStreamProgress`. -/
structure StreamProgress where
  sawBlock : Bool := false
  highestBlock : UInt64 := 0
deriving DecidableEq

namespace StreamProgress

def noteBlock (p : StreamProgress) (blockNum : UInt64) : StreamProgress where
  sawBlock := true
  highestBlock :=
    if p.sawBlock = false ∨ p.highestBlock < blockNum then blockNum
    else p.highestBlock

/-- A number that is noted if it is there. -/
def noteIfSome (p : StreamProgress) (blockNum : Option UInt64) : StreamProgress :=
  match blockNum with
  | none => p
  | some n => p.noteBlock n

def observeV2 (p : StreamProgress) : ResponseV2 → StreamProgress
  | .blockScopedData clock => p.noteIfSome clock
  | .blockUndoSignal lastValidBlock => p.noteIfSome lastValidBlock
  | .other => p

def observeV4 (p : StreamProgress) : ResponseV4 → StreamProgress
  | .blockScopedDatas clocks => clocks.foldl noteIfSome p
  | .blockUndoSignal lastValidBlock => p.noteIfSome lastValidBlock
  | .other => p

def expectedEOF (p : StreamProgress) (stopBlockNum : UInt64) : Bool :=
  if stopBlockNum = 0 ∨ p.sawBlock = false then false
  else stopBlockNum ≤ p.highestBlock + 1

end StreamProgress

/-! ## The coordinator -/

open Consumer (SidecarAct SidecarOracle Sidecar LocalSession ControlResult StatusCode)

/-- `ingressTerminationCoordinator`. A `changed` channel is known by the number of channels closed
before it; `done` is the channel that the payment control closes when it returns. -/
structure Coordinator where
  result : Option ControlResult := none
  paymentControlPending : Bool := false
  changed : Nat := 0
  done : Bool := false
deriving DecidableEq

namespace Coordinator

/-- `setResult`: the first result stays. -/
def setResult (c : Coordinator) (result : ControlResult) : Coordinator :=
  match c.result with
  | some _ => c
  | none => { c with result := some result }

def setPaymentControlPending (c : Coordinator) (pending : Bool) : Coordinator :=
  if c.paymentControlPending = pending then c
  else { c with paymentControlPending := pending, changed := c.changed + 1 }

end Coordinator

/-- What ends a `select`. -/
inductive Woken where
  | clientDone | deadline | changed | tick | controlDone
deriving DecidableEq

/-- What the goroutines of a stream do to the coordinator and wait for. -/
inductive StreamAct : Type → Type
  | setResult (result : ControlResult) : StreamAct Unit
  | closeDone : StreamAct Unit
  | currentResult : StreamAct (Option ControlResult)
  | paymentControlState : StreamAct (Bool × Nat)
  | getStatus : StreamAct (Except String (Option GetSessionStatusResponse))
  | select (changed : Nat) (controlDone : Bool) : StreamAct Woken

/-- An action of the payment control's own, or one on the stream. -/
inductive IngressAct (β : Type)
  | control (a : SidecarAct β)
  | stream (a : StreamAct β)

/-- What the outside answers to one action. -/
structure IngressOracle where
  sidecar : SidecarOracle := {}
  status : Except String (Option GetSessionStatusResponse) := .error ""
  woken : Woken := .tick

/-- The state of the sidecar and of the stream's coordinator. -/
structure IngressState where
  sidecar : Consumer.State := {}
  coordinator : Coordinator := {}

/-- The goroutines that share a coordinator. -/
inductive Goroutine where
  | control | wait
deriving DecidableEq

namespace IngressState

/-- The stream that the coordinator belongs to. -/
def ownStream : Consumer.StreamId := 0

/-- An action of the payment control: its flag is the coordinator's. -/
def execControl {β : Type} (a : SidecarAct β) (e : SidecarOracle) (s : IngressState) :
    Option (IngressState × β) :=
  match β, a with
  | _, .setPaymentControlPending pending =>
    some ({ s with coordinator := s.coordinator.setPaymentControlPending pending }, ())
  | _, a =>
    match s.sidecar.exec ownStream a e with
    | none => none
    | some (sidecar, b) => some ({ s with sidecar }, b)

def execStream {β : Type} (a : StreamAct β) (e : IngressOracle) (s : IngressState) :
    Option (IngressState × β) :=
  match β, a with
  | _, .setResult result =>
    some ({ s with coordinator := s.coordinator.setResult result }, ())
  | _, .closeDone => some ({ s with coordinator := { s.coordinator with done := true } }, ())
  | _, .currentResult => some (s, s.coordinator.result)
  | _, .paymentControlState =>
    some (s, s.coordinator.paymentControlPending, s.coordinator.changed)
  | _, .getStatus => some (s, e.status)
  | _, .select changed controlDone =>
    match e.woken with
    | .changed => if s.coordinator.changed = changed then none else some (s, .changed)
    | .controlDone =>
      if controlDone && s.coordinator.done then some (s, .controlDone) else none
    | woken => some (s, woken)

def exec {β : Type} (a : IngressAct β) (e : IngressOracle) (s : IngressState) :
    Option (IngressState × β) :=
  match a with
  | .control a => s.execControl a e.sidecar
  | .stream a => s.execStream a e

end IngressState

def machine : Machine IngressAct Goroutine IngressOracle IngressState where
  exec _ := IngressState.exec

abbrev Program := Prog IngressAct

def run {β : Type} (a : StreamAct β) : Program β := .perform (.stream a)

/-! ## The payment control -/

/-- `runIngressPaymentControl` with its result. A panic ends the process. -/
def paymentControl (s : Sidecar) (session : Option LocalSession) : Program Unit :=
  match session with
  | none => do
    run (.setResult (.controlFailure .internal "consumer ingress session is required"))
    run .closeDone
  | some session => do
    let result ← (Consumer.runIngressPaymentControl s session).lift .control
    if result = .panicked then return ()
    else
      run (.setResult result)
      run .closeDone

/-! ## The end of a finite stream -/

/-- `resolveAmbiguousIngressSessionStatus`: whether the status resolves the session, and how. -/
def resolveAmbiguousIngressSessionStatus (resp : Option GetSessionStatusResponse) :
    Option (Except (StatusCode × String) Unit) :=
  match resp with
  | none => none
  | some resp =>
    if resp.active then none
    else
      match resp.endReason with
      | .complete | .clientDisconnect => some (.ok ())
      | .paymentIssue => some (.error (.resourceExhausted, "need more funds"))
      | .providerStop => some (.error (.unavailable,
          "provider session terminated with end reason provider stop"))
      | .error => some (.error (.unavailable, "provider session terminated with end reason error"))
      | .unspecified => some (.error (.unavailable,
          "provider session terminated with end reason END_REASON_UNSPECIFIED"))

/-- How `awaitFiniteIngressPostStreamControl` returns. `settled` is the nil error of an active
session without payment control; `resolved` is what the status of an inactive one says. -/
inductive FiniteEnd where
  | settled
  | resolved (outcome : Except (StatusCode × String) Unit)
  | result (result : ControlResult)
  | clientDone
  | unavailable (err : String)
deriving DecidableEq

/-- The variables of the loop. -/
structure Waiting where
  lastStatusErr : Option String := none
  controlDone : Bool := true

def deadlineText (timeout : String) (lastStatusErr : Option String) : String :=
  match lastStatusErr with
  | some err =>
    "finite upstream Substreams stream ended before provider payment control status resolved " ++
      s!"the session: {err}"
  | none =>
    "finite upstream Substreams stream ended while provider payment control remained pending " ++
      s!"for {timeout}"

/-- The coordinator's result, or else `other`. -/
def currentResultOr (other : FiniteEnd) : Program (Waiting ⊕ FiniteEnd) := do
  match ← run .currentResult with
  | some result => return .inr (.result result)
  | none => return .inr other

/-- The `select` at the end of a turn. -/
def awaitChange (timeout : String) (w : Waiting) (changed : Nat) :
    Program (Waiting ⊕ FiniteEnd) := do
  match ← run (.select changed w.controlDone) with
  | .clientDone => currentResultOr .clientDone
  | .deadline => currentResultOr (.unavailable (deadlineText timeout w.lastStatusErr))
  | .changed | .tick => return .inl w
  | .controlDone => return .inl { w with controlDone := false }

/-- `statusResp.GetPaymentControlPending()`. -/
def pendingAtProvider (resp : Option GetSessionStatusResponse) : Bool :=
  (resp.map (·.paymentControlPending)).getD false

/-- One turn of the loop. -/
def finiteTurn (timeout : String) (w : Waiting) : Program (Waiting ⊕ FiniteEnd) := do
  match ← run .currentResult with
  | some result => return .inr (.result result)
  | none =>
    let (localPending, changed) ← run .paymentControlState
    match ← run .getStatus with
    | .error err => awaitChange timeout { w with lastStatusErr := some err } changed
    | .ok resp =>
      match resolveAmbiguousIngressSessionStatus resp with
      | some outcome => return .inr (.resolved outcome)
      | none =>
        if !localPending && !pendingAtProvider resp then return .inr .settled
        else awaitChange timeout w changed

def awaitFiniteIngressPostStreamControl (timeout : String) : Program FiniteEnd :=
  .iterate (finiteTurn timeout) {}

/-- What a goroutine returns. -/
inductive GoroutineEnd where
  | control
  | wait (result : FiniteEnd)
deriving DecidableEq

def Goroutine.program (s : Sidecar) (session : Option LocalSession) (timeout : String) :
    Goroutine → Program GoroutineEnd
  | .control => do
    paymentControl s session
    return .control
  | .wait => do
    let result ← awaitFiniteIngressPostStreamControl timeout
    return .wait result

/-- A stream with a new coordinator. -/
def startStream (s : Sidecar) (session : Option LocalSession) (timeout : String)
    (sidecar : Consumer.State) : Config IngressAct Goroutine IngressState GoroutineEnd :=
  ⟨{ sidecar }, fun i => i.program s session timeout⟩

end Sdsce.Source.Ingress
