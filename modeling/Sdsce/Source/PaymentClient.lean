import Sdsce.Source.Messages
import Sdsce.Theory.Program

/-!
# The payment client of the consumer sidecar

`paymentSessionClient` of `consumer/sidecar/payment_session_manager.go`. What a method does while it
holds `mu` is one action, so every state is one in which `mu` is free. A stream, the `sendMu` made
with it and a `bindingDone` channel are numbered as they are allocated; what `Send` answers is
read from an oracle.

`closes`, `sent` and the `started` of a transport are history variables: how often `closeLocked` has
run, what was handed to `Send`, and the `closes` at which an attempt began. Nothing reads them.
-/
namespace Sdsce.Source.PaymentClient

open Sdsce.Theory

abbrev ThreadId := Nat

/-- `paymentSessionClient`, with the fields that binding and sending use. -/
structure Client where
  providerEndpoint : String
  stream : Option Nat := none
  sendMu : Option Nat := none
  boundSessionID : String := ""
  bindingSessionID : String := ""
  bindingDone : Option Nat := none
  streamGeneration : UInt64 := 0
deriving DecidableEq

/-- What an attempt takes along when it unlocks `mu` to send. -/
structure Transport where
  stream : Nat
  sendMu : Option Nat
  streamGeneration : UInt64
  started : Nat
deriving DecidableEq

/-- A call of `Send` and its error. -/
structure Sent where
  transport : Transport
  request : PaymentSessionRequest
  err : Option String
deriving DecidableEq

/-- `held` says which `sendMu` are locked, `closed` which channels were closed, once for each
`close`. -/
structure Shared where
  client : Client
  streams : Nat := 0
  channels : Nat := 0
  held : Nat → Bool := fun _ => false
  closed : List Nat := []
  closes : Nat := 0
  sent : List Sent := []

/-- The branch that `BindSession` takes under the first lock. -/
inductive BindEntry where
  | bound
  | binding (waitCh : Option Nat)
  | refused (err : String)
  | attempt (transport : Transport) (bindingDone : Nat)
deriving DecidableEq

/-- The branch that `SendRAVSubmission` takes; `again` is a switch without a matching case. -/
inductive SendEntry where
  | send (transport : Transport)
  | binding (waitCh : Option Nat)
  | refused (err : String)
  | again
deriving DecidableEq

namespace Shared

def setClient (s : Shared) (client : Client) : Shared := { s with client }

def finishBindingLocked (s : Shared) : Shared :=
  match s.client.bindingDone with
  | none => s
  | some ch => { s with
      client := { s.client with bindingDone := none }
      closed := ch :: s.closed }

def closeLocked (s : Shared) : Shared :=
  finishBindingLocked { s with
    closes := s.closes + 1
    client := { s.client with
      streamGeneration := s.client.streamGeneration + 1
      stream := none
      sendMu := none
      boundSessionID := ""
      bindingSessionID := "" } }

def ensureStreamLocked (s : Shared) : Shared × Nat :=
  match s.client.stream with
  | some stream => (s, stream)
  | none => ({ s with
      client := { s.client with stream := some s.streams, sendMu := some s.streams }
      streams := s.streams + 1 }, s.streams)

/-- `BindSession` makes the channel if there is none. -/
def ensureBindingDone (s : Shared) : Shared × Nat :=
  match s.client.bindingDone with
  | some ch => (s, ch)
  | none => ({ s with
      client := { s.client with bindingDone := some s.channels }
      channels := s.channels + 1 }, s.channels)

/-- `BindSession` after the switch, up to the unlock. -/
def bindAttempt (s : Shared) (sessionID : String) : Shared × BindEntry :=
  let (s, stream) := s.ensureStreamLocked
  let (s, bindingDone) := s.ensureBindingDone
  let client := s.client
  (s.setClient { client with bindingSessionID := sessionID },
    .attempt ⟨stream, client.sendMu, client.streamGeneration, s.closes⟩ bindingDone)

/-- The switch of `BindSession`. -/
def bindEnter (s : Shared) (sessionID : String) : Shared × BindEntry :=
  let c := s.client
  if c.boundSessionID = sessionID ∧ c.stream.isSome then (s, .bound)
  else if c.bindingSessionID = sessionID then (s, .binding c.bindingDone)
  else if c.boundSessionID ≠ "" ∧ c.boundSessionID ≠ sessionID then
    let other := c.boundSessionID.quote
    (s, .refused s!"payment session client already bound to {other}")
  else if c.bindingSessionID ≠ "" ∧ c.bindingSessionID ≠ sessionID then
    let other := c.bindingSessionID.quote
    (s, .refused s!"payment session client is currently binding {other}")
  else s.bindAttempt sessionID

def sameStream (s : Shared) (t : Transport) : Prop :=
  s.client.stream = some t.stream ∧ s.client.streamGeneration = t.streamGeneration

def attemptActive (s : Shared) (sessionID : String) (bindingDone : Nat) : Prop :=
  s.client.bindingDone = some bindingDone ∧ s.client.bindingSessionID = sessionID

instance (s : Shared) (t : Transport) : Decidable (s.sameStream t) :=
  inferInstanceAs (Decidable (_ ∧ _))

instance (s : Shared) (sessionID : String) (bindingDone : Nat) :
    Decidable (s.attemptActive sessionID bindingDone) :=
  inferInstanceAs (Decidable (_ ∧ _))

/-- `BindSession` after the send. -/
def bindFinish (s : Shared) (sessionID : String) (t : Transport) (bindingDone : Nat)
    (err : Option String) : Shared × Except String Unit :=
  let name := sessionID.quote
  match err with
  | none =>
    if s.sameStream t ∧ s.attemptActive sessionID bindingDone then
      (finishBindingLocked (s.setClient
        { s.client with boundSessionID := sessionID, bindingSessionID := "" }), .ok ())
    else
      let s := if s.attemptActive sessionID bindingDone then
        finishBindingLocked (s.setClient { s.client with bindingSessionID := "" }) else s
      (s, .error s!"bind payment session {name}: stream changed while binding")
  | some err =>
    let s := if s.sameStream t ∧ s.attemptActive sessionID bindingDone then s.closeLocked
      else if s.attemptActive sessionID bindingDone then
        finishBindingLocked (s.setClient { s.client with bindingSessionID := "" })
      else s
    (s, .error s!"bind payment session {name}: {err}")

/-- The switch of `SendRAVSubmission`. -/
def sendEnter (s : Shared) (sessionID : String) : SendEntry :=
  let c := s.client
  match c.stream with
  | some stream =>
    if c.boundSessionID = sessionID then
      .send ⟨stream, c.sendMu, c.streamGeneration, s.closes⟩
    else sendRefusal c
  | none => sendRefusal c
where
  sendRefusal (c : Client) : SendEntry :=
    if c.bindingSessionID = sessionID then .binding c.bindingDone
    else if c.boundSessionID = "" then .refused "payment session client is not bound"
    else if c.boundSessionID ≠ sessionID then
      let other := c.boundSessionID.quote
      let name := sessionID.quote
      .refused s!"payment session client is bound to {other}, not {name}"
    else .again

/-- `SendRAVSubmission` after a send that failed. -/
def sendFail (s : Shared) (t : Transport) : Shared := if s.sameStream t then s.closeLocked else s

/-- `SetEndpoint` under the lock. -/
def setEndpoint (s : Shared) (providerEndpoint : String) : Shared :=
  if s.client.providerEndpoint = providerEndpoint then s
  else
    let s := s.closeLocked
    s.setClient { s.client with providerEndpoint }

end Shared

/-! ## Actions -/

inductive ClientAct : Type → Type
  | bindEnter (sessionID : String) : ClientAct BindEntry
  | bindFinish (sessionID : String) (t : Transport) (bindingDone : Nat) (err : Option String) :
      ClientAct (Except String Unit)
  | sendEnter (sessionID : String) : ClientAct SendEntry
  | sendFail (t : Transport) : ClientAct Unit
  | wait (ch : Nat) : ClientAct Unit
  | lockSend (t : Transport) (sendMu : Nat) : ClientAct Unit
  | send (t : Transport) (req : PaymentSessionRequest) : ClientAct (Option String)
  | unlockSend (t : Transport) (sendMu : Nat) : ClientAct Unit
  | setEndpoint (providerEndpoint : String) : ClientAct Unit
  | close : ClientAct Unit

/-- The generation in which the attempt of the action began. -/
def ClientAct.started {β : Type} : ClientAct β → Option Nat
  | bindFinish _ t _ _ | sendFail t | lockSend t _ | send t _ | unlockSend t _ => some t.started
  | _ => none

def Shared.exec {β : Type} (a : ClientAct β) (err : Option String) (s : Shared) :
    Option (Shared × β) :=
  match β, a with
  | _, .bindEnter sessionID => some (s.bindEnter sessionID)
  | _, .bindFinish sessionID t bindingDone err => some (s.bindFinish sessionID t bindingDone err)
  | _, .sendEnter sessionID => some (s, s.sendEnter sessionID)
  | _, .sendFail t => some (s.sendFail t, ())
  | _, .wait ch => if ch ∈ s.closed then some (s, ()) else none
  | _, .lockSend _ sendMu =>
    if s.held sendMu then none
    else some ({ s with held := Function.update s.held sendMu true }, ())
  | _, .send t req => some ({ s with sent := ⟨t, req, err⟩ :: s.sent }, err)
  | _, .unlockSend _ sendMu =>
    some ({ s with held := Function.update s.held sendMu false }, ())
  | _, .setEndpoint providerEndpoint => some (s.setEndpoint providerEndpoint, ())
  | _, .close => some (s.closeLocked, ())

/-- The oracle of a step is the error of `Send`. -/
def machine : Machine ClientAct ThreadId (Option String) Shared where
  exec _ _ a err s := s.exec a err

abbrev Program := Prog ClientAct

def perform {β : Type} (a : ClientAct β) : Program β := .perform a

/-! ## The methods -/

def sendRequest (t : Transport) (req : PaymentSessionRequest) : Program (Option String) :=
  match t.sendMu with
  | none => return some "payment session client transport is unavailable"
  | some sendMu => do
    perform (.lockSend t sendMu)
    let err ← perform (.send t req)
    perform (.unlockSend t sendMu)
    return err

/-- Wait for the attempt of another call; a nil channel is not waited for. -/
def await (waitCh : Option Nat) : Program Unit :=
  match waitCh with
  | none => return
  | some ch => perform (.wait ch)

/-- The message that binds a stream to a session. -/
def bindRequest (sessionID : String) : PaymentSessionRequest := ⟨sessionID, none⟩

def bindSession (sessionID : String) : Program (Except String Unit) :=
  if sessionID = "" then return .error "session id is required"
  else .retry do
    match ← perform (.bindEnter sessionID) with
    | .bound => return some (.ok ())
    | .binding waitCh => do
      await waitCh
      return none
    | .refused err => return some (.error err)
    | .attempt t bindingDone => do
      let err ← sendRequest t (bindRequest sessionID)
      let result ← perform (.bindFinish sessionID t bindingDone err)
      return some result

def ravRequest (sessionID : String) (signed : SignedRAV) (usage : Option Proto.Usage) :
    PaymentSessionRequest :=
  ⟨sessionID, some (.ravSubmission (some ⟨some (horizonSignedRAVToProto signed), usage⟩))⟩

/-- The loop of `SendRAVSubmission`. -/
def sendRAV (sessionID : String) (signed : SignedRAV) (usage : Option Proto.Usage) :
    Program (Except String Unit) :=
  .retry do
    match ← perform (.sendEnter sessionID) with
    | .send t => do
      match ← sendRequest t (ravRequest sessionID signed usage) with
      | none => return some (.ok ())
      | some err => do
        perform (.sendFail t)
        let name := sessionID.quote
        return some (.error s!"send rav submission for session {name}: {err}")
    | .binding waitCh => do
      await waitCh
      return none
    | .refused err => return some (.error err)
    | .again => return none

def sendRAVSubmission (sessionID : String) (signed : Option SignedRAV)
    (usage : Option Proto.Usage) : Program (Except String Unit) :=
  if sessionID = "" then return .error "session id is required"
  else
    match signed with
    | none => return .error "signed RAV is required"
    | some signed => sendRAV sessionID signed usage

def setEndpoint (providerEndpoint : String) : Program Unit :=
  if providerEndpoint = "" then return
  else perform (.setEndpoint providerEndpoint)

def close : Program Unit := perform .close

/-! ## Calls -/

inductive Call where
  | bindSession (sessionID : String)
  | sendRAVSubmission (sessionID : String) (signed : Option SignedRAV) (usage : Option Proto.Usage)
  | setEndpoint (providerEndpoint : String)
  | close

def Call.program : Call → Program (Except String Unit)
  | bindSession sessionID => PaymentClient.bindSession sessionID
  | sendRAVSubmission sessionID signed usage =>
    PaymentClient.sendRAVSubmission sessionID signed usage
  | setEndpoint providerEndpoint => do
    PaymentClient.setEndpoint providerEndpoint
    return .ok ()
  | close => do
    PaymentClient.close
    return .ok ()

/-- `newPaymentSessionClient` and one call on each thread. -/
def start (providerEndpoint : String) (calls : ThreadId → Call) :
    Config ClientAct ThreadId Shared (Except String Unit) :=
  ⟨{ client := { providerEndpoint } }, fun i => (calls i).program⟩

end Sdsce.Source.PaymentClient
