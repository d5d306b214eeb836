import Mathlib.Data.List.AList
import Sdsce.Source.Messages
import Sdsce.Theory.Program
import Sdsce.Theory.Trace

/-!
# The consumer sidecar

`consumer/sidecar/managed_session.go`, `rav_request_signing.go`, the provider selection and the
pricing ceiling of `discovery.go`, the payment control loop of `ingress.go`, and the sessions of
`sidecar/session.go`.

One thread is one proxied stream or one `Init` call. The session object of a stream is reached
by its own control loop only, so it is a variable of that loop; what streams share is the map of
session IDs and the map of payment clients. The provider, the oracle and the network are outside:
what they answer is read from an oracle, and nothing is assumed about it.

`history` is a history variable: nothing reads it.
-/
namespace Sdsce.Source.Consumer

open Sdsce.Theory

/-- `sidecar.Session`, with the fields that the payment paths use. -/
structure LocalSession where
  id : String
  payer : Address
  receiver : Address
  dataService : Address
  currentRAV : Option SignedRAV := none
  blocksProcessed : UInt64 := 0
  bytesTransferred : UInt64 := 0
  requests : UInt64 := 0
  totalCost : Int := 0
  pricingConfig : Option PricingConfig := none
deriving DecidableEq

namespace LocalSession

def addUsage (s : LocalSession) (blocks bytes requests : UInt64) (cost : Option Int) :
    LocalSession :=
  { s with
    blocksProcessed := s.blocksProcessed + blocks
    bytesTransferred := s.bytesTransferred + bytes
    requests := s.requests + requests
    totalCost := s.totalCost + cost.getD 0 }

def setRAV (s : LocalSession) (rav : SignedRAV) : LocalSession := { s with currentRAV := some rav }

def setPricingConfig (s : LocalSession) (config : PricingConfig) : LocalSession :=
  { s with pricingConfig := some config }

end LocalSession

/-! ## Messages of the provider -/

/-- `RAVRequest` as it arrives: a message field may be absent. -/
structure RAVRequest where
  currentRav : Option Proto.SignedRAV
  usage : Option Proto.Usage
deriving DecidableEq

/-- The `oneof` of a `PaymentSessionResponse` as it arrives. `empty` is a nil message or one with
nothing set: the loop skips both. -/
inductive Message where
  | empty
  | ravRequest (req : RAVRequest)
  | needMoreFunds (minimumNeeded : Option Proto.GRT)
  | sessionControl (action : ControlAction) (reason : String)
deriving DecidableEq

/-- `GetSessionStatusResponse`, as far as the control loop reads it. -/
structure SessionStatusResponse where
  active : Bool
  endReason : EndReason
deriving DecidableEq

structure OracleProvider where
  providerId : String
  serviceProvider : Option Address
  controlPlaneEndpoint : String
deriving DecidableEq

structure DiscoverProvidersResponse where
  selectedProvider : Option OracleProvider
  canonicalPricing : Option PricingConfig
deriving DecidableEq

/-! ## Signing -/

/-- The configuration of a sidecar. `sign` is `key.Sign` on the typed-data hash under the
sidecar's domain, `parseEndpoint` the `URL` of `sidecar.ParseEndpoint`. -/
structure Sidecar where
  sign : RAV → Except String Signature
  oracleEndpoint : String
  parseEndpoint : String → String

inductive SignError where
  | panic
  | failed (err : String)
deriving DecidableEq

/-- `uint64(time.Now().UnixNano())`. -/
def unixNano (now : Time) : UInt64 := UInt64.ofNat now.toNat

namespace Sidecar

/-- `horizon.Sign`. `encodeUint128` copies the bytes of the value to the end of a 32-byte word
and panics when there are more of them. -/
def signRAV (s : Sidecar) (rav : RAV) : Except SignError SignedRAV :=
  if 2 ^ 256 ≤ rav.valueAggregate.natAbs then .error .panic
  else
    match s.sign rav with
    | .error err => .error (.failed s!"signing message: {err}")
    | .ok signature => .ok ⟨rav, signature⟩

def signRAVForRequest (s : Sidecar) (session : LocalSession) (req : Option RAVRequest)
    (now : Time) : Except SignError SignedRAV :=
  match req with
  | none => .error (.failed "rav_request is required")
  | some req =>
    match req.currentRav with
    | none => .error (.failed "rav_request.current_rav is required")
    | some currentRav =>
      match req.usage with
      | none => .error (.failed "rav_request.usage is required")
      | some usage =>
        match usage.cost with
        | none => .error (.failed "rav_request.usage.cost is required")
        | some cost =>
          match protoSignedRAVToHorizon currentRav with
          | .error err => .error (.failed s!"invalid rav_request.current_rav: {err}")
          | .ok current =>
            s.signRAV {
              collectionID := current.message.collectionID
              payer := session.payer
              serviceProvider := session.receiver
              dataService := session.dataService
              timestampNs := unixNano now
              valueAggregate := current.message.valueAggregate + cost.toBigInt
              metadata := [] }

end Sidecar

/-! ## Pricing -/

/-- The price that a provider may charge: its own one, at most the oracle's. -/
def effectiveSessionPricing (providerPricing oraclePricing : Option PricingConfig) :
    Except String (Option PricingConfig) :=
  match oraclePricing, providerPricing with
  | none, _ => .ok providerPricing
  | some oracle, none => .ok (some oracle)
  | some oracle, some provider =>
    if oracle.pricePerBlock.raw < provider.pricePerBlock.raw then
      let got := provider.pricePerBlock.string
      let want := oracle.pricePerBlock.string
      .error (s!"provider <pricing_config.price_per_block> {got} " ++
        s!"exceeds oracle canonical price {want}")
    else if oracle.pricePerByte.raw < provider.pricePerByte.raw then
      let got := provider.pricePerByte.string
      let want := oracle.pricePerByte.string
      .error (s!"provider <pricing_config.price_per_byte> {got} " ++
        s!"exceeds oracle canonical price {want}")
    else .ok (some provider)

/-! ## The shared state -/

/-- What happened, as far as payments are concerned: a RAV left towards the provider, a RAV
request arrived, a session was set up, a RAV was signed on a request with the session as it was
then. -/
inductive EventKind where
  | sent (rav : Proto.SignedRAV)
  | received (req : RAVRequest)
  | opened (session : LocalSession)
  | signed (session : LocalSession) (req : RAVRequest) (rav : SignedRAV)
deriving DecidableEq

abbrev StreamId := Nat

abbrev History := List (Entry StreamId EventKind)

/-- `SessionManager` and `paymentSessionManager` by ID, the `paymentControlPending` flag of each
stream's coordinator, and the history. -/
structure State where
  sessions : AList (fun _ : String => StreamId) := ∅
  clients : AList (fun _ : String => String) := ∅
  controlPending : StreamId → Bool := fun _ => false
  history : History := []

inductive ReceiveError where
  | canceled
  | failed (err : String)
deriving DecidableEq

inductive SidecarAct : Type → Type
  | now : SidecarAct Time
  | discoverProviders : SidecarAct (Except ConnectError DiscoverProvidersResponse)
  | startSession (req : StartSessionRequest) : SidecarAct (Except String StartSessionResponse)
  | createWithID (id : String) : SidecarAct (Except String Unit)
  | deleteSession (id : String) : SidecarAct Unit
  | setEndpoint (id endpoint : String) : SidecarAct Unit
  | getClient (id : String) : SidecarAct Bool
  | closeClient (id : String) : SidecarAct Unit
  | bindSession (id : String) : SidecarAct (Except String Unit)
  | receive : SidecarAct (Except ReceiveError Message)
  | setPaymentControlPending (pending : Bool) : SidecarAct Unit
  | sendRAVSubmission (id : String) (submission : SignedRAVSubmission) :
      SidecarAct (Except String Unit)
  | getSessionStatus (id : String) : SidecarAct (Except String SessionStatusResponse)
  | note (kind : EventKind) : SidecarAct Unit

/-- What the outside answers to one action. -/
structure SidecarOracle where
  time : Time := 0
  discovered : Except ConnectError DiscoverProvidersResponse := .ok ⟨none, none⟩
  started : Except String StartSessionResponse := .error ""
  message : Except ReceiveError Message := .ok .empty
  error : Option String := none
  status : Except String SessionStatusResponse := .error ""

def SidecarOracle.answer (e : SidecarOracle) : Except String Unit :=
  match e.error with
  | some err => .error err
  | none => .ok ()

namespace State

def log (s : State) (i : StreamId) (kind : EventKind) : State :=
  { s with history := s.history ++ [⟨i, kind⟩] }

/-- A submission counts as sent even when its send is reported as failed. -/
def logSent (s : State) (i : StreamId) : Option Proto.SignedRAV → State
  | none => s
  | some rav => s.log i (.sent rav)

def logReceived (s : State) (i : StreamId) : Except ReceiveError Message → State
  | .ok (.ravRequest req) => s.log i (.received req)
  | _ => s

def exec (i : StreamId) {β : Type} (a : SidecarAct β) (e : SidecarOracle) (s : State) :
    Option (State × β) :=
  match β, a with
  | _, .now => some (s, e.time)
  | _, .discoverProviders => some (s, e.discovered)
  | _, .startSession req => some (s.logSent i req.initialRav, e.started)
  | _, .createWithID id =>
    if id = "" then some (s, .error "session id is required")
    else
      match s.sessions.lookup id with
      | some _ => some (s, .error s!"session already exists: {id}")
      | none => some ({ s with sessions := s.sessions.insert id i }, .ok ())
  | _, .deleteSession id => some ({ s with sessions := s.sessions.erase id }, ())
  | _, .setEndpoint id endpoint =>
    if id = "" ∨ endpoint = "" then some (s, ())
    else some ({ s with clients := s.clients.insert id endpoint }, ())
  | _, .getClient id => some (s, (s.clients.lookup id).isSome)
  | _, .closeClient id => some ({ s with clients := s.clients.erase id }, ())
  | _, .bindSession _ => some (s, e.answer)
  | _, .receive => some (s.logReceived i e.message, e.message)
  | _, .setPaymentControlPending pending =>
    some ({ s with controlPending := Function.update s.controlPending i pending }, ())
  | _, .sendRAVSubmission _ submission => some (s.logSent i submission.signedRav, e.answer)
  | _, .getSessionStatus _ => some (s, e.status)
  | _, .note kind => some (s.log i kind, ())

end State

def machine : Machine SidecarAct StreamId SidecarOracle State where
  exec i := State.exec i

abbrev Program := Prog SidecarAct

def run {β : Type} (a : SidecarAct β) : Program β := .perform a

/-! ## Starting a session -/

/-- `sessionBootstrapInput`, without the Substreams package and the requested network: these
only choose what is asked of the oracle, and `discoverProviders` stands for that choice, the
client and the call. -/
structure BootstrapInput where
  payer : Address
  receiver : Option Address
  dataService : Address
  providerControlPlaneEndpoint : String

/-- `initProviderSelection`, without what is only logged. -/
structure ProviderSelection where
  controlPlaneEndpoint : String
  oraclePricing : Option PricingConfig
  receiver : Address

/-- `resolveProviderSelection` on the oracle's answer. -/
def selectDiscovered (expectedReceiver : Option Address) (resp : DiscoverProvidersResponse) :
    Except ConnectError ProviderSelection :=
  match resp.selectedProvider with
  | none => .error ⟨.internal, "oracle returned no selected provider"⟩
  | some selected =>
    match selected.serviceProvider with
    | none => .error ⟨.internal, "oracle selected provider is missing <service_provider>"⟩
    | some address =>
      match Proto.toEth (some address) with
      | .error err => .error ⟨.internal,
          s!"oracle returned invalid selected provider <service_provider>: {err}"⟩
      | .ok receiver =>
        match expectedReceiver.filter (fun want => !addressesEqual receiver want) with
        | some want =>
          let name := selected.providerId.quote
          let gotText := String.ofList receiver.pretty
          let wantText := String.ofList want.pretty
          .error ⟨.invalidArgument,
            s!"oracle selected provider {name} ({gotText}) does not match <receiver> {wantText}"⟩
        | none =>
          match resp.canonicalPricing with
          | none => .error ⟨.internal, "oracle returned no canonical pricing"⟩
          | some pricing =>
            .ok ⟨selected.controlPlaneEndpoint, some pricing, receiver⟩

def resolveProviderSelection (s : Sidecar) (input : BootstrapInput) :
    Program (Except ConnectError ProviderSelection) :=
  let endpoint := trimSpace input.providerControlPlaneEndpoint
  if endpoint ≠ "" then
    match input.receiver with
    | none => return .error ⟨.invalidArgument,
        "<receiver> is required when <provider_control_plane_endpoint> is set"⟩
    | some receiver => return .ok ⟨endpoint, none, receiver⟩
  else if trimSpace s.oracleEndpoint = "" then
    return .error ⟨.failedPrecondition, "consumer sidecar oracle discovery is not configured"⟩
  else do
    match ← run .discoverProviders with
    | .error err => return .error err
    | .ok resp => return selectDiscovered input.receiver resp

/-- The RAV that a new session begins with. -/
def initialRAV (input : BootstrapInput) (receiver : Address) (now : Time) : RAV where
  collectionID := .zero
  payer := input.payer
  serviceProvider := receiver
  dataService := input.dataService
  timestampNs := unixNano now
  valueAggregate := 0
  metadata := []

/-- `bootstrapManagedSession` on the answer of `StartSession`: the session ID, the RAV to go on
from and the price. -/
def sessionTerms (selection : ProviderSelection) (initialRAV : SignedRAV)
    (resp : StartSessionResponse) :
    Except ConnectError (String × SignedRAV × Option PricingConfig) :=
  if resp.accepted = false then
    let reason := trimSpace resp.rejectionReason
    .error ⟨.failedPrecondition, if reason = "" then "provider rejected session" else reason⟩
  else if trimSpace resp.sessionId = "" then
    .error ⟨.internal, "provider returned an empty session id"⟩
  else if trimSpace resp.dataPlaneEndpoint = "" then
    .error ⟨.internal, "provider returned an empty data-plane endpoint"⟩
  else
    match effectiveSessionPricing resp.pricingConfig selection.oraclePricing with
    | .error err => .error ⟨.failedPrecondition, err⟩
    | .ok pricing =>
      match resp.useRav with
      | none => .ok (trimSpace resp.sessionId, initialRAV, pricing)
      | some useRav =>
        match protoSignedRAVToHorizon useRav with
        | .error err => .error ⟨.internal,
            s!"invalid <use_rav> received from provider gateway: {err}"⟩
        | .ok rav => .ok (trimSpace resp.sessionId, rav, pricing)

/-- The session that `bootstrapManagedSession` leaves behind. -/
def openedSession (id : String) (input : BootstrapInput) (receiver : Address) (rav : SignedRAV)
    (pricing : Option PricingConfig) : LocalSession :=
  let session : LocalSession :=
    { id, payer := input.payer, receiver, dataService := input.dataService }
  let session := session.setRAV rav
  match pricing with
  | none => session
  | some config => session.setPricingConfig config

/-- `bootstrapManagedSession` once the provider has answered. -/
def openSession (input : BootstrapInput) (selection : ProviderSelection) (url : String)
    (signed : SignedRAV) (resp : StartSessionResponse) :
    Program (Except ConnectError LocalSession) :=
  match sessionTerms selection signed resp with
  | .error err => return .error err
  | .ok (id, rav, pricing) => do
    match ← run (.createWithID id) with
    | .error err => return .error ⟨.internal, s!"unable to create session: {err}"⟩
    | .ok () =>
      run (.setEndpoint id url)
      let session := openedSession id input selection.receiver rav pricing
      run (.note (.opened session))
      return .ok session

def bootstrapManagedSession (s : Sidecar) (input : BootstrapInput) :
    Program (Except ConnectError LocalSession) := do
  match ← resolveProviderSelection s input with
  | .error err => return .error err
  | .ok selection =>
    let now ← run .now
    match s.signRAV (initialRAV input selection.receiver now) with
    -- not reached: the value is zero
    | .error .panic => return .error ⟨.internal, "panic"⟩
    | .error (.failed err) => return .error ⟨.internal, err⟩
    | .ok signed =>
      let url := s.parseEndpoint selection.controlPlaneEndpoint
      if url = "" then
        return .error ⟨.invalidArgument, "invalid <provider_control_plane_endpoint>"⟩
      else
        match ← run (.startSession {
            escrowAccount := some ⟨some input.payer, some selection.receiver,
              some input.dataService⟩
            initialRav := some (horizonSignedRAVToProto signed) }) with
        | .error err => return .error ⟨.unavailable, err⟩
        | .ok resp => openSession input selection url signed resp

/-! ## Payment control -/

inductive StatusCode where
  | internal | unavailable | resourceExhausted
deriving DecidableEq, Repr

/-- The result that the control loop hands to the coordinator; a panic ends the process. -/
inductive ControlResult where
  | semanticStop (code : StatusCode) (reason : String)
  | controlFailure (code : StatusCode) (err : String)
  | canceled
  | panicked
deriving DecidableEq

/-- `resolveAmbiguousIngressSessionStatus` with the result that the control loop makes of it. -/
def resolveSessionStatus (resp : SessionStatusResponse) : Option ControlResult :=
  if resp.active then none
  else
    match resp.endReason with
    | .complete | .clientDisconnect => some .canceled
    | .paymentIssue => some (.semanticStop .resourceExhausted "need more funds")
    | .providerStop => some (.controlFailure .unavailable
        "provider session terminated with end reason provider stop")
    | .error => some (.controlFailure .unavailable
        "provider session terminated with end reason error")
    | .unspecified => some (.controlFailure .unavailable
        "provider session terminated with end reason END_REASON_UNSPECIFIED")

/-- The variables of `runIngressPaymentControl`. -/
structure Control where
  session : LocalSession
  pendingRAV : Option SignedRAV

abbrev Turn := Control ⊕ ControlResult

/-- A submission that could not be sent. -/
def resolveFailedSend (id err : String) : Program ControlResult := do
  let failure := ControlResult.controlFailure .unavailable
    s!"submit RAV on provider payment session: {err}"
  match ← run (.getSessionStatus id) with
  | .error _ => return failure
  | .ok resp => return (resolveSessionStatus resp).getD failure

/-- The branch of the loop for a RAV request. -/
def answerRequest (s : Sidecar) (c : Control) (req : RAVRequest) : Program Turn := do
  run (.setPaymentControlPending true)
  let now ← run .now
  match s.signRAVForRequest c.session (some req) now with
  | .error .panic => return .inr .panicked
  | .error (.failed err) =>
    return .inr (.controlFailure .internal s!"sign RAV for provider request: {err}")
  | .ok signed =>
    run (.note (.signed c.session req signed))
    let session := match req.usage with
      | none => c.session
      | some usage => c.session.addUsage usage.blocksProcessed usage.bytesTransferred
          usage.requests (usage.cost.map Proto.GRT.toBigInt)
    match ← run (.sendRAVSubmission session.id
        ⟨some (horizonSignedRAVToProto signed), req.usage⟩) with
    | .error err =>
      let result ← resolveFailedSend session.id err
      return .inr result
    | .ok () => return .inl ⟨session, some signed⟩

/-- A `CONTINUE`: the RAV that was sent last is now the session's. -/
def acceptPending (c : Control) : Control :=
  match c.pendingRAV with
  | none => c
  | some rav => ⟨c.session.setRAV rav, none⟩

def needMoreFundsReason (minimumNeeded : Option Proto.GRT) : String :=
  match minimumNeeded with
  | none => "need more funds"
  | some minimum =>
    let text := minimum.toNative.string
    s!"need more funds (minimum needed {text})"

/-- One turn of the loop. -/
def controlTurn (s : Sidecar) (c : Control) : Program Turn := do
  match ← run .receive with
  | .error .canceled => return .inr .canceled
  | .error (.failed err) =>
    return .inr (.controlFailure .unavailable s!"receive provider payment control: {err}")
  | .ok .empty => return .inl c
  | .ok (.ravRequest req) => answerRequest s c req
  | .ok (.needMoreFunds minimumNeeded) =>
    return .inr (.semanticStop .resourceExhausted (needMoreFundsReason minimumNeeded))
  | .ok (.sessionControl action reason) =>
    if action = .continue then
      run (.setPaymentControlPending false)
      return .inl (acceptPending c)
    else return .inr (.semanticStop .resourceExhausted
      (if reason = "" then "provider ended stream" else reason))

def runIngressPaymentControl (s : Sidecar) (session : LocalSession) : Program ControlResult := do
  if ← run (.getClient session.id) then
    match ← run (.bindSession session.id) with
    | .error err =>
      return .controlFailure .unavailable s!"bind provider payment session: {err}"
    | .ok () => .iterate (controlTurn s) ⟨session, none⟩
  else return .controlFailure .unavailable "provider payment session client is not configured"

/-! ## Streams -/

/-- What a thread has been started for. -/
inductive Op where
  | init (input : BootstrapInput)
  | proxyStream (input : BootstrapInput)

inductive Reply where
  | refused (err : ConnectError)
  | initialised
  | ended (result : ControlResult)

/-- `prepareIngressRuntime`, the control loop, `finishIngressRuntime` and `cleanup`. -/
def proxyStream (s : Sidecar) (input : BootstrapInput) : Program Reply := do
  match ← bootstrapManagedSession s input with
  | .error err => return .refused err
  | .ok session =>
    let result ← runIngressPaymentControl s session
    run (.deleteSession session.id)
    run (.closeClient session.id)
    return .ended result

/-- `Init` with a well-formed escrow account. -/
def init (s : Sidecar) (input : BootstrapInput) : Program Reply := do
  match ← bootstrapManagedSession s input with
  | .error err => return .refused err
  | .ok _ => return .initialised

def Op.program (s : Sidecar) : Op → Program Reply
  | init input => Consumer.init s input
  | proxyStream input => Consumer.proxyStream s input

/-- A sidecar that has just started. -/
def boot (s : Sidecar) (ops : StreamId → Op) : Config SidecarAct StreamId State Reply :=
  ⟨{}, fun i => (ops i).program s⟩

end Sdsce.Source.Consumer
