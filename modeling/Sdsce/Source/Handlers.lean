import Sdsce.Source.Runtime

/-!
# The request handlers of the provider

`provider/gateway/handler_payment_session.go`, `handler_submit_rav.go`,
`handler_start_session.go` and `handler_get_session_status.go`, the metering ingestion of
`provider/usage/service.go` and the keep-alive of `provider/session/service.go`.

A peer is a script of what its stream delivers.
-/
namespace Sdsce.Source

open Sdsce.Theory Sdsce.Source.InMemory

namespace Gateway

/-! ## PaymentSession -/

/-- The checks of `handleRAVSubmission` between the in-flight request and the signer check:
the submitted RAV and its signer, or the reason to stop. -/
def validateSubmission (g : Gateway) (session : Session) (pending : PendingRAVRequest)
    (signedRav : Proto.SignedRAV) (usage : Option Proto.Usage) :
    Except String (SignedRAV × Address) :=
  match usage with
  | none => .error "missing usage for rav_submission"
  | some usage =>
    if pending.matchesUsage usage = false then
      .error "rav_submission usage does not match the in-flight provider rav_request"
    else
      match protoSignedRAVToHorizon signedRav with
      | .error _ => .error "invalid RAV"
      | .ok signedRAV =>
        match g.recoverSigner signedRAV with
        | .error _ => .error "signature verification failed"
        | .ok signer =>
          if addressesEqual signedRAV.message.payer session.payer = false then
            .error "RAV payer does not match session"
          else if addressesEqual signedRAV.message.serviceProvider g.serviceProvider = false
          then .error "RAV service provider does not match"
          else if addressesEqual signedRAV.message.dataService session.dataService = false
          then .error "RAV data service does not match session"
          else .ok (signedRAV, signer)

/-- The comparison with the in-flight request. `submitted` is the cost the peer repeats. -/
def checkRequestedValue (pending : PendingRAVRequest) (value submitted : Int) :
    Except String Unit :=
  let current := pending.currentRAVValue
  let target := pending.targetValue
  if value < current then .error "RAV value is less than current RAV"
  else if value < target then
    .error (s!"RAV underpays usage: want exactly {target} " ++
      s!"(current {current} + requested delta {submitted})")
  else if target < value then
    .error s!"RAV overpays in-flight request: want exactly {target}, got {value}"
  else .ok ()

def commitAcceptedRAV (sessionID : String) (signedRAV : SignedRAV)
    (pending : PendingRAVRequest) : Program (Except RepoError Unit) :=
  sessionUpdateRAVAndBaseline sessionID (some signedRAV) pending.baselineBlocks
    pending.baselineBytes pending.baselineReqs pending.baselineCost

/-- `handleRAVSubmission` past its checks. -/
def acceptSubmission (g : Gateway) (state : StatePtr) (sessionID : String)
    (signedRAV : SignedRAV) (pending : PendingRAVRequest) : Program PaymentSessionResponse := do
  gateway (.note (.checked sessionID pending.currentRAVValue))
  match ← commitAcceptedRAV sessionID signedRAV pending with
  | .error _ => return stopPaymentSessionResponse "failed to update session state"
  | .ok () =>
    runtime (.dropPendingRAV state)
    runtime (.dropQueuedResponse state)
    let _ ← g.evaluateMeteredUsage sessionID
    return continuePaymentSessionResponse

/-- `handleRAVSubmission` once a request is in flight. -/
def answerInFlight (g : Gateway) (state : StatePtr) (sessionID : String) (session : Session)
    (signedRav : Proto.SignedRAV) (usage : Option Proto.Usage) (pending : PendingRAVRequest) :
    Program PaymentSessionResponse :=
  match g.validateSubmission session pending signedRav usage with
  | .error reason => return stopPaymentSessionResponse reason
  | .ok (signedRAV, signer) => do
    match ← g.isSignerAuthorized session.payer signer with
    | .error _ => return stopPaymentSessionResponse "authorization check failed"
    | .ok false => return stopPaymentSessionResponse "signer not authorized"
    | .ok true =>
      let submitted := ((usage.bind (·.cost)).map Proto.GRT.toBigInt).getD 0
      match checkRequestedValue pending signedRAV.message.valueAggregate submitted with
      | .error reason => return stopPaymentSessionResponse reason
      | .ok () => g.acceptSubmission state sessionID signedRAV pending

/-- `handleRAVSubmission` when no request is in flight. -/
def answerUnexpected (sessionID : String) : Program PaymentSessionResponse := do
  let unexpected := stopPaymentSessionResponse
    ("unexpected rav_submission without an in-flight provider rav_request; " ++
      "respond on PaymentSession only")
  match ← sessionGet sessionID with
  | .error _ => return unexpected
  | .ok freshSession =>
    return if freshSession.isActive then unexpected
      else stopResponseForInactiveSession freshSession

def handleRAVSubmission (g : Gateway) (sessionID : String) (session : Session)
    (submission : Option SignedRAVSubmission) : Program PaymentSessionResponse :=
  match submission with
  | none => return stopPaymentSessionResponse "missing RAV submission"
  | some submission =>
    match submission.signedRav with
    | none => return stopPaymentSessionResponse "missing signed_rav"
    | some signedRav =>
      withSessionEval sessionID fun state => do
        match ← runtime (.readPendingRAV state) with
        | none => answerUnexpected sessionID
        | some pending =>
          gateway (.note (.inFlight sessionID session submission pending))
          let response ← g.answerInFlight state sessionID session signedRav
            submission.usage pending
          gateway (.note (.answered sessionID session submission pending response))
          return response

def handleFundsAcknowledgment (sessionID : String) (willDeposit : Option Bool) :
    Program PaymentSessionResponse :=
  match willDeposit with
  | none => return stopPaymentSessionResponse "missing funds acknowledgment"
  | some willDeposit => do
    runtime (.clearQueuedControl sessionID)
    return if willDeposit then continuePaymentSessionResponse
      else stopPaymentSessionResponse "insufficient funds and no deposit planned"

/-- What `receivePaymentSessionRequests` delivers. -/
inductive StreamInput where
  | request (msg : PaymentSessionRequest)
  | closed
  | failed
deriving DecidableEq

/-- How `PaymentSession` returns. -/
inductive StreamEnd where
  | done | failed
deriving DecidableEq

/-- The variables of the `PaymentSession` loop and what the peer has still to send. -/
structure StreamState where
  sessionID : String := ""
  events : Option Chan := none
  inputs : List StreamInput

/-- A turn of the loop: go on, or return. -/
abbrev Turn := StreamState ⊕ (StreamState × StreamEnd)

def sendAndReturn (s : StreamState) (response : PaymentSessionResponse) : Program Turn := do
  let _ ← outside (.streamSend response)
  return .inr (s, .done)

def sendAndContinue (s : StreamState) (response : PaymentSessionResponse) : Program Turn := do
  match ← outside (.streamSend response) with
  | .canceled => return .inr (s, .done)
  | .failed => return .inr (s, .failed)
  | .sent =>
    return if isTerminalPaymentSessionResponse response then .inr (s, .done) else .inl s

/-- A message on a bound stream. -/
def handleMessage (g : Gateway) (s : StreamState) (message : Option PaymentSessionMessage) :
    Program Turn := do
  match ← sessionGet s.sessionID with
  | .error _ => sendAndReturn s (stopPaymentSessionResponse "session not found")
  | .ok session =>
    if session.isActive then
      match message with
      | none => return .inl s
      | some (.ravSubmission submission) =>
        let response ← g.handleRAVSubmission s.sessionID session submission
        sendAndContinue s response
      | some (.fundsAck willDeposit) =>
        let response ← handleFundsAcknowledgment s.sessionID willDeposit
        sendAndContinue s response
    else sendAndReturn s (stopResponseForInactiveSession session)

/-- The first message of a stream binds it. -/
def bindStream (g : Gateway) (s : StreamState) (gotSessionID : String)
    (message : Option PaymentSessionMessage) : Program Turn :=
  if gotSessionID = "" then
    sendAndReturn s (stopPaymentSessionResponse "<session_id> is required")
  else do
    match ← sessionGet gotSessionID with
    | .error _ => sendAndReturn s (stopPaymentSessionResponse "session not found")
    | .ok session =>
      if session.isActive then
        let events ← runtime .makeEvents
        let s := { s with sessionID := gotSessionID, events := some events }
        match ← g.bindSession gotSessionID events with
        | .error err => sendAndReturn s (stopPaymentSessionResponse err)
        | .ok () =>
          match message with
          | none => return .inl s
          | some message => g.handleMessage s (some message)
      else sendAndReturn s (stopResponseForInactiveSession session)

def handleRequest (g : Gateway) (s : StreamState) (msg : PaymentSessionRequest) :
    Program Turn :=
  let gotSessionID := trimSpace msg.sessionId
  if s.sessionID = "" then g.bindStream s gotSessionID msg.message
  else if gotSessionID ≠ "" ∧ gotSessionID ≠ s.sessionID then
    sendAndReturn s (stopPaymentSessionResponse s!"unexpected session_id {gotSessionID.quote}")
  else g.handleMessage s msg.message

/-- One turn of the `select` of `PaymentSession`. -/
def paymentSessionTurn (g : Gateway) (s : StreamState) : Program Turn := do
  match ← runtime (.select s.events (!s.inputs.isEmpty)) with
  | .done => return .inr (s, .done)
  | .event response => sendAndContinue s response
  | .request =>
    match s.inputs with
    | [] => return .inr (s, .done)
    | input :: inputs =>
      let s := { s with inputs }
      match input with
      | .closed => return .inr (s, .done)
      | .failed => return .inr (s, .failed)
      | .request msg => g.handleRequest s msg

/-- `unbindSession`. -/
def unbindSession (sessionID : String) (events : Option Chan) : Program Unit :=
  match events with
  | none => return ()
  | some events =>
    if sessionID = "" then return ()
    else runtime (.cleanupSessionState sessionID events)

def paymentSession (g : Gateway) (inputs : List StreamInput) : Program StreamEnd := do
  let (s, result) ← .iterate g.paymentSessionTurn { inputs }
  unbindSession s.sessionID s.events
  return result

/-! ## SubmitRAV -/

def rejectRAV (rejectionReason : String) (shouldContinue : Bool) : SubmitRAVResponse where
  accepted := false
  rejectionReason
  shouldContinue

/-- The checks of `SubmitRAV` that follow the signer check, against the session as it was
read. Neither the data service nor the collection ID is looked at. -/
def checkSubmittedRAV (g : Gateway) (session : Session) (signedRAV : SignedRAV) :
    Except SubmitRAVResponse Unit :=
  let value := signedRAV.message.valueAggregate
  let currentValue := session.ravValue
  let deltaCost := session.usageDeltaSinceBaseline.cost
  let minValue := currentValue + deltaCost
  if addressesEqual signedRAV.message.payer session.payer = false then
    .error (rejectRAV "RAV payer does not match session" true)
  else if addressesEqual signedRAV.message.serviceProvider g.serviceProvider = false then
    .error (rejectRAV "RAV service provider does not match" true)
  else if session.currentRAV.isSome ∧ value < currentValue then
    .error (rejectRAV "RAV value is less than current RAV" true)
  else if value < minValue then
    .error (rejectRAV (s!"RAV underpays usage: want >= {minValue} " ++
      s!"(current {currentValue} + delta {deltaCost})") false)
  else .ok ()

/-- `SubmitRAV` with an active session and a well-formed RAV. -/
def acceptSubmitted (g : Gateway) (sessionID : String) (session : Session)
    (signedRAV : SignedRAV) : Program SubmitRAVResponse :=
  match g.recoverSigner signedRAV with
  | .error err => return rejectRAV s!"signature verification failed: {err}" true
  | .ok signer => do
    match ← g.isSignerAuthorized session.payer signer with
    | .error err => return rejectRAV s!"authorization check failed: {err}" false
    | .ok false =>
      let pretty := String.ofList signer.pretty
      return rejectRAV s!"signer {pretty} is not authorized" false
    | .ok true =>
      match g.checkSubmittedRAV session signedRAV with
      | .error rejection => return rejection
      | .ok () =>
        gateway (.note (.checked sessionID session.ravValue))
        -- an error of the commit is logged and the call still answers "accepted"
        let _ ← sessionUpdateRAVAndBaseline sessionID (some signedRAV)
          session.blocksProcessed session.bytesTransferred session.requests
          session.totalCost
        return { accepted := true, rejectionReason := "", shouldContinue := true }

def submitRAV (g : Gateway) (req : SubmitRAVRequest) :
    Program (Except ConnectError SubmitRAVResponse) := do
  match ← sessionGet req.sessionId with
  | .error _ => return .ok (rejectRAV "session not found" false)
  | .ok session =>
    if session.isActive then
      if ← runtime (.hasPendingRAV req.sessionId) then
        return .ok (rejectRAV ("SubmitRAV is deprecated for provider-managed runtime requests; " ++
          "respond on the bound PaymentSession stream") true)
      else
        match req.signedRav with
        | none => return .ok (rejectRAV "invalid or missing RAV" true)
        | some signedRav =>
          match protoSignedRAVToHorizon signedRav with
          | .error err =>
            return .error ⟨.invalidArgument, s!"invalid <signed_rav>: {err}"⟩
          | .ok signedRAV =>
            let response ← g.acceptSubmitted req.sessionId session signedRAV
            return .ok response
    else return .ok (rejectRAV "session is not active" false)

/-! ## StartSession -/

def rejectSession (rejectionReason : String) : StartSessionResponse where
  sessionId := ""
  useRav := none
  accepted := false
  rejectionReason
  pricingConfig := none
  dataPlaneEndpoint := ""

def requireField (name : String) (field : Option Address) : Except ConnectError Unit :=
  match field with
  | none => .error ⟨.invalidArgument, s!"<{name}> is required"⟩
  | some _ => .ok ()

/-- A field that must hold an address; `requiredAddress` of `handler_operator.go` reports the
same error. -/
def requiredAddress (name : String) (field : Option Address) : Except ConnectError Address :=
  match Proto.toEth field with
  | .error err => .error ⟨.invalidArgument, s!"invalid <{name}>: {err}"⟩
  | .ok address => .ok address

/-- The payer, receiver and data service of the request. -/
def parseEscrowAccount (account : Option EscrowAccount) :
    Except ConnectError (Address × Address × Address) :=
  match account with
  | none => .error ⟨.invalidArgument, "<escrow_account> is required"⟩
  | some ea => do
    requireField "escrow_account.payer" ea.payer
    requireField "escrow_account.receiver" ea.receiver
    requireField "escrow_account.data_service" ea.dataService
    let payer ← requiredAddress "escrow_account.payer" ea.payer
    let receiver ← requiredAddress "escrow_account.receiver" ea.receiver
    let dataService ← requiredAddress "escrow_account.data_service" ea.dataService
    return (payer, receiver, dataService)

/-- The address checks on an initial RAV. -/
def checkInitialRAV (g : Gateway) (payer dataService : Address) (rav : SignedRAV) :
    Except String Unit :=
  if addressesEqual rav.message.payer payer = false then
    .error "RAV payer does not match escrow account payer"
  else if addressesEqual rav.message.serviceProvider g.serviceProvider = false then
    .error "RAV service provider does not match"
  else if addressesEqual rav.message.dataService dataService = false then
    .error "RAV data service does not match escrow account data service"
  else .ok ()

/-- The checks of `StartSession` on an initial RAV; an error is a rejection reason. -/
def validateInitialRAV (g : Gateway) (payer dataService : Address) (initialRAV : Option SignedRAV) :
    Program (Except String Unit) :=
  match initialRAV with
  | none => return .ok ()
  | some rav =>
    match g.recoverSigner rav with
    | .error err => return .error s!"initial RAV signature verification failed: {err}"
    | .ok signer => do
      match ← g.isSignerAuthorized payer signer with
      | .error err => return .error s!"authorization check failed: {err}"
      | .ok false =>
        let pretty := String.ofList signer.pretty
        return .error s!"signer {pretty} is not authorized"
      | .ok true => return g.checkInitialRAV payer dataService rav

/-- `ProtoSignedRAVToHorizon` on a field that may be absent. -/
def convertInitialRAV : Option Proto.SignedRAV → Except String (Option SignedRAV)
  | none => .ok none
  | some psr =>
    match protoSignedRAVToHorizon psr with
    | .error err => .error err
    | .ok rav => .ok (some rav)

/-- The session that `StartSession` stores. -/
def consumerSession (g : Gateway) (sessionID : String) (payer dataService : Address)
    (initialRAV : Option SignedRAV) (now : Time) : Session :=
  Session.markBaseline { Session.new sessionID payer g.serviceProvider dataService g.pricingConfig
    now with currentRAV := initialRAV }

/-- `StartSession` once the request has been validated. -/
def createSession (g : Gateway) (req : StartSessionRequest) (payer dataService : Address)
    (initialRAV : Option SignedRAV) : Program (Except ConnectError StartSessionResponse) := do
  let sessionID ← outside .generateID
  let now ← outside .now
  match ← sessionCreate (g.consumerSession sessionID payer dataService initialRAV now) with
  | .error err =>
    let text := err.text
    return .error ⟨.internal, s!"failed to create session: {text}"⟩
  | .ok () =>
    let dataPlaneEndpoint := trimSpace g.dataPlaneEndpoint
    if dataPlaneEndpoint = "" then
      return .error ⟨.internal, "provider data-plane endpoint is not configured"⟩
    else return .ok {
      sessionId := sessionID
      useRav := req.initialRav
      accepted := true
      rejectionReason := ""
      pricingConfig := some g.pricingConfig
      dataPlaneEndpoint }

def startSession (g : Gateway) (req : StartSessionRequest) :
    Program (Except ConnectError StartSessionResponse) :=
  match parseEscrowAccount req.escrowAccount with
  | .error err => return .error err
  | .ok (payer, receiver, dataService) =>
    if addressesEqual receiver g.serviceProvider = false then
      return .ok (rejectSession "escrow account receiver does not match this service provider")
    else
      match convertInitialRAV req.initialRav with
      | .error err => return .error ⟨.invalidArgument, s!"invalid <initial_rav>: {err}"⟩
      | .ok initialRAV => do
        match ← g.validateInitialRAV payer dataService initialRAV with
        | .error reason => return .ok (rejectSession reason)
        | .ok () => g.createSession req payer dataService initialRAV

/-! ## GetSessionStatus -/

/-- `paymentControlPending`, given how many workers the session has: workers are kept apart from
the payment state. -/
def paymentControlPending (g : Gateway) (session : Session) (activeWorkers : Nat) :
    Program Bool :=
  if session.isActive then
    if 0 < activeWorkers then return true
    else do
      let pending ← runtime (.hasPendingPaymentControl session.id)
      return pending || g.shouldRequestRAV session
  else return false

def getSessionStatus (g : Gateway) (requested : String) (activeWorkers : Nat) :
    Program (Except ConnectError GetSessionStatusResponse) :=
  let sessionID := trimSpace requested
  if sessionID = "" then return .error ⟨.invalidArgument, "<session_id> is required"⟩
  else do
    match ← sessionGet sessionID with
    | .error err => return .error ⟨.notFound, err.text⟩
    | .ok session =>
      let paymentControlPending ← g.paymentControlPending session activeWorkers
      return .ok {
        active := session.isActive
        endReason := if session.isActive then .unspecified else session.endReason
        paymentControlPending
        currentRavValue := .fromBigInt session.ravValue
        accumulatedUsageValue := .fromBigInt session.totalCost }

/-! ## Metering and keep-alive -/

structure Metric where
  name : String
  value : Int64
deriving DecidableEq

/-- `usagev1.Event`. -/
structure MeteringEvent where
  sdsSessionId : String
  timestamp : Option Time
  metrics : List (Option Metric)
deriving DecidableEq

def addMetric (ue : UsageEvent) (metric : Option Metric) : UsageEvent :=
  match metric with
  | none => ue
  | some m =>
    if m.name ∈ ["blocks_count", "blocks", "block_count", "message_count"] then
      { ue with blocks := ue.blocks + m.value }
    else if m.name ∈ ["bytes_count", "bytes", "egress_bytes"] then
      { ue with bytes := ue.bytes + m.value }
    else if m.name ∈ ["requests_count", "requests"] then
      { ue with requests := ue.requests + m.value }
    else ue

def protoEventToUsageEvent (event : MeteringEvent) (now : Time) : UsageEvent :=
  event.metrics.foldl addMetric
    { timestamp := event.timestamp.getD now, blocks := 0, bytes := 0, requests := 0 }

/-- The body of the loop of `Report`. -/
def reportEvent (g : Gateway) (event : Option MeteringEvent) : Program Unit :=
  match event with
  | none => return ()
  | some event =>
    if event.sdsSessionId = "" then return ()
    else do
      let now ← outside .now
      let usageEvent := protoEventToUsageEvent event now
      let (blocks, bytes, _) := usageEvent.sanitizedTotals
      let cost := (g.pricingConfig.calculateUsageCost blocks bytes).bigInt
      match ← sessionApplyUsage event.sdsSessionId usageEvent cost with
      | .error err =>
        if err.isNotFound then return ()
        else
          let _ ← g.onMeteredUsage event.sdsSessionId
          return ()
      | .ok () =>
        let _ ← g.onMeteredUsage event.sdsSessionId
        return ()

def report (g : Gateway) (events : List (Option MeteringEvent)) : Program Unit :=
  .forEach g.reportEvent events

structure ReportResponse where
  revoked : Bool
deriving DecidableEq

/-- `Report` with its answer. -/
def reportResponse (g : Gateway) (events : List (Option MeteringEvent)) :
    Program ReportResponse :=
  if events = [] then return { revoked := false }
  else do
    g.report events
    return { revoked := false }

/-- The session part of `KeepAlive`, after the worker has been found: refresh the session
when it is active and belongs to the worker's payer. -/
def keepAlive (sessionID : String) (payer : Address) : Program Unit := do
  match ← sessionGet sessionID with
  | .error _ => return ()
  | .ok session =>
    if session.payer.pretty = payer.pretty ∧ session.isActive = true then
      let now ← outside .now
      let _ ← sessionTouch session.id now
      return ()
    else return ()

end Gateway

end Sdsce.Source
