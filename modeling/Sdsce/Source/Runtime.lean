import Sdsce.Source.InMemory

/-!
# Funds, signer authorization and the runtime manager

`provider/gateway/funds.go`, the payment parts of `provider/gateway/gateway.go` and
`provider/gateway/runtime_manager.go`. Signature recovery is a parameter of the gateway;
the escrow contract and the collector contract answer through the oracle. `gateway (.note _)`
records what a handler has observed and is not part of the code.
-/
namespace Sdsce.Source

open Sdsce.Theory Sdsce.Source.InMemory

/-- The fields of `Gateway` that the payment paths read. `recoverSigner` is
`SignedRAV.RecoverSigner` under the gateway's domain. Without `hasCollectorQuerier` the interface
`collectorQuerier` is nil; `New` without an RPC endpoint stores a nil pointer in it, which is not a
nil interface and not modelled. -/
structure Gateway where
  serviceProvider : Address
  recoverSigner : SignedRAV → Except String Address
  hasEscrowQuerier : Bool
  hasCollectorQuerier : Bool
  pricingConfig : PricingConfig
  ravRequestThreshold : Int
  dataPlaneEndpoint : String

/-! ## Funds -/

inductive FundsStatus where
  | ok | insufficient | unknown
deriving DecidableEq, Repr

def FundsStatus.text : FundsStatus → String
  | ok => "ok"
  | insufficient => "insufficient"
  | unknown => "unknown"

structure FundsAssessment where
  status : FundsStatus
  currentOutstanding : Int
  projectedOutstanding : Int
  escrowBalance : Option Int
  minimumNeeded : Int
  checkErr : Option String
deriving DecidableEq

def FundsAssessment.insufficient (a : FundsAssessment) : Bool := a.status == .insufficient

/-- `assessSessionFunds` once the balance has been queried. -/
def assessFunds (session : Session) (balance : Except String (Option Int)) : FundsAssessment :=
  let currentOutstanding := session.ravValue
  let projectedOutstanding := currentOutstanding + session.usageDeltaSinceBaseline.cost
  let assessment : FundsAssessment := {
    status := .unknown
    currentOutstanding
    projectedOutstanding
    escrowBalance := none
    minimumNeeded := 0
    checkErr := none }
  match balance with
  | .error err => { assessment with checkErr := some err }
  | .ok none => assessment
  | .ok (some balance) =>
    if balance < projectedOutstanding then
      { assessment with
        escrowBalance := some balance
        status := .insufficient
        minimumNeeded := projectedOutstanding - balance }
    else { assessment with escrowBalance := some balance, status := .ok }

/-- `applyFundsAssessmentMetadata`. -/
def applyFundsAssessmentMetadata (session : Session) (a : FundsAssessment) : Session :=
  let m := session.metadata
  let m := m.insert "funds_status" a.status.text
  let m := m.insert "funds_current_outstanding_wei" (toString a.currentOutstanding)
  let m := m.insert "funds_projected_outstanding_wei" (toString a.projectedOutstanding)
  let m := match a.escrowBalance with
    | some balance => (m.insert "funds_escrow_balance_wei" (toString balance)).insert
        "funds_minimum_needed_wei" (toString a.minimumNeeded)
    | none => (m.erase "funds_escrow_balance_wei").erase "funds_minimum_needed_wei"
  let m := match a.checkErr with
    | some err => m.insert "funds_check_error" err
    | none => m.erase "funds_check_error"
  { session with metadata := m }

/-- `needMoreFundsResponse`; an absent balance is encoded as zero. -/
def needMoreFundsResponse (session : Session) (a : FundsAssessment) : PaymentSessionResponse :=
  .needMoreFunds (session.currentRAV.toList.map horizonSignedRAVToProto)
    (.fromBigInt a.currentOutstanding)
    (match a.escrowBalance with
      | some balance => .fromBigInt balance
      | none => .fromNative .zero)
    (.fromBigInt a.minimumNeeded)

namespace Gateway

def getEscrowBalance (g : Gateway) (payer : Address) : Program (Except String (Option Int)) :=
  if g.hasEscrowQuerier then do
    match ← outside (.escrowBalance payer) with
    | .error err => return .error err
    | .ok balance => return .ok (some balance)
  else return .ok none

def assessSessionFunds (g : Gateway) (session : Session) : Program FundsAssessment := do
  let balance ← g.getEscrowBalance session.payer
  return assessFunds session balance

def shouldRequestRAV (g : Gateway) (session : Session) : Bool :=
  session.currentRAV.isSome && g.ravRequestThreshold ≤ session.usageDeltaSinceBaseline.cost

/-- Lifetime of a cached authorization, in nanoseconds. -/
def authCacheLifetime : Time := 30 * 10 ^ 9

/-- The lookup of `isSignerAuthorized` for a signer that is not the payer itself. -/
def queryAuthorization (payer signer : Address) : Program (Except String Bool) := do
  let key := String.ofList (payer.pretty ++ '|' :: signer.pretty)
  let now ← outside .now
  let cached ← gateway (.authCacheGet key)
  match cached.filter (fun entry => now < entry.2) with
  | some entry => return .ok entry.1
  | none =>
    match ← outside (.isAuthorized payer signer) with
    | .error err => return .error err
    | .ok ok =>
      let later ← outside .now
      gateway (.authCacheSet key (ok, later + authCacheLifetime))
      return .ok ok

/-- The body of `isSignerAuthorized`. -/
def checkAuthorization (g : Gateway) (payer signer : Address) :
    Program (Except String Bool) :=
  if addressesEqual payer signer then return .ok true
  else if g.hasCollectorQuerier then queryAuthorization payer signer
  else return .ok false

def isSignerAuthorized (g : Gateway) (payer signer : Address) :
    Program (Except String Bool) := do
  let answer ← g.checkAuthorization payer signer
  gateway (.note (.authorization payer signer answer))
  return answer

/-! ## The runtime manager -/

/-- A send on the event channel that gives up when the buffer is full. -/
def deliver (sessionID : String) (events : Chan) (queued : Queued)
    (pending : Option PendingRAVRequest) : Program Unit := do
  if ← runtime (.trySend events queued.response) then
    runtime (.clearQueuedResponse sessionID events queued pending)
  else return ()

def dispatch (sessionID : String) (resp : PaymentSessionResponse)
    (pending : Option PendingRAVRequest) : Program Unit := do
  let (events, queued) ← runtime (.dispatchLocked sessionID resp pending)
  match events with
  | none => return ()
  | some events => deliver sessionID events queued pending

def tryDeliverQueuedResponse (sessionID : String) (events : Chan) (queued : Option Queued)
    (pending : Option PendingRAVRequest) : Program Unit :=
  match queued with
  | none => return ()
  | some queued => deliver sessionID events queued pending

/-- `withSessionEval`. The entry may be deleted and made afresh while `fn` runs. -/
def withSessionEval {α : Type} (sessionID : String) (fn : StatePtr → Program α) :
    Program α := do
  let state ← runtime (.ensureSessionState sessionID)
  runtime (.lockEval state)
  let result ← fn state
  runtime (.unlockEval state)
  return result

/-- `uint64(time.Now().Add(30 * time.Second).Unix())`. -/
def requestDeadline (now : Time) : UInt64 := UInt64.ofNat ((now + 30 * 10 ^ 9) / 10 ^ 9).toNat

/-- The second half of `evaluateMeteredUsage`: ask for a RAV when enough usage is unpaid, a
stream is bound and no request is in flight. -/
def requestRAV (g : Gateway) (sessionID : String) (session : Session) : Program Unit :=
  if g.shouldRequestRAV session then do
    let (events, pending) ← runtime (.runtimeState sessionID)
    if events.isNone || pending.isSome then return ()
    else
      match session.currentRAV with
      | none => return ()
      | some rav =>
        let usage := requestedUsage session
        let now ← outside .now
        gateway (.note (.requested sessionID (horizonSignedRAVToProto rav) usage))
        dispatch sessionID
          (.ravRequest (horizonSignedRAVToProto rav) usage (requestDeadline now))
          (newPendingRAVRequest session usage)
  else return ()

/-- The write of `evaluateMeteredUsage`. -/
def storeRuntimeState (sessionID : String) (session : Session) :
    Program (Except RepoError Unit) :=
  sessionUpdateRuntimeState sessionID session.status session.metadata session.endedAt
    session.endReason session.updatedAt

/-- The part of `evaluateMeteredUsage` that follows the read of an active session. -/
def evaluateActive (g : Gateway) (sessionID : String) (session : Session) :
    Program (Except RepoError Unit) := do
  let assessment ← g.assessSessionFunds session
  let assessed := applyFundsAssessmentMetadata session assessment
  if assessment.insufficient then
    let now ← outside .now
    let ended := assessed.end .paymentIssue now
    match ← storeRuntimeState sessionID ended with
    | .error err => return .error err
    | .ok () =>
      runtime (.clearPendingRAV sessionID)
      dispatch sessionID (needMoreFundsResponse ended assessment) none
      return .ok ()
  else
    match ← storeRuntimeState sessionID assessed with
    | .error err => return .error err
    | .ok () =>
      g.requestRAV sessionID assessed
      return .ok ()

def evaluateMeteredUsage (g : Gateway) (sessionID : String) :
    Program (Except RepoError Unit) := do
  match ← sessionGet sessionID with
  | .error err => return if err.isNotFound then .ok () else .error err
  | .ok session =>
    if session.isActive then g.evaluateActive sessionID session
    else return .ok ()

def onMeteredUsage (g : Gateway) (sessionID : String) : Program (Except RepoError Unit) :=
  withSessionEval sessionID fun _ => g.evaluateMeteredUsage sessionID

def bindSession (g : Gateway) (sessionID : String) (events : Chan) :
    Program (Except String Unit) := do
  if sessionID = "" then return .error "session id is required"
  else
    match ← runtime (.bindLocked sessionID events) with
    | none => return .error s!"payment session stream already bound for {sessionID.quote}"
    | some (queued, pending) =>
      tryDeliverQueuedResponse sessionID events queued pending
      match ← g.onMeteredUsage sessionID with
      | .error err =>
        runtime (.cleanupSessionState sessionID events)
        return .error err.text
      | .ok () => return .ok ()

end Gateway

end Sdsce.Source
