import Sdsce.Source.Repository

/-!
# Payment and operator messages

The messages of `provider/v1/gateway.proto` and `provider/v1/operator.proto` that the
payment paths exchange, the in-flight request of
`provider/gateway/rav_request_runtime.go`, and the control responses of
`provider/gateway/handler_payment_session.go`.
-/
namespace Sdsce.Source

open Sdsce.Theory

/-- `unicode.IsSpace`. -/
def isSpace (c : Char) : Bool :=
  c.toNat ∈ [0x09, 0x0a, 0x0b, 0x0c, 0x0d, 0x20, 0x85, 0xa0, 0x1680, 0x2028, 0x2029, 0x202f,
    0x205f, 0x3000] || (0x2000 ≤ c.toNat && c.toNat ≤ 0x200a)

/-- `strings.TrimSpace`. -/
def trimSpace (s : String) : String :=
  String.ofList (((s.toList.dropWhile isSpace).reverse.dropWhile isSpace).reverse)

-- programs branch on trimmed texts; unfolding the comparison makes elaboration slow
attribute [irreducible] trimSpace

inductive ConnectCode where
  | invalidArgument | notFound | aborted | failedPrecondition | internal | unauthenticated
  | unavailable | permissionDenied | resourceExhausted | deadlineExceeded
deriving DecidableEq, Repr

/-- A `connect.Error`. -/
structure ConnectError where
  code : ConnectCode
  message : String
deriving DecidableEq, Repr

/-! ## PaymentSession -/

/-- `SignedRAVSubmission`. -/
structure SignedRAVSubmission where
  signedRav : Option Proto.SignedRAV
  usage : Option Proto.Usage
deriving DecidableEq

/-- The `oneof` of a `PaymentSessionRequest`. A `FundsAcknowledgment` is read for
`will_deposit` only. -/
inductive PaymentSessionMessage where
  | ravSubmission (submission : Option SignedRAVSubmission)
  | fundsAck (willDeposit : Option Bool)
deriving DecidableEq

structure PaymentSessionRequest where
  sessionId : String
  message : Option PaymentSessionMessage
deriving DecidableEq

inductive ControlAction where
  | unspecified | «continue» | stop | pause
deriving DecidableEq, Repr

inductive PaymentSessionResponse where
  | ravRequest (currentRav : Proto.SignedRAV) (usage : Proto.Usage) (deadline : UInt64)
  | needMoreFunds (outstandingRavs : List Proto.SignedRAV)
      (totalOutstanding escrowBalance minimumNeeded : Proto.GRT)
  | sessionControl (action : ControlAction) (reason : String)
deriving DecidableEq

def continuePaymentSessionResponse : PaymentSessionResponse := .sessionControl .continue ""

def stopPaymentSessionResponse (reason : String) : PaymentSessionResponse :=
  .sessionControl .stop reason

def stopResponseForInactiveSession (session : Session) : PaymentSessionResponse :=
  stopPaymentSessionResponse <|
    match session.endReason with
    | .paymentIssue => "need more funds"
    | .complete => "session completed"
    | .clientDisconnect => "client disconnected"
    | .providerStop => "provider ended stream"
    | .error => "provider session error"
    | .unspecified => "session is not active"

def isTerminalPaymentSessionResponse : PaymentSessionResponse → Bool
  | .ravRequest .. => false
  | .needMoreFunds .. => true
  | .sessionControl action _ => action ≠ .continue

/-! ## The in-flight request -/

structure PendingRAVRequest where
  usage : Proto.Usage
  currentRAVValue : Int
  targetValue : Int
  baselineBlocks : UInt64
  baselineBytes : UInt64
  baselineReqs : UInt64
  baselineCost : Int
deriving DecidableEq

/-- `cloneUsage` re-encodes the cost. -/
def cloneUsage (usage : Proto.Usage) : Proto.Usage :=
  { usage with cost := usage.cost.map fun cost => .fromBigInt cost.toBigInt }

def usageEqual (a b : Proto.Usage) : Bool :=
  if a.blocksProcessed ≠ b.blocksProcessed ∨ a.bytesTransferred ≠ b.bytesTransferred ∨
      a.requests ≠ b.requests then false
  else
    match a.cost, b.cost with
    | some x, some y => x.toBigInt = y.toBigInt
    | none, none => true
    | _, _ => false

def newPendingRAVRequest (session : Session) (usage : Proto.Usage) : Option PendingRAVRequest :=
  match session.currentRAV, usage.cost with
  | some rav, some cost => some {
      usage := cloneUsage usage
      currentRAVValue := rav.message.valueAggregate
      targetValue := rav.message.valueAggregate + cost.toBigInt
      baselineBlocks := session.blocksProcessed
      baselineBytes := session.bytesTransferred
      baselineReqs := session.requests
      baselineCost := session.totalCost }
  | _, _ => none

def PendingRAVRequest.matchesUsage (r : PendingRAVRequest) (usage : Proto.Usage) : Bool :=
  usageEqual r.usage usage

/-- The usage that `evaluateMeteredUsage` asks to be paid. -/
def requestedUsage (session : Session) : Proto.Usage :=
  let delta := session.usageDeltaSinceBaseline
  { blocksProcessed := delta.blocks
    bytesTransferred := delta.bytes
    requests := delta.requests
    cost := some (.fromBigInt delta.cost) }

/-! ## StartSession and SubmitRAV -/

structure EscrowAccount where
  payer : Option Address
  receiver : Option Address
  dataService : Option Address
deriving DecidableEq

structure StartSessionRequest where
  escrowAccount : Option EscrowAccount
  initialRav : Option Proto.SignedRAV
deriving DecidableEq

structure StartSessionResponse where
  sessionId : String
  useRav : Option Proto.SignedRAV
  accepted : Bool
  rejectionReason : String
  pricingConfig : Option PricingConfig
  dataPlaneEndpoint : String
deriving DecidableEq

structure SubmitRAVRequest where
  sessionId : String
  signedRav : Option Proto.SignedRAV
deriving DecidableEq

structure SubmitRAVResponse where
  accepted : Bool
  rejectionReason : String
  shouldContinue : Bool
deriving DecidableEq

structure GetSessionStatusResponse where
  active : Bool
  endReason : EndReason
  paymentControlPending : Bool
  currentRavValue : Proto.GRT
  accumulatedUsageValue : Proto.GRT
deriving DecidableEq

/-! ## Operator messages -/

namespace Proto

/-- `providerv1.CollectionState`. -/
inductive CollectionState where
  | unspecified | collectible | collectPending | collected | collectFailedRetryable
deriving DecidableEq, Repr

structure CollectionKey where
  sessionId : String
  collectionId : List UInt8
  payer : Option Address
  serviceProvider : Option Address
  dataService : Option Address
deriving DecidableEq

structure CollectionRecord where
  key : CollectionKey
  state : CollectionState
  signedRav : SignedRAV
  valueAggregate : GRT
  attemptCount : Nat
  lastTxHash : String
  lastError : String
  collectedAmount : Option GRT
  createdAtNs : Nat
  updatedAtNs : Nat
deriving DecidableEq

structure ListCollectionsRequest where
  limit : Nat
  sessionId : String
  state : CollectionState
  collectionId : List UInt8
  payer : Option Address
  serviceProvider : Option Address
  dataService : Option Address
deriving DecidableEq

/-- The body of the three mutation requests; `collected_amount` is never sent by the
collectors and travels as an option. -/
inductive Mark where
  | pending (txHash : String)
  | collected (txHash : String) (collectedAmount : Option GRT)
  | retryable (txHash lastError : String)
deriving DecidableEq

end Proto

inductive OperatorRequest where
  | listCollections (request : Proto.ListCollectionsRequest)
  | getCollection (key : Option Proto.CollectionKey)
  | markCollection (key : Option Proto.CollectionKey) (expectedValue : Option Proto.GRT)
      (mark : Proto.Mark)
deriving DecidableEq

inductive OperatorResponse where
  | collections (records : List Proto.CollectionRecord)
  | collection (record : Proto.CollectionRecord)
  | failed (err : ConnectError)
deriving DecidableEq

end Sdsce.Source
