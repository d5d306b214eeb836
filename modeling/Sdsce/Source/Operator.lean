import Sdsce.Source.Amounts
import Sdsce.Source.Handlers

/-!
# The operator gateway

The collection RPCs of `provider/gateway/handler_operator.go`, the only way a collector
reaches the collection records. The session and metrics queries of the same file read only; of them
the estimate of the blocks that a session can still pay for is here.
-/
namespace Sdsce.Source.Operator

open Sdsce.Theory Sdsce.Source.InMemory

def repositoryCollectionStateToProto : CollectionState → Proto.CollectionState
  | .collectible => .collectible
  | .collectPending => .collectPending
  | .collected => .collected
  | .collectFailedRetryable => .collectFailedRetryable

/-- An unspecified state filters nothing. -/
def protoCollectionStateToRepository : Proto.CollectionState → Option CollectionState
  | .unspecified => none
  | .collectible => some .collectible
  | .collectPending => some .collectPending
  | .collected => some .collected
  | .collectFailedRetryable => some .collectFailedRetryable

def timeToUnixNano (t : Time) : Nat := if t = zeroTime then 0 else t.toNat

def collectionKeyToProto (key : CollectionKey) : Proto.CollectionKey where
  sessionId := key.sessionID
  collectionId := key.collectionID.bytes
  payer := some key.payer
  serviceProvider := some key.serviceProvider
  dataService := some key.dataService

def collectionRecordToProto (record : CollectionRecord) : Proto.CollectionRecord where
  key := collectionKeyToProto record.key
  state := repositoryCollectionStateToProto record.state
  signedRav := horizonSignedRAVToProto record.signedRAV
  valueAggregate := .fromBigInt record.valueAggregate
  attemptCount := record.attemptCount
  lastTxHash := record.lastTxHash
  lastError := record.lastError
  collectedAmount := record.collectedAmount.map .fromBigInt
  createdAtNs := timeToUnixNano record.createdAt
  updatedAtNs := timeToUnixNano record.updatedAt

def optionalAddress (name : String) : Option Address → Except ConnectError (Option Address)
  | none => .ok none
  | some address => (Gateway.requiredAddress name (some address)).map some

def optionalCollectionID (name : String) (raw : List UInt8) :
    Except ConnectError (Option CollectionID) :=
  if raw.length = 0 then .ok none
  else if size : raw.length = 32 then .ok (some ⟨raw, size⟩)
  else .error ⟨.invalidArgument, s!"invalid <{name}>: got {raw.length} bytes, want 32"⟩

def requiredCollectionID (name : String) (raw : List UInt8) : Except ConnectError CollectionID :=
  match optionalCollectionID name raw with
  | .error err => .error err
  | .ok none => .error ⟨.invalidArgument, s!"<{name}> is required"⟩
  | .ok (some collectionID) => .ok collectionID

def collectionKeyFromProto (key : Option Proto.CollectionKey) :
    Except ConnectError CollectionKey :=
  match key with
  | none => .error ⟨.invalidArgument, "<key> is required"⟩
  | some key => do
    if key.sessionId = "" then
      throw ⟨.invalidArgument, "<key.session_id> is required"⟩
    let collectionID ← requiredCollectionID "key.collection_id" key.collectionId
    let payer ← Gateway.requiredAddress "key.payer" key.payer
    let serviceProvider ← Gateway.requiredAddress "key.service_provider" key.serviceProvider
    let dataService ← Gateway.requiredAddress "key.data_service" key.dataService
    return { sessionID := key.sessionId, collectionID, payer, serviceProvider, dataService }

def mutationKeyAndExpectedValue (key : Option Proto.CollectionKey)
    (expectedValue : Option Proto.GRT) : Except ConnectError (CollectionKey × Int) :=
  match collectionKeyFromProto key with
  | .error err => .error err
  | .ok key =>
    match expectedValue with
    | none => .error ⟨.invalidArgument, "<expected_value> is required"⟩
    | some value => .ok (key, value.toBigInt)

/-- The argument checks of the three mutation handlers. -/
def markFromProto : Proto.Mark → Except ConnectError CollectionMark
  | .pending txHash => .ok (.pending txHash)
  | .collected txHash collectedAmount =>
    if txHash = "" then .error ⟨.invalidArgument, "<tx_hash> is required"⟩
    else .ok (.collected txHash (collectedAmount.map Proto.GRT.toBigInt))
  | .retryable txHash lastError =>
    if lastError = "" then .error ⟨.invalidArgument, "<last_error> is required"⟩
    else .ok (.failedRetryable txHash lastError)

def repoError (err : RepoError) : ConnectError where
  code := if err.isNotFound then .notFound else .internal
  message := err.text

def collectionMutationError (err : RepoError) : ConnectError where
  code :=
    if err.isConflict then .aborted
    else if err = .invalidCollectionTransition then .failedPrecondition
    else if err.isNotFound then .notFound
    else .internal
  message := err.text

def operatorLimit (limit : Nat) : Nat :=
  if limit = 0 then 100 else if 1000 < limit then 1000 else limit

def collectionRecordMatches (serviceProvider dataService : Option Address)
    (collectionID : Option CollectionID) (record : CollectionRecord) : Bool :=
  serviceProvider.all (· = record.key.serviceProvider) &&
    dataService.all (· = record.key.dataService) &&
    collectionID.all (· = record.key.collectionID)

/-- The filters of a `ListCollectionsRequest`. -/
def parseListRequest (req : Proto.ListCollectionsRequest) :
    Except ConnectError (CollectionFilter × (CollectionRecord → Bool)) := do
  let payer ← optionalAddress "payer" req.payer
  let serviceProvider ← optionalAddress "service_provider" req.serviceProvider
  let dataService ← optionalAddress "data_service" req.dataService
  let collectionID ← optionalCollectionID "collection_id" req.collectionId
  let filter : CollectionFilter := {
    sessionID := if req.sessionId = "" then none else some req.sessionId
    state := protoCollectionStateToRepository req.state
    payer }
  return (filter, collectionRecordMatches serviceProvider dataService collectionID)

def listCollections (req : Proto.ListCollectionsRequest) : Program OperatorResponse :=
  match parseListRequest req with
  | .error err => return .failed err
  | .ok (filter, selected) => do
    let records ← collectionList filter
    return .collections (((records.filter selected).take (operatorLimit req.limit)).map
      collectionRecordToProto)

def getCollection (key : Option Proto.CollectionKey) : Program OperatorResponse :=
  match collectionKeyFromProto key with
  | .error err => return .failed err
  | .ok key => do
    match ← collectionGet key with
    | .error err => return .failed (repoError err)
    | .ok record => return .collection (collectionRecordToProto record)

/-- `MarkCollectionPending`, `MarkCollectionCollected` and `MarkCollectionRetryable`. -/
def markCollection (key : Option Proto.CollectionKey) (expectedValue : Option Proto.GRT)
    (mark : Proto.Mark) : Program OperatorResponse :=
  match mutationKeyAndExpectedValue key expectedValue with
  | .error err => return .failed err
  | .ok (key, expected) =>
    match markFromProto mark with
    | .error err => return .failed err
    | .ok mark => do
      let now ← outside .now
      match ← updateCollection key expected mark now with
      | .error err => return .failed (collectionMutationError err)
      | .ok record => return .collection (collectionRecordToProto record)

def handle : OperatorRequest → Program OperatorResponse
  | .listCollections req => listCollections req
  | .getCollection key => getCollection key
  | .markCollection key expectedValue mark => markCollection key expectedValue mark

/-- One RPC from its arrival to its reply. Which bearer token the caller holds is left to the
oracle. -/
def serve : Program Unit := do
  let (call, request) ← rpc .take
  if ← rpc .authorize then
    let response ← handle request
    rpc (.reply call response)
  else rpc (.reply call (.failed ⟨.unauthenticated, "invalid bearer token"⟩))

/-! ## The payment state of a session -/

def sessionMetadataBigIntOK (session : Session) (key : String) : Option Int :=
  let raw := (session.metadata.lookup key).getD ""
  if raw = "" then none
  else
    match setString (utf8 raw) with
    | none => none
    | some value => if value < 0 then none else some value

def sessionMetadataBigInt (session : Session) (key : String) (fallback : Int) : Int :=
  (sessionMetadataBigIntOK session key).getD fallback

def sessionProjectedOutstanding (session : Session) : Int :=
  session.ravValue + session.usageDeltaSinceBaseline.cost

/-- `estimatedBlocksRemaining`; `Uint64` keeps the low 64 bits of a larger number. -/
def estimatedBlocksRemaining (session : Session) (projectedOutstanding : Int)
    (escrowBalance : Option Int) : UInt64 :=
  match escrowBalance with
  | none => 0
  | some escrowBalance =>
    let pricePerBlock := session.pricingConfig.pricePerBlock.bigInt
    if pricePerBlock ≤ 0 then 0
    else
      let remaining := escrowBalance - projectedOutstanding
      if remaining ≤ 0 then 0 else UInt64.ofNat (remaining / pricePerBlock).toNat

/-- The projected amount that `operatorPaymentState` reports. -/
def reportedOutstanding (session : Session) : Int :=
  sessionMetadataBigInt session "funds_projected_outstanding_wei"
    (sessionProjectedOutstanding session)

/-- The balance that `operatorPaymentState` reports. -/
def reportedBalance (session : Session) : Option Int :=
  sessionMetadataBigIntOK session "funds_escrow_balance_wei"

/-- The `EstimatedBlocksRemaining` of `operatorPaymentState`. -/
def reportedBlocks (session : Session) : UInt64 :=
  estimatedBlocksRemaining session (reportedOutstanding session) (reportedBalance session)

end Sdsce.Source.Operator
