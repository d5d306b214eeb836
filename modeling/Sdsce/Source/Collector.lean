import Sdsce.Source.Operator

/-!
# Collectors

The `collect` command of `cmd/sds/provider_operator_collect.go`, the daemon of
`cmd/sds/provider_operator_collect_daemon.go` and the transaction sender of
`contracts/chain/client.go`. A collector is a process of its own: it may stop at any point,
and an RPC it no longer waits for may still be served.

`cli.Ensure` and `cli.NoError` end the process with a message; here they return it. The fields
that the server always fills are not options.
-/
namespace Sdsce.Source.Collector

open Sdsce.Theory

/-! ## Transactions -/

structure TxOptions where
  legacy : Bool
  chainID : Nat
  gasLimit : Nat
  gasPrice : Option Nat
  maxFeePerGas : Option Nat
  maxPriorityFeePerGas : Option Nat
  noWait : Bool
  dryRun : Bool
deriving DecidableEq

/-- The part of `TxResult` that callers read: the hash, empty when nothing was sent. -/
abbrev TxHash := String

/-- A failure with the hash that the partial result carries. -/
structure TxError where
  err : String
  hash : TxHash
deriving DecidableEq

/-- A number that the flags give or the node is asked for. -/
def orQuery (given : Option Nat) (label : String) : Program (Except String Nat) :=
  match given with
  | some n => return .ok n
  | none => do
    match ← outside .chainQuery with
    | .error err => return .error s!"{label}: {err}"
    | .ok n => return .ok n

/-- Fees of a dynamic transaction; a chain without base fee answers the header query with an
error. -/
def dynamicFees (opts : TxOptions) : Program (Except String Unit) := do
  match ← orQuery opts.maxPriorityFeePerGas "suggesting gas tip cap" with
  | .error err => return .error err
  | .ok tip =>
    match opts.maxFeePerGas with
    | some fee =>
      return if fee < tip then
        .error s!"max fee per gas {fee} is below max priority fee per gas {tip}"
        else .ok ()
    | none =>
      match ← orQuery none "fetching latest header" with
      | .error err => return .error err
      | .ok _ => return .ok ()

def legacyFees (opts : TxOptions) : Program (Except String Unit) := do
  match ← orQuery opts.gasPrice "suggesting gas price" with
  | .error err => return .error err
  | .ok _ => return .ok ()

def transactionFees (opts : TxOptions) : Program (Except String Unit) :=
  if opts.legacy then legacyFees opts else dynamicFees opts

/-- `WaitReceipt`. -/
def waitReceipt (call : CollectCall) (hash : TxHash) : Program (Except String Nat) :=
  .retry do
    match ← outside (.transactionReceipt call hash) with
    | .found status => return some (.ok status)
    | .failed err => return some (.error s!"fetching transaction receipt {hash}: {err}")
    | .notFound =>
      if ← outside .contextDone then
        return some (.error s!"waiting for transaction receipt {hash}: context deadline exceeded")
      else return none

/-- The common end of both senders: nonce, signature, submission and receipt. -/
def submitTransaction (call : CollectCall) (opts : TxOptions) :
    Program (Except TxError TxHash) := do
  match ← orQuery none "getting pending nonce" with
  | .error err => return .error ⟨err, ""⟩
  | .ok _ =>
    match ← outside (.sendTransaction call) with
    | .error err => return .error ⟨s!"sending transaction: {err}", ""⟩
    | .ok hash =>
      if opts.noWait then return .ok hash
      else
        match ← waitReceipt call hash with
        | .error err => return .error ⟨err, hash⟩
        | .ok status =>
          return if status = 0 then
            .error ⟨s!"transaction {hash} failed with receipt status 0", hash⟩
            else .ok hash

/-- `SendDynamicFeeTransaction` and, for legacy transactions, `SendLegacyTransaction`. -/
def sendDynamicFeeTransaction (call : CollectCall) (opts : TxOptions) :
    Program (Except TxError TxHash) :=
  if opts.chainID = 0 then return .error ⟨"chain ID is required", ""⟩
  else do
    match ← orQuery (if opts.gasLimit = 0 then none else some opts.gasLimit) "estimating gas" with
    | .error err => return .error ⟨err, ""⟩
    | .ok _ =>
      match ← transactionFees opts with
      | .error err => return .error ⟨err, ""⟩
      | .ok () => if opts.dryRun then return .ok "" else submitTransaction call opts

/-! ## Calldata -/

/-- `ravSignatureRSV`: eth-go keeps V first, the contract wants it last. -/
def ravSignatureRSV (sig : Signature) : List UInt8 :=
  (sig.bytes.drop 1).take 32 ++ sig.bytes.drop 33 ++ [sig.bytes.headD 0]

/-- `PackQueryFeeCollect` over `EncodeDataServiceCollectData`. -/
def packQueryFeeCollect (signedRAV : SignedRAV) (dataServiceCutPPM : UInt64) : CollectCall where
  indexer := signedRAV.message.serviceProvider
  paymentType := 0
  rav := signedRAV.message
  signature := ravSignatureRSV signedRAV.signature
  dataServiceCut := dataServiceCutPPM

/-! ## RPCs -/

def callOperator (request : OperatorRequest) : Program (Except String OperatorResponse) := do
  let call ← rpc (.send request)
  match ← rpc (.await call) with
  | none => return .error "context deadline exceeded"
  | some (.failed err) => return .error err.message
  | some response => return .ok response

/-- The three mutation calls: the key and the value are the fetched record's. -/
def markRecord (record : Proto.CollectionRecord) (mark : Proto.Mark) :
    Program (Except String Unit) := do
  match ← callOperator (.markCollection (some record.key) (some record.valueAggregate) mark) with
  | .error err => return .error err
  | .ok _ => return .ok ()

def markCollectionPending (record : Proto.CollectionRecord) : Program (Except String Unit) :=
  markRecord record (.pending "")

def markCollectionCollected (record : Proto.CollectionRecord) (txHash : TxHash) :
    Program (Except String Unit) :=
  markRecord record (.collected txHash none)

def markCollectionRetryable (record : Proto.CollectionRecord) (txHash : TxHash)
    (cause : String) : Program (Except String Unit) :=
  markRecord record (.retryable txHash cause)

def listRequest (state : Proto.CollectionState) : Proto.ListCollectionsRequest where
  limit := 500
  sessionId := ""
  state
  collectionId := []
  payer := none
  serviceProvider := none
  dataService := none

def listRecords (request : Proto.ListCollectionsRequest) :
    Program (Except String (List Proto.CollectionRecord)) := do
  match ← callOperator (.listCollections request) with
  | .error err => return .error err
  | .ok (.collections records) => return .ok records
  | .ok _ => return .ok []

/-- `fetchProviderOperatorCollection`. -/
def fetchProviderOperatorCollection (key : Proto.CollectionKey) :
    Program (Except String Proto.CollectionRecord) :=
  if key.sessionId ≠ "" then do
    match ← callOperator (.getCollection (some key)) with
    | .error err => return .error err
    | .ok (.collection record) => return .ok record
    | .ok _ => return .error "collection not found"
  else do
    match ← listRecords {
        limit := 2
        sessionId := ""
        state := .unspecified
        collectionId := key.collectionId
        payer := key.payer
        serviceProvider := key.serviceProvider
        dataService := key.dataService } with
    | .error err => return .error err
    | .ok [record] => return .ok record
    | .ok [] => return .error "collection not found"
    | .ok records =>
      return .error
        s!"collection lookup matched {records.length} records; rerun with --session-id"

/-! ## Validation -/

def formatCollectionState : Proto.CollectionState → String
  | .collectible => "collectible"
  | .collectPending => "collect_pending"
  | .collected => "collected"
  | .collectFailedRetryable => "collect_failed_retryable"
  | .unspecified => "unspecified"

def isProviderCollectableState (state : Proto.CollectionState) : Bool :=
  state = .collectible || state = .collectFailedRetryable

def protoAddressMatchesEth (field : String) (got : Option Address) (want : Address) :
    Except String Unit :=
  match Proto.toEth got with
  | .error err => .error s!"collection key {field}: {err}"
  | .ok address =>
    if addressesEqual address want then .ok ()
    else
      let gotText := String.ofList address.pretty
      let wantText := String.ofList want.pretty
      .error s!"collection key {field} {gotText} does not match signed RAV {field} {wantText}"

def validateCollectionKeyMatchesRAV (key : Proto.CollectionKey) (rav : RAV) : Except String Unit :=
  if key.collectionId ≠ rav.collectionID.bytes then
    .error "collection key collection ID does not match signed RAV collection ID"
  else do
    protoAddressMatchesEth "payer" key.payer rav.payer
    protoAddressMatchesEth "service provider" key.serviceProvider rav.serviceProvider
    protoAddressMatchesEth "data service" key.dataService rav.dataService

def validateProviderCollectRecord (record : Proto.CollectionRecord)
    (providerAddress dataServiceAddress : Address) : Except String SignedRAV :=
  let state := formatCollectionState record.state
  if isProviderCollectableState record.state = false then
    .error s!"collection state is {state}, expected collectible or collect_failed_retryable"
  else
    match protoSignedRAVToHorizon record.signedRav with
    | .error err => .error s!"signed RAV: {err}"
    | .ok signedRAV =>
      if record.valueAggregate.toBigInt ≠ signedRAV.message.valueAggregate then
        .error "record value aggregate does not match signed RAV value aggregate"
      else
        match validateCollectionKeyMatchesRAV record.key signedRAV.message with
        | .error err => .error err
        | .ok () =>
          if providerAddress ≠ signedRAV.message.serviceProvider then
            .error "provider private key address does not match RAV service provider"
          else if dataServiceAddress ≠ signedRAV.message.dataService then
            .error "--data-service-address does not match RAV data service"
          else .ok signedRAV

/-! ## The collect command -/

structure CollectOptions where
  key : Proto.CollectionKey
  providerAddress : Address
  dataServiceAddress : Address
  dataServiceCutPPM : UInt64
  tx : TxOptions
deriving DecidableEq

/-- The command after its transaction has been sent, or not. -/
def finishCollect (opts : CollectOptions) (record : Proto.CollectionRecord)
    (result : Except TxError TxHash) : Program (Except String Unit) :=
  match result with
  | .error ⟨err, hash⟩ =>
    if opts.tx.dryRun then return .error err
    else do
      match ← markCollectionRetryable record hash err with
      | .error retryErr =>
        return .error s!"{err}; additionally failed to mark collection retryable: {retryErr}"
      | .ok () => return .error err
  | .ok hash =>
    if opts.tx.dryRun then return .ok ()
    else if opts.tx.noWait then return .ok ()
    else markCollectionCollected record hash

/-- The transaction of the command, behind its claim on the record. -/
def sendCollect (opts : CollectOptions) (record : Proto.CollectionRecord)
    (signedRAV : SignedRAV) : Program (Except String Unit) := do
  let call := packQueryFeeCollect signedRAV opts.dataServiceCutPPM
  if opts.tx.dryRun then
    let result ← sendDynamicFeeTransaction call opts.tx
    finishCollect opts record result
  else
    match ← markCollectionPending record with
    | .error err => return .error err
    | .ok () =>
      let result ← sendDynamicFeeTransaction call opts.tx
      finishCollect opts record result

/-- `runProviderOperatorCollect`. -/
def collect (opts : CollectOptions) : Program (Except String Unit) :=
  if opts.tx.dryRun && opts.tx.noWait then
    return .error "--dry-run and --no-wait cannot be used together"
  else do
    match ← fetchProviderOperatorCollection opts.key with
    | .error err => return .error err
    | .ok record =>
      if record.state = .collected then return .ok ()
      else
        match validateProviderCollectRecord record opts.providerAddress
            opts.dataServiceAddress with
        | .error err => return .error s!"invalid provider collection record: {err}"
        | .ok signedRAV => sendCollect opts record signedRAV

/-! ## The daemon -/

/-- `autoCollector`. Durations are nanoseconds. -/
structure AutoCollector where
  providerAddress : Address
  dataServiceAddress : Address
  cutPPM : UInt64
  tx : TxOptions
  minValue : Int
  maxAttempts : UInt32
  backoffBase : Int
  reclaimAfter : Int
  once : Bool
deriving DecidableEq

namespace AutoCollector

/-- `collectDaemonMaxBackoff`, one hour. -/
def maxBackoff : Int := 3600 * 10 ^ 9

/-- `backoff *= 2` on a `time.Duration`, which has 64 bits. -/
def doubled (backoff : Int) : Int := (Int64.ofInt (backoff * 2)).toInt

/-- The doublings of `backoffFor`, cut off at the maximum. -/
def doubleBackoff (backoff : Int) : Nat → Int
  | 0 => backoff
  | n + 1 => if maxBackoff ≤ doubled backoff then maxBackoff else doubleBackoff (doubled backoff) n

def backoffFor (c : AutoCollector) (attempt : Nat) : Int :=
  match attempt with
  | 0 => 0
  | n + 1 => doubleBackoff c.backoffBase n

def shouldCollect (c : AutoCollector) (record : Proto.CollectionRecord) (now : Time) : Bool :=
  if record.valueAggregate.toBigInt < c.minValue then false
  else if record.state = .collectFailedRetryable then
    decide (UInt32.ofNat record.attemptCount < c.maxAttempts) &&
      decide (c.backoffFor record.attemptCount ≤ now - record.updatedAtNs)
  else true

def shouldReclaimPending (c : AutoCollector) (record : Proto.CollectionRecord) (now : Time) :
    Bool :=
  decide (0 < c.reclaimAfter) && decide (record.state = .collectPending) &&
    decide (c.reclaimAfter ≤ now - record.updatedAtNs)

/-- The records of one list that pass `shouldCollect`, each at its own time. -/
def selectEligible (c : AutoCollector) :
    List Proto.CollectionRecord → Program (List Proto.CollectionRecord)
  | [] => return []
  | record :: rest => do
    let now ← outside .now
    let others ← c.selectEligible rest
    return if c.shouldCollect record now then record :: others else others

def listEligible (c : AutoCollector) :
    Program (Except String (List Proto.CollectionRecord)) := do
  match ← listRecords (listRequest .collectible) with
  | .error err => return .error err
  | .ok fresh =>
    let eligible ← c.selectEligible fresh
    match ← listRecords (listRequest .collectFailedRetryable) with
    | .error err => return .error err
    | .ok failed =>
      let retried ← c.selectEligible failed
      return .ok (eligible ++ retried)

/-- `collectOne`; what it logs is left out. -/
def collectOne (c : AutoCollector) (record : Proto.CollectionRecord) : Program Unit :=
  match validateProviderCollectRecord record c.providerAddress c.dataServiceAddress with
  | .error _ => return ()
  | .ok signedRAV => do
    match ← markCollectionPending record with
    | .error _ => return ()
    | .ok () =>
      match ← sendDynamicFeeTransaction (packQueryFeeCollect signedRAV c.cutPPM)
          { c.tx with noWait := false, dryRun := false } with
      | .error ⟨err, hash⟩ =>
        let _ ← markCollectionRetryable record hash err
        return ()
      | .ok hash =>
        let _ ← markCollectionCollected record hash
        return ()

/-- A loop over records that stops when the daemon is shut down. -/
def whileRunning (f : Proto.CollectionRecord → Program Unit) :
    List Proto.CollectionRecord → Program Bool
  | [] => return true
  | record :: rest => do
    if ← outside .contextDone then return false
    else
      f record
      whileRunning f rest

/-- One turn of `reclaimStalePending`; the duration is printed in nanoseconds. -/
def reclaimRecord (c : AutoCollector) (now : Time) (record : Proto.CollectionRecord) :
    Program Unit :=
  if c.shouldReclaimPending record now then do
    let _ ← markCollectionRetryable record record.lastTxHash
      s!"reclaimed stale collect_pending after {c.reclaimAfter}ns"
    return ()
  else return ()

def reclaimStalePending (c : AutoCollector) : Program Unit :=
  if c.reclaimAfter ≤ 0 then return ()
  else do
    match ← listRecords (listRequest .collectPending) with
    | .error _ => return ()
    | .ok records =>
      let now ← outside .now
      let _ ← whileRunning (c.reclaimRecord now) records
      return ()

/-- `sweep`: a sweep that finds nothing eligible reclaims nothing either. -/
def sweep (c : AutoCollector) : Program Unit := do
  match ← c.listEligible with
  | .error _ => return ()
  | .ok records =>
    if records.isEmpty then return ()
    else if ← whileRunning c.collectOne records then c.reclaimStalePending
    else return ()

/-- `runProviderOperatorCollectDaemon`. -/
def run (c : AutoCollector) : Program Unit :=
  .retry do
    c.sweep
    if c.once then return some ()
    else if ← outside .contextDone then return some ()
    else return none

end AutoCollector

end Sdsce.Source.Collector
