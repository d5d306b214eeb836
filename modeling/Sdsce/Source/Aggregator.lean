import Sdsce.Source.Encodings

/-!
# Aggregation of receipts

`horizon/aggregator.go`, the receipts of `horizon/types.go` with their typed data, and
`normalizeSignature` of `horizon/signature.go`. `keccak256`, the recovery of a signer and the
signature of the aggregator's key are parameters. A `*big.Int` of a receipt is an `Int`.
-/
namespace Sdsce.Source

open Sdsce.Theory

/-- `horizon.Receipt`. -/
structure Receipt where
  collectionID : CollectionID
  payer : Address
  dataService : Address
  serviceProvider : Address
  timestampNs : UInt64
  nonce : UInt64
  value : Int
deriving DecidableEq

/-- `horizon.SignedReceipt`. -/
structure SignedReceipt where
  message : Receipt
  signature : Signature
deriving DecidableEq

/-- `MaxUint128`. -/
def maxUint128 : Int := 2 ^ 128 - 1

/-! ## Typed data of a receipt -/

/-- The EIP-712 type of a receipt. -/
def receiptTypeText : List UInt8 :=
  utf8 ("Receipt(bytes32 collection_id,address payer,address data_service," ++
    "address service_provider,uint64 timestamp_ns,uint64 nonce,uint128 value)")

section TypedData

variable (keccak256 : List UInt8 → List UInt8)

def receiptTypeHash : List UInt8 := keccak256 receiptTypeText

def Receipt.eip712EncodeData (r : Receipt) : Option (List UInt8) := do
  let value ← encodeUint128 r.value
  return r.collectionID.bytes ++ padLeft r.payer 32 ++ padLeft r.dataService 32 ++
    padLeft r.serviceProvider 32 ++ encodeUint64 r.timestampNs ++ encodeUint64 r.nonce ++ value

/-- `hashStruct` on a receipt. -/
def Receipt.hashStruct (message : Receipt) : Option (List UInt8) := do
  let encodedData ← message.eip712EncodeData
  return keccak256 (receiptTypeHash keccak256 ++ encodedData)

/-- `HashTypedData` on a receipt. -/
def Receipt.hashTypedData (domain : Domain) (message : Receipt) : Option (List UInt8) := do
  let structHash ← message.hashStruct keccak256
  return keccak256 ([0x19, 0x01] ++ domain.separator keccak256 ++ structHash)

end TypedData

/-! ## Signatures -/

def secp256k1N : Nat := 0xFFFFFFFFFFFFFFFFFFFFFFFFFFFFFFFEBAAEDCE6AF48A03BBFD25E8CD0364141

def secp256k1HalfN : Nat := secp256k1N / 2

/-- Some code paths use 0 and 1 for V; eth-go's header byte is 27 and more. -/
def flipSignatureV (v : UInt8) : UInt8 :=
  if v < 27 then v ^^^ 1
  else
    let header := v - 27
    let recID := header &&& 1
    let flags := header &&& ~~~1
    27 + (recID ^^^ 1) + flags

/-- The signature with the smaller of `S` and `N - S`. -/
def normalizeSignature (sig : Signature) : List UInt8 :=
  if secp256k1HalfN < sig.s then
    let s : Int := secp256k1N - sig.s
    flipSignatureV (sig.bytes.headD 0) :: ((sig.bytes.drop 1).take 32 ++
      padLeft (Bytes.ofNat s.natAbs) 32)
  else sig.bytes

/-- `SignaturesEqual`. -/
def signaturesEqual (a b : Signature) : Bool := normalizeSignature a = normalizeSignature b

/-! ## The aggregator -/

inductive AggregateError where
  | noReceipts
  | aggregateOverflow
  | duplicateSignature
  | invalidTimestamp
  | collectionMismatch
  | payerMismatch
  | serviceProviderMismatch
  | dataServiceMismatch
  | invalidSigner
  | ravSignerMismatch
  | failed (err : String)
  | panicked
deriving DecidableEq

/-- `Aggregator`, with `Signature.Recover` and the `Sign` of its key. -/
structure Aggregator where
  keccak256 : List UInt8 → List UInt8
  recover : Signature → List UInt8 → Except String Address
  sign : List UInt8 → Except String Signature
  domain : Domain
  acceptedSigners : List Address

namespace Aggregator

/-- `a.acceptedSigners[signer.Pretty()]`. -/
def accepts (a : Aggregator) (signer : Address) : Bool :=
  a.acceptedSigners.any fun accepted => accepted.pretty = signer.pretty

/-- `RecoverSigner` on a message with this hash. -/
def recoverSigner (a : Aggregator) (hash : Option (List UInt8)) (signature : Signature) :
    Except AggregateError Address :=
  match hash with
  | none => .error .panicked
  | some hash =>
    match a.recover signature hash with
    | .error err => .error (.failed err)
    | .ok signer => .ok signer

/-- The loop of `checkSignaturesUnique`; `seen` holds the normalized signatures so far. -/
def checkSignaturesUnique (seen : List (List UInt8)) :
    List SignedReceipt → Except AggregateError Unit
  | [] => .ok ()
  | r :: rest =>
    let normalized := normalizeSignature r.signature
    if normalized ∈ seen then .error .duplicateSignature
    else checkSignaturesUnique (normalized :: seen) rest

def verifyReceiptSigners (a : Aggregator) : List SignedReceipt → Except AggregateError Unit
  | [] => .ok ()
  | r :: rest =>
    match a.recoverSigner (r.message.hashTypedData a.keccak256 a.domain) r.signature with
    | .error err => .error err
    | .ok signer => if a.accepts signer then a.verifyReceiptSigners rest else .error .invalidSigner

def verifyRAVSigner (a : Aggregator) (rav : SignedRAV) : Except AggregateError Unit :=
  match a.recoverSigner (hashTypedData a.keccak256 a.domain rav.message) rav.signature with
  | .error err => .error err
  | .ok signer => if a.accepts signer then .ok () else .error .ravSignerMismatch

/-- The loop of `checkReceiptTimestamps`. -/
def checkTimestampsAfter (ravTimestamp : UInt64) : List SignedReceipt → Except AggregateError Unit
  | [] => .ok ()
  | r :: rest =>
    if r.message.timestampNs ≤ ravTimestamp then .error .invalidTimestamp
    else checkTimestampsAfter ravTimestamp rest

def checkReceiptTimestamps (receipts : List SignedReceipt) (previousRAV : Option SignedRAV) :
    Except AggregateError Unit :=
  match previousRAV with
  | none => .ok ()
  | some previous => checkTimestampsAfter previous.message.timestampNs receipts

/-- The fields that `validateReceiptConsistency` and `validateRAVConsistency` compare, in their
order. -/
structure SettlementFields where
  collectionID : CollectionID
  payer : Address
  serviceProvider : Address
  dataService : Address
deriving DecidableEq

end Aggregator

def Receipt.settlementFields (r : Receipt) : Aggregator.SettlementFields :=
  ⟨r.collectionID, r.payer, r.serviceProvider, r.dataService⟩

def RAV.settlementFields (r : RAV) : Aggregator.SettlementFields :=
  ⟨r.collectionID, r.payer, r.serviceProvider, r.dataService⟩

namespace Aggregator

/-- The four comparisons that both consistency checks make. -/
def compareFields (x y : SettlementFields) : Except AggregateError Unit :=
  if x.collectionID ≠ y.collectionID then .error .collectionMismatch
  else if addressesEqual x.payer y.payer = false then .error .payerMismatch
  else if addressesEqual x.serviceProvider y.serviceProvider = false then
    .error .serviceProviderMismatch
  else if addressesEqual x.dataService y.dataService = false then .error .dataServiceMismatch
  else .ok ()

/-- The loop of `validateReceiptConsistency`. -/
def compareWithFirst (first : Receipt) : List SignedReceipt → Except AggregateError Unit
  | [] => .ok ()
  | r :: rest =>
    match compareFields r.message.settlementFields first.settlementFields with
    | .error err => .error err
    | .ok () => compareWithFirst first rest

def validateReceiptConsistency : List SignedReceipt → Except AggregateError Unit
  | [] => .ok ()
  | first :: rest => compareWithFirst first.message rest

def validateRAVConsistency (receipt : Receipt) (rav : RAV) : Except AggregateError Unit :=
  compareFields receipt.settlementFields rav.settlementFields

/-- The loop of `aggregate`. -/
def addReceipts (valueAggregate : Int) (timestampMax : UInt64) :
    List SignedReceipt → Except AggregateError (Int × UInt64)
  | [] => .ok (valueAggregate, timestampMax)
  | r :: rest =>
    let newValue := valueAggregate + r.message.value
    if maxUint128 < newValue then .error .aggregateOverflow
    else addReceipts newValue
      (if timestampMax < r.message.timestampNs then r.message.timestampNs else timestampMax) rest

/-- What `aggregate` starts from. -/
def previousValue (previousRAV : Option SignedRAV) : Int :=
  (previousRAV.map (·.message.valueAggregate)).getD 0

def previousTimestamp (previousRAV : Option SignedRAV) : UInt64 :=
  (previousRAV.map (·.message.timestampNs)).getD 0

/-- `aggregate` on the receipts `first :: rest`. -/
def aggregate (first : SignedReceipt) (rest : List SignedReceipt)
    (previousRAV : Option SignedRAV) : Except AggregateError RAV :=
  match addReceipts (previousValue previousRAV) (previousTimestamp previousRAV)
      (first :: rest) with
  | .error err => .error err
  | .ok (valueAggregate, timestampNs) => .ok {
      collectionID := first.message.collectionID
      payer := first.message.payer
      serviceProvider := first.message.serviceProvider
      dataService := first.message.dataService
      timestampNs
      valueAggregate
      metadata := [] }

/-- `horizon.Sign` with the aggregator's key. -/
def signRAV (a : Aggregator) (rav : RAV) : Except AggregateError SignedRAV :=
  match hashTypedData a.keccak256 a.domain rav with
  | none => .error .panicked
  | some hash =>
    match a.sign hash with
    | .error err => .error (.failed s!"signing message: {err}")
    | .ok signature => .ok ⟨rav, signature⟩

/-- The checks on a previous RAV. -/
def onPrevious (previousRAV : Option SignedRAV) (check : SignedRAV → Except AggregateError Unit) :
    Except AggregateError Unit :=
  match previousRAV with
  | none => .ok ()
  | some previous => check previous

def aggregateReceipts (a : Aggregator) (receipts : List SignedReceipt)
    (previousRAV : Option SignedRAV) : Except AggregateError SignedRAV :=
  match receipts with
  | [] => .error .noReceipts
  | first :: rest => do
    checkSignaturesUnique [] (first :: rest)
    a.verifyReceiptSigners (first :: rest)
    onPrevious previousRAV a.verifyRAVSigner
    checkReceiptTimestamps (first :: rest) previousRAV
    validateReceiptConsistency (first :: rest)
    onPrevious previousRAV fun previous => validateRAVConsistency first.message previous.message
    let rav ← aggregate first rest previousRAV
    a.signRAV rav

end Aggregator

end Sdsce.Source
