import Sdsce.Source.Psql
import Sdsce.Theory.Base64

/-!
# A signed RAV at rest and on its way

The typed data of `horizon/eip712.go` for a RAV, the `x-sds-rav` header that
`consumer/sidecar/ingress.go` writes and `provider/auth/service.go` reads, and the columns in which
`psql/mappings.go`, `psql/sqltypes.go` and `psql/collection.go` store it.

`keccak256` and the protobuf library are parameters. A slice bound out of range is `none`.
-/
namespace Sdsce.Source

open Sdsce.Theory

/-! ## Typed data -/

def padLeft (b : List UInt8) (size : Nat) : List UInt8 :=
  if size ≤ b.length then b.drop (b.length - size)
  else List.replicate (size - b.length) 0 ++ b

theorem length_padLeft (b : List UInt8) (size : Nat) : (padLeft b size).length = size := by
  unfold padLeft
  split
  · rw [List.length_drop]
    omega
  · rw [List.length_append, List.length_replicate]
    omega

theorem toNat_padLeft {b : List UInt8} {size : Nat} (fits : b.length ≤ size) :
    Bytes.toNat (padLeft b size) = Bytes.toNat b := by
  unfold padLeft
  split
  · rw [show b.length - size = 0 by omega, List.drop_zero]
  · rw [Bytes.toNat_append, Bytes.toNat_zeros, Nat.zero_mul, Nat.zero_add]

/-- Padding loses nothing of what it pads. -/
theorem padLeft_inj {b c : List UInt8} {size : Nat} (same : b.length = c.length)
    (fits : b.length ≤ size) (padded : padLeft b size = padLeft c size) : b = c := by
  refine Bytes.toNat_inj same ?_
  rw [← toNat_padLeft fits, padded, toNat_padLeft (same ▸ fits)]

/-- The word of a number that fits. -/
theorem toNat_padLeft_ofNat {n size : Nat} (fits : n < 256 ^ size) :
    Bytes.toNat (padLeft (Bytes.ofNat n) size) = n := by
  rw [toNat_padLeft (Bytes.length_ofNat_le_iff.mpr fits), Bytes.toNat_ofNat]

/-- A word is the padding of its value. -/
theorem padLeft_ofNat_toNat (b : List UInt8) :
    padLeft (Bytes.ofNat (Bytes.toNat b)) b.length = b :=
  Bytes.toNat_inj (length_padLeft _ _) (toNat_padLeft_ofNat (Bytes.toNat_lt b))

/-- `encodeUint64`: a word that ends in the eight bytes of `PutUint64`. -/
def encodeUint64 (v : UInt64) : List UInt8 :=
  List.replicate 24 (0 : UInt8) ++
    [(v >>> 56).toUInt8, (v >>> 48).toUInt8, (v >>> 40).toUInt8, (v >>> 32).toUInt8,
      (v >>> 24).toUInt8, (v >>> 16).toUInt8, (v >>> 8).toUInt8, v.toUInt8]

theorem length_encodeUint64 (v : UInt64) : (encodeUint64 v).length = 32 := by
  simp [encodeUint64]

theorem toNat_encodeUint64 (v : UInt64) : Bytes.toNat (encodeUint64 v) = v.toNat := by
  have top : v.toNat / 2 ^ 56 % 2 ^ 8 = v.toNat / 2 ^ 56 :=
    Nat.mod_eq_of_lt (Nat.div_lt_of_lt_mul v.toNat_lt)
  -- each byte joins those before it
  have join {j k : Nat} (next : j = k + 8) :
      v.toNat / 2 ^ j * 256 + v.toNat / 2 ^ k % 2 ^ 8 = v.toNat / 2 ^ k := by
    rw [next, Nat.pow_add, ← Nat.div_div_eq_div_mul]
    exact Nat.div_add_mod' _ 256
  rw [encodeUint64, Bytes.toNat_append, Bytes.toNat_zeros]
  simp only [Bytes.toNat, List.foldl_cons, List.foldl_nil, UInt64.toNat_toUInt8,
    UInt64.toNat_shiftRight, UInt64.reduceToNat, Nat.reduceMod, Nat.shiftRight_eq_div_pow]
  rw [zero_mul, zero_mul, zero_add, zero_add, top, join (rfl : 56 = 48 + 8),
    join (rfl : 48 = 40 + 8), join (rfl : 40 = 32 + 8), join (rfl : 32 = 24 + 8),
    join (rfl : 24 = 16 + 8), join (rfl : 16 = 8 + 8)]
  exact Nat.div_add_mod' _ 256

theorem encodeUint64_inj {v w : UInt64} (same : encodeUint64 v = encodeUint64 w) : v = w := by
  apply UInt64.toNat_inj.mp
  rw [← toNat_encodeUint64, same, toNat_encodeUint64]

/-- `encodeUint128`, which takes the magnitude of any number that fits the word. -/
def encodeUint128 (v : Int) : Option (List UInt8) :=
  let b := Bytes.ofNat v.natAbs
  if b.length ≤ 32 then some (List.replicate (32 - b.length) 0 ++ b) else none

theorem encodeUint128_of_fits {v : Int} (fits : v.natAbs < 256 ^ 32) :
    encodeUint128 v = some (padLeft (Bytes.ofNat v.natAbs) 32) := by
  have size : (Bytes.ofNat v.natAbs).length ≤ 32 := Bytes.length_ofNat_le_iff.mpr fits
  simp only [encodeUint128, if_pos size, padLeft]
  split
  · next full =>
      have exact : (Bytes.ofNat v.natAbs).length = 32 := le_antisymm size full
      rw [exact, Nat.sub_self, List.replicate_zero, List.nil_append, List.drop_zero]
  · rfl

structure Domain where
  name : String
  version : String
  chainID : Int
  verifyingContract : Address
deriving DecidableEq

/-- `NewDomain`: the chain ID goes through `int64`. -/
def newDomain (chainID : UInt64) (verifyingContract : Address) : Domain where
  name := "GraphTallyCollector"
  version := "1"
  chainID := chainID.toInt64.toInt
  verifyingContract

/-- `[]byte(s)`. -/
def utf8 (s : String) : List UInt8 := s.toUTF8.toList

theorem utf8_append (s t : String) : utf8 (s ++ t) = utf8 s ++ utf8 t := by
  simp [utf8, Bytes.toList_eq, String.toByteArray_append]

/-- ASCII text has a byte for each character. -/
theorem utf8_ofList {cs : List Char} (ascii : ∀ c ∈ cs, c.toNat < 128) :
    utf8 (String.ofList cs) = cs.map fun c => UInt8.ofNat c.toNat := by
  rw [utf8, Bytes.toList_eq, String.toUTF8_eq_toByteArray, String.toByteArray_ofList,
    List.utf8Encode, List.toList_data_toByteArray]
  induction cs with
  | nil => rfl
  | cons c cs ih =>
    have small : c.val ≤ 127 :=
      UInt32.le_iff_toNat_le.mpr (Nat.le_of_lt_succ (ascii c List.mem_cons_self))
    have byte : String.utf8EncodeChar c = [UInt8.ofNat c.toNat] :=
      String.utf8EncodeChar_eq_singleton (Char.utf8Size_eq_one_iff.mpr small)
    rw [List.flatMap_cons, byte, List.map_cons, List.singleton_append,
      ih fun d member => ascii d (List.mem_cons_of_mem _ member)]

/-- The EIP-712 type of a RAV. -/
def ravTypeText : List UInt8 :=
  utf8 ("ReceiptAggregateVoucher(bytes32 collectionId,address payer," ++
    "address serviceProvider,address dataService,uint64 timestampNs,uint128 valueAggregate," ++
    "bytes metadata)")

section TypedData

variable (keccak256 : List UInt8 → List UInt8)

def eip712DomainTypeHash : List UInt8 :=
  keccak256 (utf8
    "EIP712Domain(string name,string version,uint256 chainId,address verifyingContract)")

def ravTypeHash : List UInt8 := keccak256 ravTypeText

def Domain.separator (d : Domain) : List UInt8 :=
  keccak256 (eip712DomainTypeHash keccak256 ++ keccak256 (utf8 d.name) ++
    keccak256 (utf8 d.version) ++ padLeft (Bytes.ofNat d.chainID.natAbs) 32 ++
    padLeft d.verifyingContract 32)

def RAV.eip712EncodeData (r : RAV) : Option (List UInt8) := do
  let value ← encodeUint128 r.valueAggregate
  return r.collectionID.bytes ++ padLeft r.payer 32 ++ padLeft r.serviceProvider 32 ++
    padLeft r.dataService 32 ++ encodeUint64 r.timestampNs ++ value ++ keccak256 r.metadata

def hashStruct (message : RAV) : Option (List UInt8) := do
  let encodedData ← message.eip712EncodeData keccak256
  return keccak256 (ravTypeHash keccak256 ++ encodedData)

def hashTypedData (domain : Domain) (message : RAV) : Option (List UInt8) := do
  let structHash ← hashStruct keccak256 message
  return keccak256 ([0x19, 0x01] ++ domain.separator keccak256 ++ structHash)

end TypedData

/-! ## The header -/

/-- `proto.Marshal` and `proto.Unmarshal` of a signed RAV. -/
structure Protobuf where
  marshal : Proto.SignedRAV → Except String (List UInt8)
  unmarshal : List UInt8 → Except String Proto.SignedRAV

/-- The message is marshalled, and unmarshalled again as it was. -/
def Protobuf.Faithful (p : Protobuf) (message : Proto.SignedRAV) : Prop :=
  ∃ data, p.marshal message = .ok data ∧ p.unmarshal data = .ok message

/-- A library that knows one message, by its wire form. -/
def Protobuf.knowing (message : Proto.SignedRAV) (data : List UInt8) : Protobuf where
  marshal s := if s = message then .ok data else .error "proto: unknown message"
  unmarshal bytes := if bytes = data then .ok message else .error "proto: unknown bytes"

theorem Protobuf.knowing_faithful (message : Proto.SignedRAV) (data : List UInt8) :
    (knowing message data).Faithful message :=
  ⟨data, if_pos rfl, if_pos rfl⟩

def encodeRAVHeader (p : Protobuf) (signedRAV : Proto.SignedRAV) : Except String (List Char) :=
  match p.marshal signedRAV with
  | .error err => .error s!"marshal proto: {err}"
  | .ok protoBytes => .ok (Base64.encode protoBytes)

/-- `decodeRAVFromHeader`: the standard encoding, or else the raw one for URLs. The text of an error
goes on with the offset of the byte. -/
def decodeRAVFromHeader (p : Protobuf) (headerValue : List Char) :
    Except String Proto.SignedRAV :=
  match Base64.decode headerValue with
  | some data => p.unmarshal data
  | none =>
    match Base64.decodeRawURL headerValue with
    | some data => p.unmarshal data
    | none => .error "illegal base64 data"

/-- A message that the library keeps goes through the header. -/
theorem Protobuf.Faithful.header {p : Protobuf} {message : Proto.SignedRAV}
    (faithful : p.Faithful message) :
    ∃ header, encodeRAVHeader p message = .ok header ∧
      decodeRAVFromHeader p header = .ok message := by
  obtain ⟨data, written, read⟩ := faithful
  refine ⟨Base64.encode data, ?_, ?_⟩
  · rw [encodeRAVHeader, written]
  · rw [decodeRAVFromHeader, Base64.decode_encode]
    exact read

/-! ## The rows -/

namespace Psql

/-- The columns of a row of `ravs`, and those of a row of `collection_records` that hold its RAV.
`timestamp_ns` is a `BIGINT`, and `metadata` can be null. -/
structure RavColumns where
  collectionID : List UInt8
  payer : List UInt8
  serviceProvider : List UInt8
  dataService : List UInt8
  timestampNs : Int64
  valueAggregate : Int
  metadata : Option (List UInt8)
  signature : List UInt8

/-- A slice as a parameter: nil is null. -/
def bytea (isNil : Bool) (bytes : List UInt8) : Option (List UInt8) :=
  if isNil ∧ bytes = [] then none else some bytes

/-- The parameters that `fromRAV` and `collectionCollectibleParams` make of a RAV; empty metadata
may be a nil slice. -/
def ravParams (nilMetadata : Bool) (rav : SignedRAV) : RavColumns where
  collectionID := rav.message.collectionID.bytes
  payer := newAddress rav.message.payer
  serviceProvider := newAddress rav.message.serviceProvider
  dataService := newAddress rav.message.dataService
  timestampNs := rav.message.timestampNs.toInt64
  valueAggregate := rav.message.valueAggregate
  metadata := bytea nilMetadata rav.message.metadata
  signature := rav.signature.bytes

/-- `Scan` of the types `address`, `signature` and `collectionID`. -/
def scanBytes (type : String) (size : Nat) (value : List UInt8) :
    Except String { bytes : List UInt8 // bytes.length = size } :=
  if fits : value.length = size then .ok ⟨value, fits⟩
  else .error s!"{type}: expected {size} bytes, got {value.length}"

/-- `ravRow.toRepository` of a row that was scanned; `collectionRecordRow.toRepository` makes the
same RAV of its columns. -/
def RavColumns.toRepository (row : RavColumns) : Except String SignedRAV := do
  let collectionID ← scanBytes "collectionID" 32 row.collectionID
  let payer ← scanBytes "address" 20 row.payer
  let serviceProvider ← scanBytes "address" 20 row.serviceProvider
  let dataService ← scanBytes "address" 20 row.dataService
  let signature ← scanBytes "signature" 65 row.signature
  return {
    message := {
      collectionID := ⟨collectionID.1, collectionID.2⟩
      payer := payer.1
      serviceProvider := serviceProvider.1
      dataService := dataService.1
      timestampNs := row.timestampNs.toUInt64
      valueAggregate := row.valueAggregate
      metadata := row.metadata.getD [] }
    signature := ⟨signature.1, signature.2⟩ }

/-- `collectionCollectibleParams`. -/
def collectionRavParams (sessionID : String) (nilMetadata : Bool) (rav : SignedRAV) :
    Except String RavColumns :=
  if sessionID = "" then .error "session ID must not be empty" else .ok (ravParams nilMetadata rav)

theorem newAddress_length (addr : Address) : (newAddress addr).length = 20 := by
  unfold newAddress
  split
  · assumption
  · exact List.length_replicate

theorem newAddress_eq {addr : Address} (size : addr.length = 20) : newAddress addr = addr :=
  if_pos size

theorem bytea_getD (isNil : Bool) (bytes : List UInt8) : (bytea isNil bytes).getD [] = bytes := by
  unfold bytea
  split
  · next empty => exact empty.2.symm
  · rfl

theorem scanBytes_eq {type : String} {size : Nat} {value : List UInt8}
    (fits : value.length = size) :
    scanBytes type size value = .ok ⟨value, fits⟩ :=
  dif_pos fits

theorem ravParams_toRepository (nilMetadata : Bool) (rav : SignedRAV) :
    (ravParams nilMetadata rav).toRepository = .ok (columnsOf rav) := by
  have back : rav.message.timestampNs.toInt64.toUInt64 = rav.message.timestampNs := rfl
  simp only [RavColumns.toRepository, ravParams, scanBytes_eq rav.message.collectionID.size,
    scanBytes_eq (newAddress_length _), scanBytes_eq rav.signature.size, bytea_getD, back]
  rfl

end Psql

end Sdsce.Source
