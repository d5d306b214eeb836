import Sdsce.Source.Encodings

/-!
# A RAV keeps its meaning

A signed RAV is converted to its message and back, goes through the header, and is read from the
two tables that store it. After any number of such passages its digest under every domain and its
signature are those it started with.
-/
namespace Sdsce.Guarantees.RavEncodings

open Sdsce.Theory Sdsce.Source
open Sdsce.Source.Psql (ravParams collectionRavParams columnsOf newAddress_eq
  ravParams_toRepository)

/-- Addresses of 20 bytes and a value that fits a word. -/
structure WellFormed (rav : SignedRAV) : Prop where
  payer : rav.message.payer.length = 20
  serviceProvider : rav.message.serviceProvider.length = 20
  dataService : rav.message.dataService.length = 20
  nonneg : 0 ≤ rav.message.valueAggregate
  bound : rav.message.valueAggregate < 2 ^ 256

/-- One way through an encoding and back. Empty metadata is a nil slice or not, as it happens. -/
inductive Passage where
  | protobuf
  | header
  | ravRow (nilMetadata : Bool)
  | collectionRow (sessionID : { id : String // id ≠ "" }) (nilMetadata : Bool)

def Passage.carry (p : Protobuf) (rav : SignedRAV) : Passage → Except String SignedRAV
  | protobuf => protoSignedRAVToHorizon (horizonSignedRAVToProto rav)
  | header => do
    let sent ← encodeRAVHeader p (horizonSignedRAVToProto rav)
    let received ← decodeRAVFromHeader p sent
    protoSignedRAVToHorizon received
  | ravRow nilMetadata => (ravParams nilMetadata rav).toRepository
  | collectionRow sessionID nilMetadata => do
    let params ← collectionRavParams sessionID nilMetadata rav
    params.toRepository

/-- One passage after the other. -/
def travel (p : Protobuf) (passages : List Passage) (rav : SignedRAV) : Except String SignedRAV :=
  passages.foldlM (Passage.carry p) rav

theorem toEth_ok {addr : Address} (size : addr.length = 20) (field : String) :
    wrapError field (Proto.toEth (some addr)) = .ok addr := by
  simp [Proto.toEth, wrapError, size]

variable {p : Protobuf} {rav : SignedRAV}

/-- `ProtoSignedRAVToHorizon` undoes `HorizonSignedRAVToProto`. -/
theorem protobuf_roundtrip (wf : WellFormed rav) :
    protoSignedRAVToHorizon (horizonSignedRAVToProto rav) = .ok rav := by
  have collectionID := rav.message.collectionID.size
  have value := Proto.GRT.toBigInt_fromBigInt wf.nonneg wf.bound
  have message : protoRAVToHorizon (horizonRAVToProto rav.message) = .ok rav.message := by
    simp only [protoRAVToHorizon, horizonRAVToProto, toEth_ok wf.payer, toEth_ok wf.dataService,
      toEth_ok wf.serviceProvider, value]
    rw [if_neg (by omega), dif_pos collectionID]
    rfl
  simp only [protoSignedRAVToHorizon, horizonSignedRAVToProto, message,
    Signature.newSignatureFromBytes_bytes]
  rfl

theorem columnsOf_eq (wf : WellFormed rav) : columnsOf rav = rav := by
  simp only [columnsOf, newAddress_eq wf.payer, newAddress_eq wf.serviceProvider,
    newAddress_eq wf.dataService]

theorem carry_eq (wf : WellFormed rav) (faithful : p.Faithful (horizonSignedRAVToProto rav))
    (passage : Passage) : passage.carry p rav = .ok rav := by
  cases passage with
  | protobuf => exact protobuf_roundtrip wf
  | header =>
    obtain ⟨header, sent, received⟩ := faithful.header
    rw [Passage.carry, sent]
    change (decodeRAVFromHeader p header >>= protoSignedRAVToHorizon) = _
    rw [received]
    exact protobuf_roundtrip wf
  | ravRow nilMetadata =>
    rw [Passage.carry, ravParams_toRepository, columnsOf_eq wf]
  | collectionRow sessionID nilMetadata =>
    rw [Passage.carry, collectionRavParams, if_neg sessionID.2]
    exact (ravParams_toRepository nilMetadata rav).trans (congrArg _ (columnsOf_eq wf))

theorem travel_eq (wf : WellFormed rav) (faithful : p.Faithful (horizonSignedRAVToProto rav))
    (passages : List Passage) : travel p passages rav = .ok rav := by
  induction passages with
  | nil => rfl
  | cons passage rest ih =>
    rw [travel, List.foldlM_cons, carry_eq wf faithful passage]
    exact ih

theorem hashTypedData_isSome (wf : WellFormed rav) (keccak256 : List UInt8 → List UInt8)
    (domain : Domain) : (hashTypedData keccak256 domain rav.message).isSome := by
  have fits : (Bytes.ofNat rav.message.valueAggregate.natAbs).length ≤ 32 := by
    have nonneg := wf.nonneg
    have bound := wf.bound
    exact Bytes.length_ofNat_le_iff.mpr (by omega)
  simp only [hashTypedData, hashStruct, RAV.eip712EncodeData, encodeUint128, if_pos fits]
  rfl

/-- In any order and number of passages, a signed RAV arrives with its digest under every domain
and with its signature, where the protobuf library keeps its message. -/
theorem rav_keeps_meaning (wf : WellFormed rav)
    (faithful : p.Faithful (horizonSignedRAVToProto rav)) (passages : List Passage) :
    ∃ arrived, travel p passages rav = .ok arrived ∧
      (∀ keccak256 domain, ∃ digest, hashTypedData keccak256 domain rav.message = some digest ∧
        hashTypedData keccak256 domain arrived.message = some digest) ∧
      arrived.signature.bytes = rav.signature.bytes := by
  refine ⟨rav, travel_eq wf faithful passages, fun keccak256 domain => ?_, rfl⟩
  obtain ⟨digest, hashed⟩ := Option.isSome_iff_exists.mp (hashTypedData_isSome wf keccak256 domain)
  exact ⟨digest, hashed, hashed⟩

/-- The largest value, and a timestamp that a `BIGINT` holds as a negative number. -/
def extreme : SignedRAV where
  message := {
    collectionID := .zero
    payer := List.replicate 20 1
    serviceProvider := List.replicate 20 2
    dataService := List.replicate 20 3
    timestampNs := 9223372036854775808
    valueAggregate := 2 ^ 256 - 1
    metadata := [] }
  signature := ⟨28 :: List.replicate 64 255, rfl⟩

theorem extreme_wellFormed : WellFormed extreme := ⟨rfl, rfl, rfl, by decide, by decide⟩

/-- Its wire form. -/
def extremeBytes : List UInt8 :=
  [0x0a, 0x99, 1, 0x0a, 22, 0x0a, 20] ++ List.replicate 20 1 ++ [0x12, 22, 0x0a, 20] ++
    List.replicate 20 3 ++ [0x1a, 22, 0x0a, 20] ++ List.replicate 20 2 ++
    0x20 :: List.replicate 9 0x80 ++ [1, 0x2a, 34, 0x0a, 32] ++ List.replicate 32 255 ++
    [0x3a, 32] ++ List.replicate 32 0 ++ [0x12, 65, 28] ++ List.replicate 64 255

theorem rav_keeps_meaning_extreme :
    ∃ arrived, travel (.knowing (horizonSignedRAVToProto extreme) extremeBytes)
        [.header, .ravRow true, .protobuf, .collectionRow ⟨"s", by decide⟩ false, .header]
        extreme = .ok arrived ∧
      (∀ keccak256 domain, ∃ digest, hashTypedData keccak256 domain extreme.message = some digest ∧
        hashTypedData keccak256 domain arrived.message = some digest) ∧
      arrived.signature.bytes = extreme.signature.bytes :=
  rav_keeps_meaning extreme_wellFormed (Protobuf.knowing_faithful _ _) _

end Sdsce.Guarantees.RavEncodings
