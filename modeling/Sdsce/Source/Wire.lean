import Mathlib.Data.Int.Basic
import Sdsce.Theory.Bytes

/-!
# Money, vouchers and their wire form

`grt.go`, `horizon/types.go`, the messages of `common/v1/types.proto`, the conversions of
`common/v1/types_helpers.go` and of `sidecar/convert.go`.

A `*big.Int` that the source always initialises is an `Int`. A message field that may be
absent is an `Option`. `eth.NewSignatureFromBytes` belongs to eth-go: it accepts exactly
65 bytes.
-/
namespace Sdsce.Source

open Sdsce.Theory

abbrev Address := List UInt8

/-- `bytes.Equal` on addresses. -/
def addressesEqual (a b : Address) : Bool := decide (a = b)

/-- `eth.Address.Pretty`. -/
def Address.pretty (a : Address) : List Char := '0' :: 'x' :: Bytes.hex a

theorem Address.pretty_injective {a b : Address} (same : a.pretty = b.pretty) : a = b := by
  simp only [Address.pretty, List.cons.injEq, true_and] at same
  exact Bytes.hex_injective same

theorem Address.bar_not_mem_pretty (a : Address) : '|' ∉ a.pretty := by
  simp only [Address.pretty, List.mem_cons, not_or]
  exact ⟨by decide, by decide, Bytes.bar_not_mem_hex a⟩

/-- `horizon.CollectionID`, a `[32]byte`. -/
@[ext] structure CollectionID where
  bytes : List UInt8
  size : bytes.length = 32
deriving DecidableEq

namespace CollectionID

/-- The zero value `horizon.CollectionID{}`. -/
def zero : CollectionID := ⟨List.replicate 32 0, rfl⟩

end CollectionID

/-- `eth.Signature`, a `[65]byte` laid out as V, R, S. -/
@[ext] structure Signature where
  bytes : List UInt8
  size : bytes.length = 65
deriving DecidableEq

namespace Signature

def v (sig : Signature) : Nat := (sig.bytes.headD 0).toNat

def r (sig : Signature) : Nat := Bytes.toNat ((sig.bytes.drop 1).take 32)

def s (sig : Signature) : Nat := Bytes.toNat (sig.bytes.drop 33)

/-- `eth.NewSignatureFromBytes`. The text of its error is the library's own and not spelled out. -/
def newSignatureFromBytes (bytes : List UInt8) : Except String Signature :=
  if size : bytes.length = 65 then .ok ⟨bytes, size⟩
  else .error "invalid signature length"

theorem newSignatureFromBytes_ok {bytes : List UInt8} {sig : Signature}
    (h : newSignatureFromBytes bytes = .ok sig) : sig.bytes = bytes := by
  unfold newSignatureFromBytes at h
  split at h
  · cases h
    rfl
  · cases h

@[simp] theorem newSignatureFromBytes_bytes (sig : Signature) :
    newSignatureFromBytes sig.bytes = .ok sig := by
  simp [newSignatureFromBytes, sig.size]

end Signature

/-- A token amount, a `uint256.Int` in base units. -/
structure GRT where
  raw : BitVec 256
deriving DecidableEq

namespace GRT

def zero : GRT := ⟨0⟩

/-- `uint256.FromBig`, which reports magnitudes of 2^256 and more as overflow; the caller
clamps them. A negative number becomes its two's complement. -/
def newGRTFromBigInt (raw : Int) : GRT :=
  if raw.natAbs < 2 ^ 256 then ⟨BitVec.ofInt 256 raw⟩ else ⟨BitVec.allOnes 256⟩

def bigInt (g : GRT) : Int := g.raw.toNat

def add (g other : GRT) : GRT := ⟨g.raw + other.raw⟩

def mul (g : GRT) (n : UInt64) : GRT := ⟨g.raw * BitVec.ofNat 256 n.toNat⟩

/-- `ToDecimalString`: whole tokens, and the fraction without trailing zeros. -/
def toDecimalString (g : GRT) : String :=
  let grt := g.raw.toNat / 10 ^ 18
  let remainder := g.raw.toNat % 10 ^ 18
  if remainder = 0 then toString grt
  else
    let digits := (toString remainder).toList
    let padded := List.replicate (18 - digits.length) '0' ++ digits
    let frac := String.ofList (padded.reverse.dropWhile (· = '0')).reverse
    s!"{grt}.{frac}"

def string (g : GRT) : String := g.toDecimalString ++ " GRT"

theorem bigInt_nonneg (g : GRT) : 0 ≤ g.bigInt := Int.natCast_nonneg _

theorem bigInt_lt (g : GRT) : g.bigInt < 2 ^ 256 := by
  have := g.raw.isLt
  unfold bigInt
  omega

theorem bigInt_newGRTFromBigInt {x : Int} (nonneg : 0 ≤ x) (bound : x < 2 ^ 256) :
    (newGRTFromBigInt x).bigInt = x := by
  obtain ⟨n, rfl⟩ := Int.eq_ofNat_of_zero_le nonneg
  have small : n < 2 ^ 256 := by exact_mod_cast bound
  rw [newGRTFromBigInt, Int.natAbs_natCast, if_pos small]
  change ((BitVec.ofInt 256 n).toNat : Int) = n
  rw [BitVec.ofInt_natCast, BitVec.toNat_ofNat, Nat.mod_eq_of_lt small]

end GRT

structure PricingConfig where
  pricePerBlock : GRT
  pricePerByte : GRT
deriving DecidableEq

/-- `PricingConfig.CalculateUsageCost`; products and the sum wrap at 2^256. -/
def PricingConfig.calculateUsageCost (c : PricingConfig)
    (blocksProcessed bytesTransferred : UInt64) : GRT :=
  (c.pricePerBlock.mul blocksProcessed).add (c.pricePerByte.mul bytesTransferred)

/-- `horizon.RAV`. -/
structure RAV where
  collectionID : CollectionID
  payer : Address
  serviceProvider : Address
  dataService : Address
  timestampNs : UInt64
  valueAggregate : Int
  metadata : List UInt8
deriving DecidableEq

/-- `horizon.SignedRAV`. -/
structure SignedRAV where
  message : RAV
  signature : Signature
deriving DecidableEq

namespace Proto

/-- `commonv1.GRT`: big-endian bytes of any length. -/
structure GRT where
  bytes : List UInt8
deriving DecidableEq

namespace GRT

def toNative (g : GRT) : Source.GRT :=
  if g.bytes.length = 0 then .zero else .newGRTFromBigInt (Bytes.toNat g.bytes)

def toBigInt (g : GRT) : Int := g.toNative.bigInt

def fromNative (grt : Source.GRT) : GRT := ⟨Bytes.ofNat grt.bigInt.toNat⟩

def fromBigInt (i : Int) : GRT := fromNative (.newGRTFromBigInt i)

theorem toBigInt_nonneg (g : GRT) : 0 ≤ g.toBigInt := g.toNative.bigInt_nonneg

theorem toBigInt_fromNative (grt : Source.GRT) : (fromNative grt).toBigInt = grt.bigInt := by
  have nonneg := grt.bigInt_nonneg
  have bound := grt.bigInt_lt
  unfold toBigInt toNative
  split
  · next empty =>
      have value : Bytes.toNat (Bytes.ofNat grt.bigInt.toNat) = 0 := by
        rw [show Bytes.ofNat grt.bigInt.toNat = [] from List.length_eq_zero_iff.mp empty]
        exact Bytes.toNat_nil
      rw [Bytes.toNat_ofNat] at value
      change (0 : Int) = grt.bigInt
      omega
  · simp only [fromNative, Bytes.toNat_ofNat, Int.toNat_of_nonneg nonneg]
    exact Source.GRT.bigInt_newGRTFromBigInt nonneg bound

theorem toBigInt_fromBigInt {x : Int} (nonneg : 0 ≤ x) (bound : x < 2 ^ 256) :
    (fromBigInt x).toBigInt = x := by
  rw [fromBigInt, toBigInt_fromNative, Source.GRT.bigInt_newGRTFromBigInt nonneg bound]

end GRT

/-- `commonv1.Address.ToEth`. -/
def toEth (a : Option Address) : Except String Address :=
  match a with
  | none => .error "address is required"
  | some bytes =>
    if bytes.length ≠ 20 then
      .error s!"invalid address length: got {bytes.length} bytes, want 20"
    else .ok bytes

/-- `commonv1.RAV`. -/
structure RAV where
  collectionId : List UInt8
  payer : Option Address
  dataService : Option Address
  serviceProvider : Option Address
  timestampNs : UInt64
  valueAggregate : Option GRT
  metadata : List UInt8
deriving DecidableEq

/-- `commonv1.SignedRAV`. -/
structure SignedRAV where
  rav : Option RAV
  signature : List UInt8
deriving DecidableEq

/-- `commonv1.Usage`. -/
structure Usage where
  blocksProcessed : UInt64
  bytesTransferred : UInt64
  requests : UInt64
  cost : Option GRT
deriving DecidableEq

end Proto

theorem except_bind_ok {ε α β : Type} {x : Except ε α} {f : α → Except ε β} {b : β}
    (h : (x >>= f) = .ok b) : ∃ a, x = .ok a ∧ f a = .ok b := by
  cases x with
  | error err => cases h
  | ok a => exact ⟨a, rfl, h⟩

theorem except_of_toOption {ε α : Type} {x : Except ε α} {a : α} (h : x.toOption = some a) :
    x = .ok a := by
  cases x with
  | error err => cases h
  | ok b =>
    cases h
    rfl

/-- Prepends the field name to an error, as `fmt.Errorf("field: %w", err)`. -/
def wrapError {α : Type} (field : String) : Except String α → Except String α
  | .ok a => .ok a
  | .error err => .error (field ++ ": " ++ err)

/-- `sidecar.ProtoRAVToHorizon` on a message that is present. -/
def protoRAVToHorizon (pr : Proto.RAV) : Except String RAV :=
  if pr.collectionId.length = 0 then .error "collection_id is required"
  else if size : pr.collectionId.length = 32 then do
    let payer ← wrapError "payer" (Proto.toEth pr.payer)
    let dataService ← wrapError "data_service" (Proto.toEth pr.dataService)
    let serviceProvider ← wrapError "service_provider" (Proto.toEth pr.serviceProvider)
    match pr.valueAggregate with
    | none => throw "value_aggregate is required"
    | some value =>
      return {
        collectionID := ⟨pr.collectionId, size⟩
        payer
        serviceProvider
        dataService
        timestampNs := pr.timestampNs
        valueAggregate := value.toBigInt
        metadata := pr.metadata }
  else .error s!"collection_id: want 32 bytes, got {pr.collectionId.length}"

/-- `sidecar.ProtoSignedRAVToHorizon` on a message that is present. -/
def protoSignedRAVToHorizon (psr : Proto.SignedRAV) : Except String SignedRAV := do
  match psr.rav with
  | none => throw "rav is required"
  | some pr =>
    let rav ← protoRAVToHorizon pr
    let sig ← wrapError "signature" (Signature.newSignatureFromBytes psr.signature)
    return ⟨rav, sig⟩

theorem protoRAVToHorizon_ok {pr : Proto.RAV} {rav : RAV} (h : protoRAVToHorizon pr = .ok rav) :
    rav.collectionID.bytes = pr.collectionId ∧
      ∃ value, pr.valueAggregate = some value ∧ rav.valueAggregate = value.toBigInt := by
  unfold protoRAVToHorizon at h
  split at h
  · cases h
  split at h
  · obtain ⟨_, _, h⟩ := except_bind_ok h
    obtain ⟨_, _, h⟩ := except_bind_ok h
    obtain ⟨_, _, h⟩ := except_bind_ok h
    split at h
    · cases h
    · next value given =>
        cases h
        exact ⟨rfl, value, given, rfl⟩
  · cases h

/-- The signature, the collection ID and the value of an accepted message are those on the
wire. -/
theorem protoSignedRAVToHorizon_ok {psr : Proto.SignedRAV} {rav : SignedRAV}
    (h : protoSignedRAVToHorizon psr = .ok rav) :
    rav.signature.bytes = psr.signature ∧ ∃ pr value, psr.rav = some pr ∧
      rav.message.collectionID.bytes = pr.collectionId ∧ pr.valueAggregate = some value ∧
      rav.message.valueAggregate = value.toBigInt := by
  unfold protoSignedRAVToHorizon at h
  split at h
  · cases h
  rename_i pr given
  obtain ⟨message, converted, h⟩ := except_bind_ok h
  obtain ⟨sig, parsed, h⟩ := except_bind_ok h
  cases h
  obtain ⟨collectionID, value, carried, same⟩ := protoRAVToHorizon_ok converted
  refine ⟨?_, pr, value, given, collectionID, carried, same⟩
  unfold wrapError at parsed
  split at parsed
  · next sig' fits =>
      cases parsed
      exact Signature.newSignatureFromBytes_ok fits
  · cases parsed

/-- `sidecar.HorizonRAVToProto`. -/
def horizonRAVToProto (hr : RAV) : Proto.RAV where
  collectionId := hr.collectionID.bytes
  payer := some hr.payer
  dataService := some hr.dataService
  serviceProvider := some hr.serviceProvider
  timestampNs := hr.timestampNs
  valueAggregate := some (.fromBigInt hr.valueAggregate)
  metadata := hr.metadata

/-- `sidecar.HorizonSignedRAVToProto`. -/
def horizonSignedRAVToProto (hsr : SignedRAV) : Proto.SignedRAV where
  rav := some (horizonRAVToProto hsr.message)
  signature := hsr.signature.bytes

/-- The collection ID survives the way over the wire. -/
theorem horizonSignedRAVToProto_collectionID {hsr rav : SignedRAV}
    (h : protoSignedRAVToHorizon (horizonSignedRAVToProto hsr) = .ok rav) :
    rav.message.collectionID = hsr.message.collectionID := by
  obtain ⟨_, pr, _, given, same, _⟩ := protoSignedRAVToHorizon_ok h
  cases given
  exact CollectionID.ext same

end Sdsce.Source
