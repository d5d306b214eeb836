import Sdsce.Source.Aggregator

/-!
# What a digest tells

The digests of receipts and of RAVs under one domain, and the separators of the domains that
`NewDomain` makes. `keccak256` is any function to 32 bytes; that it is free of collisions is said of
the byte strings that are hashed for the digests at hand.
-/
namespace Sdsce.Guarantees.TypedData

open Sdsce.Theory Sdsce.Source

/-! ## Messages -/

/-- A message of one of the two types that are hashed. -/
inductive TypedMessage where
  | receipt (message : Receipt)
  | rav (message : RAV)
deriving DecidableEq

/-- `keccak256` yields 32 bytes, and tells these byte strings apart. -/
structure CollisionFree (keccak256 : List UInt8 → List UInt8) (inputs : List (List UInt8)) :
    Prop where
  size : ∀ x, (keccak256 x).length = 32
  inj : ∀ x ∈ inputs, ∀ y ∈ inputs, keccak256 x = keccak256 y → x = y

namespace TypedMessage

/-- Addresses of 20 bytes and a value of 256 bits. -/
def WellFormed : TypedMessage → Prop
  | receipt m => m.payer.length = 20 ∧ m.dataService.length = 20 ∧ m.serviceProvider.length = 20 ∧
      0 ≤ m.value ∧ m.value < 2 ^ 256
  | rav m => m.payer.length = 20 ∧ m.serviceProvider.length = 20 ∧ m.dataService.length = 20 ∧
      0 ≤ m.valueAggregate ∧ m.valueAggregate < 2 ^ 256

instance (m : TypedMessage) : Decidable m.WellFormed :=
  match m with
  | receipt _ => inferInstanceAs (Decidable (_ ∧ _))
  | rav _ => inferInstanceAs (Decidable (_ ∧ _))

theorem receiptTypeText_ne_ravTypeText : receiptTypeText ≠ ravTypeText := by
  decide +kernel

/-- The text whose hash is the type hash. -/
def typeText : TypedMessage → List UInt8
  | receipt _ => receiptTypeText
  | rav _ => ravTypeText

/-- The byte strings that are hashed within the encoded data. -/
def nested : TypedMessage → List (List UInt8)
  | receipt _ => []
  | rav m => [m.metadata]

section Digest

variable (keccak256 : List UInt8 → List UInt8) (domain : Domain)

/-- `EIP712EncodeData`. -/
def encodeData : TypedMessage → Option (List UInt8)
  | receipt m => m.eip712EncodeData
  | rav m => m.eip712EncodeData keccak256

/-- `HashTypedData`. -/
def digest : TypedMessage → Option (List UInt8)
  | receipt m => m.hashTypedData keccak256 domain
  | rav m => hashTypedData keccak256 domain m

/-- What `hashStruct` hashes, for these encoded data. -/
def structInput (m : TypedMessage) (data : List UInt8) : List UInt8 := keccak256 m.typeText ++ data

/-- What `HashTypedData` hashes in the end. -/
def finalInput (m : TypedMessage) (data : List UInt8) : List UInt8 :=
  [0x19, 0x01] ++ domain.separator keccak256 ++ keccak256 (structInput keccak256 m data)

/-- All that is hashed for the digest of a message. -/
def hashed (m : TypedMessage) : List (List UInt8) :=
  m.typeText :: m.nested ++ (m.encodeData keccak256).toList.flatMap fun data =>
    [structInput keccak256 m data, finalInput keccak256 domain m data]

variable {keccak256 domain}

theorem digest_eq {m : TypedMessage} {data : List UInt8}
    (encoded : m.encodeData keccak256 = some data) :
    m.digest keccak256 domain = some (keccak256 (finalInput keccak256 domain m data)) := by
  cases m with
  | receipt m =>
    simp only [encodeData] at encoded
    simp only [digest, Receipt.hashTypedData, Receipt.hashStruct, encoded]
    rfl
  | rav m =>
    simp only [encodeData] at encoded
    simp only [digest, Source.hashTypedData, Source.hashStruct, encoded]
    rfl

theorem natAbs_lt {v : Int} (nonneg : 0 ≤ v) (below : v < 2 ^ 256) : v.natAbs < 256 ^ 32 := by
  have width : (256 : Nat) ^ 32 = 2 ^ 256 := by norm_num
  omega

theorem encodeData_receipt {m : Receipt} (wellFormed : (receipt m).WellFormed) :
    (receipt m).encodeData keccak256 = some (m.collectionID.bytes ++ padLeft m.payer 32 ++
      padLeft m.dataService 32 ++ padLeft m.serviceProvider 32 ++ encodeUint64 m.timestampNs ++
      encodeUint64 m.nonce ++ padLeft (Bytes.ofNat m.value.natAbs) 32) := by
  obtain ⟨_, _, _, nonneg, below⟩ := wellFormed
  rw [encodeData, Receipt.eip712EncodeData, encodeUint128_of_fits (natAbs_lt nonneg below)]
  rfl

theorem encodeData_rav {m : RAV} (wellFormed : (rav m).WellFormed) :
    (rav m).encodeData keccak256 = some (m.collectionID.bytes ++ padLeft m.payer 32 ++
      padLeft m.serviceProvider 32 ++ padLeft m.dataService 32 ++ encodeUint64 m.timestampNs ++
      padLeft (Bytes.ofNat m.valueAggregate.natAbs) 32 ++ keccak256 m.metadata) := by
  obtain ⟨_, _, _, nonneg, below⟩ := wellFormed
  rw [encodeData, RAV.eip712EncodeData, encodeUint128_of_fits (natAbs_lt nonneg below)]
  rfl

theorem encodeData_some (keccak256 : List UInt8 → List UInt8) {m : TypedMessage}
    (wellFormed : m.WellFormed) :
    ∃ data, m.encodeData keccak256 = some data := by
  cases m with
  | receipt m => exact ⟨_, encodeData_receipt wellFormed⟩
  | rav m => exact ⟨_, encodeData_rav wellFormed⟩

theorem length_padLeft_eq (b c : List UInt8) (size : Nat) :
    (padLeft b size).length = (padLeft c size).length := by
  rw [length_padLeft, length_padLeft]

theorem length_encodeUint64_eq (v w : UInt64) :
    (encodeUint64 v).length = (encodeUint64 w).length := by
  rw [length_encodeUint64, length_encodeUint64]

theorem address_inj {a b : Address} (sizeA : a.length = 20) (sizeB : b.length = 20)
    (same : padLeft a 32 = padLeft b 32) : a = b :=
  padLeft_inj (sizeA.trans sizeB.symm) (by omega) same

theorem value_inj {v w : Int} (nonnegV : 0 ≤ v) (belowV : v < 2 ^ 256) (nonnegW : 0 ≤ w)
    (belowW : w < 2 ^ 256)
    (same : padLeft (Bytes.ofNat v.natAbs) 32 = padLeft (Bytes.ofNat w.natAbs) 32) : v = w := by
  have magnitude : v.natAbs = w.natAbs := by
    rw [← toNat_padLeft_ofNat (natAbs_lt nonnegV belowV), same,
      toNat_padLeft_ofNat (natAbs_lt nonnegW belowW)]
  omega

/-- The seven words of a receipt, from the last to the first. -/
theorem encodeData_receipt_inj {m n : Receipt} (wellFormed : (receipt m).WellFormed)
    (wellFormed' : (receipt n).WellFormed)
    (same : (receipt m).encodeData keccak256 = (receipt n).encodeData keccak256) : m = n := by
  rw [encodeData_receipt wellFormed, encodeData_receipt wellFormed', Option.some.injEq] at same
  obtain ⟨payer, dataService, serviceProvider, nonneg, below⟩ := wellFormed
  obtain ⟨payer', dataService', serviceProvider', nonneg', below'⟩ := wellFormed'
  obtain ⟨same, value⟩ := List.append_inj' same (length_padLeft_eq _ _ _)
  obtain ⟨same, nonce⟩ := List.append_inj' same (length_encodeUint64_eq _ _)
  obtain ⟨same, timestamp⟩ := List.append_inj' same (length_encodeUint64_eq _ _)
  obtain ⟨same, provider⟩ := List.append_inj' same (length_padLeft_eq _ _ _)
  obtain ⟨same, service⟩ := List.append_inj' same (length_padLeft_eq _ _ _)
  obtain ⟨collection, payers⟩ := List.append_inj' same (length_padLeft_eq _ _ _)
  cases m
  cases n
  rw [Receipt.mk.injEq]
  exact ⟨CollectionID.ext collection, address_inj payer payer' payers,
    address_inj dataService dataService' service,
    address_inj serviceProvider serviceProvider' provider, encodeUint64_inj timestamp,
    encodeUint64_inj nonce, value_inj nonneg below nonneg' below' value⟩

/-- The seven words of a RAV, the last of which is a hash. -/
theorem encodeData_rav_inj {m n : RAV} (size : ∀ x, (keccak256 x).length = 32)
    (metadata : keccak256 m.metadata = keccak256 n.metadata → m.metadata = n.metadata)
    (wellFormed : (rav m).WellFormed) (wellFormed' : (rav n).WellFormed)
    (same : (rav m).encodeData keccak256 = (rav n).encodeData keccak256) : m = n := by
  rw [encodeData_rav wellFormed, encodeData_rav wellFormed', Option.some.injEq] at same
  obtain ⟨payer, serviceProvider, dataService, nonneg, below⟩ := wellFormed
  obtain ⟨payer', serviceProvider', dataService', nonneg', below'⟩ := wellFormed'
  obtain ⟨same, hash⟩ := List.append_inj' same ((size _).trans (size _).symm)
  obtain ⟨same, value⟩ := List.append_inj' same (length_padLeft_eq _ _ _)
  obtain ⟨same, timestamp⟩ := List.append_inj' same (length_encodeUint64_eq _ _)
  obtain ⟨same, service⟩ := List.append_inj' same (length_padLeft_eq _ _ _)
  obtain ⟨same, provider⟩ := List.append_inj' same (length_padLeft_eq _ _ _)
  obtain ⟨collection, payers⟩ := List.append_inj' same (length_padLeft_eq _ _ _)
  have metadata := metadata hash
  cases m
  cases n
  rw [RAV.mk.injEq]
  exact ⟨CollectionID.ext collection, address_inj payer payer' payers,
    address_inj serviceProvider serviceProvider' provider,
    address_inj dataService dataService' service, encodeUint64_inj timestamp,
    value_inj nonneg below nonneg' below' value, metadata⟩

end Digest

end TypedMessage

open TypedMessage

/-- Under one domain, messages with one digest are of one type and equal in every field. -/
theorem typed_data_injective {keccak256 : List UInt8 → List UInt8} {domain : Domain}
    {m n : TypedMessage} (wellFormed : m.WellFormed) (wellFormed' : n.WellFormed)
    (free : CollisionFree keccak256 (m.hashed keccak256 domain ++ n.hashed keccak256 domain)) :
    m.digest keccak256 domain ≠ none ∧
      (m.digest keccak256 domain = n.digest keccak256 domain → m = n) := by
  obtain ⟨data, encoded⟩ := encodeData_some keccak256 wellFormed
  obtain ⟨data', encoded'⟩ := encodeData_some keccak256 wellFormed'
  rw [digest_eq encoded, digest_eq encoded', Option.some.injEq]
  refine ⟨nofun, fun same => ?_⟩
  have whole := free.inj _ (by simp [hashed, encoded]) _ (by simp [hashed, encoded']) same
  have struct := free.inj _ (by simp [hashed, encoded]) _ (by simp [hashed, encoded'])
    (List.append_cancel_left whole)
  obtain ⟨types, same⟩ := List.append_inj struct ((free.size _).trans (free.size _).symm)
  have text := free.inj _ (by simp [hashed]) _ (by simp [hashed]) types
  rw [same, ← encoded'] at encoded
  cases m with
  | receipt m =>
    cases n with
    | receipt n => rw [encodeData_receipt_inj wellFormed wellFormed' encoded]
    | rav n => exact absurd text receiptTypeText_ne_ravTypeText
  | rav m =>
    cases n with
    | receipt n => exact absurd text.symm receiptTypeText_ne_ravTypeText
    | rav n =>
      have metadata := free.inj m.metadata (by simp [hashed, nested]) n.metadata
        (by simp [hashed, nested])
      rw [encodeData_rav_inj free.size metadata wellFormed wellFormed' encoded]

/-- A stand-in for the hash: the remainder by a prime, as a word. -/
def remainderHash (x : List UInt8) : List UInt8 :=
  padLeft (Bytes.ofNat (Bytes.toNat x % (2 ^ 256 - 189))) 32

theorem length_remainderHash (x : List UInt8) : (remainderHash x).length = 32 := length_padLeft _ _

def receiptOne : TypedMessage :=
  .receipt ⟨.zero, List.replicate 20 1, List.replicate 20 3, List.replicate 20 2, 5, 5, 1⟩

def ravOne : TypedMessage :=
  .rav ⟨.zero, List.replicate 20 1, List.replicate 20 2, List.replicate 20 3, 5, 1, []⟩

theorem typed_data_injective_sample :
    receiptOne.digest remainderHash (newDomain 42161 (List.replicate 20 9)) ≠
      ravOne.digest remainderHash (newDomain 42161 (List.replicate 20 9)) := by
  have free : CollisionFree remainderHash
      (receiptOne.hashed remainderHash (newDomain 42161 (List.replicate 20 9)) ++
        ravOne.hashed remainderHash (newDomain 42161 (List.replicate 20 9))) :=
    ⟨length_remainderHash, List.inj_on_of_nodup_map (by decide +kernel)⟩
  intro same
  exact absurd ((typed_data_injective (by decide) (by decide) free).2 same) (by decide)

/-! ## Domains -/

variable {keccak256 : List UInt8 → List UInt8} {c d : UInt64} {a b : Address}

/-- The word of the chain ID in what `Separator` hashes. -/
def chainWord (domain : Domain) : List UInt8 := padLeft (Bytes.ofNat domain.chainID.natAbs) 32

/-- What `Separator` hashes in the end. -/
def separatorInput (keccak256 : List UInt8 → List UInt8) (domain : Domain) : List UInt8 :=
  eip712DomainTypeHash keccak256 ++ keccak256 (utf8 domain.name) ++
    keccak256 (utf8 domain.version) ++ chainWord domain ++ padLeft domain.verifyingContract 32

theorem separator_eq (domain : Domain) :
    domain.separator keccak256 = keccak256 (separatorInput keccak256 domain) :=
  rfl

/-- The chain ID passes through `int64` and then loses its sign: above `2^63` it is counted back
from `2^64`. -/
theorem newDomain_natAbs (c : UInt64) (a : Address) :
    (newDomain c a).chainID.natAbs = if c.toNat ≤ 2 ^ 63 then c.toNat else 2 ^ 64 - c.toNat := by
  have bound := c.toNat_lt
  have cast : (newDomain c a).chainID = c.toBitVec.toInt := rfl
  rw [cast, BitVec.toInt_eq_toNat_cond, UInt64.toNat_toBitVec]
  split <;> split <;> omega

theorem toNat_chainWord (c : UInt64) (a : Address) :
    Bytes.toNat (chainWord (newDomain c a)) = (newDomain c a).chainID.natAbs := by
  refine toNat_padLeft_ofNat ?_
  have bound := c.toNat_lt
  have wide : 2 ^ 64 ≤ 256 ^ 32 := by norm_num
  rw [newDomain_natAbs]
  split <;> omega

theorem chainWord_eq_iff :
    chainWord (newDomain c a) = padLeft (Bytes.ofNat c.toNat) 32 ↔ c.toNat ≤ 2 ^ 63 := by
  have bound := c.toNat_lt
  have wide : 2 ^ 64 ≤ 256 ^ 32 := by norm_num
  have own : Bytes.toNat (padLeft (Bytes.ofNat c.toNat) 32) = c.toNat :=
    toNat_padLeft_ofNat (by omega)
  have magnitude := newDomain_natAbs c a
  constructor
  · intro same
    rw [← toNat_chainWord, same, own] at magnitude
    split at magnitude
    · assumption
    · omega
  · intro small
    rw [chainWord, magnitude, if_pos small]

/-- Two separators are equal just when the contracts are, and the chain IDs are equal or add up to
`2^64`. -/
theorem separator_eq_iff (size : a.length = 20) (size' : b.length = 20)
    (free : Set.InjOn keccak256
      {separatorInput keccak256 (newDomain c a), separatorInput keccak256 (newDomain d b)}) :
    (newDomain c a).separator keccak256 = (newDomain d b).separator keccak256 ↔
      a = b ∧ (c = d ∨ c.toNat + d.toNat = 2 ^ 64) := by
  have bound := c.toNat_lt
  have bound' := d.toNat_lt
  have magnitude := newDomain_natAbs c a
  have magnitude' := newDomain_natAbs d b
  constructor
  · intro same
    have inputs := free (.inl rfl) (.inr rfl) same
    obtain ⟨inputs, contracts⟩ := List.append_inj' inputs (length_padLeft_eq _ _ _)
    obtain ⟨_, words⟩ := List.append_inj' inputs (length_padLeft_eq _ _ _)
    refine ⟨padLeft_inj (size.trans size'.symm) (by omega) contracts, ?_⟩
    have ids : (newDomain c a).chainID.natAbs = (newDomain d b).chainID.natAbs := by
      rw [← toNat_chainWord, ← toNat_chainWord]
      exact congrArg Bytes.toNat words
    rw [magnitude, magnitude'] at ids
    rw [← UInt64.toNat_inj]
    split at ids <;> split at ids <;> omega
  · rintro ⟨rfl, rfl | sum⟩
    · rfl
    have ids : (newDomain c a).chainID.natAbs = (newDomain d a).chainID.natAbs := by
      rw [magnitude, magnitude']
      split <;> split <;> omega
    rw [separator_eq, separator_eq, separatorInput, separatorInput, chainWord, chainWord, ids]
    rfl

/-- Separators tell chains and contracts apart, and encode the chain ID as it was given, exactly for
chain IDs up to `2^63`. -/
theorem domains_separated_iff (size : a.length = 20) (size' : b.length = 20)
    (free : Set.InjOn keccak256
      {separatorInput keccak256 (newDomain c a), separatorInput keccak256 (newDomain d b)}) :
    (((newDomain c a).separator keccak256 = (newDomain d b).separator keccak256 → c = d ∧ a = b) ∧
      chainWord (newDomain c a) = padLeft (Bytes.ofNat c.toNat) 32 ∧
      chainWord (newDomain d b) = padLeft (Bytes.ofNat d.toNat) 32) ↔
    c.toNat ≤ 2 ^ 63 ∧ d.toNat ≤ 2 ^ 63 := by
  rw [separator_eq_iff size size' free, chainWord_eq_iff, chainWord_eq_iff]
  refine ⟨And.right, fun small => ⟨?_, small⟩⟩
  rintro ⟨contracts, same | sum⟩
  · exact ⟨same, contracts⟩
  · exact ⟨UInt64.toNat_inj.mp (by omega), contracts⟩

theorem domains_separated_iff_sample :
    (newDomain 1 (List.replicate 20 9)).separator remainderHash ≠
      (newDomain 42161 (List.replicate 20 9)).separator remainderHash := by
  have apart : remainderHash (separatorInput remainderHash (newDomain 1 (List.replicate 20 9))) ≠
      remainderHash (separatorInput remainderHash (newDomain 42161 (List.replicate 20 9))) := by
    decide +kernel
  have free : Set.InjOn remainderHash
      {separatorInput remainderHash (newDomain 1 (List.replicate 20 9)),
        separatorInput remainderHash (newDomain 42161 (List.replicate 20 9))} := by
    rintro _ (rfl | rfl) _ (rfl | rfl) same
    · rfl
    · exact absurd same apart
    · exact absurd same.symm apart
    · rfl
  intro same
  have separated := ((domains_separated_iff rfl rfl free).mpr ⟨by decide, by decide⟩).1 same
  exact absurd separated.1 (by decide)

/-- Chain 1 and chain `2^64 - 1` share their separators, whatever the hash. -/
theorem domains_share_separator :
    (1 : UInt64) ≠ 0xFFFFFFFFFFFFFFFF ∧ ∀ keccak256 a,
      (newDomain 1 a).separator keccak256 = (newDomain 0xFFFFFFFFFFFFFFFF a).separator keccak256 :=
  ⟨by decide, fun _ _ => rfl⟩

end Sdsce.Guarantees.TypedData
