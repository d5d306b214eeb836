import Sdsce.Guarantees.Aggregation

/-!
# One signature in several forms

Recovery reads the header byte `27 + recoveryID`, with 4 more for a compressed key, and does not
look at that flag; it takes `S` and `N - S` alike. `normalizeSignature` makes one byte string of the
two values of `S`. It keeps the flag, so the two headers of one signature stay two byte strings.
-/
namespace Sdsce.Guarantees.ReceiptSignatures

open Sdsce.Theory Sdsce.Source Sdsce.Source.Aggregator Sdsce.Guarantees.Aggregation

/-- The recovery ID of a header that is at least 27. -/
def recoveryID (sig : Signature) : Nat := (sig.v - 27) % 4

/-- The flag of a compressed key. -/
def compressed (sig : Signature) : Bool := 31 ≤ sig.v

/-- The signatures that recovery does not refuse at once. -/
structure Readable (sig : Signature) : Prop where
  header : 27 ≤ sig.v ∧ sig.v ≤ 34
  positive : 1 ≤ sig.s
  below : sig.s < secp256k1N

/-- The recovery ID that goes with `N - S`. -/
def otherID (id : Nat) : Nat := id ^^^ 1

/-- Two forms of one ECDSA signature: the same `R`, and the same `S` or the opposite one with the
other parity; the flags may differ. -/
def SameSignature (x y : Signature) : Prop :=
  x.r = y.r ∧ ((x.s = y.s ∧ recoveryID x = recoveryID y) ∨
    (x.s + y.s = secp256k1N ∧ recoveryID x = otherID (recoveryID y)))

instance (x y : Signature) : Decidable (SameSignature x y) := inferInstanceAs (Decidable (_ ∧ _))

/-- What is known of the recovery of a signer: it reads compact headers, and gives the same answer
for all forms of a signature. -/
structure CompactRecovery (recover : Signature → List UInt8 → Except String Address) : Prop where
  reads : ∀ {sig hash signer}, recover sig hash = .ok signer → Readable sig
  same : ∀ {x y} hash, Readable x → Readable y → SameSignature x y → recover x hash = recover y hash

/-! ## The normal form -/

theorem header_same : ∀ k < 8, ∀ l < 8, k % 4 = l % 4 → decide (4 ≤ k) = decide (4 ≤ l) →
    UInt8.ofNat (27 + k) = UInt8.ofNat (27 + l) := by
  decide

theorem header_flipped : ∀ k < 8, ∀ l < 8, k % 4 = otherID (l % 4) →
    decide (4 ≤ k) = decide (4 ≤ l) →
    flipSignatureV (UInt8.ofNat (27 + k)) = UInt8.ofNat (27 + l) := by
  decide

variable {x y : Signature}

/-- The header of a signature. -/
def headerByte (sig : Signature) : UInt8 := sig.bytes.headD 0

/-- The word of `R`. -/
def wordR (sig : Signature) : List UInt8 := (sig.bytes.drop 1).take 32

theorem bytes_eq (sig : Signature) :
    sig.bytes = headerByte sig :: (wordR sig ++ padLeft (Bytes.ofNat sig.s) 32) := by
  have size : (sig.bytes.drop 33).length = 32 := by
    rw [List.length_drop, sig.size]
  have wordS : padLeft (Bytes.ofNat sig.s) 32 = sig.bytes.drop 33 := by
    rw [← size]
    exact padLeft_ofNat_toNat _
  rw [wordS]
  have some : sig.bytes ≠ [] := by
    intro empty
    have := sig.size
    rw [empty] at this
    cases this
  obtain ⟨head, tail, split⟩ := List.exists_cons_of_ne_nil some
  simp only [headerByte, wordR, split, List.headD_cons, List.drop_succ_cons, List.drop_zero,
    List.take_append_drop]

theorem wordR_eq (same : x.r = y.r) : wordR x = wordR y := by
  refine Bytes.toNat_inj ?_ same
  simp [wordR, x.size, y.size]

theorem length_wordR (sig : Signature) : (wordR sig).length = 32 := by
  simp [wordR, sig.size]

theorem size_parts (sig : Signature) (v : UInt8) (s : Nat) :
    (v :: (wordR sig ++ padLeft (Bytes.ofNat s) 32)).length = 65 := by
  rw [List.length_cons, List.length_append, length_wordR, length_padLeft]

/-- The signature `(flipSignatureV(V), R, N - S)`. -/
def flipped (sig : Signature) : Signature :=
  ⟨flipSignatureV (headerByte sig) :: (wordR sig ++ padLeft (Bytes.ofNat (secp256k1N - sig.s)) 32),
    size_parts sig _ _⟩

/-- The form of a signature with `S` in the lower half. -/
def canonical (sig : Signature) : Signature := if secp256k1HalfN < sig.s then flipped sig else sig

theorem wordR_flipped (sig : Signature) : wordR (flipped sig) = wordR sig :=
  List.take_left' (length_wordR sig)

theorem s_flipped (sig : Signature) : (flipped sig).s = secp256k1N - sig.s := by
  have word : (flipped sig).bytes.drop 33 = padLeft (Bytes.ofNat (secp256k1N - sig.s)) 32 :=
    List.drop_left' (length_wordR sig)
  rw [Signature.s, word]
  refine toNat_padLeft_ofNat (Nat.lt_of_le_of_lt (Nat.sub_le _ _) ?_)
  decide

theorem secp256k1N_odd : secp256k1N = 2 * secp256k1HalfN + 1 := by
  decide

variable {sig : Signature}

theorem normalizeSignature_eq (below : sig.s < secp256k1N) :
    normalizeSignature sig = (canonical sig).bytes := by
  unfold normalizeSignature canonical
  split
  · have opposite : ((secp256k1N : Int) - sig.s).natAbs = secp256k1N - sig.s := by omega
    simp only [opposite]
    rfl
  · rfl

theorem s_canonical_le (sig : Signature) : (canonical sig).s ≤ secp256k1HalfN := by
  have odd := secp256k1N_odd
  unfold canonical
  split
  · rw [s_flipped]
    omega
  · omega

theorem canonical_canonical (sig : Signature) : canonical (canonical sig) = canonical sig :=
  if_neg (not_lt.mpr (s_canonical_le sig))

/-- A header with the recovery ID 0 or 1, or a header byte of eth-go. -/
structure Normalizable (sig : Signature) : Prop where
  header : sig.v ≤ 1 ∨ 27 ≤ sig.v ∧ sig.v ≤ 34
  positive : 0 < sig.s
  below : sig.s < secp256k1N

theorem flipSignatureV_flipSignatureV : ∀ v < 35, v ≤ 1 ∨ 27 ≤ v →
    flipSignatureV (flipSignatureV (UInt8.ofNat v)) = UInt8.ofNat v := by
  decide

theorem ofNat_v (sig : Signature) : UInt8.ofNat sig.v = headerByte sig := by
  simp [Signature.v, headerByte]

namespace Normalizable

theorem flipped_flipped (valid : Normalizable sig) : flipped (flipped sig) = sig := by
  have opposite : secp256k1N - (secp256k1N - sig.s) = sig.s := Nat.sub_sub_self valid.below.le
  have header : flipSignatureV (headerByte (flipped sig)) = headerByte sig := by
    have twice := flipSignatureV_flipSignatureV sig.v (by have := valid.header; omega)
      (valid.header.imp_right And.left)
    rwa [ofNat_v] at twice
  rw [flipped, Signature.mk.injEq, wordR_flipped, s_flipped, opposite, header]
  exact (bytes_eq sig).symm

theorem canonical_flipped (valid : Normalizable sig) : canonical (flipped sig) = canonical sig := by
  have odd := secp256k1N_odd
  have := valid.below
  unfold canonical
  rw [s_flipped]
  by_cases upper : secp256k1HalfN < sig.s
  · rw [if_pos upper, if_neg (by omega)]
  · rw [if_neg upper, if_pos (by omega), valid.flipped_flipped]

/-- Two signatures have one canonical form if they are equal up to the flip, and only then. -/
theorem canonical_eq_iff (valid : Normalizable x) (valid' : Normalizable y) :
    canonical x = canonical y ↔ y = x ∨ y = flipped x := by
  constructor
  · intro same
    have back := valid.flipped_flipped
    have back' := valid'.flipped_flipped
    unfold canonical at same
    split at same <;> split at same
    · exact .inl (by rw [← back', ← same, back])
    · exact .inr same.symm
    · exact .inr (by rw [same, back'])
    · exact .inl same.symm
  · rintro (rfl | rfl)
    · rfl
    · exact valid.canonical_flipped.symm

end Normalizable

/-- On the signatures of the curve the normal form has `S` in the lower half, is its own normal form
and is the same for the flipped signature; `SignaturesEqual` is an equivalence relation, of the
signatures that are equal up to the flip. -/
theorem signature_canonical_form (valid : Normalizable x) (valid' : Normalizable y) :
    (∃ normal : Signature, normal.bytes = normalizeSignature x ∧ normal.s ≤ secp256k1HalfN ∧
        normalizeSignature normal = normalizeSignature x) ∧
      normalizeSignature (flipped x) = normalizeSignature x ∧
      Equivalence (fun a b => signaturesEqual a b = true) ∧
      (signaturesEqual x y = true ↔ y = x ∨ y = flipped x) := by
  have below : (canonical x).s < secp256k1N := by
    have := s_canonical_le x
    have := secp256k1N_odd
    omega
  have below' : (flipped x).s < secp256k1N := by
    have := valid.positive
    have := valid.below
    rw [s_flipped]
    omega
  refine ⟨⟨canonical x, ?_, s_canonical_le x, ?_⟩, ?_, ?_, ?_⟩
  · rw [normalizeSignature_eq valid.below]
  · rw [normalizeSignature_eq below, normalizeSignature_eq valid.below, canonical_canonical]
  · rw [normalizeSignature_eq below', normalizeSignature_eq valid.below, valid.canonical_flipped]
  · simp only [signaturesEqual, decide_eq_true_eq]
    exact ⟨fun _ => rfl, Eq.symm, Eq.trans⟩
  · rw [← valid.canonical_eq_iff valid', signaturesEqual, decide_eq_true_eq,
      normalizeSignature_eq valid.below, normalizeSignature_eq valid'.below]
    exact ⟨Signature.ext, congrArg Signature.bytes⟩

/-- A signature with `R = 1`, `S = 1` and this header. -/
def headed (v : UInt8) : Signature :=
  ⟨v :: (List.replicate 31 0 ++ 1 :: (List.replicate 31 0 ++ [1])), rfl⟩

theorem signature_canonical_form_flipped :
    signaturesEqual (headed 27) (flipped (headed 27)) = true ∧
      signaturesEqual (headed 27) (headed 28) = false := by
  have valid (v : UInt8) (header : v = 27 ∨ v = 28) : Normalizable (headed v) := by
    obtain rfl | rfl := header <;> exact ⟨by decide, by decide +kernel, by decide +kernel⟩
  have valid' : Normalizable (flipped (headed 27)) :=
    ⟨by decide, by decide +kernel, by decide +kernel⟩
  obtain ⟨_, _, _, same⟩ := signature_canonical_form (valid 27 (.inl rfl)) valid'
  obtain ⟨_, _, _, other⟩ := signature_canonical_form (valid 27 (.inl rfl)) (valid 28 (.inr rfl))
  refine ⟨same.mpr (.inr rfl), Bool.eq_false_iff.mpr fun equal => ?_⟩
  exact absurd (other.mp equal) (by decide +kernel)

/-! ## Forms of one signature -/

/-- A readable header is 27 and an offset below 8, whose parts are the recovery ID and the flag. -/
theorem Readable.offset (readable : Readable sig) :
    sig.v - 27 < 8 ∧ headerByte sig = UInt8.ofNat (27 + (sig.v - 27)) ∧
      compressed sig = decide (4 ≤ sig.v - 27) := by
  obtain ⟨low, high⟩ := readable.header
  refine ⟨by omega, ?_, ?_⟩
  · rw [show 27 + (sig.v - 27) = sig.v by omega, ofNat_v]
  · unfold compressed
    rw [decide_eq_decide]
    omega

theorem Readable.normalizable (readable : Readable sig) : Normalizable sig :=
  ⟨.inr readable.header, readable.positive, readable.below⟩

/-- Forms of one signature with the same flag have one normal form. -/
theorem normalizeSignature_same (readable : Readable x) (readable' : Readable y)
    (same : SameSignature x y) (flag : compressed x = compressed y) :
    normalizeSignature x = normalizeSignature y := by
  obtain ⟨small, headerX, flagX⟩ := readable.offset
  obtain ⟨small', headerY, flagY⟩ := readable'.offset
  rw [flagX, flagY] at flag
  rw [normalizeSignature_eq readable.below, normalizeSignature_eq readable'.below]
  refine congrArg Signature.bytes
    ((readable.normalizable.canonical_eq_iff readable'.normalizable).mpr ?_)
  have word := wordR_eq same.1
  obtain ⟨s, id⟩ | ⟨opposite, id⟩ := same.2
  · left
    have header : headerByte x = headerByte y := by
      rw [headerX, headerY]
      exact header_same _ small _ small' id flag
    exact Signature.ext (by rw [bytes_eq y, bytes_eq x, header, word, s])
  · right
    have header : flipSignatureV (headerByte x) = headerByte y := by
      rw [headerX, headerY]
      exact header_flipped _ small _ small' id flag
    have s : secp256k1N - x.s = y.s := by omega
    refine Signature.ext ((bytes_eq y).trans ?_)
    rw [← header, ← word, ← s]
    rfl

/-! ## Accepted receipts -/

/-- For receipts that were accepted: no two of them carry one message under forms of one signature,
exactly if no two of them carry one message under forms of one signature with different flags. -/
theorem receipts_counted_once_iff {a : Aggregator} {receipts : List SignedReceipt}
    {previousRAV : Option SignedRAV} {rav : SignedRAV} (recovery : CompactRecovery a.recover)
    (accepted : a.aggregateReceipts receipts previousRAV = .ok rav) :
    receipts.Pairwise (fun r r' =>
        ¬(r.message = r'.message ∧ SameSignature r.signature r'.signature)) ↔
      receipts.Pairwise fun r r' => r.message = r'.message →
        SameSignature r.signature r'.signature →
          compressed r.signature = compressed r'.signature := by
  obtain ⟨valid, _⟩ := aggregateReceipts_ok accepted
  have readable (r : SignedReceipt) (member : r ∈ receipts) : Readable r.signature := by
    obtain ⟨signer, recovered, _⟩ := valid.genuine r member
    unfold recoverSigner at recovered
    split at recovered
    · cases recovered
    · split at recovered
      · cases recovered
      · next answer => exact recovery.reads answer
  have unique : receipts.Pairwise fun r r' =>
      normalizeSignature r.signature ≠ normalizeSignature r'.signature :=
    List.pairwise_map.mp valid.unique
  constructor
  · intro once
    exact once.imp fun apart message same => absurd ⟨message, same⟩ apart
  intro flags
  refine (unique.and flags).imp_of_mem fun member member' ⟨different, flag⟩ => ?_
  rintro ⟨message, same⟩
  exact different (normalizeSignature_same (readable _ member) (readable _ member') same
    (flag message same))

/-- Recovery of a single signer from every readable signature. -/
def recoverReadable (sig : Signature) (_ : List UInt8) : Except String Address :=
  if 27 ≤ sig.v ∧ sig.v ≤ 34 ∧ 1 ≤ sig.s ∧ sig.s < secp256k1N then .ok signer
  else .error "invalid signature"

theorem recoverReadable_compact : CompactRecovery recoverReadable where
  reads recovered := by
    unfold recoverReadable at recovered
    split at recovered
    · next fits => exact ⟨⟨fits.1, fits.2.1⟩, fits.2.2.1, fits.2.2.2⟩
    · cases recovered
  same hash readable readable' _ := by
    have fits {sig : Signature} (readable : Readable sig) :
        recoverReadable sig hash = .ok signer :=
      if_pos ⟨readable.header.1, readable.header.2, readable.positive, readable.below⟩
    rw [fits readable, fits readable']

def reader : Aggregator := { sample with recover := recoverReadable }

def twoReceipts : List SignedReceipt := [⟨receiptOf 5 3, headed 27⟩, ⟨receiptOf 6 4, headed 28⟩]

def repeatedReceipt : List SignedReceipt := [⟨receiptOf 5 3, headed 27⟩, ⟨receiptOf 5 3, headed 31⟩]

theorem receipts_counted_once_iff_sample :
    ∃ rav, reader.aggregateReceipts twoReceipts none = .ok rav ∧
      twoReceipts.Pairwise fun r r' =>
        ¬(r.message = r'.message ∧ SameSignature r.signature r'.signature) := by
  have both : messageOf (reader.aggregateReceipts twoReceipts none) =
      some { tenUnits.message with timestampNs := 6, valueAggregate := 7 } := by
    decide +kernel
  obtain ⟨rav, accepted, _⟩ := messageOf_eq_some.mp both
  refine ⟨rav, accepted, (receipts_counted_once_iff recoverReadable_compact accepted).mpr ?_⟩
  decide +kernel

/-- The same signature with the headers 27 and 31: one receipt of three units counts twice. -/
theorem receipt_counted_twice :
    CompactRecovery reader.recover ∧ SameSignature (headed 27) (headed 31) ∧
      ∃ rav, reader.aggregateReceipts repeatedReceipt none = .ok rav ∧
        rav.message.valueAggregate = 6 := by
  have twice : messageOf (reader.aggregateReceipts repeatedReceipt none) =
      some { tenUnits.message with timestampNs := 5, valueAggregate := 6 } := by
    decide +kernel
  obtain ⟨rav, accepted, message⟩ := messageOf_eq_some.mp twice
  exact ⟨recoverReadable_compact, by decide +kernel, rav, accepted, by rw [message]⟩

end Sdsce.Guarantees.ReceiptSignatures
