import Mathlib.Algebra.Order.BigOperators.Group.List
import Sdsce.Source.Aggregator

/-!
# What an aggregated voucher says

Every pass of `AggregateReceipts` over the receipts accepts or refuses them whatever their order,
and the voucher it makes is determined by the receipts as a collection: their common fields, the
sum of their values and the latest of their timestamps, each continued from the previous RAV.
-/
namespace Sdsce.Guarantees.Aggregation

open Sdsce.Theory Sdsce.Source Sdsce.Source.Aggregator

/-! ## The passes -/

variable {receipts rest receipts' : List SignedReceipt} {a : Aggregator}
  {previousRAV : Option SignedRAV} {first latest : UInt64} {message : RAV} {rav : SignedRAV}

theorem checkSignaturesUnique_ok {seen : List (List UInt8)} :
    checkSignaturesUnique seen receipts = .ok () ↔
      (receipts.map fun r => normalizeSignature r.signature).Nodup ∧
        ∀ r ∈ receipts, normalizeSignature r.signature ∉ seen := by
  induction receipts generalizing seen with
  | nil => simp [checkSignaturesUnique]
  | cons r rest ih =>
    unfold checkSignaturesUnique
    dsimp only
    split
    · next duplicate =>
        constructor
        · nofun
        · rintro ⟨_, fresh⟩
          exact absurd duplicate (fresh r List.mem_cons_self)
    rename_i fresh
    rw [ih, List.map_cons, List.nodup_cons]
    simp only [List.mem_map, List.mem_cons, not_or]
    constructor
    · rintro ⟨nodup, apart⟩
      refine ⟨⟨fun ⟨s, member, same⟩ => (apart s member).1 same, nodup⟩, ?_⟩
      rintro s (rfl | member)
      · exact fresh
      · exact (apart s member).2
    · rintro ⟨⟨new, nodup⟩, unseen⟩
      exact ⟨nodup, fun s member => ⟨fun same => new ⟨s, member, same⟩, unseen s (.inr member)⟩⟩

/-- The receipt is signed by an accepted signer. -/
def Genuine (a : Aggregator) (r : SignedReceipt) : Prop :=
  ∃ signer, a.recoverSigner (r.message.hashTypedData a.keccak256 a.domain) r.signature =
    .ok signer ∧ a.accepts signer = true

theorem verifyReceiptSigners_ok :
    a.verifyReceiptSigners receipts = .ok () ↔ ∀ r ∈ receipts, Genuine a r := by
  induction receipts with
  | nil => simp [verifyReceiptSigners]
  | cons r rest ih =>
    rw [List.forall_mem_cons, ← ih, verifyReceiptSigners]
    split
    · next err failed =>
        constructor
        · nofun
        · rintro ⟨⟨signer, recovered, _⟩, _⟩
          cases failed.symm.trans recovered
    rename_i signer recovered
    split
    · next accepted =>
        exact ⟨fun others => ⟨⟨signer, recovered, accepted⟩, others⟩, And.right⟩
    rename_i refused
    constructor
    · nofun
    · rintro ⟨⟨signer', recovered', accepted⟩, _⟩
      cases recovered.symm.trans recovered'
      exact absurd accepted refused

theorem checkTimestampsAfter_ok {ravTimestamp : UInt64} :
    checkTimestampsAfter ravTimestamp receipts = .ok () ↔
      ∀ r ∈ receipts, ravTimestamp < r.message.timestampNs := by
  induction receipts with
  | nil => simp [checkTimestampsAfter]
  | cons r rest ih =>
    rw [List.forall_mem_cons, ← ih, checkTimestampsAfter]
    split
    · next early =>
        constructor
        · nofun
        · exact fun later => absurd later.1 (UInt64.not_lt.mpr early)
    · next later => exact ⟨fun others => ⟨UInt64.not_le.mp later, others⟩, And.right⟩

theorem compareFields_ok {x y : SettlementFields} : compareFields x y = .ok () ↔ x = y := by
  obtain ⟨collectionID, payer, serviceProvider, dataService⟩ := x
  obtain ⟨collectionID', payer', serviceProvider', dataService'⟩ := y
  simp only [SettlementFields.mk.injEq]
  unfold compareFields addressesEqual
  split
  · next differ => exact ⟨nofun, fun same => absurd same.1 differ⟩
  rename_i collection
  split
  · next differ => exact ⟨nofun, fun same => absurd same.2.1 (of_decide_eq_false differ)⟩
  rename_i payers
  split
  · next differ => exact ⟨nofun, fun same => absurd same.2.2.1 (of_decide_eq_false differ)⟩
  rename_i providers
  split
  · next differ =>
      exact ⟨nofun, fun same => absurd same.2.2.2 (of_decide_eq_false differ)⟩
  · next services =>
      simp only [decide_eq_false_iff_not, not_not] at collection payers providers services
      exact ⟨fun _ => ⟨collection, payers, providers, services⟩, fun _ => rfl⟩

theorem compareWithFirst_ok {first : Receipt} :
    compareWithFirst first rest = .ok () ↔
      ∀ r ∈ rest, r.message.settlementFields = first.settlementFields := by
  induction rest with
  | nil => simp [compareWithFirst]
  | cons r rest ih =>
    rw [List.forall_mem_cons, ← ih, ← compareFields_ok, compareWithFirst]
    split
    · next differ => exact ⟨nofun, fun same => absurd (differ.symm.trans same.1) nofun⟩
    · next same => exact ⟨fun others => ⟨same, others⟩, And.right⟩

theorem onPrevious_ok {check : SignedRAV → Except AggregateError Unit} :
    onPrevious previousRAV check = .ok () ↔ ∀ p ∈ previousRAV, check p = .ok () := by
  cases previousRAV with
  | none | some => simp [onPrevious]

/-! ## The fold -/

/-- The sum of the receipts' values. -/
def total (receipts : List SignedReceipt) : Int := (receipts.map (·.message.value)).sum

/-- The latest of `first` and the receipts' timestamps. -/
structure Latest (first : UInt64) (receipts : List SignedReceipt) (latest : UInt64) : Prop where
  start : first ≤ latest
  all : ∀ r ∈ receipts, r.message.timestampNs ≤ latest
  attained : latest = first ∨ ∃ r ∈ receipts, r.message.timestampNs = latest

theorem Latest.unique {latest' : UInt64} (here : Latest first receipts latest)
    (there : Latest first receipts' latest') (same : ∀ r, r ∈ receipts ↔ r ∈ receipts') :
    latest = latest' := by
  refine UInt64.le_antisymm ?_ ?_
  · obtain rfl | ⟨r, member, rfl⟩ := here.attained
    · exact there.start
    · exact there.all r ((same r).mp member)
  · obtain rfl | ⟨r, member, rfl⟩ := there.attained
    · exact here.start
    · exact here.all r ((same r).mpr member)

theorem Latest.append {mid : UInt64} {others : List SignedReceipt}
    (here : Latest first receipts mid) (there : Latest mid others latest) :
    Latest first (receipts ++ others) latest where
  start := UInt64.le_trans here.start there.start
  all r member := by
    rcases List.mem_append.mp member with early | late
    · exact UInt64.le_trans (here.all r early) there.start
    · exact there.all r late
  attained := by
    obtain rfl | ⟨r, member, found⟩ := there.attained
    · obtain same | ⟨r, member, found⟩ := here.attained
      · exact .inl same
      · exact .inr ⟨r, List.mem_append_left _ member, found⟩
    · exact .inr ⟨r, List.mem_append_right _ member, found⟩

theorem Latest.later (timestampMax : UInt64) (r : SignedReceipt) :
    Latest timestampMax [r] (if timestampMax < r.message.timestampNs then r.message.timestampNs
      else timestampMax) := by
  split
  · next later =>
      exact ⟨UInt64.le_of_lt later, by simp, .inr ⟨r, List.mem_cons_self, rfl⟩⟩
  · next early => exact ⟨UInt64.le_refl _, by simpa using UInt64.not_lt.mp early, .inl rfl⟩

theorem addReceipts_ok {value value' : Int} {timestampMax : UInt64}
    (added : addReceipts value timestampMax receipts = .ok (value', latest)) :
    value' = value + total receipts ∧ Latest timestampMax receipts latest ∧
      (receipts ≠ [] → value' ≤ maxUint128) := by
  induction receipts generalizing value timestampMax with
  | nil =>
    cases added
    exact ⟨by simp [total], ⟨UInt64.le_refl _, nofun, .inl rfl⟩, fun some => absurd rfl some⟩
  | cons r rest ih =>
    unfold addReceipts at added
    dsimp only at added
    split at added
    · cases added
    rename_i fits
    obtain ⟨sum, latest, bounded⟩ := ih added
    refine ⟨?_, (Latest.later timestampMax r).append latest, fun _ => ?_⟩
    · rw [sum, total, total, List.map_cons, List.sum_cons, Int.add_assoc]
    cases rest with
    | nil =>
      rw [sum]
      simpa [total] using fits
    | cons s rest => exact bounded nofun

/-- Values that are not negative overflow only in the end, in whatever order they are added. -/
theorem addReceipts_fits (timestampMax : UInt64) {value : Int}
    (nonneg : ∀ r ∈ receipts, 0 ≤ r.message.value) (fits : value + total receipts ≤ maxUint128) :
    ∃ result, addReceipts value timestampMax receipts = .ok result := by
  induction receipts generalizing value timestampMax with
  | nil => exact ⟨_, rfl⟩
  | cons r rest ih =>
    rw [List.forall_mem_cons] at nonneg
    rw [total, List.map_cons, List.sum_cons, ← Int.add_assoc] at fits
    have others : 0 ≤ total rest := by
      refine List.sum_nonneg fun x member => ?_
      obtain ⟨s, held, rfl⟩ := List.mem_map.mp member
      exact nonneg.2 s held
    unfold addReceipts
    unfold total at others
    rw [if_neg (by omega)]
    exact ih _ nonneg.2 fits

/-! ## Acceptance -/

/-- What the passes ask of the receipts and the previous RAV. -/
structure Valid (a : Aggregator) (receipts : List SignedReceipt)
    (previousRAV : Option SignedRAV) : Prop where
  some : receipts ≠ []
  unique : (receipts.map fun r => normalizeSignature r.signature).Nodup
  genuine : ∀ r ∈ receipts, Genuine a r
  previous : ∀ p ∈ previousRAV, a.verifyRAVSigner p = .ok ()
  later : ∀ p ∈ previousRAV, ∀ r ∈ receipts, p.message.timestampNs < r.message.timestampNs
  alike : ∀ r ∈ receipts, ∀ s ∈ receipts, r.message.settlementFields = s.message.settlementFields
  continues : ∀ p ∈ previousRAV, ∀ r ∈ receipts,
    r.message.settlementFields = p.message.settlementFields

theorem Valid.perm (valid : Valid a receipts previousRAV) (perm : receipts.Perm receipts') :
    Valid a receipts' previousRAV where
  some empty := valid.some (List.Perm.eq_nil (empty ▸ perm))
  unique := (perm.map _).nodup_iff.mp valid.unique
  genuine r member := valid.genuine r (perm.mem_iff.mpr member)
  previous := valid.previous
  later p held r member := valid.later p held r (perm.mem_iff.mpr member)
  alike r member s other := valid.alike r (perm.mem_iff.mpr member) s (perm.mem_iff.mpr other)
  continues p held r member := valid.continues p held r (perm.mem_iff.mpr member)

/-- What the voucher says. -/
structure Totals (receipts : List SignedReceipt) (previousRAV : Option SignedRAV)
    (message : RAV) : Prop where
  fields : ∀ r ∈ receipts, r.message.settlementFields = message.settlementFields
  value : message.valueAggregate = previousValue previousRAV + total receipts
  latest : Latest (previousTimestamp previousRAV) receipts message.timestampNs
  metadata : message.metadata = []

theorem total_perm (perm : receipts.Perm receipts') : total receipts = total receipts' :=
  (perm.map _).sum_eq

theorem total_append (receipts others : List SignedReceipt) :
    total (receipts ++ others) = total receipts + total others := by
  rw [total, List.map_append, List.sum_append]
  rfl

theorem Totals.perm (totals : Totals receipts previousRAV message)
    (perm : receipts.Perm receipts') :
    Totals receipts' previousRAV message where
  fields r member := totals.fields r (perm.mem_iff.mpr member)
  value := total_perm perm ▸ totals.value
  latest := {
    start := totals.latest.start
    all := fun r member => totals.latest.all r (perm.mem_iff.mpr member)
    attained := totals.latest.attained.imp id fun ⟨r, member, found⟩ =>
      ⟨r, perm.mem_iff.mp member, found⟩ }
  metadata := totals.metadata

/-- The voucher is determined by the receipts. -/
theorem Totals.unique {message' : RAV} (some : receipts ≠ [])
    (here : Totals receipts previousRAV message) (there : Totals receipts previousRAV message') :
    message = message' := by
  obtain ⟨r, member⟩ := List.exists_mem_of_ne_nil receipts some
  have fields := (here.fields r member).symm.trans (there.fields r member)
  have value := here.value.trans there.value.symm
  have latest := here.latest.unique there.latest fun _ => Iff.rfl
  have metadata := here.metadata.trans there.metadata.symm
  obtain ⟨collectionID, payer, serviceProvider, dataService, timestampNs, valueAggregate,
    data⟩ := message
  obtain ⟨collectionID', payer', serviceProvider', dataService', timestampNs', valueAggregate',
    data'⟩ := message'
  obtain ⟨rfl, rfl, rfl, rfl⟩ := fields
  cases value
  cases latest
  cases metadata
  rfl

theorem aggregate_ok {first : SignedReceipt}
    (alike : ∀ r ∈ first :: rest, r.message.settlementFields = first.message.settlementFields)
    (aggregated : aggregate first rest previousRAV = .ok message) :
    Totals (first :: rest) previousRAV message ∧ message.valueAggregate ≤ maxUint128 := by
  unfold aggregate at aggregated
  split at aggregated
  · cases aggregated
  rename_i value latest added
  cases aggregated
  obtain ⟨sum, latest, bounded⟩ := addReceipts_ok added
  exact ⟨⟨alike, sum, latest, rfl⟩, bounded nofun⟩

/-- An accepted aggregation: the receipts are valid and the voucher says what they amount to. -/
theorem aggregateReceipts_ok (accepted : a.aggregateReceipts receipts previousRAV = .ok rav) :
    Valid a receipts previousRAV ∧ Totals receipts previousRAV rav.message ∧
      rav.message.valueAggregate ≤ maxUint128 ∧ a.signRAV rav.message = .ok rav := by
  unfold aggregateReceipts at accepted
  split at accepted
  · cases accepted
  rename_i first rest
  obtain ⟨_, unique, accepted⟩ := except_bind_ok accepted
  obtain ⟨_, genuine, accepted⟩ := except_bind_ok accepted
  obtain ⟨_, previous, accepted⟩ := except_bind_ok accepted
  obtain ⟨_, later, accepted⟩ := except_bind_ok accepted
  obtain ⟨_, consistent, accepted⟩ := except_bind_ok accepted
  obtain ⟨_, continues, accepted⟩ := except_bind_ok accepted
  obtain ⟨message, aggregated, signed⟩ := except_bind_ok accepted
  have alike : ∀ r ∈ first :: rest, r.message.settlementFields = first.message.settlementFields :=
    List.forall_mem_cons.mpr ⟨rfl, compareWithFirst_ok.mp consistent⟩
  obtain ⟨totals, bounded⟩ := aggregate_ok alike aggregated
  have same : rav.message = message := by
    unfold signRAV at signed
    split at signed
    · cases signed
    split at signed
    · cases signed
    · cases signed
      rfl
  rw [same]
  refine ⟨⟨nofun, (checkSignaturesUnique_ok.mp unique).1, verifyReceiptSigners_ok.mp genuine,
    onPrevious_ok.mp previous, ?_, fun r member s other => ?_, fun p held r member => ?_⟩,
    totals, bounded, signed⟩
  · rintro p rfl
    exact checkTimestampsAfter_ok.mp later
  · exact (alike r member).trans (alike s other).symm
  · exact (alike r member).trans (compareFields_ok.mp (onPrevious_ok.mp continues p held))

/-- Valid receipts that do not overflow are accepted, unless the key refuses to sign. -/
theorem aggregateReceipts_of_valid (valid : Valid a receipts previousRAV)
    (nonneg : ∀ r ∈ receipts, 0 ≤ r.message.value)
    (fits : previousValue previousRAV + total receipts ≤ maxUint128) :
    ∃ message, Totals receipts previousRAV message ∧
      a.aggregateReceipts receipts previousRAV = a.signRAV message := by
  cases receipts with
  | nil => exact absurd rfl valid.some
  | cons first rest =>
    have alike (r : SignedReceipt) (member : r ∈ first :: rest) :=
      valid.alike r member first List.mem_cons_self
    obtain ⟨⟨value, latest⟩, added⟩ := addReceipts_fits (previousTimestamp previousRAV) nonneg fits
    have aggregated : aggregate first rest previousRAV = .ok
        ⟨first.message.collectionID, first.message.payer, first.message.serviceProvider,
          first.message.dataService, latest, value, []⟩ := by
      unfold aggregate
      rw [added]
    refine ⟨_, (aggregate_ok alike aggregated).1, ?_⟩
    have unique := checkSignaturesUnique_ok.mpr ⟨valid.unique, fun _ _ => List.not_mem_nil⟩
    have genuine := verifyReceiptSigners_ok.mpr valid.genuine
    have previous := onPrevious_ok.mpr valid.previous
    have later : checkReceiptTimestamps (first :: rest) previousRAV = .ok () := by
      cases previousRAV with
      | none => rfl
      | some p => exact checkTimestampsAfter_ok.mpr (valid.later p rfl)
    have consistent : validateReceiptConsistency (first :: rest) = .ok () :=
      compareWithFirst_ok.mpr fun r member => alike r (List.mem_cons_of_mem _ member)
    have continues : onPrevious previousRAV (fun previous =>
        validateRAVConsistency first.message previous.message) = .ok () :=
      onPrevious_ok.mpr fun p held =>
        compareFields_ok.mpr (valid.continues p held first List.mem_cons_self)
    unfold aggregateReceipts
    simp only [unique, genuine, previous, later, consistent, continues, aggregated]
    rfl

/-! ## Exactness -/

/-- Values of a `uint128`. -/
def InRange (receipts : List SignedReceipt) (previousRAV : Option SignedRAV) : Prop :=
  (∀ r ∈ receipts, 0 ≤ r.message.value ∧ r.message.value ≤ maxUint128) ∧
    ∀ p ∈ previousRAV, 0 ≤ p.message.valueAggregate ∧ p.message.valueAggregate ≤ maxUint128

/-- The message of the voucher, if there is one. -/
def messageOf (result : Except AggregateError SignedRAV) : Option RAV :=
  result.toOption.map (·.message)

theorem messageOf_eq_some {result : Except AggregateError SignedRAV} :
    messageOf result = some message ↔ ∃ rav, result = .ok rav ∧ rav.message = message := by
  unfold messageOf
  cases result with
  | error | ok => simp [Except.toOption]

/-- Receipts that are accepted are accepted in every order. -/
theorem aggregateReceipts_perm (nonneg : ∀ r ∈ receipts, 0 ≤ r.message.value)
    (perm : receipts.Perm receipts')
    (accepted : a.aggregateReceipts receipts previousRAV = .ok rav) :
    a.aggregateReceipts receipts' previousRAV = .ok rav := by
  obtain ⟨valid, totals, bounded, signed⟩ := aggregateReceipts_ok accepted
  have fits : previousValue previousRAV + total receipts' ≤ maxUint128 := by
    rw [← total_perm perm, ← totals.value]
    exact bounded
  obtain ⟨message, totals', aggregated⟩ := aggregateReceipts_of_valid (valid.perm perm)
    (fun r member => nonneg r (perm.mem_iff.mpr member)) fits
  rw [aggregated, totals'.unique (valid.perm perm).some (totals.perm perm), signed]

/-- The voucher of two batches, one on top of the other, says what that of both together says. -/
theorem Totals.append {first second : List SignedReceipt} {mid : SignedRAV} (nonempty : second ≠ [])
    (here : Totals first previousRAV mid.message)
    (continues : ∀ r ∈ second, r.message.settlementFields = mid.message.settlementFields)
    (there : Totals second (some mid) message) : Totals (first ++ second) previousRAV message where
  fields r member := by
    obtain ⟨s, held⟩ := List.exists_mem_of_ne_nil second nonempty
    have same := (continues s held).symm.trans (there.fields s held)
    rcases List.mem_append.mp member with early | late
    · exact (here.fields r early).trans same
    · exact there.fields r late
  value := by
    have value : message.valueAggregate = mid.message.valueAggregate + total second := there.value
    rw [value, here.value, total_append, Int.add_assoc]
  latest := here.latest.append there.latest
  metadata := there.metadata

/-- Aggregation is exact, does not depend on the order of the receipts, and is incremental. -/
theorem aggregation_exact_incremental (a : Aggregator) :
    (∀ receipts previousRAV rav, InRange receipts previousRAV →
      a.aggregateReceipts receipts previousRAV = .ok rav →
        (∀ r ∈ receipts, r.message.settlementFields = rav.message.settlementFields) ∧
        rav.message.valueAggregate = previousValue previousRAV + total receipts ∧
        rav.message.valueAggregate ≤ maxUint128 ∧
        Latest (previousTimestamp previousRAV) receipts rav.message.timestampNs) ∧
    (∀ receipts receipts' previousRAV, InRange receipts previousRAV → receipts.Perm receipts' →
      messageOf (a.aggregateReceipts receipts previousRAV) =
        messageOf (a.aggregateReceipts receipts' previousRAV)) ∧
    (∀ first second previousRAV mid last joint, InRange (first ++ second) previousRAV →
      a.aggregateReceipts first previousRAV = .ok mid →
      a.aggregateReceipts second (some mid) = .ok last →
      a.aggregateReceipts (first ++ second) previousRAV = .ok joint →
        last.message = joint.message) := by
  refine ⟨fun receipts previousRAV rav _ accepted => ?_,
    fun receipts receipts' previousRAV range perm => ?_,
    fun first second previousRAV mid last joint _ before after together => ?_⟩
  · obtain ⟨_, totals, bounded, _⟩ := aggregateReceipts_ok accepted
    exact ⟨totals.fields, totals.value, bounded, totals.latest⟩
  · have nonneg (r : SignedReceipt) (member : r ∈ receipts) := (range.1 r member).1
    refine Option.ext fun message => ?_
    rw [messageOf_eq_some, messageOf_eq_some]
    constructor
    · rintro ⟨rav, accepted, rfl⟩
      exact ⟨rav, aggregateReceipts_perm nonneg perm accepted, rfl⟩
    · rintro ⟨rav, accepted, rfl⟩
      exact ⟨rav, aggregateReceipts_perm (fun r member => nonneg r (perm.mem_iff.mpr member))
        perm.symm accepted, rfl⟩
  · obtain ⟨_, totals, _⟩ := aggregateReceipts_ok before
    obtain ⟨valid, totals', _⟩ := aggregateReceipts_ok after
    obtain ⟨valid'', totals'', _⟩ := aggregateReceipts_ok together
    exact (totals.append valid.some (valid.continues mid rfl) totals').unique valid''.some totals''

/-! ## A small aggregator -/

/-- The single signer of the sample. -/
def signer : Address := List.replicate 20 7

/-- A signature with `R = 1` that differs in its last byte. -/
def stamp (n : UInt8) : Signature :=
  ⟨27 :: (List.replicate 31 0 ++ 1 :: (List.replicate 30 0 ++ [1, n])), rfl⟩

def receiptOf (timestampNs : UInt64) (value : Int) : Receipt where
  collectionID := .zero
  payer := List.replicate 20 1
  dataService := List.replicate 20 3
  serviceProvider := List.replicate 20 2
  timestampNs
  nonce := timestampNs
  value

def signedReceipt (timestampNs : UInt64) (value : Int) : SignedReceipt :=
  ⟨receiptOf timestampNs value, stamp timestampNs.toUInt8⟩

/-- A voucher over ten units. -/
def tenUnits : SignedRAV where
  message := {
    collectionID := .zero
    payer := List.replicate 20 1
    serviceProvider := List.replicate 20 2
    dataService := List.replicate 20 3
    timestampNs := 4
    valueAggregate := 10
    metadata := [] }
  signature := stamp 0

/-- Every signature is the signer's; the hash is left out. -/
def sample : Aggregator where
  keccak256 _ := []
  recover _ _ := .ok signer
  sign _ := .ok (stamp 0)
  domain := ⟨"GraphTallyCollector", "1", 42161, List.replicate 20 9⟩
  acceptedSigners := [signer]

/-- Three units and four on top of ten, in both orders. -/
theorem aggregation_exact_incremental_sample :
    messageOf (sample.aggregateReceipts [signedReceipt 6 3, signedReceipt 5 4] (some tenUnits)) =
      messageOf (sample.aggregateReceipts [signedReceipt 5 4, signedReceipt 6 3] (some tenUnits)) ∧
    (messageOf (sample.aggregateReceipts [signedReceipt 6 3, signedReceipt 5 4]
      (some tenUnits))).map (·.valueAggregate) = some 17 := by
  refine ⟨(aggregation_exact_incremental sample).2.1 _ _ _ ⟨?_, ?_⟩ (List.Perm.swap _ _ _), ?_⟩
  · decide
  · intro p held
    cases held
    decide
  · decide +kernel

/-! ## Negative values -/

/-- The encoder takes the magnitude, so a signature does not tell a value from its opposite. -/
theorem encodeUint128_neg (value : Int) : encodeUint128 (-value) = encodeUint128 value := by
  unfold encodeUint128
  rw [Int.natAbs_neg]

theorem hashTypedData_neg (keccak256 : List UInt8 → List UInt8) (domain : Domain) (r : Receipt) :
    { r with value := -r.value }.hashTypedData keccak256 domain =
      r.hashTypedData keccak256 domain := by
  simp only [Receipt.hashTypedData, Receipt.hashStruct, Receipt.eip712EncodeData, encodeUint128_neg]

/-- A voucher that was accepted is at least the previous one just when the values of the receipts,
as they were added, do not sum up to a loss. -/
theorem aggregation_not_lower_iff {a : Aggregator} {receipts : List SignedReceipt}
    {previous rav : SignedRAV} (accepted : a.aggregateReceipts receipts (some previous) = .ok rav) :
    previous.message.valueAggregate ≤ rav.message.valueAggregate ↔ 0 ≤ total receipts := by
  obtain ⟨_, totals, _⟩ := aggregateReceipts_ok accepted
  have value : rav.message.valueAggregate = previous.message.valueAggregate + total receipts :=
    totals.value
  omega

/-- A receipt over five units can be presented as one over minus five: its typed data is the same,
it is accepted, and the voucher of ten units becomes one of five. -/
theorem negative_receipt_lowers_voucher :
    (∀ keccak256 domain, (receiptOf 5 (-5)).hashTypedData keccak256 domain =
      (receiptOf 5 5).hashTypedData keccak256 domain) ∧
    ∃ rav, sample.aggregateReceipts [signedReceipt 5 (-5)] (some tenUnits) = .ok rav ∧
      rav.message.valueAggregate = 5 ∧ tenUnits.message.valueAggregate = 10 := by
  refine ⟨fun keccak256 domain => hashTypedData_neg keccak256 domain (receiptOf 5 5), ?_⟩
  have lowered : messageOf (sample.aggregateReceipts [signedReceipt 5 (-5)] (some tenUnits)) =
      some { tenUnits.message with timestampNs := 5, valueAggregate := 5 } := by
    decide +kernel
  obtain ⟨rav, accepted, message⟩ := messageOf_eq_some.mp lowered
  exact ⟨rav, accepted, message ▸ rfl, rfl⟩

theorem aggregation_not_lower_iff_sample :
    ∃ rav, sample.aggregateReceipts [signedReceipt 5 3] (some tenUnits) = .ok rav ∧
      (tenUnits.message.valueAggregate ≤ rav.message.valueAggregate ↔
        0 ≤ total [signedReceipt 5 3]) := by
  have raised : messageOf (sample.aggregateReceipts [signedReceipt 5 3] (some tenUnits)) =
      some { tenUnits.message with timestampNs := 5, valueAggregate := 13 } := by
    decide +kernel
  obtain ⟨rav, accepted, _⟩ := messageOf_eq_some.mp raised
  exact ⟨rav, accepted, aggregation_not_lower_iff accepted⟩

end Sdsce.Guarantees.Aggregation
