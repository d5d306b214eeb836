import Sdsce.Guarantees.Spending.SidecarSpending
import Sdsce.Source.Aggregator

/-!
# What a RAV request makes the consumer sign

`signRAVForRequest` adds the cost of a request to the value of the RAV that the request quotes.
Both are at most `2 ^ 256 - 1`, and nothing compares their sum with a `uint128`: the encoder panics
when it needs more than 32 bytes, and below that it is signed.
-/
namespace Sdsce.Guarantees.Spending

open Sdsce.Theory Sdsce.Source Sdsce.Source.Consumer

/-- The RAV that a request asks for; none for a request that is refused. -/
def requestedRAV (session : LocalSession) (req : Option RAVRequest) (now : Time) : Option RAV := do
  let req ← req
  let current ← quotedRAV req
  let cost ← askedCost req
  return {
    collectionID := current.message.collectionID
    payer := session.payer
    serviceProvider := session.receiver
    dataService := session.dataService
    timestampNs := unixNano now
    valueAggregate := current.message.valueAggregate + cost
    metadata := [] }

theorem signRAVForRequest_requested (s : Sidecar) (session : LocalSession)
    (req : Option RAVRequest) (now : Time) :
    (requestedRAV session req now = none ∧
      ∃ err, s.signRAVForRequest session req now = .error (.failed err)) ∨
    ∃ rav, requestedRAV session req now = some rav ∧
      s.signRAVForRequest session req now = s.signRAV rav := by
  cases req with
  | none => exact .inl ⟨rfl, _, rfl⟩
  | some req =>
    unfold Sidecar.signRAVForRequest
    dsimp only
    split
    · next missing => exact .inl ⟨by simp [requestedRAV, quotedRAV, missing], _, rfl⟩
    rename_i currentRav given
    split
    · next missing => exact .inl ⟨by simp [requestedRAV, askedCost, missing], _, rfl⟩
    rename_i usage asked
    split
    · next missing =>
        exact .inl ⟨by simp [requestedRAV, askedCost, asked, missing], _, rfl⟩
    rename_i cost priced
    split
    · next err invalid =>
        refine .inl ⟨?_, _, rfl⟩
        simp [requestedRAV, quotedRAV, given, invalid, Except.toOption]
    · next current converted =>
        refine .inr ⟨_, ?_, rfl⟩
        simp [requestedRAV, quotedRAV, askedCost, given, asked, priced, converted, Except.toOption]

theorem requestedRAV_nonneg {session : LocalSession} {req : Option RAVRequest} {now : Time}
    {rav : RAV} (requested : requestedRAV session req now = some rav) :
    0 ≤ rav.valueAggregate := by
  simp only [requestedRAV, Option.bind_eq_bind, Option.bind_eq_some_iff, Option.pure_def,
    Option.some.injEq] at requested
  obtain ⟨req, _, current, quoted, cost, asked, rfl⟩ := requested
  unfold quotedRAV at quoted
  obtain ⟨psr, _, converted⟩ := Option.bind_eq_some_iff.mp quoted
  obtain ⟨_, _, value, _, _, _, same⟩ := protoSignedRAVToHorizon_ok (except_of_toOption converted)
  unfold askedCost at asked
  obtain ⟨grt, _, rfl⟩ := Option.map_eq_some_iff.mp asked
  have quotedValue := value.toBigInt_nonneg
  have askedValue := grt.toBigInt_nonneg
  dsimp only
  omega

/-- `encodeUint128` fails on numbers of more than 32 bytes, and on no others. -/
theorem encodeUint128_eq_none {value : Int} :
    encodeUint128 value = none ↔ 2 ^ 256 ≤ value.natAbs := by
  have size : (Bytes.ofNat value.natAbs).length ≤ 32 ↔ value.natAbs < 256 ^ 32 :=
    Bytes.length_ofNat_le_iff
  have width : 256 ^ 32 = 2 ^ 256 := by norm_num
  rw [width] at size
  unfold encodeUint128
  dsimp only
  split
  · next fits => exact ⟨nofun, fun large => absurd (size.mp fits) (not_lt.mpr large)⟩
  · next large => exact ⟨fun _ => not_lt.mp fun small => large (size.mpr small), fun _ => rfl⟩

/-- A signature panics just when the encoder of the value does. -/
theorem signRAV_panics {s : Sidecar} {rav : RAV} :
    s.signRAV rav = .error .panic ↔ encodeUint128 rav.valueAggregate = none := by
  rw [encodeUint128_eq_none]
  unfold Sidecar.signRAV
  split
  · next large => exact ⟨fun _ => large, fun _ => rfl⟩
  rename_i small
  refine ⟨fun panics => ?_, fun large => absurd large small⟩
  split at panics
  · cases panics
  · cases panics

theorem signRAV_ok {s : Sidecar} {rav : RAV} :
    (∃ signed, s.signRAV rav = .ok signed) ↔
      encodeUint128 rav.valueAggregate ≠ none ∧ ∃ signature, s.sign rav = .ok signature := by
  rw [Ne, encodeUint128_eq_none]
  unfold Sidecar.signRAV
  split
  · next large => exact ⟨nofun, fun both => absurd large both.1⟩
  rename_i small
  split
  · next err refused =>
      refine ⟨nofun, fun ⟨_, signature, accepted⟩ => ?_⟩
      cases refused.symm.trans accepted
  · next signature accepted =>
      exact ⟨fun _ => ⟨small, signature, accepted⟩, fun _ => ⟨_, rfl⟩⟩

/-- Signing on a request does not panic and signs no more than a `uint128`, unless the RAV that is
asked for is worth more and the key signs it or the encoder cannot hold it. -/
theorem signing_bounded_iff (s : Sidecar) (session : LocalSession) (req : Option RAVRequest)
    (now : Time) :
    (s.signRAVForRequest session req now ≠ .error .panic ∧
      ∀ signed, s.signRAVForRequest session req now = .ok signed →
        signed.message.valueAggregate ≤ maxUint128) ↔
    ∀ rav, requestedRAV session req now = some rav → rav.valueAggregate ≤ maxUint128 ∨
      (rav.valueAggregate < 2 ^ 256 ∧ ∃ err, s.sign rav = .error err) := by
  obtain ⟨refused, err, failed⟩ | ⟨rav, requested, signs⟩ :=
    signRAVForRequest_requested s session req now
  · rw [refused, failed]
    exact ⟨fun _ => nofun, fun _ => ⟨nofun, nofun⟩⟩
  have nonneg := requestedRAV_nonneg requested
  have fits : encodeUint128 rav.valueAggregate ≠ none ↔ rav.valueAggregate < 2 ^ 256 := by
    rw [Ne, encodeUint128_eq_none]
    omega
  rw [requested, signs, Ne, signRAV_panics, ← Ne, fits]
  constructor
  · rintro ⟨encodes, bounded⟩ _ ⟨⟩
    cases outcome : s.sign rav with
    | error err => exact .inr ⟨encodes, err, rfl⟩
    | ok signature =>
      obtain ⟨signed, accepted⟩ := signRAV_ok.mpr ⟨fits.mpr encodes, signature, outcome⟩
      exact .inl (signRAV_message accepted ▸ bounded signed accepted)
  · intro condition
    obtain bounded | ⟨encodes, err, refuses⟩ := condition rav rfl
    · refine ⟨lt_of_le_of_lt bounded (by decide), fun signed accepted => ?_⟩
      rw [signRAV_message accepted]
      exact bounded
    · refine ⟨encodes, fun signed accepted => ?_⟩
      obtain ⟨_, signature, accepts⟩ := signRAV_ok.mp ⟨signed, accepted⟩
      cases refuses.symm.trans accepts

/-- A request that quotes a RAV of this value and asks for one more unit. -/
def oneMore (value : List UInt8) : RAVRequest where
  currentRav := some ⟨some {
    collectionId := CollectionID.zero.bytes
    payer := some (List.replicate 20 1)
    dataService := some (List.replicate 20 3)
    serviceProvider := some (List.replicate 20 2)
    timestampNs := 0
    valueAggregate := some ⟨value⟩
    metadata := [] }, 27 :: List.replicate 64 1⟩
  usage := some ⟨1, 0, 0, some ⟨[1]⟩⟩

def paying : LocalSession where
  id := "s"
  payer := List.replicate 20 1
  receiver := List.replicate 20 2
  dataService := List.replicate 20 3

/-- A request on top of `2 ^ 256 - 1` panics, and one on top of `2 ^ 128 - 1` is signed for
`2 ^ 128`. -/
theorem signing_unbounded :
    signsAll.signRAVForRequest paying (some (oneMore (List.replicate 32 255))) 0 = .error .panic ∧
    ∃ signed, signsAll.signRAVForRequest paying (some (oneMore (List.replicate 16 255))) 0 =
      .ok signed ∧ signed.message.valueAggregate = 2 ^ 128 := by
  refine ⟨by decide +kernel, ?_⟩
  have value : (signsAll.signRAVForRequest paying (some (oneMore (List.replicate 16 255)))
      0).toOption.map (·.message.valueAggregate) = some (2 ^ 128) := by
    decide +kernel
  obtain ⟨signed, accepted, same⟩ := Option.map_eq_some_iff.mp value
  exact ⟨signed, except_of_toOption accepted, same⟩

end Sdsce.Guarantees.Spending
