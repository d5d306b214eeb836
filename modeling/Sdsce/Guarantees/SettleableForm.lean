import Sdsce.Guarantees.SessionHistory
import Sdsce.Source.Aggregator

/-!
# What the chain can settle

The acceptance paths keep whatever 256-bit value and whatever recoverable signature a message
carries, and the collect calldata repeats both as they are. The contract is stricter: the value
is a `uint128`, V is 27 or 28 and S lies in the lower half of the group order.
-/
namespace Sdsce.Guarantees

open Sdsce.Theory Sdsce.Source

/-- What the on-chain verifier requires of a collect call, whose signature is R, S, V. -/
structure ChainSettles (call : CollectCall) : Prop where
  value : call.rav.valueAggregate ≤ 2 ^ 128 - 1
  v : (call.signature.getLastD 0).toNat ∈ [27, 28]
  s : Bytes.toNat ((call.signature.drop 32).take 32) ≤ secp256k1HalfN

/-- The same of a RAV on the wire, whose signature is V, R, S. -/
structure WireSettles (psr : Proto.SignedRAV) : Prop where
  value : ∀ rav value, psr.rav = some rav → rav.valueAggregate = some value →
    value.toBigInt ≤ 2 ^ 128 - 1
  v : (psr.signature.headD 0).toNat ∈ [27, 28]
  s : Bytes.toNat (psr.signature.drop 33) ≤ secp256k1HalfN

theorem ravSignatureRSV_v (sig : Signature) :
    ((Collector.ravSignatureRSV sig).getLastD 0).toNat = sig.v := by
  simp [Collector.ravSignatureRSV, Signature.v]

theorem ravSignatureRSV_s (sig : Signature) :
    Bytes.toNat (((Collector.ravSignatureRSV sig).drop 32).take 32) = sig.s := by
  have r : ((sig.bytes.drop 1).take 32).length = 32 := by simp [sig.size]
  have s : (sig.bytes.drop 33).length = 32 := by simp [sig.size]
  rw [Collector.ravSignatureRSV, List.append_assoc, List.drop_left' r, List.take_left' s,
    Signature.s]

theorem packQueryFeeCollect_settles {psr : Proto.SignedRAV} {rav : SignedRAV}
    (wire : WireSettles psr) (converted : protoSignedRAVToHorizon psr = .ok rav) (cut : UInt64) :
    ChainSettles (Collector.packQueryFeeCollect rav cut) := by
  obtain ⟨signature, pr, value, given, _, carried, same⟩ := protoSignedRAVToHorizon_ok converted
  refine ⟨?_, ?_, ?_⟩
  · change rav.message.valueAggregate ≤ _
    rw [same]
    exact wire.value pr value given carried
  · change ((Collector.ravSignatureRSV rav.signature).getLastD 0).toNat ∈ _
    rw [ravSignatureRSV_v, Signature.v, signature]
    exact wire.v
  · change Bytes.toNat (((Collector.ravSignatureRSV rav.signature).drop 32).take 32) ≤ _
    rw [ravSignatureRSV_s, Signature.s, signature]
    exact wire.s

/-- In every run of a gateway that is only ever handed RAVs in the form the chain wants, every
stored RAV can be settled. -/
theorem stored_rav_settles (g : Gateway) (pool : Pool)
    (wire : ∀ i, ∀ psr ∈ submissions (pool i), WireSettles psr)
    {c : Config Act ThreadId World Reply} (run : machine.Reach (boot g pool) c) {id : String}
    {session : Session} {rav : SignedRAV}
    (present : c.shared.store.sessions.lookup id = some session)
    (held : session.currentRAV = some rav) (cut : UInt64) :
    ChainSettles (Collector.packQueryFeeCollect rav cut) := by
  have last := ((boot_sound run).lastSessions id).symm.trans present
  obtain ⟨i, kind, member, accepts⟩ :=
    Accountable.accepted (boot_accountable run) (lastSession_stored last) held
  obtain ⟨⟨psr, given, converted⟩, _⟩ := Accountable.vetted (boot_accountable run) member accepts
  exact packQueryFeeCollect_settles (wire i psr given) converted cut

/-- The payer of a RAV starts a session with it. -/
def startPool (psr : Proto.SignedRAV) : Pool :=
  Sample.pool [.startSession ⟨some ⟨psr.rav.bind (·.payer), some Sample.serviceProvider,
    some Sample.dataService⟩, some psr⟩]

def started (g : Gateway) (psr : Proto.SignedRAV) : Config Act ThreadId World Reply :=
  machine.play [Sample.whole 0] (boot g (startPool psr))

theorem stored_rav_settles_started : ∃ session rav,
    (started Sample.gateway (Sample.signed (Sample.rav 1))).shared.store.sessions.lookup "s" =
      some session ∧ session.currentRAV = some rav ∧
    (∀ i, ∀ psr ∈ submissions (startPool (Sample.signed (Sample.rav 1)) i), WireSettles psr) ∧
    ChainSettles (Collector.packQueryFeeCollect rav 0) := by
  have wire : ∀ i, ∀ psr ∈ submissions (startPool (Sample.signed (Sample.rav 1)) i),
      WireSettles psr := by
    intro i psr given
    cases i with
    | zero =>
      cases List.mem_singleton.mp given
      refine ⟨?_, by decide +kernel, by decide +kernel⟩
      intro rav value message carried
      cases message
      cases carried
      decide +kernel
    | succ i => cases given
  have found : (ravOf (started Sample.gateway (Sample.signed (Sample.rav 1))).shared.store
      "s").isSome := by decide +kernel
  obtain ⟨rav, held⟩ := Option.isSome_iff_exists.mp found
  obtain ⟨session, present, current⟩ := Option.bind_eq_some_iff.mp held
  exact ⟨session, rav, present, current, wire,
    stored_rav_settles Sample.gateway _ wire (Machine.play_reach _ _) present current 0⟩

/-! ## Two RAVs of one key

The payer's private key is 1, and its RAVs are signed under `NewDomain(42161, 0x0505…05)`. -/

def keyAddress : Address := Bytes.ofNat 0x7e5f4552091a69125d5dfcb7b8c2659029395bdf

/-- A RAV of the payer under V = 27, this R and this S. -/
def signedByKey (value r s : Nat) : Proto.SignedRAV :=
  ⟨some { Sample.rav value with payer := some keyAddress }, 27 :: Bytes.ofNat r ++ Bytes.ofNat s⟩

/-- A value of 2^128 under a signature in the form the chain wants. -/
def oversized : Proto.SignedRAV :=
  signedByKey (2 ^ 128) 0x79be667ef9dcbbac55a06295ce870b07029bfcdb2dce28d959f2815b16f81798
    0x7f33faf2e61402440cc97aba7f7b71cb0dd25454ea9e114c08e4dee9304ada2d

/-- A value of 1 under a signature whose S lies in the upper half. -/
def upperHalf : Proto.SignedRAV :=
  signedByKey 1 0x79be667ef9dcbbac55a06295ce870b07029bfcdb2dce28d959f2815b16f81798
    0xc56cfaa8f906d006f65ef36007556bc72bbee91255282813ef381777a117ebba

/-- What the recovery answers for these two signatures; all others are refused. -/
def recovering : Gateway :=
  { Sample.gateway with
    recoverSigner := fun rav =>
      if horizonSignedRAVToProto rav ∈ [oversized, upperHalf] then .ok keyAddress
      else .error "invalid signature" }

theorem exists_stored {g : Gateway} {psr : Proto.SignedRAV} {P : SignedRAV → Prop} [DecidablePred P]
    (stored : (ravOf (started g psr).shared.store "s").map (fun rav => decide (P rav)) =
      some true) :
    ∃ c session rav, machine.Reach (boot g (startPool psr)) c ∧
      c.shared.store.sessions.lookup "s" = some session ∧
      session.currentRAV = some rav ∧ P rav := by
  obtain ⟨rav, held, carried⟩ := Option.map_eq_some_iff.mp stored
  obtain ⟨session, present, current⟩ := Option.bind_eq_some_iff.mp held
  exact ⟨_, session, rav, Machine.play_reach _ _, present, current, of_decide_eq_true carried⟩

/-- `StartSession` stores RAVs that the chain will not settle: one for its value alone, the other
for its signature alone. -/
theorem stored_rav_unsettleable :
    (∃ c session rav, machine.Reach (boot recovering (startPool oversized)) c ∧
      c.shared.store.sessions.lookup "s" = some session ∧
      session.currentRAV = some rav ∧ rav.message.valueAggregate = 2 ^ 128 ∧
      rav.signature.v ∈ [27, 28] ∧ rav.signature.s ≤ secp256k1HalfN ∧
      ∀ cut, ¬ ChainSettles (Collector.packQueryFeeCollect rav cut)) ∧
    ∃ c session rav, machine.Reach (boot recovering (startPool upperHalf)) c ∧
      c.shared.store.sessions.lookup "s" = some session ∧
      session.currentRAV = some rav ∧ rav.message.valueAggregate = 1 ∧
      rav.signature.v ∈ [27, 28] ∧ rav.signature.s < secp256k1N ∧
      ∀ cut, ¬ ChainSettles (Collector.packQueryFeeCollect rav cut) := by
  constructor
  · have stored : (ravOf (started recovering oversized).shared.store "s").map (fun rav =>
        decide (rav.message.valueAggregate = 2 ^ 128 ∧ rav.signature.v ∈ [27, 28] ∧
          rav.signature.s ≤ secp256k1HalfN)) = some true := by
      decide +kernel
    obtain ⟨c, session, rav, run, present, held, value, v, s⟩ := exists_stored stored
    refine ⟨c, session, rav, run, present, held, value, v, s, fun cut settles => ?_⟩
    have small : rav.message.valueAggregate ≤ 2 ^ 128 - 1 := settles.value
    omega
  · have stored : (ravOf (started recovering upperHalf).shared.store "s").map (fun rav =>
        decide (rav.message.valueAggregate = 1 ∧ rav.signature.v ∈ [27, 28] ∧
          rav.signature.s < secp256k1N ∧ secp256k1HalfN < rav.signature.s)) = some true := by
      decide +kernel
    obtain ⟨c, session, rav, run, present, held, value, v, below, upper⟩ := exists_stored stored
    refine ⟨c, session, rav, run, present, held, value, v, below, fun cut settles => ?_⟩
    have lower := settles.s
    change Bytes.toNat (((Collector.ravSignatureRSV rav.signature).drop 32).take 32) ≤ _ at lower
    rw [ravSignatureRSV_s] at lower
    exact absurd upper (Nat.not_lt.mpr lower)

end Sdsce.Guarantees
