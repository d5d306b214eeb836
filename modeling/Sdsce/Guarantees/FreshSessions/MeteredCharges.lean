import Sdsce.Guarantees.FreshSessions
import Sdsce.Guarantees.PaymentCoverage

/-!
# What a sidecar signs is what the gateway has metered

The sidecar adds the cost that a request asks for to the RAV that the request quotes. Together the
two parties charge each unit of cost once, however requests, payments and reports interleave.
-/
namespace Sdsce.Guarantees.FreshSessions

open Sdsce.Theory Sdsce.Source

variable {g : Gateway} {pool : Pool} {s : Consumer.Sidecar} {ops : Consumer.StreamId → Consumer.Op}
  {c : Deployment}

theorem reached_delivered (run : payments.Reach (deploy g pool s ops) c) :
    delivered c.first.shared c.second.shared = true := by
  cases run with
  | refl => rfl
  | tail _ step =>
    cases step with
    | first _ agrees | second _ agrees => exact agrees

/-- A RAV that came over the wire keeps its value on the way back. -/
theorem quoted_value {psr : Proto.SignedRAV} {held quoted : SignedRAV}
    (came : protoSignedRAVToHorizon psr = .ok held)
    (quotes : protoSignedRAVToHorizon (horizonSignedRAVToProto held) = .ok quoted) :
    quoted.message.valueAggregate = held.message.valueAggregate := by
  obtain ⟨_, _, wire, _, _, _, value⟩ := protoSignedRAVToHorizon_ok came
  obtain ⟨_, _, _, given, _, carries, back⟩ := protoSignedRAVToHorizon_ok quotes
  cases given
  cases carries
  rw [back, value]
  exact Proto.GRT.toBigInt_fromBigInt wire.toBigInt_nonneg wire.toNative.bigInt_lt

/-- In every run of a gateway and a sidecar, a RAV signed for a request is worth the value that
some session was opened with and the cost that the session had run up when it was requested, so at
most what it has run up now. -/
theorem signed_is_metered (run : payments.Reach (deploy g pool s ops) c)
    (fits : ∀ id, CostsFit c.first.shared.history id)
    (stream : ∀ id, OnStream pool id c.first.shared.history) {k : Consumer.StreamId}
    {session : Consumer.LocalSession} {req : Consumer.RAVRequest} {rav : SignedRAV}
    (signed : ⟨k, .signed session req rav⟩ ∈ c.second.shared.history) :
    ∃ id first metered current, firstSession c.first.shared.history id = some first ∧
      Stored c.first.shared.history id metered ∧
      c.first.shared.store.sessions.lookup id = some current ∧
      rav.message.valueAggregate = first.ravValue + metered.totalCost ∧
      metered.totalCost ≤ current.totalCost := by
  have accountable := boot_accountable run.first
  obtain ⟨_, grown, received, ⟨quoted, cost, extends_⟩, _⟩ :=
    (Spending.boot_justified run.second).of_mem signed
  have earlier := (List.prefix_append _ _).trans grown
  obtain ⟨j, id, _, _, noted, rfl⟩ :=
    delivered_request (reached_delivered run) (earlier.subset received)
  -- The request quotes the RAV and the unpaid cost of one and the same stored session.
  obtain ⟨_, grown, metered, held, before, holds, rfl, rfl⟩ := accountable.of_mem noted
  have stored := before.mono ((List.prefix_append _ _).trans grown)
  obtain ⟨i, kind, member, accepts⟩ := accountable.accepted stored holds
  obtain ⟨⟨psr, _, came⟩, _⟩ := accountable.vetted member accepts
  have value := quoted_value came (except_of_toOption extends_.quotes)
  obtain ⟨current, last⟩ := stored.lastSession
  obtain ⟨first, opened, each⟩ := accountable_balanced accountable last (fits id)
  obtain ⟨charged, grows⟩ := each metered stored
  have asks : requestedCost metered = cost := Option.some.inj extends_.asks
  have worth : held.message.valueAggregate = metered.ravValue := by rw [Session.ravValue, holds]
  have paid := charged.exact (stream id)
  have unpaid := (requestedCost_eq (fits id metered stored)).trans charged.delta
  refine ⟨id, first, metered, current, opened, stored,
    ((boot_sound run.first).lastSessions id).trans last, ?_, grows⟩
  rw [extends_.value, value, worth, paid, ← asks, unpaid]
  omega

theorem signed_is_metered_once : ∃ id first metered current,
    firstSession paidOnce.first.shared.history id = some first ∧
    Stored paidOnce.first.shared.history id metered ∧
    paidOnce.first.shared.store.sessions.lookup id = some current ∧
    1 = first.ravValue + metered.totalCost ∧ metered.totalCost ≤ current.totalCost := by
  have run : payments.Reach twoSessions paidOnce := Link.play_reach _ _
  have signed : ⟨0, .signed { Spending.payingSession 0 with id := "a" }
      (Spending.requestFor (Spending.signedFor .zero 0) 1 1) (Spending.signedFor .zero 1)⟩ ∈
      paidOnce.second.shared.history := by decide +kernel
  refine signed_is_metered run (fun id => costsFit_of_entries id (by decide +kernel)) ?_ signed
  rintro _ (_ | _ | _ | _ | _ | _ | _) _ _ _ _ _ _ _ _ ⟨⟩

end Sdsce.Guarantees.FreshSessions
