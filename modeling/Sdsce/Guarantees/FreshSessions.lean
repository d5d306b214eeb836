import Sdsce.Guarantees.SessionHistory
import Sdsce.Guarantees.Spending.SidecarSpending
import Sdsce.Theory.Composition
import Sdsce.Theory.Cumulative

/-!
# Sessions of one sidecar at one provider

Every session that the sidecar starts begins with the zero collection ID, the gateway quotes the
RAV it holds, and the sidecar signs under the quoted collection ID. So all sessions between one
payer, provider and data service settle on one account, and the chain pays the largest of their
RAVs instead of the sum.
-/
namespace Sdsce.Guarantees.FreshSessions

open Sdsce.Theory Sdsce.Source

/-! ## Sidecar and gateway together -/

def acceptedRAVs (h : History) : List SignedRAV := h.filterMap fun event => acceptedRAV event.kind

/-- The RAV requests that the gateway has dispatched, as the sidecar reads them. -/
def madeRequests (h : History) : List Consumer.RAVRequest :=
  h.filterMap fun event =>
    match event.kind with
    | .note (.requested _ currentRav usage) => some ⟨some currentRav, some usage⟩
    | _ => none

def sentRAVs (h : Consumer.History) : List Proto.SignedRAV :=
  h.filterMap fun entry =>
    match entry.kind with
    | .sent psr => some psr
    | _ => none

def receivedRequests (h : Consumer.History) : List Consumer.RAVRequest :=
  h.filterMap fun entry =>
    match entry.kind with
    | .received req => some req
    | _ => none

/-- Every RAV that the gateway has accepted was sent by the sidecar, and every request that the
sidecar has received was made by the gateway. -/
def delivered (w : World) (s : Consumer.State) : Bool :=
  ((acceptedRAVs w.history).all fun rav => (sentRAVs s.history).any fun psr =>
    (protoSignedRAVToHorizon psr).toOption = some rav) &&
  (receivedRequests s.history).all fun req => (madeRequests w.history).contains req

/-- The gateway and the sidecar that pays it. -/
def payments : Link Act Consumer.SidecarAct ThreadId Consumer.StreamId Oracle
    Consumer.SidecarOracle World Consumer.State :=
  ⟨machine, Consumer.machine, delivered⟩

abbrev Deployment :=
  Both Act Consumer.SidecarAct ThreadId Consumer.StreamId World Consumer.State Reply Consumer.Reply

def deploy (g : Gateway) (pool : Pool) (s : Consumer.Sidecar)
    (ops : Consumer.StreamId → Consumer.Op) : Deployment :=
  ⟨boot g pool, Consumer.boot s ops⟩

section Delivered

variable {w : World} {s : Consumer.State}

theorem delivered_accepted (agrees : delivered w s = true) {rav : SignedRAV}
    (accepted : rav ∈ acceptedRAVs w.history) :
    ∃ psr ∈ sentRAVs s.history, protoSignedRAVToHorizon psr = .ok rav := by
  simp only [delivered, Bool.and_eq_true, List.all_eq_true, List.any_eq_true,
    decide_eq_true_eq] at agrees
  obtain ⟨psr, sent, converts⟩ := agrees.1 rav accepted
  exact ⟨psr, sent, except_of_toOption converts⟩

theorem delivered_request (agrees : delivered w s = true) {i : Consumer.StreamId}
    {req : Consumer.RAVRequest} (received : ⟨i, .received req⟩ ∈ s.history) :
    ∃ j id currentRav usage, ⟨j, .note (.requested id currentRav usage)⟩ ∈ w.history ∧
      req = ⟨some currentRav, some usage⟩ := by
  simp only [delivered, Bool.and_eq_true, List.all_eq_true, List.contains_iff_mem] at agrees
  have made := agrees.2 req (List.mem_filterMap.mpr ⟨_, received, rfl⟩)
  obtain ⟨⟨j, kind⟩, member, reads⟩ := List.mem_filterMap.mp made
  split at reads
  · next id currentRav usage noted =>
      cases noted
      cases reads
      exact ⟨j, id, currentRav, usage, member, rfl⟩
  · cases reads

end Delivered

/-! ## The collection ID of every RAV -/

/-- All RAVs between the two are of the zero collection. -/
structure ZeroCollection (c : Deployment) : Prop where
  accepted : ∀ rav ∈ acceptedRAVs c.first.shared.history, rav.message.collectionID = .zero
  sent : ∀ psr ∈ sentRAVs c.second.shared.history, ∀ rav, protoSignedRAVToHorizon psr = .ok rav →
    rav.message.collectionID = .zero

variable {g : Gateway} {pool : Pool} {s : Consumer.Sidecar} {ops : Consumer.StreamId → Consumer.Op}
  {c : Deployment}

/-- A request quotes a RAV that the gateway has accepted. -/
theorem requested_accepted {j : ThreadId} {id : String} {currentRav : Proto.SignedRAV}
    {usage : Proto.Usage} {h : History} (accountable : Accountable (providerPolicy g pool) h)
    (noted : ⟨j, .note (.requested id currentRav usage)⟩ ∈ h) :
    ∃ rav ∈ acceptedRAVs h, currentRav = horizonSignedRAVToProto rav := by
  obtain ⟨before, grown, session, rav, stored, held, quotes, _⟩ := accountable.of_mem noted
  have earlier : before <+: h := (List.prefix_append _ _).trans grown
  obtain ⟨i, kind, member, accepts⟩ := Accountable.accepted accountable (stored.mono earlier) held
  exact ⟨rav, List.mem_filterMap.mpr ⟨_, member, accepts⟩, quotes⟩

/-- What the sidecar sends is its opening RAV or extends a RAV that the gateway has accepted. -/
theorem sent_zero (run : payments.Reach (deploy g pool s ops) c)
    (agrees : delivered c.first.shared c.second.shared = true)
    (zero : ∀ rav ∈ acceptedRAVs c.first.shared.history, rav.message.collectionID = .zero)
    {psr : Proto.SignedRAV} (sent : psr ∈ sentRAVs c.second.shared.history) {rav : SignedRAV}
    (converted : protoSignedRAVToHorizon psr = .ok rav) : rav.message.collectionID = .zero := by
  have justified := Spending.boot_justified run.second
  obtain ⟨⟨i, kind⟩, member, reads⟩ := List.mem_filterMap.mp sent
  split at reads
  · next _ same =>
      cases same
      cases reads
      obtain ⟨before, grown, hsr, rfl, origin⟩ := justified.of_mem member
      rw [horizonSignedRAVToProto_collectionID converted]
      rcases origin with zero | ⟨session, req, signed⟩
      · exact zero
      have earlier : before <+: c.second.shared.history := (List.prefix_append _ _).trans grown
      obtain ⟨before', grown', received, ⟨quoted, cost, extends_⟩, _⟩ :=
        justified.of_mem (earlier.subset signed)
      have earlier' : before' <+: c.second.shared.history := (List.prefix_append _ _).trans grown'
      obtain ⟨j, id, currentRav, usage, noted, rfl⟩ :=
        delivered_request agrees (earlier'.subset received)
      obtain ⟨held, accepted, rfl⟩ := requested_accepted (boot_accountable run.first) noted
      rw [extends_.collectionID]
      rw [horizonSignedRAVToProto_collectionID (except_of_toOption extends_.quotes)]
      exact zero held accepted
  · cases reads

theorem zeroCollection (run : payments.Reach (deploy g pool s ops) c) : ZeroCollection c := by
  induction run with
  | refl => exact ⟨nofun, nofun⟩
  | @tail mid last before step ih =>
    have whole := Relation.ReflTransGen.tail before step
    cases step with
    | first step agrees =>
      refine ⟨fun rav accepted => ?_, ih.sent⟩
      obtain ⟨psr, sent, converted⟩ := delivered_accepted agrees accepted
      exact ih.sent psr sent rav converted
    | second step agrees =>
      exact ⟨ih.accepted, fun psr sent rav => sent_zero whole agrees ih.accepted sent⟩

/-! ## Settlement -/

/-- The account that the collector contract keeps a total for. -/
structure Account where
  collectionID : CollectionID
  payer : Address
  serviceProvider : Address
  dataService : Address
deriving DecidableEq

/-- What collecting a RAV claims on chain. -/
def claim (rav : SignedRAV) : Account × Int :=
  (⟨rav.message.collectionID, rav.message.payer, rav.message.serviceProvider,
    rav.message.dataService⟩, rav.message.valueAggregate)

/-- What the chain pays when the RAVs of some sessions are collected in this order. -/
def paidOnChain (finals : List (String × SignedRAV)) : Int :=
  settle (fun _ => 0) (finals.map fun final => claim final.2)

/-- The sum that the sessions have agreed on. -/
def agreedTotal (finals : List (String × SignedRAV)) : Int :=
  (finals.map fun final => final.2.message.valueAggregate).sum

/-- The RAVs are the last ones that the gateway has accepted for sessions of these parties. -/
def Finals (w : World) (payer dataService : Address) (finals : List (String × SignedRAV)) : Prop :=
  ∀ final ∈ finals, ravOf w.store final.1 = some final.2 ∧ final.2.message.payer = payer ∧
    final.2.message.dataService = dataService

/-- A RAV that the gateway holds is of the zero collection, names the provider and is not
negative. -/
theorem held_claim (run : payments.Reach (deploy g pool s ops) c) {id : String} {rav : SignedRAV}
    (held : ravOf c.first.shared.store id = some rav) :
    rav.message.collectionID = .zero ∧ rav.message.serviceProvider = g.serviceProvider ∧
      0 ≤ rav.message.valueAggregate := by
  have accountable := boot_accountable run.first
  obtain ⟨session, present, current⟩ := Option.bind_eq_some_iff.mp held
  obtain ⟨i, kind, member, accepts⟩ :=
    Accountable.accepted accountable ((boot_sound run.first).stored id session present) current
  obtain ⟨⟨psr, _, converted⟩, provider⟩ := Accountable.vetted accountable member accepts
  obtain ⟨_, _, value, _, _, _, same⟩ := protoSignedRAVToHorizon_ok converted
  refine ⟨(zeroCollection run).accepted rav ?_, provider, same ▸ value.toBigInt_nonneg⟩
  exact List.mem_filterMap.mpr ⟨_, member, accepts⟩

/-- In every run of a gateway and a sidecar, in whatever order the last accepted RAVs of sessions
between one payer and data service are collected, the chain pays their sum exactly when at most
one of them is positive. -/
theorem fresh_sessions_settle_iff (g : Gateway) (pool : Pool) (s : Consumer.Sidecar)
    (ops : Consumer.StreamId → Consumer.Op) {c : Deployment}
    (run : payments.Reach (deploy g pool s ops) c) {payer dataService : Address}
    {finals : List (String × SignedRAV)} (last : Finals c.first.shared payer dataService finals) :
    paidOnChain finals = agreedTotal finals ↔ finals.Pairwise fun a b =>
      a.2.message.valueAggregate = 0 ∨ b.2.message.valueAggregate = 0 := by
  have one : ∀ due ∈ finals.map fun final => claim final.2,
      due.1 = ⟨.zero, payer, g.serviceProvider, dataService⟩ := by
    intro due member
    obtain ⟨final, final_mem, rfl⟩ := List.mem_map.mp member
    obtain ⟨held, payer, service⟩ := last final final_mem
    obtain ⟨collection, provider, _⟩ := held_claim run held
    simp only [claim, collection, provider, payer, service]
  have nonneg : ∀ value ∈ finals.map fun final => final.2.message.valueAggregate, 0 ≤ value := by
    intro value member
    obtain ⟨final, final_mem, rfl⟩ := List.mem_map.mp member
    exact (held_claim run (last final final_mem).1).2.2
  have total : paidOnChain finals =
      (finals.map fun final => final.2.message.valueAggregate).foldl max 0 := by
    have largest := add_settle (fun _ : Account => (0 : Int)) one
    rw [zero_add, List.map_map] at largest
    exact largest
  rw [total, agreedTotal, foldl_max_eq_sum_iff nonneg, List.pairwise_map]

/-! ## Two sessions -/

def opening : Handler :=
  .startSession ⟨some ⟨some Sample.payer, some Sample.serviceProvider, some Sample.dataService⟩,
    some (horizonSignedRAVToProto (Spending.signedFor .zero 0))⟩

def oneBlock (id : String) : Handler := .report [some ⟨id, some 0, [some ⟨"blocks", 1⟩]⟩]

/-- The stream that pays for one block. -/
def paying (id : String) : Handler :=
  .paymentSession [.request ⟨id, some (.ravSubmission (some
    ⟨some (horizonSignedRAVToProto (Spending.signedFor .zero 1)), some (Sample.usage 1)⟩))⟩]

def twoSessions : Deployment :=
  deploy Sample.gateway (Sample.pool [opening, oneBlock "a", paying "a", opening, oneBlock "b",
    paying "b"]) Spending.signsAll Spending.oneProvider

abbrev JointTurn := (ThreadId × Oracle × Nat) ⊕ (Consumer.StreamId × Consumer.SidecarOracle × Nat)

/-- A handler of the gateway runs until it returns or waits for the sidecar. -/
def handles (i : ThreadId) (id : String) : JointTurn := .inl (i, { text := id }, 200)

/-- A stream of the sidecar makes `n` steps. -/
def streams (i : Consumer.StreamId) (id : String) (n : Nat) : JointTurn :=
  .inr (i, {
    started := .ok { Spending.accepts with sessionId := id }
    message := .ok (.ravRequest (Spending.requestFor (Spending.signedFor .zero 0) 1 1)) }, n)

/-- Stream `k` opens session `id` and pays for one block of it; the gateway serves it with the
threads from `n` on. -/
def session (id : String) (k : Consumer.StreamId) (n : ThreadId) : List JointTurn :=
  [streams k id 8, handles n id, handles (n + 1) id, handles (n + 2) id, streams k id 6,
    handles (n + 2) id]

/-- Session `a` has paid for its block, session `b` has just been opened. -/
def paidOnce : Deployment := payments.play (session "a" 0 0 ++ (session "b" 1 3).take 2) twoSessions

/-- Both sessions have paid for their block. -/
def paidBoth : Deployment := payments.play (session "a" 0 0 ++ session "b" 1 3) twoSessions

/-- The RAV of `value`, as the gateway holds it. -/
def final (id : String) (value : Int) : String × SignedRAV := (id, Spending.signedFor .zero value)

theorem fresh_sessions_settle_once :
    Finals paidOnce.first.shared Sample.payer Sample.dataService [final "b" 0, final "a" 1] ∧
    paidOnChain [final "b" 0, final "a" 1] = agreedTotal [final "b" 0, final "a" 1] := by
  have last : Finals paidOnce.first.shared Sample.payer Sample.dataService
      [final "b" 0, final "a" 1] := by
    unfold Finals
    decide +kernel
  have apart : [final "b" 0, final "a" 1].Pairwise fun a b =>
      a.2.message.valueAggregate = 0 ∨ b.2.message.valueAggregate = 0 := by decide
  have run : payments.Reach twoSessions paidOnce := Link.play_reach _ _
  exact ⟨last, (fresh_sessions_settle_iff Sample.gateway _ Spending.signsAll Spending.oneProvider
    run last).mpr apart⟩

/-- Two sessions end with a RAV of value one each, and the chain pays one in all. -/
theorem fresh_sessions_underpaid :
    ¬ ∀ (g : Gateway) (pool : Pool) (s : Consumer.Sidecar) (ops : Consumer.StreamId → Consumer.Op)
      (c : Deployment) (payer dataService : Address) (finals : List (String × SignedRAV)),
      payments.Reach (deploy g pool s ops) c → Finals c.first.shared payer dataService finals →
      (finals.map Prod.fst).Nodup → paidOnChain finals = agreedTotal finals := by
  intro settles
  have last : Finals paidBoth.first.shared Sample.payer Sample.dataService
      [final "a" 1, final "b" 1] := by
    unfold Finals
    decide +kernel
  have run : payments.Reach twoSessions paidBoth := Link.play_reach _ _
  have total := settles Sample.gateway _ Spending.signsAll Spending.oneProvider paidBoth _ _ _
    run last (by decide)
  revert total
  decide +kernel

end Sdsce.Guarantees.FreshSessions
