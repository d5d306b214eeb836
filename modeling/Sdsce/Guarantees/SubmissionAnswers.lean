import Sdsce.Guarantees.Completion
import Sdsce.Guarantees.SessionHistory

/-!
# Answers to exact submissions

A payment that answers the in-flight request exactly is refused for one reason only: its commit
finds the collection record of its tuple pending at another value, or collected at a larger one.
-/
namespace Sdsce.Guarantees

open Sdsce.Theory Sdsce.Source

/-- Every answer that a run has given to a submission was justified when it was given. -/
theorem answered_of_entry {g : Gateway} {pool : Pool} {h before after : History} {i : ThreadId}
    {id : String} {session : Session} {submission : SignedRAVSubmission}
    {pending : PendingRAVRequest} {response : PaymentSessionResponse}
    (accountable : Accountable (providerPolicy g pool) h)
    (split : h = before ++ ⟨i, .note (.answered id session submission pending response)⟩ :: after) :
    Answered g i before id session submission pending response := by
  rw [split, List.append_cons] at accountable
  exact (accountable.of_grown (List.prefix_append _ _)).last

/-- In every run: a submission that answers its in-flight request exactly is stored and answered
with CONTINUE, or it is answered with STOP because its commit met a record that is pending at
another value or collected at a larger one; and a handler that starts on a submission while
both mutexes are free returns an answer when it is left alone. -/
theorem exact_submission_answered (g : Gateway) (pool : Pool)
    {c : Config Act ThreadId World Reply} (run : machine.Reach (boot g pool) c) :
    (∀ before i id session submission pending response after,
      c.shared.history = before ++
        ⟨i, .note (.answered id session submission pending response)⟩ :: after →
      Answered g i before id session submission pending response) ∧
    (∀ i id session submission psr pending k e,
      c.threads i = (g.handleRAVSubmission id session (some submission)).bind k →
      submission.signedRav = some psr → c.shared.store.collectionMu = none →
      (evalState c.shared id).evalMu = none →
      (evalState c.shared id).pendingRAV = some pending → Uncontended e →
      ∃ n response, (machine.letRun i e n c).threads i = k response ∧
        ⟨i, .note (.answered id session submission pending response)⟩ ∈
          (machine.letRun i e n c).shared.history) := by
  constructor
  · intro before i id session submission pending response after split
    exact answered_of_entry (boot_accountable run) split
  intro i id session submission psr pending k e thread given collectionFree evalFree inFlight
    fair
  exact Machine.Finishes.letRun fair
    (handleRAVSubmission_finishes g i session given collectionFree evalFree inFlight) k rfl
    thread

/-- No collection record ever stands in the way of an exact submission. -/
def NeverRefused (g : Gateway) (h : History) : Prop :=
  ∀ before i id session submission pending response after,
    h = before ++ ⟨i, .note (.answered id session submission pending response)⟩ :: after →
    session.isActive = true →
    ∃ h₀, h₀ ++ [⟨i, .note (.inFlight id session submission pending)⟩] <+: before ∧
      ∀ rav signer, Exact g session submission pending rav signer →
        (∀ current, session.currentRAV = some current →
          rav.message.collectionID = current.message.collectionID) →
        (∀ answer, Since h₀ ⟨i, .note (.authorization session.payer signer answer)⟩ before →
          answer = .ok true) →
        response = continuePaymentSessionResponse ∧ ∃ old now, Since h₀ ⟨i, .swapped id old
          (.ravAndBaseline (some rav) pending.baselineBlocks pending.baselineBytes
            pending.baselineReqs pending.baselineCost now)⟩ before

/-! ## A session opened at 1 that owes two blocks

Its stream pays them with a RAV of 3 while a collect command may be at work on the record. -/
namespace Owing

def pool : Pool :=
  Sample.pool [Sample.start 1, Sample.report 2, Sample.pay (Sample.rav 3) 2, Sample.collect]

def submission : SignedRAVSubmission := ⟨some (Sample.signed (Sample.rav 3)), some (Sample.usage 2)⟩

def rav : SignedRAV where
  message := ⟨.zero, Sample.payer, Sample.serviceProvider, Sample.dataService, 0, 3, []⟩
  signature := ⟨27 :: List.replicate 64 1, by simp⟩

def pending : PendingRAVRequest where
  usage := Sample.usage 2
  currentRAVValue := 1
  targetValue := 3
  baselineBlocks := 2
  baselineBytes := 0
  baselineReqs := 0
  baselineCost := 2

/-- The session as it is stored. -/
def seen (c : Config Act ThreadId World Reply) : Session :=
  (c.shared.store.sessions.lookup "s").getD (.new "" [] [] [] ⟨.zero, .zero⟩ 0)

/-- The stream has met the request that its bind has put in flight. -/
def met : Config Act ThreadId World Reply :=
  machine.play [Sample.whole 0, Sample.whole 1, Sample.steps 2 23] (boot Sample.gateway pool)

def answered : Config Act ThreadId World Reply := machine.play [Sample.whole 2] met

/-- The collect command has marked the opening RAV pending before the stream pays. -/
def refused : Config Act ThreadId World Reply :=
  machine.play [Sample.whole 0, Sample.whole 1, Sample.whole 3, Sample.serve 4 0, Sample.whole 3,
    Sample.serve 5 1, Sample.whole 2] (boot Sample.gateway pool)

theorem exact {session : Session} (payer : session.payer = Sample.payer)
    (dataService : session.dataService = Sample.dataService) :
    Exact Sample.gateway session submission pending rav Sample.payer where
  usage := ⟨Sample.usage 2, rfl, by decide +kernel⟩
  wire := ⟨Sample.signed (Sample.rav 3), rfl, by decide +kernel⟩
  signer := rfl
  payer := payer.symm
  serviceProvider := rfl
  dataService := dataService.symm
  value := rfl

def authorizes (event : Event) : Bool :=
  match event.kind with
  | .note (.authorization _ _ answer) => decide (answer = .ok true)
  | _ => true

theorem authorized {h₀ h : History} {payer signer : Address} {answer : Except String Bool}
    (each : ∀ event ∈ h, authorizes event = true)
    (since : Since h₀ ⟨2, .note (.authorization payer signer answer)⟩ h) : answer = .ok true := by
  obtain ⟨tail, rfl, member⟩ := since
  exact of_decide_eq_true (each _ (List.mem_append_right _ member))

theorem exact_submission_answered_paid :
    (∃ before, answered.shared.history = before ++ [⟨2, .note (.answered "s" (seen met) submission
      pending continuePaymentSessionResponse)⟩] ∧
      Answered Sample.gateway 2 before "s" (seen met) submission pending
        continuePaymentSessionResponse) ∧
    Exact Sample.gateway (seen met) submission pending rav Sample.payer := by
  have facts : answered.shared.history = answered.shared.history.dropLast ++ [⟨2, .note (.answered
      "s" (seen met) submission pending continuePaymentSessionResponse)⟩] ∧
      (seen met).payer = Sample.payer ∧ (seen met).dataService = Sample.dataService := by
    decide +kernel
  obtain ⟨last, payer, dataService⟩ := facts
  have run : machine.Reach (boot Sample.gateway pool) answered :=
    (Machine.play_reach _ _).trans (Machine.play_reach _ _)
  exact ⟨⟨_, last, (exact_submission_answered Sample.gateway pool run).1 _ _ _ _ _ _ _ [] last⟩,
    exact payer dataService⟩

/-- A pending record stands in the way: the exact payment is answered with STOP. -/
theorem exact_submission_refused :
    ¬ ∀ (g : Gateway) (pool : Pool) (c : Config Act ThreadId World Reply),
      machine.Reach (boot g pool) c → NeverRefused g c.shared.history := by
  intro never
  have facts : refused.shared.history = refused.shared.history.dropLast ++ [⟨2, .note (.answered
      "s" (seen refused) submission pending
      (stopPaymentSessionResponse "failed to update session state"))⟩] ∧
      (∀ current, (seen refused).currentRAV = some current →
        rav.message.collectionID = current.message.collectionID) ∧
      (seen refused).isActive = true ∧ (seen refused).payer = Sample.payer ∧
      (seen refused).dataService = Sample.dataService ∧
      ∀ event ∈ refused.shared.history.dropLast, authorizes event = true := by decide +kernel
  obtain ⟨last, same, active, payer, dataService, granted⟩ := facts
  obtain ⟨h₀, _, continues⟩ := never Sample.gateway pool refused (Machine.play_reach _ _) _ _ _ _ _
    _ _ [] last active
  have answer := (continues rav Sample.payer (exact payer dataService) same
    fun answer since => authorized granted since).1
  exact absurd answer (by decide)

end Owing

end Sdsce.Guarantees
