import Sdsce.Guarantees.RuntimeTasks

/-!
# The request handlers keep the policy

Every way a RAV can be accepted, from the message on the wire to the commit. The stream path
also accounts for its answers: an exact submission by an authorized signer is refused only
when its commit meets a conflicting record.
-/
namespace Sdsce.Guarantees

open Sdsce.Theory Sdsce.Source Sdsce.Source.InMemory Sdsce.Theory.Discipline

variable {g : Gateway} {pool : Pool} {i : ThreadId}

/-! ## Pure checks -/

theorem addressesEqual_eq {a b : Address} : addressesEqual a b = false ↔ a ≠ b := by
  simp [addressesEqual]

variable {session : Session} {pending : PendingRAVRequest} {h : History} {id : String}
  {rav : SignedRAV}

theorem newPendingRAVRequest_eq
    (made : newPendingRAVRequest session (requestedUsage session) = some pending) :
    pending.currentRAVValue = session.ravValue ∧
      pending.targetValue = session.ravValue + requestedCost session ∧
      pending.baselineBlocks = session.blocksProcessed ∧
      pending.baselineBytes = session.bytesTransferred ∧
      pending.baselineReqs = session.requests ∧ pending.baselineCost = session.totalCost := by
  unfold newPendingRAVRequest at made
  split at made
  · next rav cost held asked =>
      cases made
      cases asked
      have value : session.ravValue = rav.message.valueAggregate := by rw [Session.ravValue, held]
      refine ⟨value.symm, ?_, rfl, rfl, rfl, rfl⟩
      rw [value]
      rfl
  · cases made

theorem requestedCost_nonneg (session : Session) : 0 ≤ requestedCost session :=
  Proto.GRT.toBigInt_nonneg _

/-- A request never asks for less than the value it starts from. -/
theorem Requested.current_le_target (requested : Requested h id pending) :
    pending.currentRAVValue ≤ pending.targetValue := by
  obtain ⟨session, _, made⟩ := requested
  obtain ⟨current, target, _⟩ := newPendingRAVRequest_eq made
  have := requestedCost_nonneg session
  omega

/-- Paying a request covers the session it was made from. -/
theorem Requested.covers (requested : Requested h id pending)
    (paid : rav.message.valueAggregate = pending.targetValue) :
    ∃ session, Stored h id session ∧ Covers pool i rav pending.baselineBlocks
      pending.baselineBytes pending.baselineReqs pending.baselineCost session := by
  obtain ⟨session, once, made⟩ := requested
  obtain ⟨_, target, blocks, bytes, reqs, cost⟩ := newPendingRAVRequest_eq made
  exact ⟨session, once, blocks, bytes, reqs, cost, .inl (paid.trans target)⟩

theorem validateSubmission_ok {psr : Proto.SignedRAV} {usage : Option Proto.Usage}
    {signer : Address} :
    g.validateSubmission session pending psr usage = .ok (rav, signer) ↔
      (∃ u, usage = some u ∧ pending.matchesUsage u = true) ∧
        protoSignedRAVToHorizon psr = .ok rav ∧ g.recoverSigner rav = .ok signer ∧
        rav.message.payer = session.payer ∧ rav.message.serviceProvider = g.serviceProvider ∧
        rav.message.dataService = session.dataService := by
  constructor
  · intro valid
    unfold Gateway.validateSubmission at valid
    split at valid
    · cases valid
    rename_i u
    split at valid
    · cases valid
    rename_i matched
    split at valid
    · cases valid
    rename_i rav' converted
    split at valid
    · cases valid
    rename_i signer' recovered
    simp only [addressesEqual_eq] at valid
    split at valid
    · cases valid
    rename_i payer
    split at valid
    · cases valid
    rename_i serviceProvider
    split at valid
    · cases valid
    rename_i dataService
    cases valid
    exact ⟨⟨u, rfl, by simpa using matched⟩, converted, recovered,
      not_not.mp payer, not_not.mp serviceProvider, not_not.mp dataService⟩
  · rintro ⟨⟨u, rfl, matched⟩, converted, recovered, payer, serviceProvider, dataService⟩
    simp [Gateway.validateSubmission, matched, converted, recovered, payer, serviceProvider,
      dataService, addressesEqual]

theorem checkRequestedValue_ok {value submitted : Int} :
    Gateway.checkRequestedValue pending value submitted = .ok () ↔
      pending.currentRAVValue ≤ value ∧ value = pending.targetValue := by
  unfold Gateway.checkRequestedValue
  dsimp only
  split
  · next below =>
      refine ⟨nofun, fun exact => ?_⟩
      omega
  split
  · next under =>
      refine ⟨nofun, fun exact => ?_⟩
      omega
  · split
    · next larger =>
        refine ⟨nofun, fun exact => ?_⟩
        omega
    · exact ⟨fun _ => by omega, fun _ => rfl⟩

/-! ## The commit -/

def vetted (g : Gateway) (pool : Pool) (i : ThreadId) (id : String) (rav : SignedRAV)
    (blocks bytes reqs : UInt64) (cost : Int) : (provider g pool).Knowledge i :=
  recorded _ i (fun h => Vetted g pool i h id rav blocks bytes reqs cost) fun _ _ => Vetted.mono

/-- The thread has compared a RAV for the session and goes on to commit it. -/
def Compared (i : ThreadId) (id : String) (h : History) : Prop :=
  ∃ value, ⟨i, .note (.checked id value)⟩ ∈ h

/-- What is known after a commit: the swap, or the conflict that it met. -/
def commitOutcome (g : Gateway) (pool : Pool) (i : ThreadId) (h₀ : History) (id : String)
    (rav : SignedRAV) (blocks bytes reqs : UInt64) (cost : Int) :
    Except RepoError Unit → (provider g pool).Knowledge i
  | .ok () => recorded _ i (fun h => ∃ old now, Since h₀ ⟨i, .swapped id old
      (.ravAndBaseline (some rav) blocks bytes reqs cost now)⟩ h)
      fun _ _ grown ⟨old, now, since⟩ => ⟨old, now, since.mono grown⟩
  | .error _ => recorded _ i (fun h => id = "" ∨ ∃ h', h₀ <+: h' ∧ h' <+: h ∧ Compared i id h' ∧
      Conflict h' id rav) fun _ _ grown refused => refused.imp_right
        fun ⟨h', after, before, conflict⟩ => ⟨h', after, before.trans grown, conflict⟩

theorem commitRAV_task (h₀ : History) (id : String) (rav : SignedRAV)
    (blocks bytes reqs : UInt64) (cost : Int) {value : Int}
    (atLeast : value ≤ rav.message.valueAggregate) :
    (provider g pool).Task ((after _ i h₀).and (vetted g pool i id rav blocks bytes reqs cost))
      ((gateway (.note (.checked id value))).bind fun _ =>
        sessionUpdateRAVAndBaseline id (some rav) blocks bytes reqs cost)
      (commitOutcome g pool i h₀ id rav blocks bytes reqs cost) := by
  let X : History → Prop := fun h => h₀ <+: h ∧ Compared i id h ∧ ∃ session, Stored h id session
  have lasting : Lasting i X := Lasting.of_grown fun h h' grown here =>
    ⟨here.1.trans grown, here.2.1.imp fun _ noted => grown.subset noted,
      here.2.2.imp fun _ once => once.mono grown⟩
  have commit := sessionUpdateRAVAndBaseline_triple (P := providerPolicy g pool)
    (B := fun h => ∃ old now, Since h₀ ⟨i, .swapped id old
      (.ravAndBaseline (some rav) blocks bytes reqs cost now)⟩ h) lasting id rav blocks bytes reqs
    cost (fun _ _ grown ⟨old, now, since⟩ => ⟨old, now, since.mono grown⟩)
    fun h session now here => ⟨session, now, Since.last here.1 _⟩
  refine Triple.bind ?_ fun _ => commit.conseq (fun _ _ here => here) ?_
  · refine Triple.perform
      ((after _ i h₀).and (vetted g pool i id rav blocks bytes reqs cost)).persistent.stable
      (fun _ => ((update_lasting _ i id _).and lasting).stable) (fun _ _ _ => trivial) ?_
    rintro e w w' _ _ ⟨before, ready⟩ ran
    cases ran
    have grown := List.prefix_append w.history [⟨i, .note (.checked id value)⟩]
    refine ⟨fun now => ⟨ready.mono grown, value, ?_, atLeast⟩, before.trans grown,
      ⟨value, List.mem_append_right _ (List.mem_singleton_self _)⟩, ?_⟩
    · change comparedWith i (w.history ++ [⟨i, .note (.checked id value)⟩]) id = some value
      simp [comparedWith, own_append_self]
    · obtain ⟨session, once, _⟩ := ready.parties
      exact ⟨session, once.mono grown⟩
  · rintro (err | _) w _ outcome
    · obtain ⟨_, h', before, ⟨after, compared, session, once⟩, empty | never | conflict⟩ := outcome
      · exact .inl empty
      · exact absurd once (never session)
      · exact .inr ⟨h', after, before, compared, conflict⟩
    · exact outcome

/-! ## PaymentSession -/

namespace Gateway

/-- An accepted submission is stored and answered with CONTINUE, or met a conflict. -/
def acceptOutcome (g : Gateway) (pool : Pool) (i : ThreadId) (h₀ : History) (id : String)
    (rav : SignedRAV) (pending : PendingRAVRequest) (response : PaymentSessionResponse) :
    (provider g pool).Knowledge i :=
  recorded _ i (fun h =>
    (response = continuePaymentSessionResponse ∧
      ∃ old now, Since h₀ ⟨i, .swapped id old (.ravAndBaseline (some rav) pending.baselineBlocks
        pending.baselineBytes pending.baselineReqs pending.baselineCost now)⟩ h) ∨
    (response = stopPaymentSessionResponse "failed to update session state" ∧
      ∃ h', h₀ <+: h' ∧ h' <+: h ∧ Conflict h' id rav)) fun _ _ grown outcome =>
    outcome.imp (fun ⟨same, old, now, since⟩ => ⟨same, old, now, since.mono grown⟩)
      fun ⟨same, h', after, before, conflict⟩ => ⟨same, h', after, before.trans grown, conflict⟩

variable {id : String} {script : List Gateway.StreamInput} {session : Session} {rav : SignedRAV}
  {h h' : History} {req : SubmitRAVRequest}

theorem acceptSubmission_task (h₀ : History) (state : StatePtr) (named : id ≠ "") (rav : SignedRAV)
    (pending : PendingRAVRequest) (atLeast : pending.currentRAVValue ≤ rav.message.valueAggregate) :
    (provider g pool).Task ((after _ i h₀).and (vetted g pool i id rav pending.baselineBlocks
        pending.baselineBytes pending.baselineReqs pending.baselineCost))
      (g.acceptSubmission state id rav pending) (acceptOutcome g pool i h₀ id rav pending) := by
  -- the comparison and the commit are one task
  change (provider g pool).Task _ (((gateway (.note (.checked id pending.currentRAVValue))).bind
    fun _ => Gateway.commitAcceptedRAV id rav pending).bind _) _
  refine .bind (commitRAV_task h₀ id rav _ _ _ _ atLeast) fun result => ?_
  cases result with
  | error err =>
    refine .ret fun w _ here => .inr ⟨rfl, ?_⟩
    obtain ⟨h', after, before, _, conflict⟩ := here.2.resolve_left named
    exact ⟨h', after, before, conflict⟩
  | ok _ =>
    refine .bind (Permitted.runtime fun _ => by trivial).within fun _ => ?_
    refine .bind (Permitted.runtime fun _ => by trivial).within fun _ => ?_
    refine .bind (evaluateMeteredUsage_permitted id).within fun _ => ?_
    exact .ret fun w _ here => .inl ⟨rfl, here.1.1.1.2⟩

/-- What is known of a submission when it meets its in-flight request. -/
def met (g : Gateway) (pool : Pool) (i : ThreadId) (h₀ : History) (id : String)
    (session : Session) (pending : PendingRAVRequest) : (provider g pool).Knowledge i :=
  (after _ i h₀).and ((stored _ i id session).and
    (recorded _ i (fun h => Requested h id pending) fun _ _ => Requested.mono))

def settles (g : Gateway) (pool : Pool) (i : ThreadId) (h₀ : History) (id : String)
    (session : Session) (submission : SignedRAVSubmission) (pending : PendingRAVRequest)
    (response : PaymentSessionResponse) : (provider g pool).Knowledge i :=
  recorded _ i (Settles g i h₀ id session submission pending response) fun _ _ => Settles.mono

theorem answerInFlight_task (h₀ : History) (state : StatePtr) (named : id ≠ "") (session : Session)
    (submission : SignedRAVSubmission) {psr : Proto.SignedRAV}
    (given : submission.signedRav = some psr) (delivered : psr ∈ submissions (pool i))
    (pending : PendingRAVRequest) :
    (provider g pool).Task (met g pool i h₀ id session pending)
      (g.answerInFlight state id session psr submission.usage pending)
      (settles g pool i h₀ id session submission pending) := by
  -- an exact submission passes the checks, so their failure refutes it
  have passes {rav : SignedRAV} {signer : Address}
      (exact : Exact g session submission pending rav signer) :
      g.validateSubmission session pending psr submission.usage = .ok (rav, signer) := by
    obtain ⟨psr', same, converted⟩ := exact.wire
    rw [given] at same
    cases same
    exact validateSubmission_ok.mpr ⟨exact.usage, converted, exact.signer, exact.payer,
      exact.serviceProvider, exact.dataService⟩
  unfold Gateway.answerInFlight
  cases valid : g.validateSubmission session pending psr submission.usage with
  | error reason =>
    refine .ret fun w _ _ rav signer exact _ => ?_
    rw [passes exact] at valid
    cases valid
  | ok pair =>
    obtain ⟨rav, signer⟩ := pair
    obtain ⟨_, converted, _, payer, serviceProvider, dataService⟩ := validateSubmission_ok.mp valid
    have unique {rav' : SignedRAV} {signer' : Address}
        (exact : Exact g session submission pending rav' signer') :
        rav' = rav ∧ signer' = signer := by
      rw [passes exact] at valid
      cases valid
      exact ⟨rfl, rfl⟩
    refine .bind ((isSignerAuthorized_task h₀ session.payer signer).pre
      fun _ _ here => here.1) fun answer => ?_
    -- any answer but yes contradicts the authorization of the signer
    have refused {response : PaymentSessionResponse} (no : answer ≠ .ok true) (w : World)
        (noted : Since h₀ ⟨i, .note (.authorization session.payer signer answer)⟩ w.history) :
        Settles g i h₀ id session submission pending response w.history := by
      intro rav' signer' exact authorized
      obtain ⟨rfl, rfl⟩ := unique exact
      exact absurd (authorized answer noted) no
    rcases answer with err | _ | _
    · exact .ret fun w _ here => refused nofun w here.2
    · exact .ret fun w _ here => refused nofun w here.2
    dsimp only
    split
    · next reason failed =>
        refine .ret fun w _ here rav' signer' exact _ => ?_
        obtain ⟨rfl, rfl⟩ := unique exact
        have bound := here.1.2.2.current_le_target
        rw [checkRequestedValue_ok.mpr ⟨exact.value ▸ bound, exact.value⟩] at failed
        cases failed
    · next accepted =>
        obtain ⟨atLeast, paid⟩ := checkRequestedValue_ok.mp accepted
        refine ((acceptSubmission_task h₀ state named rav pending atLeast).pre ?_).post ?_
        · rintro w _ ⟨⟨before, once, requested⟩, _⟩
          exact ⟨before, ⟨psr, delivered, converted⟩, serviceProvider,
            ⟨session, once, payer, .inr dataService⟩, requested.covers paid⟩
        · intro response w _ outcome rav' signer' exact _
          obtain ⟨rfl, rfl⟩ := unique exact
          exact outcome

theorem answerUnexpected_permitted (id : String) :
    Permitted g pool i (Gateway.answerUnexpected id) := by
  refine .bind (Permitted.of_task (sessionGet_task id)) fun found => ?_
  cases found with
  | error | ok => exact .ret _

theorem handleRAVSubmission_task (named : id ≠ "") (session : Session)
    (submission : Option SignedRAVSubmission)
    (delivered : ∀ s psr, submission = some s → s.signedRav = some psr →
      psr ∈ submissions (pool i)) :
    (provider g pool).Task (stored _ i id session) (g.handleRAVSubmission id session submission)
      (fun _ => .none _ i) := by
  unfold Gateway.handleRAVSubmission
  split
  · exact (Permitted.ret _).within
  rename_i submission
  split
  · exact (Permitted.ret _).within
  rename_i psr given
  refine withSessionEval_task fun state same => ?_
  refine .bind (R := fun found => justifies g pool i id found) ?_ ?_
  · refine .perform (fun _ _ _ => trivial) ?_
    intro e w w' found sound _ ran
    cases ran
    intro p read
    rw [← same]
    exact sound.pending state p read
  · rintro (_ | pending)
    · exact (answerUnexpected_permitted id).within
    let event : Event := ⟨i, .note (.inFlight id session submission pending)⟩
    refine .bind (R := fun _ => recorded _ i
      (fun h => ∃ h₀, h₀ ++ [event] <+: h)
      fun _ _ grown ⟨h₀, before⟩ => ⟨h₀, before.trans grown⟩) ?_ fun _ => ?_
    · refine .perform (fun _ _ _ => trivial) ?_
      intro e w w' _ _ _ ran
      cases ran
      exact ⟨w.history, List.prefix_refl _⟩
    refine .exists_pre
      (B := fun h₀ => met g pool i (h₀ ++ [event]) id session pending) ?_ fun h₀ => ?_
    · rintro w _ ⟨⟨once, requested⟩, h₀, before⟩
      exact ⟨h₀, before, once, requested pending rfl⟩
    refine .bind (answerInFlight_task _ state named session submission
      given (delivered submission psr rfl given) pending) fun response => ?_
    refine .bind (R := fun _ => .none _ i) ?_ fun _ => ?_
    · refine .perform ?_ fun _ _ _ _ _ _ _ => trivial
      rintro w _ ⟨⟨before, _⟩, settled⟩
      exact ⟨h₀, before, settled⟩
    · exact (Permitted.ret _).within

theorem handleFundsAcknowledgment_permitted (id : String) (willDeposit : Option Bool) :
    Permitted g pool i (Gateway.handleFundsAcknowledgment id willDeposit) := by
  cases willDeposit with
  | none => exact .ret _
  | some _ =>
    exact .bind (.runtime fun _ => by trivial) fun _ => Permitted.ret _

/-- A turn of the stream loop leaves the script of the peer alone. -/
def sameInputs (g : Gateway) (pool : Pool) (i : ThreadId) (s : Gateway.StreamState) :
    Gateway.Turn → (provider g pool).Knowledge i
  | .inl s' => .pure _ i (s'.inputs = s.inputs)
  | .inr _ => .none _ i

theorem sendAndReturn_task (s s' : Gateway.StreamState) (response : PaymentSessionResponse) :
    (provider g pool).Task (.none _ i) (Gateway.sendAndReturn s' response)
      (sameInputs g pool i s) :=
  Discipline.Task.bind (Permitted.outside _).within fun _ =>
    Discipline.Task.ret fun _ _ _ => trivial

theorem sendAndContinue_task (s : Gateway.StreamState) (response : PaymentSessionResponse) :
    (provider g pool).Task (.none _ i) (Gateway.sendAndContinue s response)
      (sameInputs g pool i s) := by
  refine .bind (Permitted.outside _).within fun outcome => ?_
  cases outcome with
  | canceled | failed => exact .ret fun _ _ _ => trivial
  | sent =>
    dsimp only
    split
    · exact .ret fun _ _ _ => trivial
    · exact .ret fun _ _ _ => rfl

/-- The RAV of a message, if it carries one, is one that the peer was to send. -/
def Delivered (pool : Pool) (i : ThreadId) (message : Option PaymentSessionMessage) : Prop :=
  ∀ submission psr, message = some (.ravSubmission (some submission)) →
    submission.signedRav = some psr → psr ∈ submissions (pool i)

theorem handleMessage_task (s : Gateway.StreamState) (named : s.sessionID ≠ "")
    (message : Option PaymentSessionMessage) (delivered : Delivered pool i message) :
    (provider g pool).Task (.none _ i) (g.handleMessage s message) (sameInputs g pool i s) := by
  refine .bind (sessionGet_task s.sessionID) fun found => ?_
  cases found with
  | error err => exact (sendAndReturn_task s s _).pre fun _ _ _ => trivial
  | ok session =>
    dsimp only
    split
    · split
      · exact .ret fun _ _ _ => rfl
      · next submission =>
          refine .bind ((handleRAVSubmission_task named session submission ?_).pre
            fun _ _ here => here.2) fun response => ?_
          · rintro submission psr rfl given
            exact delivered submission psr rfl given
          · exact (sendAndContinue_task s response).pre fun _ _ _ => trivial
      · next willDeposit =>
          refine .bind
            (handleFundsAcknowledgment_permitted s.sessionID willDeposit).within
            fun response => ?_
          exact (sendAndContinue_task s response).pre fun _ _ _ => trivial
    · exact (sendAndReturn_task s s _).pre fun _ _ _ => trivial

theorem bindStream_task (s : Gateway.StreamState) (gotSessionID : String)
    (message : Option PaymentSessionMessage) (delivered : Delivered pool i message) :
    (provider g pool).Task (.none _ i) (g.bindStream s gotSessionID message)
      (sameInputs g pool i s) := by
  unfold Gateway.bindStream
  split
  · exact sendAndReturn_task s s _
  rename_i named
  refine .bind (sessionGet_task gotSessionID).forget fun found => ?_
  cases found with
  | error err => exact (sendAndReturn_task s s _).pre fun _ _ _ => trivial
  | ok session =>
    dsimp only
    split
    · refine .bind (Permitted.runtime fun _ => by trivial).within
        fun events => ?_
      refine .bind (bindSession_permitted gotSessionID events).within
        fun bound => ?_
      cases bound with
      | error err => exact (sendAndReturn_task s _ _).pre fun _ _ _ => trivial
      | ok _ =>
        cases message with
        | none => exact .ret fun _ _ _ => rfl
        | some message =>
          exact (handleMessage_task ⟨gotSessionID, some events, s.inputs⟩ named
            (some message) delivered).pre fun _ _ _ => trivial
    · exact (sendAndReturn_task s s _).pre fun _ _ _ => trivial

theorem handleRequest_task (s : Gateway.StreamState) (msg : PaymentSessionRequest)
    (delivered : Delivered pool i msg.message) :
    (provider g pool).Task (.none _ i) (g.handleRequest s msg) (sameInputs g pool i s) := by
  unfold Gateway.handleRequest
  dsimp only
  split
  · exact bindStream_task s _ msg.message delivered
  rename_i named
  split
  · exact sendAndReturn_task s s _
  · exact handleMessage_task s named msg.message delivered

/-- The stream has still to send a part of the thread's script. -/
def scripted (g : Gateway) (pool : Pool) (i : ThreadId) (script : List Gateway.StreamInput)
    (s : Gateway.StreamState) : (provider g pool).Knowledge i :=
  .pure _ i (s.inputs ⊆ script)

theorem paymentSessionTurn_task (mine : pool i = .paymentSession script) (s : Gateway.StreamState) :
    (provider g pool).Task (scripted g pool i script s) (g.paymentSessionTurn s)
      (fun r => Sum.elim (scripted g pool i script) (fun _ => .none _ i) r) := by
  -- what a turn hands on is what is left of the script
  have continues {t : Gateway.StreamState} {p : Program Gateway.Turn}
      {A : (provider g pool).Knowledge i}
      (left : t.inputs ⊆ script)
      (turn : (provider g pool).Task A p (sameInputs g pool i t)) :
      (provider g pool).Task A p
        (fun r => Sum.elim (scripted g pool i script) (fun _ => .none _ i) r) := by
    refine turn.post ?_
    rintro (t' | done) w _ same
    · have kept : t'.inputs = t.inputs := same
      change t'.inputs ⊆ script
      rw [kept]
      exact left
    · trivial
  refine .assume (fun _ _ here => here) fun left => ?_
  refine .bind (Permitted.runtime fun _ => by trivial).within fun selected => ?_
  cases selected with
  | done => exact .ret fun _ _ _ => trivial
  | event response =>
    exact continues left ((sendAndContinue_task s response).pre fun _ _ _ => trivial)
  | request =>
    dsimp only
    split
    · exact .ret fun _ _ _ => trivial
    rename_i input inputs shape
    rw [shape] at left
    split
    · exact .ret fun _ _ _ => trivial
    · exact .ret fun _ _ _ => trivial
    rename_i msg
    have rest : inputs ⊆ script := fun _ member => left (List.mem_cons_of_mem _ member)
    refine continues (t := { s with inputs }) rest
      ((handleRequest_task { s with inputs } msg ?_).pre fun _ _ _ => trivial)
    intro submission psr carried given
    rw [mine]
    refine List.mem_filterMap.mpr ⟨_, left List.mem_cons_self, ?_⟩
    obtain ⟨_, message⟩ := msg
    cases carried
    exact given

theorem paymentSession_permitted (mine : pool i = .paymentSession script) :
    Permitted g pool i (g.paymentSession script) := by
  refine Discipline.Task.bind (R := fun _ => .none _ i) ?_ fun result => ?_
  · exact (Discipline.Task.iterate (paymentSessionTurn_task mine)).pre
      fun _ _ _ => List.Subset.refl _
  obtain ⟨s, result⟩ := result
  refine (Permitted.bind ?_ fun _ => Permitted.ret _).within
  cases events : s.events with
  | none => exact .ret _
  | some ch =>
    simp only [Gateway.unbindSession]
    split
    · exact .ret _
    · exact .runtime fun _ => by trivial

/-! ## SubmitRAV -/

theorem checkSubmittedRAV_ok (passed : g.checkSubmittedRAV session rav = .ok ()) :
    rav.message.payer = session.payer ∧ rav.message.serviceProvider = g.serviceProvider ∧
      session.ravValue + session.usageDeltaSinceBaseline.cost ≤ rav.message.valueAggregate := by
  simp only [Gateway.checkSubmittedRAV, addressesEqual_eq] at passed
  split at passed
  · cases passed
  rename_i payer
  split at passed
  · cases passed
  rename_i serviceProvider
  split at passed
  · cases passed
  split at passed
  · cases passed
  · next enough =>
      exact ⟨not_not.mp payer, not_not.mp serviceProvider, not_lt.mp enough⟩

theorem checkSubmittedRAV_error {rejection : SubmitRAVResponse}
    (refused : g.checkSubmittedRAV session rav = .error rejection) :
    rejection.accepted = false := by
  unfold Gateway.checkSubmittedRAV at refused
  dsimp only at refused
  split at refused
  · cases refused
    rfl
  split at refused
  · cases refused
    rfl
  split at refused
  · cases refused
    rfl
  split at refused
  · cases refused
    rfl
  · cases refused

/-- What the commit of an accepted RAV has left in the history: the swap that stores it together
with the totals of the session it was compared with, or the conflict that it met after the
comparison. -/
def Submitted (i : ThreadId) (id : String) (session : Session) (rav : SignedRAV) (h : History) :
    Prop :=
  (∃ old now, ⟨i, .swapped id old (.ravAndBaseline (some rav) session.blocksProcessed
    session.bytesTransferred session.requests session.totalCost now)⟩ ∈ h) ∨
  id = "" ∨ ∃ h', h' <+: h ∧ Compared i id h' ∧ Conflict h' id rav

theorem Submitted.mono (grown : h <+: h') (done : Submitted i id session rav h) :
    Submitted i id session rav h' := by
  obtain ⟨old, now, swapped⟩ | empty | ⟨before, early, conflict⟩ := done
  · exact .inl ⟨old, now, grown.subset swapped⟩
  · exact .inr (.inl empty)
  · exact .inr (.inr ⟨before, early.trans grown, conflict⟩)

def submitted (g : Gateway) (pool : Pool) (i : ThreadId) (id : String) (session : Session)
    (rav : SignedRAV) (response : SubmitRAVResponse) : (provider g pool).Knowledge i :=
  recorded _ i (fun h => response.accepted = true → Submitted i id session rav h)
    fun _ _ grown known accepted => (known accepted).mono grown

theorem commitOutcome_submitted {result : Except RepoError Unit} {w : World}
    (outcome : (commitOutcome g pool i [] id rav session.blocksProcessed session.bytesTransferred
      session.requests session.totalCost result).holds w) :
    Submitted i id session rav w.history := by
  cases result with
  | ok _ =>
    obtain ⟨old, now, tail, whole, member⟩ := outcome
    refine .inl ⟨old, now, ?_⟩
    rw [whole]
    exact member
  | error err =>
    obtain empty | ⟨before, -, early, conflict⟩ := outcome
    · exact .inr (.inl empty)
    · exact .inr (.inr ⟨before, early, conflict⟩)

theorem acceptSubmitted_task (session : Session) (rav : SignedRAV) (mine : CallsSubmitRAV pool i)
    (submits : Submits pool i rav) :
    (provider g pool).Task (stored _ i id session) (g.acceptSubmitted id session rav)
      (submitted g pool i id session rav) := by
  have rejects {A : (provider g pool).Knowledge i} (reason : String) (goOn : Bool) :
      (provider g pool).Task A (.ret (Gateway.rejectRAV reason goOn))
        (submitted g pool i id session rav) :=
    Task.ret fun _ _ _ => nofun
  unfold Gateway.acceptSubmitted
  split
  · exact rejects _ _
  rename_i signer _
  refine .bind ((isSignerAuthorized_task [] session.payer signer).pre
    fun w _ _ => List.nil_prefix).forget fun answer => ?_
  rcases answer with err | _ | _
  · exact rejects _ _
  · exact rejects _ _
  dsimp only
  split
  · next rejection refused =>
      refine .ret fun w _ _ accepted => ?_
      rw [checkSubmittedRAV_error refused] at accepted
      cases accepted
  rename_i passed
  obtain ⟨payer, serviceProvider, enough⟩ := checkSubmittedRAV_ok passed
  have atLeast : session.ravValue ≤ rav.message.valueAggregate := by
    have := session.usageDelta_cost_nonneg
    omega
  change (provider g pool).Task _ (((gateway (.note (.checked id session.ravValue))).bind
    fun _ => sessionUpdateRAVAndBaseline id (some rav) session.blocksProcessed
      session.bytesTransferred session.requests session.totalCost).bind _) _
  refine .bind ((commitRAV_task [] id rav _ _ _ _ atLeast).pre ?_)
    fun _ => Task.ret fun _ _ here _ => commitOutcome_submitted here.2
  rintro w _ ⟨once, _⟩
  exact ⟨List.nil_prefix, submits, serviceProvider, ⟨session, once, payer, .inl mine⟩,
    session, once, rfl, rfl, rfl, rfl, .inr ⟨mine, enough⟩⟩

/-- The RAV of a request and the session it was accepted for. -/
def AcceptedFor (i : ThreadId) (req : SubmitRAVRequest) (h : History) : Prop :=
  ∃ session psr rav, Stored h req.sessionId session ∧ req.signedRav = some psr ∧
    protoSignedRAVToHorizon psr = .ok rav ∧ Submitted i req.sessionId session rav h

theorem AcceptedFor.mono (grown : h <+: h') (done : AcceptedFor i req h) :
    AcceptedFor i req h' := by
  obtain ⟨session, psr, rav, once, given, converted, submitted⟩ := done
  exact ⟨session, psr, rav, once.mono grown, given, converted, submitted.mono grown⟩

def acceptedFor (g : Gateway) (pool : Pool) (i : ThreadId) (req : SubmitRAVRequest)
    (r : Except ConnectError SubmitRAVResponse) : (provider g pool).Knowledge i :=
  recorded _ i (fun h => ∀ response, r = .ok response → response.accepted = true →
    AcceptedFor i req h) fun _ _ grown known response answered accepted =>
      (known response answered accepted).mono grown

theorem submitRAV_task (mine : pool i = .submitRAV req) :
    (provider g pool).Task (.none _ i) (g.submitRAV req) (acceptedFor g pool i req) := by
  have rejects {A : (provider g pool).Knowledge i} (reason : String) (goOn : Bool) :
      (provider g pool).Task A (.ret (.ok (Gateway.rejectRAV reason goOn)))
        (acceptedFor g pool i req) :=
    Task.ret fun _ _ _ _ same accepted => by cases same; cases accepted
  refine .bind (sessionGet_task req.sessionId) fun found => ?_
  cases found with
  | error err => exact rejects _ _
  | ok session =>
    dsimp only
    split
    · refine .bind (Permitted.runtime fun _ => by trivial).within fun pending => ?_
      cases pending with
      | true => exact rejects _ _
      | false =>
        simp only [Bool.false_eq_true, if_false]
        split
        · exact rejects _ _
        rename_i psr given
        split
        · exact .ret fun _ _ _ => nofun
        rename_i rav converted
        have submits : Submits pool i rav := by
          refine ⟨psr, ?_, converted⟩
          rw [mine]
          simp [submissions, given]
        refine .bind ((acceptSubmitted_task session rav
          (congrArg isSubmitRAV mine) submits).pre fun _ _ here => here.1.2)
          fun response => ?_
        refine .ret fun w _ here _ same accepted => ?_
        cases same
        exact ⟨session, psr, rav, here.1.1.2, given, converted, here.2 accepted⟩
    · exact rejects _ _

theorem submitRAV_permitted (mine : pool i = .submitRAV req) :
    Permitted g pool i (g.submitRAV req) :=
  (submitRAV_task mine).forget

/-! ## StartSession -/

theorem convertInitialRAV_some {psr : Option Proto.SignedRAV}
    (converted : Gateway.convertInitialRAV psr = .ok (some rav)) :
    ∃ p, psr = some p ∧ protoSignedRAVToHorizon p = .ok rav := by
  cases psr with
  | none => cases converted
  | some p =>
    simp only [Gateway.convertInitialRAV] at converted
    split at converted
    · cases converted
    · next rav' found =>
        cases converted
        exact ⟨p, rfl, found⟩

theorem validateInitialRAV_task (payer dataService : Address) (initialRAV : Option SignedRAV) :
    (provider g pool).Task (.none _ i) (g.validateInitialRAV payer dataService initialRAV)
      (fun r => .pure _ i (r = .ok () → ∀ rav, initialRAV = some rav →
        g.checkInitialRAV payer dataService rav = .ok ())) := by
  unfold Gateway.validateInitialRAV
  split
  · exact .ret fun _ _ _ => nofun
  rename_i rav
  split
  · exact .ret fun _ _ _ => nofun
  rename_i signer _
  refine .bind ((isSignerAuthorized_task [] payer signer).pre
    fun w _ _ => List.nil_prefix).forget fun answer => ?_
  rcases answer with err | _ | _
  · exact .ret fun _ _ _ => nofun
  · exact .ret fun _ _ _ => nofun
  · refine .ret fun _ _ _ passed rav' same => ?_
    cases same
    exact passed

theorem createSession_permitted (req : StartSessionRequest) (payer dataService : Address)
    {initialRAV : Option SignedRAV}
    (checked : ∀ rav, initialRAV = some rav →
      Submits pool i rav ∧ g.checkInitialRAV payer dataService rav = .ok ()) :
    Permitted g pool i (g.createSession req payer dataService initialRAV) := by
  refine .bind (.outside _) fun sessionID => ?_
  refine .bind (.outside _) fun now => ?_
  refine .bind (permitted_of_triple (sessionCreate_triple lasting_true _)
    fun _ => ⟨⟨sessionID, payer, dataService, initialRAV, now, rfl, checked⟩, trivial⟩)
    fun created => ?_
  cases created with
  | error err => exact .ret _
  | ok _ =>
    dsimp only
    split
    · exact .ret _
    · exact .ret _

theorem startSession_permitted {req : StartSessionRequest} (mine : pool i = .startSession req) :
    Permitted g pool i (g.startSession req) := by
  unfold Gateway.startSession
  split
  · exact .ret _
  rename_i payer receiver dataService _
  split
  · exact .ret _
  split
  · exact .ret _
  rename_i initialRAV converted
  refine Discipline.Task.bind (validateInitialRAV_task payer dataService initialRAV)
    fun result => ?_
  cases result with
  | error reason => exact (Permitted.ret _).within
  | ok _ =>
    refine Task.assume (fun _ _ here => here.2 rfl) fun checked => ?_
    refine (createSession_permitted req payer dataService fun rav same => ?_).within
    refine ⟨?_, checked rav same⟩
    rw [same] at converted
    obtain ⟨p, given, wire⟩ := convertInitialRAV_some converted
    refine ⟨p, ?_, wire⟩
    rw [mine]
    simp [submissions, given]

/-! ## Metering and keep-alive -/

theorem reportEvent_permitted (event : Option Gateway.MeteringEvent) :
    Permitted g pool i (g.reportEvent event) := by
  cases event with
  | none => exact .ret _
  | some event =>
    simp only [Gateway.reportEvent]
    split
    · exact .ret _
    refine .bind (.outside _) fun now => ?_
    refine .bind (sessionApplyUsage_permitted event.sdsSessionId _ rfl)
      fun result => ?_
    have notified : Permitted g pool i
        ((g.onMeteredUsage event.sdsSessionId).bind fun _ => .ret ()) :=
      Permitted.bind (onMeteredUsage_permitted event.sdsSessionId) fun _ => Permitted.ret _
    cases result with
    | error err =>
      dsimp only
      split
      · exact .ret _
      · exact notified
    | ok _ => exact notified

theorem report_permitted (events : List (Option Gateway.MeteringEvent)) :
    Permitted g pool i (g.report events) :=
  Task.forEach fun event _ => reportEvent_permitted event

theorem getSessionStatus_permitted (requested : String) (activeWorkers : Nat) :
    Permitted g pool i (g.getSessionStatus requested activeWorkers) := by
  unfold Gateway.getSessionStatus
  dsimp only
  split
  · exact .ret _
  refine .bind (Permitted.of_task (sessionGet_task _)) fun found => ?_
  cases found with
  | error err => exact .ret _
  | ok session =>
    refine .bind ?_ fun _ => Permitted.ret _
    unfold Gateway.paymentControlPending
    split
    · split
      · exact .ret _
      · exact .bind (.runtime fun _ => by trivial) fun _ => Permitted.ret _
    · exact .ret _

theorem keepAlive_permitted (id : String) (payer : Address) :
    Permitted g pool i (Gateway.keepAlive id payer) := by
  refine .bind (Permitted.of_task (sessionGet_task id)) fun found => ?_
  cases found with
  | error err => exact .ret _
  | ok session =>
    dsimp only
    split
    · refine .bind (.outside _) fun now => ?_
      exact .bind (sessionTouch_permitted session.id now) fun _ => Permitted.ret _
    · exact .ret _

end Gateway

end Sdsce.Guarantees
