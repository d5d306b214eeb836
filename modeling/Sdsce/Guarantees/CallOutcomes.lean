import Sdsce.Guarantees.Alone
import Sdsce.Guarantees.CollectorTasks
import Sdsce.Guarantees.Completion
import Sdsce.Guarantees.Footprints

/-!
# What an answer says about the repository

`SubmitRAV`, `handleRAVSubmission` and `StartSession`, each compared with what it has stored when
it answers.
-/
namespace Sdsce.Guarantees

open Sdsce.Theory Sdsce.Source Sdsce.Source.InMemory
open Sdsce.Guarantees.Alone
open Sdsce.Guarantees.ReadConsistency (Accounting accounting voucher)
open Sdsce.Guarantees.Gateway (AcceptedFor acceptedFor checkSubmittedRAV_error submitRAV_task)

variable {g : Gateway} {i : ThreadId} {w w' : World}

namespace CallOutcomes

/-- The RAV and the baseline that the repository holds for a session. -/
def storedAccounting (w : World) (id : String) : Option Accounting :=
  (w.store.sessions.lookup id).map accounting

variable {id : String} {session : Session} {records : AList fun _ : String => CollectionRecord}
  {rav : SignedRAV} {now : Time} {req : SubmitRAVRequest} {state : StatePtr}
  {pending : PendingRAVRequest} {response : PaymentSessionResponse} {dataService : Address}
  {initialRAV : Option SignedRAV}

theorem storedAccounting_insert {sessions : AList fun _ : String => Session}
    (wrote : w'.store.sessions = sessions.insert id session) :
    storedAccounting w' id = some (accounting session) := by
  rw [storedAccounting, wrote, AList.lookup_insert]
  rfl

/-! ## SubmitRAV -/

/-- The record under the RAV's key is being settled at another value, or has been settled at a
larger one. -/
def Refuses (records : AList fun _ : String => CollectionRecord) (id : String) (rav : SignedRAV) :
    Prop :=
  id = "" ∨ ∃ record, records.lookup (collectionMapKey (collectionKeyFromRAV id rav.message)) =
    some record ∧
      ((record.state = .collectPending ∧ record.valueAggregate ≠ rav.message.valueAggregate) ∨
        (record.state = .collected ∧ rav.message.valueAggregate < record.valueAggregate))

theorem nextRecord_error {err : RepoError} (failed : nextRecord records id rav now = .error err) :
    Refuses records id rav := by
  cases made : newCollectionRecordFromRAV id rav now with
  | error other => exact .inl (newCollectionRecordFromRAV_error made)
  | ok fresh =>
    have shape := newCollectionRecordFromRAV_ok made
    rw [nextRecord, made] at failed
    obtain ⟨record, found, conflict⟩ := nextCollectible_error failed
    rw [shape.1] at found
    rw [shape.2.1] at conflict
    exact .inr ⟨record, found, conflict⟩

theorem nextRecord_ok {next : CollectionRecord}
    (passed : nextRecord records id rav now = .ok next) :
    ¬ Refuses records id rav := by
  cases made : newCollectionRecordFromRAV id rav now with
  | error other =>
    rw [nextRecord, made] at passed
    cases passed
  | ok fresh =>
    have shape := newCollectionRecordFromRAV_ok made
    rw [nextRecord, made] at passed
    change nextCollectible fresh (records.lookup (collectionMapKey fresh.key)) = _ at passed
    rw [shape.1] at passed
    rintro (empty | ⟨record, found, conflict⟩)
    · rw [newCollectionRecordFromRAV, if_pos empty] at made
      cases made
    rw [found, nextCollectible, shape.2.1] at passed
    obtain ⟨pending, differs⟩ | ⟨collected, larger⟩ := conflict
    · rw [if_pos pending, if_neg differs] at passed
      cases passed
    · rw [if_neg (by rw [collected]; decide), if_neg (by omega), if_pos ⟨collected, larger⟩]
        at passed
      cases passed

/-- What the call wants stored: the RAV, and the totals of the session it was compared with. -/
def computed (session : Session) (rav : SignedRAV) : Accounting where
  currentRAV := some rav
  baseline := ⟨session.blocksProcessed, session.bytesTransferred, session.requests,
    session.totalCost⟩

/-- An accepted RAV has been handed to the repository, whatever the repository did with it. -/
theorem acceptSubmitted_runs {response : SubmitRAVResponse}
    (ran : machine.Runs i (g.acceptSubmitted id session rav) w response w')
    (accepted : response.accepted = true) :
    ∃ mid r, mid.store = w.store ∧ machine.Runs i (sessionUpdateRAVAndBaseline id (some rav)
      session.blocksProcessed session.bytesTransferred session.requests session.totalCost) mid r
      w' := by
  unfold Gateway.acceptSubmitted at ran
  split at ran
  · obtain ⟨rfl, -⟩ := ran.ret_inv
    cases accepted
  obtain ⟨answer, mid, check, rest⟩ := ran.bind_inv
  have same := (isSignerAuthorized_runs check).1
  rcases answer with err | _ | _
  · obtain ⟨rfl, -⟩ := rest.ret_inv
    cases accepted
  · obtain ⟨rfl, -⟩ := rest.ret_inv
    cases accepted
  dsimp only at rest
  split at rest
  · next rejection refused =>
      obtain ⟨rfl, -⟩ := rest.ret_inv
      rw [checkSubmittedRAV_error refused] at accepted
      cases accepted
  · obtain ⟨_, mid', noted, rest⟩ := rest.bind_inv
    obtain ⟨r, last, commit, rest⟩ := rest.bind_inv
    obtain ⟨-, rfl⟩ := rest.ret_inv
    exact ⟨mid', r, (note_runs noted).store.trans same, commit⟩

theorem submitRAV_runs {response : SubmitRAVResponse}
    (ran : machine.Runs i (g.submitRAV req) w (.ok response) w')
    (accepted : response.accepted = true) :
    ∃ session psr rav, w.store.sessions.lookup req.sessionId = some session ∧
      req.signedRav = some psr ∧ protoSignedRAVToHorizon psr = .ok rav ∧
      ∃ mid r, mid.store = w.store ∧ machine.Runs i (sessionUpdateRAVAndBaseline req.sessionId
        (some rav) session.blocksProcessed session.bytesTransferred session.requests
        session.totalCost) mid r w' := by
  obtain ⟨found, mid, read, rest⟩ := ran.bind_inv
  obtain ⟨rfl, answer⟩ := sessionGet_runs read
  cases present : mid.store.sessions.lookup req.sessionId with
  | none =>
    rw [present] at answer
    cases answer
    obtain ⟨same, -⟩ := rest.ret_inv
    cases same
    cases accepted
  | some session =>
    rw [present] at answer
    cases answer
    dsimp only at rest
    split at rest
    · obtain ⟨pending, mid', asked, rest⟩ := rest.bind_inv
      obtain ⟨e, executed⟩ := asked.perform_inv
      have kept : mid'.store = mid.store := by
        simp only [machine, World.exec] at executed
        split at executed
        · cases executed
        · cases executed
          rfl
      split at rest
      · obtain ⟨same, -⟩ := rest.ret_inv
        cases same
        cases accepted
      split at rest
      · obtain ⟨same, -⟩ := rest.ret_inv
        cases same
        cases accepted
      rename_i psr given
      split at rest
      · obtain ⟨same, -⟩ := rest.ret_inv
        cases same
      rename_i rav converted
      obtain ⟨response', last, ran', rest⟩ := rest.bind_inv
      obtain ⟨same, rfl⟩ := rest.ret_inv
      cases same
      obtain ⟨mid'', r, before, commit⟩ := acceptSubmitted_runs ran' accepted
      exact ⟨session, psr, rav, rfl, given, converted, mid'', r, before.trans kept, commit⟩
    · obtain ⟨same, -⟩ := rest.ret_inv
      cases same
      cases accepted

/-- What a thread has answered when it was started for `SubmitRAV`. -/
def submits (g : Gateway) (pool : Pool) (i : ThreadId) (reply : Reply) :
    (provider g pool).Knowledge i :=
  recorded _ i (fun h => ∀ req response, pool i = .submitRAV req →
    reply = .submitRAV (.ok response) → response.accepted = true → AcceptedFor i req h)
    fun _ _ grown known req response mine answered accepted =>
      (known req response mine answered accepted).mono grown

theorem program_submits (pool : Pool) :
    (provider g pool).Task (.none _ i) ((pool i).program g) (submits g pool i) := by
  cases mine : pool i with
  | submitRAV req =>
    refine .bind (submitRAV_task mine) fun answer => ?_
    refine .ret fun w _ known req' response same answered accepted => ?_
    cases mine.symm.trans same
    cases answered
    exact known.2 response rfl accepted
  | _ =>
    have permitted := program_permitted g pool i
    rw [mine] at permitted
    refine permitted.post fun reply w _ _ req response same => ?_
    cases mine.symm.trans same

/-- In any run of the whole system, an accepted RAV has been swapped in, or its commit met a
record that refuses it. -/
theorem boot_submits {pool : Pool} {c : Config Act ThreadId World Reply}
    (run : machine.Reach (boot g pool) c) {response : SubmitRAVResponse}
    (mine : pool i = .submitRAV req) (returned : c.threads i = .ret (.submitRAV (.ok response)))
    (accepted : response.accepted = true) : AcceptedFor i req c.shared.history := by
  have verified : (provider g pool).Verified (fun j reply => (submits g pool j reply).holds)
      (boot g pool) :=
    ⟨sound_empty _, fun j => program_submits pool {} (sound_empty _) trivial⟩
  exact (verified.reach run).returned returned req response mine rfl accepted

/-- `SubmitRAV` answers "accepted" whether or not the repository has taken the RAV. Run alone,
the repository holds the RAV and the baseline exactly when no collection record refuses the RAV
(or when it held both before); and under any interleaving, a call that answers "accepted" has
swapped both in unless its commit met such a record. -/
theorem accepted_rav_stored_iff (g : Gateway) :
    (∀ i req w response w', machine.Runs i (g.submitRAV req) w (.ok response) w' →
      response.accepted = true → ∃ session psr rav,
        w.store.sessions.lookup req.sessionId = some session ∧ req.signedRav = some psr ∧
        protoSignedRAVToHorizon psr = .ok rav ∧
        (storedAccounting w' req.sessionId = some (computed session rav) ↔
          ¬ Refuses w.store.records req.sessionId rav ∨
            storedAccounting w req.sessionId = some (computed session rav))) ∧
    (∀ (pool : Pool) (c : Config Act ThreadId World Reply), machine.Reach (boot g pool) c →
      ∀ i req response, pool i = .submitRAV req →
        c.threads i = .ret (.submitRAV (.ok response)) → response.accepted = true →
        AcceptedFor i req c.shared.history) := by
  constructor
  · intro i req w response w' ran accepted
    obtain ⟨session, psr, rav, present, given, converted, mid, r, same, commit⟩ :=
      submitRAV_runs ran accepted
    refine ⟨session, psr, rav, present, given, converted, ?_⟩
    obtain ⟨-, outcome⟩ := updateRAVAndBaseline_runs commit
    cases outcome with
    | refused conflict kept =>
      rw [same] at conflict
      have unmoved : storedAccounting w' req.sessionId = storedAccounting w req.sessionId := by
        rw [storedAccounting, kept, same, storedAccounting]
      rw [unmoved]
      exact ⟨.inr, fun holds => holds.resolve_left fun free => free (nextRecord_error conflict)⟩
    | missing absent kept =>
      rw [same, present] at absent
      cases absent
    | committed later settles present' wrote =>
      rw [same] at settles present' wrote
      refine ⟨fun _ => .inl (nextRecord_ok settles), fun _ => ?_⟩
      rw [storedAccounting_insert wrote]
      rfl
  · intro pool c run i req response mine returned accepted
    exact boot_submits run mine returned accepted

/-! A session opened at 1; a collect command may have marked its record pending. -/

def contested : Pool := Sample.pool [Sample.start 1, Sample.collect]

def opened : World := (machine.play [Sample.whole 0] (boot Sample.gateway contested)).shared

/-- The opening RAV is being collected. -/
def collecting : World :=
  (machine.play [Sample.whole 0, Sample.whole 1, Sample.serve 2 0, Sample.whole 1, Sample.serve 3 1]
    (boot Sample.gateway contested)).shared

/-- Thread 4 submits a RAV of 5. -/
def submitFive (w : World) : Option (Except ConnectError SubmitRAVResponse × World) :=
  machine.runAlone 4 {} 200 (Sample.gateway.submitRAV ⟨"s", some (Sample.signed (Sample.rav 5))⟩) w

def acceptedRAV : SubmitRAVResponse := ⟨true, "", true⟩

/-- While the opening RAV is being collected, a RAV of 5 is answered "accepted" and not stored. -/
theorem accepted_rav_not_stored :
    ∃ w', machine.Runs 4 (Sample.gateway.submitRAV ⟨"s", some (Sample.signed (Sample.rav 5))⟩)
        collecting (.ok acceptedRAV) w' ∧
      storedAccounting w' "s" = some ⟨some (voucher 1), ⟨0, 0, 0, 0⟩⟩ := by
  have outcome : (submitFive collecting).map Prod.fst = some (.ok acceptedRAV) ∧
      (submitFive collecting).bind (fun r => storedAccounting r.2 "s") =
        some ⟨some (voucher 1), ⟨0, 0, 0, 0⟩⟩ := by decide +kernel
  obtain ⟨answered, left⟩ := outcome
  obtain ⟨⟨_, w'⟩, ended, rfl⟩ := Option.map_eq_some_iff.mp answered
  rw [ended] at left
  exact ⟨w', Machine.runAlone_runs ended, left⟩

theorem accepted_rav_stored_iff_opened :
    ∃ w', machine.Runs 4 (Sample.gateway.submitRAV ⟨"s", some (Sample.signed (Sample.rav 5))⟩)
        opened (.ok acceptedRAV) w' ∧
      storedAccounting w' "s" = some ⟨some (voucher 5), ⟨0, 0, 0, 0⟩⟩ ∧
      ∃ session psr rav, opened.store.sessions.lookup "s" = some session ∧
        some (Sample.signed (Sample.rav 5)) = some psr ∧ protoSignedRAVToHorizon psr = .ok rav ∧
        (storedAccounting w' "s" = some (computed session rav) ↔
          ¬ Refuses opened.store.records "s" rav ∨
            storedAccounting opened "s" = some (computed session rav)) := by
  have outcome : (submitFive opened).map Prod.fst = some (.ok acceptedRAV) ∧
      (submitFive opened).bind (fun r => storedAccounting r.2 "s") =
        some ⟨some (voucher 5), ⟨0, 0, 0, 0⟩⟩ := by decide +kernel
  obtain ⟨answered, left⟩ := outcome
  obtain ⟨⟨_, w'⟩, ended, rfl⟩ := Option.map_eq_some_iff.mp answered
  rw [ended] at left
  have ran := Machine.runAlone_runs ended
  exact ⟨w', ran, left, (accepted_rav_stored_iff Sample.gateway).1 _ _ _ _ _ ran rfl⟩

/-! ## RAV submissions on a stream -/

theorem accounting_apply {update : SessionUpdate} (keeps : update.setsRAV = false)
    (session : Session) : accounting (update.apply session) = accounting session := by
  cases update with
  | touch | applyUsage => rfl
  | runtimeState =>
    simp only [SessionUpdate.apply]
    split <;> rfl
  | ravAndBaseline => cases keeps

/-- The actions of the re-evaluation: none of them replaces a RAV or touches the signer cache. -/
def evaluates {β : Type} (a : Act β) : Prop :=
  match β, a with
  | _, .store (.sessionsGet _) => True
  | _, .store (.sessionsCompareAndSwap _ _ update) => update.setsRAV = false
  | _, .runtime _ => True
  | _, .outside _ => True
  | _, .gateway (.note _) => True
  | _, _ => False

theorem evaluates_keeps {β : Type} (id : String) {a : Act β} {e : Oracle} {b : β} (ok : evaluates a)
    (ran : machine.exec i a e w = some (w', b)) :
    storedAccounting w' id = storedAccounting w id ∧ w'.authCache = w.authCache := by
  cases a with
  | runtime a =>
    simp only [machine, World.exec] at ran
    split at ran
    · cases ran
    · cases ran
      exact ⟨rfl, rfl⟩
  | outside a =>
    cases ran
    exact ⟨rfl, rfl⟩
  | gateway a =>
    cases a with
    | note =>
      cases ran
      exact ⟨rfl, rfl⟩
    | _ => cases ok
  | rpc a => cases ok
  | store a =>
    cases a with
    | sessionsGet =>
      cases ran
      exact ⟨rfl, rfl⟩
    | sessionsCompareAndSwap key session update =>
      by_cases lands : w.store.sessions.lookup key = some session ∧ e.yes = true
      · simp only [machine, World.exec, Store.exec, if_pos lands] at ran
        cases ran
        refine ⟨?_, rfl⟩
        by_cases same : id = key
        · subst same
          rw [storedAccounting_insert rfl, storedAccounting, lands.1, Option.map_some,
            accounting_apply ok]
        · rw [storedAccounting, storedAccounting, AList.lookup_insert_ne same]
      · simp only [machine, World.exec, Store.exec, if_neg lands] at ran
        cases ran
        exact ⟨rfl, rfl⟩
    | _ => cases ok

theorem evaluateMeteredUsage_evaluates (g : Gateway) (id : String) :
    (g.evaluateMeteredUsage id).Only evaluates := by
  refine (evaluateMeteredUsage_evaluating g id).mono fun a evaluating => ?_
  cases a with
  | store a =>
    cases a with
    | sessionsGet => trivial
    | sessionsCompareAndSwap _ _ update =>
      cases update with
      | runtimeState => rfl
      | _ => exact evaluating.elim
    | _ => exact evaluating.elim
  | runtime | outside => trivial
  | gateway a =>
    cases a with
    | note => trivial
    | _ => exact evaluating.elim
  | rpc => exact evaluating.elim

theorem evaluateMeteredUsage_runs {r : Except RepoError Unit}
    (ran : machine.Runs i (g.evaluateMeteredUsage id) w r w') (other : String) :
    storedAccounting w' other = storedAccounting w other ∧ w'.authCache = w.authCache := by
  refine ran.keeps (J := fun s => storedAccounting s other = storedAccounting w other ∧
    s.authCache = w.authCache) ?_ (evaluateMeteredUsage_evaluates g id) ⟨rfl, rfl⟩
  intro β a e s s' b ok here executed
  obtain ⟨rav, cache⟩ := evaluates_keeps other ok executed
  exact ⟨rav.trans here.1, cache.trans here.2⟩

/-- The accounting state that an accepted submission leaves behind. -/
def paidFor (pending : PendingRAVRequest) (rav : SignedRAV) : Accounting where
  currentRAV := some rav
  baseline := ⟨pending.baselineBlocks, pending.baselineBytes, pending.baselineReqs,
    pending.baselineCost⟩

theorem stop_ne_continue (reason : String) :
    stopPaymentSessionResponse reason ≠ continuePaymentSessionResponse := by
  intro same
  cases same

theorem acceptSubmission_runs
    (ran : machine.Runs i (g.acceptSubmission state id rav pending) w response w') :
    (response ≠ continuePaymentSessionResponse ∧ Untouched w w') ∨
    (response = continuePaymentSessionResponse ∧ w'.authCache = w.authCache ∧
      storedAccounting w' id = some (paidFor pending rav)) := by
  obtain ⟨_, mid, noted, rest⟩ := ran.bind_inv
  have same := note_runs noted
  obtain ⟨r, mid₁, commit, rest⟩ := rest.bind_inv
  obtain ⟨frame, outcome⟩ := updateRAVAndBaseline_runs commit
  cases outcome with
  | refused _ kept | missing _ kept =>
    obtain ⟨rfl, rfl⟩ := rest.ret_inv
    exact .inl ⟨stop_ne_continue _, same.trans ⟨kept, frame.runtime, frame.authCache⟩⟩
  | committed later _ _ wrote =>
    have stored : storedAccounting mid₁ id = some (paidFor pending rav) := by
      rw [storedAccounting_insert wrote]
      rfl
    obtain ⟨_, mid₂, drop, rest⟩ := rest.bind_inv
    obtain ⟨e, executed⟩ := drop.perform_inv
    cases executed
    obtain ⟨_, mid₃, drop', rest⟩ := rest.bind_inv
    obtain ⟨e', executed'⟩ := drop'.perform_inv
    cases executed'
    obtain ⟨_, mid₄, evaluated, rest⟩ := rest.bind_inv
    obtain ⟨kept, cache⟩ := evaluateMeteredUsage_runs evaluated id
    obtain ⟨rfl, rfl⟩ := rest.ret_inv
    exact .inr ⟨rfl, cache.trans (frame.authCache.trans same.authCache), kept.trans stored⟩

/-- What has become of a submission that met an in-flight request. -/
theorem answerInFlight_runs {submission : SignedRAVSubmission} {psr : Proto.SignedRAV}
    (given : submission.signedRav = some psr)
    (ran : machine.Runs i (g.answerInFlight state id session psr submission.usage pending) w
      response w') :
    (response ≠ continuePaymentSessionResponse ∧ w'.store = w.store ∧ w'.runtime = w.runtime) ∨
    (response = continuePaymentSessionResponse ∧ ∃ rav signer,
      Exact g session submission pending rav signer ∧ Authorized w' session.payer signer ∧
      storedAccounting w' id = some (paidFor pending rav)) := by
  unfold Gateway.answerInFlight at ran
  split at ran
  · obtain ⟨rfl, rfl⟩ := ran.ret_inv
    exact .inl ⟨stop_ne_continue _, rfl, rfl⟩
  rename_i rav signer valid
  obtain ⟨usage, converted, recovered, payer, serviceProvider, dataService⟩ :=
    validateSubmission_ok.mp valid
  obtain ⟨answer, mid, check, rest⟩ := ran.bind_inv
  obtain ⟨store, runtime, granted⟩ := isSignerAuthorized_runs check
  rcases answer with err | _ | _
  · obtain ⟨rfl, rfl⟩ := rest.ret_inv
    exact .inl ⟨stop_ne_continue _, store, runtime⟩
  · obtain ⟨rfl, rfl⟩ := rest.ret_inv
    exact .inl ⟨stop_ne_continue _, store, runtime⟩
  dsimp only at rest
  split at rest
  · obtain ⟨rfl, rfl⟩ := rest.ret_inv
    exact .inl ⟨stop_ne_continue _, store, runtime⟩
  rename_i passed
  have exact : Exact g session submission pending rav signer :=
    ⟨usage, ⟨psr, given, converted⟩, recovered, payer, serviceProvider, dataService,
      (checkRequestedValue_ok.mp passed).2⟩
  obtain ⟨stopped, same⟩ | ⟨continued, cache, stored⟩ := acceptSubmission_runs rest
  · exact .inl ⟨stopped, same.store.trans store, same.runtime.trans runtime⟩
  refine .inr ⟨continued, rav, signer, exact, ?_, stored⟩
  unfold Authorized
  rw [cache]
  exact granted rfl

/-- Two usages with the same counters and the same amount due. -/
structure SameUsage (a b : Proto.Usage) : Prop where
  blocks : a.blocksProcessed = b.blocksProcessed
  bytes : a.bytesTransferred = b.bytesTransferred
  requests : a.requests = b.requests
  cost : a.cost.map Proto.GRT.toBigInt = b.cost.map Proto.GRT.toBigInt

theorem matchesUsage_same {usage : Proto.Usage} (matched : pending.matchesUsage usage = true) :
    SameUsage usage pending.usage := by
  unfold PendingRAVRequest.matchesUsage usageEqual at matched
  split at matched
  · cases matched
  rename_i counters
  simp only [not_or, not_not] at counters
  obtain ⟨blocks, bytes, requests⟩ := counters
  refine ⟨blocks.symm, bytes.symm, requests.symm, ?_⟩
  split at matched
  · next x y asked paid =>
      rw [asked, paid, Option.map_some, Option.map_some, of_decide_eq_true matched]
  · next asked paid => rw [asked, paid]
  · cases matched

/-- The submission answers the request that was in flight, by a signer with the payer's
authority, and its RAV is stored with the baseline of that request. -/
def TakenWhole (g : Gateway) (id : String) (session : Session)
    (submission : Option SignedRAVSubmission) (w w' : World) : Prop :=
  ∃ sub pending usage rav signer, submission = some sub ∧
    (stateOf w.runtime id).pendingRAV = some pending ∧
    sub.usage = some usage ∧ SameUsage usage pending.usage ∧
    Exact g session sub pending rav signer ∧ Authorized w' session.payer signer ∧
    storedAccounting w' id = some (paidFor pending rav)

/-- The repository and the runtime state of every session are as they were. -/
def LeftAlone (w w' : World) : Prop :=
  w'.store = w.store ∧ ∀ other, stateOf w'.runtime other = stateOf w.runtime other

theorem answerUnexpected_runs (ran : machine.Runs i (Gateway.answerUnexpected id) w response w') :
    response ≠ continuePaymentSessionResponse ∧ w' = w := by
  obtain ⟨found, mid, read, rest⟩ := ran.bind_inv
  obtain ⟨rfl, -⟩ := sessionGet_runs read
  cases found with
  | error err =>
    obtain ⟨rfl, rfl⟩ := rest.ret_inv
    exact ⟨stop_ne_continue _, rfl⟩
  | ok session =>
    obtain ⟨rfl, rfl⟩ := rest.ret_inv
    refine ⟨?_, rfl⟩
    split
    · exact stop_ne_continue _
    · exact stop_ne_continue _

/-- A submission is taken whole or not at all. -/
theorem submission_all_or_nothing {id : String} {session : Session}
    {submission : Option SignedRAVSubmission} {response : PaymentSessionResponse}
    (ran : machine.Runs i (g.handleRAVSubmission id session submission) w response w') :
    (response = continuePaymentSessionResponse → TakenWhole g id session submission w w') ∧
    (response ≠ continuePaymentSessionResponse → LeftAlone w w') := by
  suffices either : (response ≠ continuePaymentSessionResponse ∧ LeftAlone w w') ∨
      (response = continuePaymentSessionResponse ∧ TakenWhole g id session submission w w') by
    obtain ⟨stopped, alone⟩ | ⟨continued, whole⟩ := either
    · exact ⟨fun continued => absurd continued stopped, fun _ => alone⟩
    · exact ⟨fun _ => whole, fun stopped => absurd continued stopped⟩
  unfold Gateway.handleRAVSubmission at ran
  split at ran
  · obtain ⟨rfl, rfl⟩ := ran.ret_inv
    exact .inl ⟨stop_ne_continue _, rfl, fun _ => rfl⟩
  rename_i sub
  split at ran
  · obtain ⟨rfl, rfl⟩ := ran.ret_inv
    exact .inl ⟨stop_ne_continue _, rfl, fun _ => rfl⟩
  rename_i psr given
  obtain ⟨p, mid, name, live, free, closure, rfl⟩ := withSessionEval_runs ran
  obtain ⟨found, held, read, rest⟩ := closure.bind_inv
  obtain ⟨e, executed⟩ := read.perform_inv
  have pending : found = (stateOf w.runtime id).pendingRAV := by
    cases executed
    simp only [Runtime.write, Function.update_self]
  have locked : held.runtime = (w.runtime.ensure id).1.write p
      { stateOf w.runtime id with evalMu := some i } := by
    cases executed
    rfl
  have kept : held.store = w.store := by
    cases executed
    rfl
  cases found with
  | none =>
    obtain ⟨stopped, rfl⟩ := answerUnexpected_runs rest
    exact .inl ⟨stopped, kept, stateOf_released name live free locked⟩
  | some pendingRAV =>
    obtain ⟨_, mid₁, noted, rest⟩ := rest.bind_inv
    have before := note_runs noted
    obtain ⟨answer, mid₂, answered, rest⟩ := rest.bind_inv
    obtain ⟨_, mid₃, noted', rest⟩ := rest.bind_inv
    have after := note_runs noted'
    obtain ⟨rfl, rfl⟩ := rest.ret_inv
    obtain ⟨stopped, store, runtime⟩ | ⟨continued, rav, signer, exact, granted, stored⟩ :=
      answerInFlight_runs given answered
    · have unmoved := after.runtime.trans (runtime.trans (before.runtime.trans locked))
      refine .inl ⟨stopped, ?_, stateOf_released name live free unmoved⟩
      exact after.store.trans (store.trans (before.store.trans kept))
    obtain ⟨usage, paid, matched⟩ := exact.usage
    refine .inr ⟨continued, sub, pendingRAV, usage, rav, signer, rfl, pending.symm,
      paid, matchesUsage_same matched, exact, ?_, ?_⟩
    · rw [after.authCache]
      exact granted
    · rw [← stored, storedAccounting, after.store, storedAccounting]

/-- A session opened at 1 that owes two blocks, with a request for them in flight. -/
def requested : World :=
  (machine.play [Sample.whole 0, Sample.whole 1, Sample.steps 2 19] (boot Sample.gateway
    (Sample.pool [Sample.start 1, Sample.report 2, Sample.pay (Sample.rav 3) 2]))).shared

def payer : Session :=
  .new "s" Sample.payer Sample.serviceProvider Sample.dataService Sample.gateway.pricingConfig 0

def payment : SignedRAVSubmission := ⟨some (Sample.signed (Sample.rav 3)), some (Sample.usage 2)⟩

theorem submission_all_or_nothing_paid :
    ∃ w', machine.Runs 5 (Sample.gateway.handleRAVSubmission "s" payer (some payment)) requested
        continuePaymentSessionResponse w' ∧
      TakenWhole Sample.gateway "s" payer (some payment) requested w' := by
  have answered : (machine.runAlone 5 {} 200 (Sample.gateway.handleRAVSubmission "s" payer
      (some payment)) requested).map Prod.fst = some continuePaymentSessionResponse := by
    decide +kernel
  obtain ⟨⟨_, w'⟩, ended, rfl⟩ := Option.map_eq_some_iff.mp answered
  have ran := Machine.runAlone_runs ended
  exact ⟨w', ran, (submission_all_or_nothing ran).1 rfl⟩

/-! ## StartSession -/

/-- The request has been turned down. -/
def TurnedDown : Except ConnectError StartSessionResponse → Prop
  | .error _ => True
  | .ok response => response.accepted = false

/-- What `StartSession` answers when it has nowhere to send the consumer to. -/
def endpointMissing : ConnectError := ⟨.internal, "provider data-plane endpoint is not configured"⟩

/-- The RAV names the parties of the session, and its signer is the payer or somebody the contract
can be asked about. -/
def ValidInitialRAV (g : Gateway) (payer dataService : Address) (rav : SignedRAV) : Prop :=
  (∃ signer, g.recoverSigner rav = .ok signer ∧
    (payer = signer ∨ g.hasCollectorQuerier = true)) ∧
  g.checkInitialRAV payer dataService rav = .ok ()

/-- The request passes the checks that `StartSession` makes before it creates the session. -/
structure PassesChecks (g : Gateway) (req : StartSessionRequest) (payer dataService : Address)
    (initialRAV : Option SignedRAV) : Prop where
  parsed : Gateway.parseEscrowAccount req.escrowAccount =
    .ok (payer, g.serviceProvider, dataService)
  converted : Gateway.convertInitialRAV req.initialRav = .ok initialRAV
  initial : ∀ rav, initialRAV = some rav → ValidInitialRAV g payer dataService rav

variable {payer signer : Address} {req : StartSessionRequest}

theorem isSignerAuthorized_granted
    (ran : machine.Runs i (g.isSignerAuthorized payer signer) w (.ok true) w') :
    payer = signer ∨ g.hasCollectorQuerier = true := by
  obtain ⟨answer, mid, check, rest⟩ := ran.bind_inv
  obtain ⟨_, mid', noted, rest⟩ := rest.bind_inv
  obtain ⟨rfl, -⟩ := rest.ret_inv
  unfold Gateway.checkAuthorization at check
  split at check
  · next self => exact .inl (of_decide_eq_true self)
  split at check
  · next asks => exact .inr asks
  · obtain ⟨same, -⟩ := check.ret_inv
    cases same

/-- Once the cached answer has expired, the contract may answer that the signer is authorized. -/
theorem isSignerAuthorized_grants (i : ThreadId) (w : World)
    (known : payer = signer ∨ g.hasCollectorQuerier = true) :
    ∃ w', machine.Runs i (g.isSignerAuthorized payer signer) w (.ok true) w' := by
  let key := String.ofList (payer.pretty ++ '|' :: signer.pretty)
  let late : Oracle := { time := ((w.authCache.lookup key).map Prod.snd).getD 0 }
  have expired : (w.authCache.lookup key).filter (late.time < ·.2) = none := by
    cases cached : w.authCache.lookup key with
    | none => rfl
    | some entry => simp [late, cached]
  have checked : machine.Finishes i (Eq late) (fun r _ => r = .ok true)
      (g.checkAuthorization payer signer) w := by
    unfold Gateway.checkAuthorization
    split
    · exact .ret rfl
    next other =>
    rw [if_pos (known.resolve_left fun same => other (decide_eq_true same))]
    refine now_finishes fun _ here => .step (fun _ _ => rfl) ?_
    cases here
    rw [expired]
    exact .step (b := .ok true) (by rintro _ rfl; rfl)
      (now_finishes fun _ _ => .step (fun _ _ => rfl) (.ret rfl))
  obtain ⟨_, mid, check, rfl⟩ := checked.runs rfl
  exact ⟨_, check.bind (.act (e := {}) rfl .ret)⟩

theorem validateInitialRAV_runs {r : Except String Unit}
    (ran : machine.Runs i (g.validateInitialRAV payer dataService initialRAV) w r w') :
    w'.store = w.store ∧ (r = .ok () → ∀ rav, initialRAV = some rav →
      ValidInitialRAV g payer dataService rav) := by
  unfold Gateway.validateInitialRAV at ran
  split at ran
  · obtain ⟨-, rfl⟩ := ran.ret_inv
    exact ⟨rfl, fun _ => nofun⟩
  split at ran
  · obtain ⟨rfl, rfl⟩ := ran.ret_inv
    exact ⟨rfl, nofun⟩
  next signer recovered =>
  obtain ⟨answer, mid, check, rest⟩ := ran.bind_inv
  have same := (isSignerAuthorized_runs check).1
  rcases answer with err | _ | _
  · obtain ⟨rfl, rfl⟩ := rest.ret_inv
    exact ⟨same, nofun⟩
  · obtain ⟨rfl, rfl⟩ := rest.ret_inv
    exact ⟨same, nofun⟩
  · obtain ⟨passed, rfl⟩ := rest.ret_inv
    refine ⟨same, ?_⟩
    rintro rfl _ ⟨⟩
    exact ⟨⟨signer, recovered, isSignerAuthorized_granted check⟩, passed.symm⟩

theorem PassesChecks.validated (passes : PassesChecks g req payer dataService initialRAV)
    (i : ThreadId) (w : World) :
    ∃ w', machine.Runs i (g.validateInitialRAV payer dataService initialRAV) w (.ok ()) w' := by
  cases initialRAV with
  | none => exact ⟨w, .ret⟩
  | some rav =>
    obtain ⟨⟨signer, recovered, known⟩, addressed⟩ := passes.initial rav rfl
    obtain ⟨w', granted⟩ := isSignerAuthorized_grants i w known
    refine ⟨w', ?_⟩
    unfold Gateway.validateInitialRAV
    dsimp only
    rw [recovered, ← addressed]
    exact granted.bind .ret

/-- A session is created under an ID that neither a session nor a record has. -/
theorem sessionCreate_creates (i : ThreadId) (free : w.store.collectionMu = none)
    (named : session.id ≠ "") (absent : w.store.sessions.lookup session.id = none)
    (fresh : ∀ rav, session.currentRAV = some rav →
      w.store.records.lookup (collectionMapKey (collectionKeyFromRAV session.id rav.message)) =
        none) :
    machine.Finishes i (Eq {}) (fun r _ => r = .ok ()) (sessionCreate session) w := by
  have set {w : World} (absent : w.store.sessions.lookup session.id = none) :
      machine.Finishes i (Eq {}) (fun found _ => found = false)
        (store (.sessionsGetOrSet session)) w :=
    getOrSet_finishes (fun taken => by rw [absent] at taken; cases taken) fun _ _ => rfl
  unfold sessionCreate
  rw [if_neg named]
  split
  · refine (set absent).bind ?_
    rintro _ _ rfl
    exact .ret rfl
  next rav given =>
  refine withCollectionMu_finishes free (.bind (R := fun r w' => w'.store.sessions =
    w.store.sessions ∧ ∃ next, r = .ok next) (now_finishes fun e _ => ?_) ?_)
  · rw [newCollectionRecordFromRAV, if_neg named]
    refine recordsGet_finishes (.ret ⟨rfl, ?_⟩)
    rw [withMutex, fresh rav given]
    exact ⟨_, rfl⟩
  · rintro _ w' ⟨same, next, rfl⟩
    refine (set (same ▸ absent)).bind ?_
    rintro _ _ rfl
    exact .step (fun _ _ => rfl) (.ret rfl)

theorem createSession_runs {answer : Except ConnectError StartSessionResponse}
    (ran : machine.Runs i (g.createSession req payer dataService initialRAV) w answer w')
    (refused : TurnedDown answer) : w'.store = w.store ∨ trimSpace g.dataPlaneEndpoint = "" := by
  obtain ⟨id, mid, generated, rest⟩ := ran.bind_inv
  obtain ⟨now, mid', clock, rest⟩ := rest.bind_inv
  have same := (outside_runs generated).trans (outside_runs clock)
  obtain ⟨r, last, create, rest⟩ := rest.bind_inv
  cases r with
  | error err =>
    obtain ⟨-, rfl⟩ := rest.ret_inv
    exact .inl ((sessionCreate_runs create).trans same.store)
  | ok _ =>
    dsimp only at rest
    split at rest
    · next blank => exact .inr blank
    · obtain ⟨rfl, -⟩ := rest.ret_inv
      cases refused

theorem exists_fresh_id (w : World) (initialRAV : Option SignedRAV) :
    ∃ id, id ≠ "" ∧ w.store.sessions.lookup id = none ∧ ∀ rav, initialRAV = some rav →
      w.store.records.lookup (collectionMapKey (collectionKeyFromRAV id rav.message)) = none := by
  let recordKey (id : String) : String :=
    initialRAV.elim id fun rav => collectionMapKey (collectionKeyFromRAV id rav.message)
  have injective : Function.Injective recordKey := by
    intro a b same
    cases initialRAV with
    | none => exact same
    | some rav => exact congrArg CollectionKey.sessionID (collectionMapKey_injective same)
  obtain ⟨id, unused⟩ := Infinite.exists_notMem_finset (insert "" (w.store.sessions.keys.toFinset ∪
    w.store.records.keys.toFinset.preimage recordKey injective.injOn))
  simp only [Finset.mem_insert, Finset.mem_union, List.mem_toFinset, Finset.mem_preimage,
    not_or, ← AList.mem_keys, ← AList.lookup_eq_none] at unused
  refine ⟨id, unused.1, unused.2.1, ?_⟩
  rintro rav rfl
  exact unused.2.2

/-- Behind a blank endpoint, a request that passes the checks may be answered with an error when
its session is there. -/
theorem PassesChecks.leaves (passes : PassesChecks g req payer dataService initialRAV)
    (blank : trimSpace g.dataPlaneEndpoint = "") (free : w.store.collectionMu = none) :
    ∃ w', machine.Runs i (g.startSession req) w (.error endpointMissing) w' ∧
      w'.store.sessions ≠ w.store.sessions := by
  obtain ⟨mid, validated⟩ := passes.validated i w
  have same := (validateInitialRAV_runs validated).1
  obtain ⟨id, named, absent, fresh⟩ := exists_fresh_id mid initialRAV
  rw [← same] at free
  let session := g.consumerSession id payer dataService initialRAV 0
  have creates : machine.Finishes i (Eq {}) (fun r _ => r = .ok ()) (sessionCreate session) mid :=
    sessionCreate_creates i free named absent fresh
  obtain ⟨_, w', created, rfl⟩ := creates.runs rfl
  have wrote : w'.store.sessions = mid.store.sessions.insert id session :=
    (sessionCreate_runs created).2
  refine ⟨w', ?_, fun kept => ?_⟩
  · unfold Gateway.startSession
    rw [passes.parsed, passes.converted]
    simp only [addressesEqual_eq, ne_eq, not_true_eq_false, if_false]
    refine validated.bind (.act (e := { text := id }) rfl (.act (e := {}) rfl (created.bind ?_)))
    dsimp only
    rw [if_pos blank]
    exact .ret
  · rw [← same, wrote] at kept
    rw [← kept, AList.lookup_insert] at absent
    cases absent

/-- With the mutex of the records free, every call that turns a request down leaves sessions and
records as they were exactly when the data-plane endpoint is not blank or the request fails a check
that comes before the session is created: the endpoint is looked at after that. -/
theorem refused_start_leaves_nothing_iff (free : w.store.collectionMu = none) :
    (∀ answer w', machine.Runs i (g.startSession req) w answer w' → TurnedDown answer →
      w'.store.sessions = w.store.sessions ∧ w'.store.records = w.store.records) ↔
    ¬ (trimSpace g.dataPlaneEndpoint = "" ∧
      ∃ payer dataService initialRAV, PassesChecks g req payer dataService initialRAV) := by
  constructor
  · rintro unchanged ⟨blank, payer, dataService, initialRAV, passes⟩
    obtain ⟨w', ran, differs⟩ := passes.leaves (i := i) blank free
    exact differs (unchanged _ w' ran trivial).1
  intro spared answer w' ran refused
  have unchanged (same : w'.store = w.store) : w'.store.sessions = w.store.sessions ∧
      w'.store.records = w.store.records := by
    rw [same]
    exact ⟨rfl, rfl⟩
  unfold Gateway.startSession at ran
  split at ran
  · obtain ⟨-, rfl⟩ := ran.ret_inv
    exact unchanged rfl
  next payer receiver dataService parsed =>
  split at ran
  · obtain ⟨-, rfl⟩ := ran.ret_inv
    exact unchanged rfl
  next mine =>
  split at ran
  · obtain ⟨-, rfl⟩ := ran.ret_inv
    exact unchanged rfl
  next initialRAV converted =>
  obtain ⟨r, mid, validated, rest⟩ := ran.bind_inv
  obtain ⟨same, valid⟩ := validateInitialRAV_runs validated
  cases r with
  | error reason =>
    obtain ⟨-, rfl⟩ := rest.ret_inv
    exact unchanged same
  | ok _ =>
    obtain kept | blank := createSession_runs rest refused
    · exact unchanged (kept.trans same)
    rw [addressesEqual_eq, not_not] at mine
    subst mine
    exact absurd ⟨blank, payer, dataService, initialRAV, parsed, converted, valid rfl⟩ spared

/-- A gateway whose data-plane endpoint is blank. -/
def unreachable : Gateway := { Sample.gateway with dataPlaneEndpoint := " " }

def openingRequest : StartSessionRequest :=
  ⟨some ⟨some Sample.payer, some Sample.serviceProvider, some Sample.dataService⟩,
    some (Sample.signed (Sample.rav 1))⟩

/-- A request on an empty repository, answered by a gateway. -/
def startOn (g : Gateway) (req : StartSessionRequest) :
    Option (Except ConnectError StartSessionResponse × World) :=
  machine.runAlone 0 { text := "s" } 200 (g.startSession req) {}

/-- The call is turned down and the session and its record are there. -/
theorem refused_start_left_behind :
    ∃ w', machine.Runs 0 (unreachable.startSession openingRequest) {} (.error endpointMissing) w' ∧
      w'.store.sessions.keys = ["s"] ∧ w'.store.records.keys.length = 1 := by
  have answered : (startOn unreachable openingRequest).map Prod.fst =
      some (.error endpointMissing) := by decide +kernel
  have left : (startOn unreachable openingRequest).map (fun r =>
      (r.2.store.sessions.keys, r.2.store.records.keys.length)) = some (["s"], 1) := by
    decide +kernel
  obtain ⟨⟨_, w'⟩, ended, rfl⟩ := Option.map_eq_some_iff.mp answered
  rw [ended] at left
  obtain ⟨sessions, records⟩ := Prod.mk.inj (Option.some.inj left)
  exact ⟨w', Machine.runAlone_runs ended, sessions, records⟩

/-- Somebody else's escrow account. -/
def strayRequest : StartSessionRequest :=
  ⟨some ⟨some Sample.payer, some Sample.payer, some Sample.dataService⟩, none⟩

def strayAnswer : StartSessionResponse :=
  Gateway.rejectSession "escrow account receiver does not match this service provider"

/-- Behind a blank endpoint, nothing is left of a request for somebody else's account. -/
theorem refused_start_leaves_nothing_stray :
    (∃ w', machine.Runs 0 (unreachable.startSession strayRequest) {} (.ok strayAnswer) w') ∧
    ∀ answer w', machine.Runs 0 (unreachable.startSession strayRequest) {} answer w' →
      TurnedDown answer → w'.store.sessions = ∅ ∧ w'.store.records = ∅ := by
  have answered : (startOn unreachable strayRequest).map Prod.fst = some (.ok strayAnswer) := by
    decide +kernel
  obtain ⟨⟨_, w'⟩, ended, rfl⟩ := Option.map_eq_some_iff.mp answered
  refine ⟨⟨w', Machine.runAlone_runs ended⟩, (refused_start_leaves_nothing_iff rfl).mpr ?_⟩
  rintro ⟨-, payer, dataService, initialRAV, passes⟩
  have parsed : Gateway.parseEscrowAccount strayRequest.escrowAccount =
      .ok (Sample.payer, Sample.payer, Sample.dataService) := by decide
  have own : Sample.payer = Sample.serviceProvider := congrArg (fun r => r.2.1)
    (Except.ok.inj (parsed.symm.trans passes.parsed))
  exact absurd own (by decide)

end CallOutcomes

end Sdsce.Guarantees
