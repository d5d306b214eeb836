import Sdsce.Guarantees.Alone
import Sdsce.Guarantees.Completion
import Sdsce.Source.System

/-!
# The decision of a metered evaluation

One call of `evaluateMeteredUsage` on an active session, run alone: when it ends the session, when
it asks for a RAV and when it does neither.
-/
namespace Sdsce.Guarantees.RuntimeDecision

open Sdsce.Theory Sdsce.Source Sdsce.Source.InMemory
open Sdsce.Guarantees.Alone

variable {g : Gateway} {i : ThreadId} {w : World} {id : String} {session : Session}
  {answer : Except String Int} {β : Type}

/-- No swap is lost, and the escrow contract answers `answer`. -/
def Escrow (answer : Except String Int) (e : Oracle) : Prop :=
  Uncontended e ∧ e.answer e.amount = answer

/-- What the gateway gets to know of the payer's balance. -/
def knownBalance (g : Gateway) (answer : Except String Int) : Option Int :=
  if g.hasEscrowQuerier then answer.toOption else none

/-- What the payer owes: the accepted RAV and the cost since its baseline. -/
def owed (session : Session) : Int := session.ravValue + session.usageDeltaSinceBaseline.cost

/-- The response is on the stream's channel, or waits for a stream. -/
def Dispatched (id : String) (response : PaymentSessionResponse) (before after : Runtime) : Prop :=
  (stateOf after id).queuedResponse.map Queued.response = some response ∨
    ∃ events, (stateOf before id).events = some events ∧
      after.channels events = before.channels events ++ [response]

theorem Dispatched.congr {response : PaymentSessionResponse} {before before' after : Runtime}
    (there : Dispatched id response before' after)
    (events : (stateOf before' id).events = (stateOf before id).events)
    (channels : before'.channels = before.channels) : Dispatched id response before after := by
  unfold Dispatched at there ⊢
  rwa [events, channels] at there

/-- What `dispatch` has done when it returns. -/
structure Sent (id : String) (response : PaymentSessionResponse)
    (pending : Option PendingRAVRequest) (w w' : World) : Prop where
  store : w'.store = w.store
  pending : (stateOf w'.runtime id).pendingRAV = pending
  dispatched : Dispatched id response w.runtime w'.runtime

/-! ## The steps -/

theorem clearPendingRAV_finishes {fair : Oracle → Prop} {Q : Unit → World → Prop}
    (done : ∀ r, (stateOf r id).pendingRAV = none →
      (stateOf r id).events = (stateOf w.runtime id).events → r.channels = w.runtime.channels →
      Q () { w with runtime := r }) :
    machine.Finishes i fair Q (runtime (.clearPendingRAV id)) w := by
  cases found : w.runtime.live.lookup id with
  | none =>
    have executes (e : Oracle) :
        machine.exec i (.runtime (.clearPendingRAV id)) e w = some (w, ()) := by
      simp only [machine, World.exec, Runtime.exec, Runtime.find, found, Option.map_none]
    refine .answers (fun e _ => executes e) (done w.runtime ?_ rfl rfl)
    rw [stateOf, found]
  | some gen =>
    have live : Live w.runtime ⟨id, gen⟩ := found
    have executes (e : Oracle) : machine.exec i (.runtime (.clearPendingRAV id)) e w =
        some ({ w with
          runtime := w.runtime.write ⟨id, gen⟩
            { w.runtime.heap ⟨id, gen⟩ with pendingRAV := none } }, ()) := by
      simp only [machine, World.exec, Runtime.exec, Runtime.find, found, Option.map_some]
    refine .answers (fun e _ => executes e) (done _ ?_ ?_ rfl)
    · rw [stateOf_write live, if_pos rfl]
    · rw [stateOf_write live, if_pos rfl]
      rw [← stateOf_live live]

/-- The entry after `dispatchLocked`, and the response under its pointer. -/
def queuedIn (r : Runtime) (id : String) (response : PaymentSessionResponse)
    (pending : Option PendingRAVRequest) : Runtime :=
  let entry := r.ensure id
  { entry.1.write entry.2 { entry.1.heap entry.2 with
      queuedResponse := some ⟨entry.1.next, response⟩
      pendingRAV := pending } with
    next := entry.1.next + 1 }

theorem queuedIn_live (r : Runtime) (id : String) (response : PaymentSessionResponse)
    (pending : Option PendingRAVRequest) :
    Live (queuedIn r id response pending) (r.ensure id).2 :=
  ensure_live r id

theorem stateOf_queuedIn (r : Runtime) (id : String) (response : PaymentSessionResponse)
    (pending : Option PendingRAVRequest) :
    stateOf (queuedIn r id response pending) id = { stateOf r id with
      queuedResponse := some ⟨(r.ensure id).1.next, response⟩
      pendingRAV := pending } := by
  have live := ensure_live r id
  have name := r.ensure_sessionID id
  change stateOf ((r.ensure id).1.write (r.ensure id).2 _) id = _
  rw [stateOf_write live, name, if_pos rfl, ← stateOf_live live, name, stateOf_ensure]

theorem queuedIn_channels (r : Runtime) (id : String) (response : PaymentSessionResponse)
    (pending : Option PendingRAVRequest) :
    (queuedIn r id response pending).channels = r.channels := by
  change (r.ensure id).1.channels = r.channels
  unfold Runtime.ensure
  split <;> rfl

theorem dispatch_finishes {fair : Oracle → Prop} (response : PaymentSessionResponse)
    (pending : Option PendingRAVRequest) :
    machine.Finishes i fair (fun _ w' => Sent id response pending w w')
      (Gateway.dispatch id response pending) w := by
  have state := stateOf_queuedIn w.runtime id response pending
  have channels := queuedIn_channels w.runtime id response pending
  have live := queuedIn_live w.runtime id response pending
  have name := w.runtime.ensure_sessionID id
  let queued : Queued := ⟨(w.runtime.ensure id).1.next, response⟩
  let w₁ : World := { w with runtime := queuedIn w.runtime id response pending }
  have heap : w₁.runtime.heap (w.runtime.ensure id).2 = stateOf w₁.runtime id := by
    rw [← stateOf_live live, name]
  have locked (e : Oracle) : machine.exec i (.runtime (.dispatchLocked id response pending)) e w =
      some (w₁, (stateOf w.runtime id).events, queued) := by
    have here : ((w.runtime.ensure id).1.heap (w.runtime.ensure id).2).events =
        (stateOf w.runtime id).events := by
      rw [← stateOf_ensure w.runtime id id, ← stateOf_live (ensure_live w.runtime id), name]
    rw [← here]
    rfl
  refine .step (fun e _ => locked e) ?_
  have waits : Dispatched id response w.runtime w₁.runtime := .inl (by rw [state]; rfl)
  cases bound : (stateOf w.runtime id).events with
  | none => exact .ret ⟨rfl, by rw [state], waits⟩
  | some events =>
    by_cases room : (w₁.runtime.channels events).length < eventsCapacity
    · let w₂ : World := { w₁ with
        runtime := { w₁.runtime with
          channels := Function.update w₁.runtime.channels events
            (w₁.runtime.channels events ++ [response]) } }
      have sends (e : Oracle) :
          machine.exec i (.runtime (.trySend events response)) e w₁ = some (w₂, true) := by
        simp only [machine, World.exec, Runtime.exec, if_pos room]
        rfl
      refine .step (fun e _ => sends e) ?_
      let p := (w.runtime.ensure id).2
      have found : w₂.runtime.find id = some p := name ▸ Live.find (r := w₂.runtime) live
      have current : w₂.runtime.heap p = { stateOf w.runtime id with
          queuedResponse := some queued
          pendingRAV := pending } := heap.trans state
      have clears (e : Oracle) :
          machine.exec i (.runtime (.clearQueuedResponse id events queued pending)) e w₂ =
            some ({ w₂ with
              runtime := w₂.runtime.write p { w₂.runtime.heap p with
                queuedResponse := none
                pendingRAV := pending } }, ()) := by
        simp only [machine, World.exec, Runtime.exec, found, current, bound, Option.map_some,
          ne_eq, not_true_eq_false, or_self, if_false]
      refine .answers (fun e _ => clears e) ⟨rfl, ?_, .inr ⟨events, bound, ?_⟩⟩
      · rw [stateOf_write (r := w₂.runtime) live, if_pos name.symm]
      · change Function.update w₁.runtime.channels events _ events = _
        rw [Function.update_self, channels]
    · have full (e : Oracle) :
          machine.exec i (.runtime (.trySend events response)) e w₁ = some (w₁, false) := by
        simp only [machine, World.exec, Runtime.exec, if_neg room]
      refine .step (fun e _ => full e) (.ret ?_)
      exact ⟨rfl, by rw [state], waits⟩

/-- The answer of `GetEscrowBalance`, with or without a contract to ask. -/
def escrowAnswer (g : Gateway) (answer : Except String Int) : Except String (Option Int) :=
  if g.hasEscrowQuerier then answer.map some else .ok none

theorem assessSessionFunds_finishes (session : Session) :
    machine.Finishes i (Escrow answer)
      (fun a w' => a = assessFunds session (escrowAnswer g answer) ∧ w = w')
      (g.assessSessionFunds session) w := by
  refine .bind (R := fun balance w' => balance = escrowAnswer g answer ∧ w' = w)
    ?_ ?_
  · unfold Gateway.getEscrowBalance escrowAnswer
    split
    · refine .bind (R := fun got w' => got = answer ∧ w' = w) ?_ ?_
      · refine .perform (fun _ _ => rfl) fun e w' b fair ran => ?_
        cases ran
        exact ⟨fair.2, rfl⟩
      · rintro got w' ⟨rfl, rfl⟩
        cases got with
        | error | ok => exact .ret ⟨rfl, rfl⟩
    · exact .ret ⟨rfl, rfl⟩
  · rintro balance w' ⟨rfl, rfl⟩
    exact .ret ⟨rfl, rfl⟩

/-- The balance is known and does not cover what is owed. -/
def Overdrawn (session : Session) (known : Option Int) : Prop :=
  ∃ balance, known = some balance ∧ balance < owed session

theorem assessFunds_insufficient (g : Gateway) (session : Session) (answer : Except String Int) :
    (assessFunds session (escrowAnswer g answer)).insufficient = true ↔
      Overdrawn session (knownBalance g answer) := by
  unfold escrowAnswer knownBalance Overdrawn
  split
  · cases answer with
    | error err => simp [assessFunds, FundsAssessment.insufficient, Except.map, Except.toOption]
    | ok balance =>
      simp only [Except.map, Except.toOption, assessFunds, FundsAssessment.insufficient,
        Option.some.injEq, exists_eq_left']
      split
      · next short => exact ⟨fun _ => short, fun _ => rfl⟩
      · next enough => exact ⟨nofun, fun short => absurd short enough⟩
  · simp [assessFunds, FundsAssessment.insufficient]

theorem assessFunds_minimumNeeded {balance : Int} (known : knownBalance g answer = some balance)
    (short : balance < owed session) :
    (assessFunds session (escrowAnswer g answer)).minimumNeeded = owed session - balance := by
  unfold knownBalance at known
  split at known
  · next querier =>
      cases answer with
      | error err => cases known
      | ok other =>
        cases known
        unfold owed at short ⊢
        simp only [escrowAnswer, if_pos querier, Except.map, assessFunds, if_pos short]
  · cases known

theorem storeRuntimeState_finishes {Q : Except RepoError Unit → World → Prop} {next : Session}
    (stored : w.store.sessions.lookup id = some session) (active : session.isActive = true)
    (done : ∀ history after, after.status = next.status →
      Q (.ok ()) { w with
        store := { w.store with sessions := w.store.sessions.insert id after }
        history }) :
    machine.Finishes i (Escrow answer) Q (Gateway.storeRuntimeState id next) w := by
  refine swapSession_once (fun _ here => here.1) (fun absent => ?_) ?_
  · rw [stored] at absent
    cases absent
  intro e found history _ present
  rw [stored] at present
  cases present
  refine done history _ ?_
  have running : session.status ≠ .terminated := by
    intro ended
    rw [Session.isActive, ended] at active
    cases active
  rw [SessionUpdate.apply, if_pos running]

/-- A request is in flight: the one that was, or a new one for everything that is owed. -/
def RequestPending (id : String) (session : Session) (before after : Runtime) : Prop :=
  ∃ pending, (stateOf after id).pendingRAV = some pending ∧
    match (stateOf before id).pendingRAV with
    | none => pending.targetValue = owed session
    | some old => pending = old

theorem requestRAV_finishes (session : Session) (value : 0 ≤ session.ravValue)
    (fits : owed session < 2 ^ 256) :
    machine.Finishes i (Escrow answer) (fun _ w' => w'.store = w.store ∧
      ((stateOf w.runtime id).events.isSome = true → session.currentRAV.isSome = true →
        g.ravRequestThreshold ≤ session.usageDeltaSinceBaseline.cost →
        RequestPending id session w.runtime w'.runtime))
      (g.requestRAV id session) w := by
  unfold Gateway.requestRAV
  split
  · have reads (e : Oracle) : machine.exec i (.runtime (.runtimeState id)) e w =
        some (w, (stateOf w.runtime id).events, (stateOf w.runtime id).pendingRAV) := by
      cases found : w.runtime.live.lookup id with
      | none =>
        simp only [machine, World.exec, Runtime.exec, Runtime.find, stateOf, found, Option.map_none]
      | some gen =>
        simp only [machine, World.exec, Runtime.exec, Runtime.find, stateOf, found, Option.map_some]
    refine .step (fun e _ => reads e) ?_
    dsimp only
    split
    · next idle =>
        refine .ret ⟨rfl, fun bound _ _ => ?_⟩
        cases inFlight : (stateOf w.runtime id).pendingRAV with
        | none =>
          rw [inFlight] at idle
          cases events : (stateOf w.runtime id).events with
          | none =>
            rw [events] at bound
            cases bound
          | some ch =>
            rw [events] at idle
            cases idle
        | some old => exact ⟨old, inFlight, by rw [inFlight]⟩
    · next free =>
        have noRequest : (stateOf w.runtime id).pendingRAV = none := by
          simp only [Bool.or_eq_true, not_or, Option.not_isSome_iff_eq_none] at free
          exact free.2
        split
        · next none =>
            refine .ret ⟨rfl, fun _ holds => ?_⟩
            rw [none] at holds
            cases holds
        rename_i rav held
        refine .bind (R := fun _ w' => w' = w) ?_ ?_
        · exact .perform (fun _ _ => rfl) fun e w' b _ ran => by cases ran; rfl
        rintro now _ rfl
        refine .step (fun e _ => rfl) ?_
        refine (dispatch_finishes _ _).mono ?_
        intro _ w' sent
        refine ⟨sent.store, fun _ _ _ => ?_⟩
        have outstanding : session.ravValue = rav.message.valueAggregate := by
          rw [Session.ravValue, held]
        have due : (Proto.GRT.fromBigInt session.usageDeltaSinceBaseline.cost).toBigInt =
            session.usageDeltaSinceBaseline.cost := by
          refine Proto.GRT.toBigInt_fromBigInt session.usageDelta_cost_nonneg ?_
          unfold owed at fits
          omega
        have inFlight := sent.pending
        simp only [newPendingRAVRequest, held, requestedUsage] at inFlight
        refine ⟨_, inFlight, ?_⟩
        rw [noRequest]
        rw [due, owed, outstanding]
  · next enough =>
      refine .ret ⟨rfl, fun _ holds reaches => absurd ?_ enough⟩
      rw [Gateway.shouldRequestRAV, holds, decide_eq_true reaches]
      rfl

/-- Only the session under `id` has been replaced, by one in this state. -/
def Stored (status : SessionStatus) (id : String) (w w' : World) : Prop :=
  ∃ history after, after.status = status ∧ w' = { w with
    store := { w.store with sessions := w.store.sessions.insert id after }
    history }

/-- What one evaluation of an active session comes to. -/
structure Decides (g : Gateway) (id : String) (session : Session) (known : Option Int)
    (w w' : World) : Prop where
  status : ∃ after, w'.store.sessions.lookup id = some after ∧
    (after.status = .terminated ↔ Overdrawn session known) ∧
    (¬ Overdrawn session known → after.status = .active)
  funds : ∀ balance, known = some balance → balance < owed session →
    (stateOf w'.runtime id).pendingRAV = none ∧ ∃ outstanding total escrow minimum,
      Dispatched id (.needMoreFunds outstanding total escrow minimum) w.runtime w'.runtime ∧
        minimum.toBigInt = owed session - balance
  request : ¬ Overdrawn session known → (stateOf w.runtime id).events.isSome = true →
    session.currentRAV.isSome = true →
    g.ravRequestThreshold ≤ session.usageDeltaSinceBaseline.cost →
    RequestPending id session w.runtime w'.runtime ∧
      ∀ balance, known = some balance → owed session ≤ balance
  unknown : known = none → ∃ after, w'.store.sessions.lookup id = some after ∧
    after.status = .active

/-- An evaluation of an active session returns, and ends the session exactly when the balance is
known and does not cover what is owed. -/
theorem evaluation_decides (g : Gateway) (i : ThreadId) (w : World) (id : String)
    (session : Session) (answer : Except String Int)
    (stored : w.store.sessions.lookup id = some session) (active : session.isActive = true)
    (value : 0 ≤ session.ravValue) (fits : owed session < 2 ^ 256)
    (unsigned : ∀ balance, knownBalance g answer = some balance → 0 ≤ balance) :
    machine.Finishes i (Escrow answer)
      (fun r w' => r = .ok () ∧ Decides g id session (knownBalance g answer) w w')
      (g.evaluateMeteredUsage id) w := by
  refine .bind (R := fun r w' => r = .ok session ∧ w = w') ?_ ?_
  · refine .step (fun e _ => rfl) ?_
    simp only [stored]
    exact .ret ⟨rfl, rfl⟩
  rintro _ _ ⟨rfl, rfl⟩
  simp only [active, if_true]
  refine (assessSessionFunds_finishes (g := g) session).bind ?_
  rintro _ _ ⟨rfl, rfl⟩
  have decision := assessFunds_insufficient g session answer
  split
  · next insufficient =>
      have overdrawn := decision.mp insufficient
      refine .bind (R := fun _ w' => w = w')
        (.perform (fun _ _ => rfl) fun e w' b _ ran => by cases ran; rfl) ?_
      rintro now _ rfl
      refine .bind (storeRuntimeState_finishes (Q := fun r w' => r = .ok () ∧
        Stored .terminated id w w') stored active fun history after ended =>
          ⟨rfl, history, after, ended, rfl⟩) ?_
      rintro _ _ ⟨rfl, history, after, ended, rfl⟩
      refine .bind (R := fun _ w' => ∃ r, w' = { w with
          store := { w.store with sessions := w.store.sessions.insert id after }
          history
          runtime := r } ∧ (stateOf r id).events = (stateOf w.runtime id).events ∧
          r.channels = w.runtime.channels)
        (clearPendingRAV_finishes fun r _ events channels => ⟨r, rfl, events, channels⟩) ?_
      rintro _ _ ⟨r, rfl, events, channels⟩
      refine (dispatch_finishes _ none).bind ?_
      intro _ w' sent
      refine .ret ⟨rfl, ?_⟩
      have dispatched := sent.dispatched.congr events channels
      have kept : w'.store.sessions.lookup id = some after := by
        rw [sent.store]
        exact AList.lookup_insert _
      refine ⟨⟨after, kept, ⟨fun _ => overdrawn, fun _ => ended⟩, fun covered =>
        absurd overdrawn covered⟩, ?_, fun covered => absurd overdrawn covered, ?_⟩
      · intro balance known short
        refine ⟨sent.pending, _, _, _, _, dispatched, ?_⟩
        have nonneg := unsigned balance known
        rw [assessFunds_minimumNeeded known short]
        exact Proto.GRT.toBigInt_fromBigInt (by omega) (by omega)
      · intro unknown
        obtain ⟨balance, known, -⟩ := overdrawn
        rw [unknown] at known
        cases known
  · next enough =>
      have covered := mt decision.mpr enough
      have running : session.status = .active := by
        simpa [Session.isActive] using active
      refine .bind (storeRuntimeState_finishes (Q := fun r w' => r = .ok () ∧
        Stored .active id w w') stored active fun history after same =>
          ⟨rfl, history, after, same.trans running, rfl⟩) ?_
      rintro _ _ ⟨rfl, history, after, kept, rfl⟩
      refine (requestRAV_finishes (applyFundsAssessmentMetadata session _) value fits).bind ?_
      rintro _ w' ⟨store, requests⟩
      have found : w'.store.sessions.lookup id = some after := by
        rw [store]
        exact AList.lookup_insert _
      refine .ret ⟨rfl, ⟨after, found, ⟨fun ended => ?_, fun overdrawn => absurd overdrawn covered⟩,
        fun _ => kept⟩, ?_, ?_, fun _ => ⟨after, found, kept⟩⟩
      · rw [kept] at ended
        cases ended
      · exact fun balance known short => absurd ⟨balance, known, short⟩ covered
      intro _ bound held reaches
      refine ⟨requests bound held reaches, fun balance known => ?_⟩
      by_contra short
      exact covered ⟨balance, known, by omega⟩

/-- A gateway that asks the escrow contract. -/
def querying : Gateway := { Sample.gateway with hasEscrowQuerier := true }

/-- A session that owes two units, of which the payer has one. -/
def debtor : Session :=
  { Session.new "s" Sample.payer Sample.serviceProvider Sample.dataService
      Sample.gateway.pricingConfig 0 with
    blocksProcessed := 2
    totalCost := 2 }

def indebted : World := { store := { sessions := AList.insert "s" debtor ∅ } }

theorem evaluation_decides_debtor :
    Overdrawn debtor (knownBalance querying (.ok 1)) ∧
    machine.Finishes 0 (Escrow (.ok 1))
      (fun r w' => r = .ok () ∧ Decides querying "s" debtor (knownBalance querying (.ok 1))
        indebted w')
      (querying.evaluateMeteredUsage "s") indebted := by
  refine ⟨⟨1, rfl, by decide⟩, ?_⟩
  refine evaluation_decides querying 0 indebted "s" debtor (.ok 1) (AList.lookup_insert _) rfl
    (by decide) (by decide) ?_
  intro balance known
  cases known
  decide

end Sdsce.Guarantees.RuntimeDecision
