import Sdsce.Guarantees.Spending.RequestSigning
import Sdsce.Source.Ingress
import Sdsce.Theory.Protocol

/-!
# Clean ends of finite streams

The wait after a finite stream reads the coordinator's result, then its flag, then asks the provider
for the status, and only then returns. What it has read holds at the return as long as the payment
control writes nothing in between; the flag is not read again after the status call.
-/
namespace Sdsce.Guarantees.FiniteEnds

open Sdsce.Theory Sdsce.Source Sdsce.Source.Ingress
open Consumer (Sidecar LocalSession)

/-! ## What the wait relies on -/

/-- What the wait has read in its turn: no result, then the flag. `settled` is reached with the
status answer by which the wait returns. -/
inductive Phase where
  | outside | checked | sampled (localPending : Bool) | settled
deriving DecidableEq

/-- The status answers on which a turn without local payment control returns nil. -/
def reportsSettled (status : Except String (Option GetSessionStatusResponse)) : Bool :=
  match status with
  | .error _ => false
  | .ok resp =>
    (resolveAmbiguousIngressSessionStatus resp).isNone && !pendingAtProvider resp

def Phase.nextStream (l : Phase) {β : Type} (a : StreamAct β) (b : β) : Phase :=
  match β, a, b with
  | _, .currentResult, result => if result.isNone then .checked else .outside
  | _, .paymentControlState, (localPending, _) =>
    if l = .checked then .sampled localPending else .outside
  | _, .getStatus, status =>
    if l = .sampled false ∧ reportsSettled status then .settled else .outside
  | _, .select _ _, _ => .outside
  | _, .setResult _, _ => l
  | _, .closeDone, _ => l

/-- The phases that a goroutine goes through; only those of the wait are looked at. -/
def protocol : Protocol IngressAct Phase where
  allows _ _ _ := True
  next l _ a b :=
    match a with
    | .control _ => l
    | .stream a => l.nextStream a b

/-- What the wait has read is still so. -/
def Phase.Holds (c : Coordinator) : Phase → Prop
  | outside => True
  | checked => c.result = none
  | sampled localPending => localPending = false → c.result = none ∧ c.paymentControlPending = false
  | settled => c.result = none ∧ c.paymentControlPending = false

/-- The wait has read that there is no result. -/
def Phase.hasChecked : Phase → Bool
  | checked | sampled false | settled => true
  | outside | sampled true => false

/-- The wait has read that no payment control is pending. -/
def Phase.hasSampled : Phase → Bool
  | sampled false | settled => true
  | outside | checked | sampled true => false

/-- No result is set and no payment control begins between the wait's reading of it and the end of
its turn. -/
def undisturbed (_ : Goroutine) {β : Type} (a : IngressAct β)
    (s : IngressState × (Goroutine → Phase)) : Bool :=
  match β, a with
  | _, .stream (.setResult _) => !(s.2 .wait).hasChecked
  | _, .control (.setPaymentControlPending pending) => !(pending && (s.2 .wait).hasSampled)
  | _, _ => true

/-! ## The wait follows its phases -/

/-- The returns that are not the clean one. -/
def Unsettled (r : Waiting ⊕ FiniteEnd) : Prop := r ≠ .inr .settled

theorem currentResultOr_unsettled (other : FiniteEnd) (h : other ≠ .settled) (l : Phase) :
    protocol.Follows (currentResultOr other) l fun r _ => Unsettled r := by
  refine ⟨trivial, ?_⟩
  rintro (_ | result)
  · exact fun same => h (Sum.inr.inj same)
  · exact fun same => by cases same

theorem awaitChange_unsettled (timeout : String) (w : Waiting) (changed : Nat) (l : Phase) :
    protocol.Follows (awaitChange timeout w changed) l fun r _ => Unsettled r := by
  refine ⟨trivial, ?_⟩
  rintro (_ | _ | _ | _ | _)
  · exact currentResultOr_unsettled .clientDone nofun _
  · exact currentResultOr_unsettled (.unavailable _) nofun _
  all_goals exact fun same => by cases same

/-- A turn returns nil only with an answer that says so, after a flag that was down. -/
theorem finiteTurn_follows (timeout : String) (w : Waiting) (l : Phase) :
    protocol.Follows (finiteTurn timeout w) l fun r l' => r = .inr .settled → l' = .settled := by
  have others (w : Waiting) (changed : Nat) (l' : Phase) :
      protocol.Follows (awaitChange timeout w changed) l'
        fun r l' => r = .inr .settled → l' = .settled :=
    (awaitChange_unsettled timeout w changed l').mono fun _ _ h same => (h same).elim
  refine ⟨trivial, ?_⟩
  rintro (_ | result)
  · refine ⟨trivial, fun (localPending, changed) => ⟨trivial, ?_⟩⟩
    rintro (err | resp)
    · exact others _ changed _
    cases resolved : resolveAmbiguousIngressSessionStatus resp with
    | some outcome =>
      dsimp only [Prog.ret_bind]
      rw [resolved]
      exact fun same => by cases same
    | none =>
      dsimp only [Prog.ret_bind]
      rw [resolved]
      dsimp only
      split
      · next idle =>
          rw [Bool.and_eq_true, Bool.not_eq_true', Bool.not_eq_true'] at idle
          obtain ⟨rfl, answered⟩ := idle
          intro _
          simp [protocol, Phase.nextStream, reportsSettled, resolved, answered]
      · exact others w changed _
  · exact fun same => by cases same

/-- How a goroutine ends: the wait returns nil only in the phase for it. -/
def EndsIn (r : GoroutineEnd) (l : Phase) : Prop := r = .wait .settled → l = .settled

theorem startStream_followed (s : Sidecar) (session : Option LocalSession) (timeout : String)
    (sidecar : Consumer.State) : protocol.Followed EndsIn
      ((startStream s session timeout sidecar).observe fun _ => .outside) := by
  have all (l : Phase) {β : Type} (a : IngressAct β) : protocol.allows l a := trivial
  rintro (_ | _)
  · refine (Protocol.Follows.of_allowed all (paymentControl s session) _).bind fun _ _ _ => ?_
    exact fun same => by cases same
  have waits : protocol.Follows (awaitFiniteIngressPostStreamControl timeout) .outside
      fun r l => r = .settled → l = .settled := by
    refine Protocol.Follows.iterate (fun _ _ => True) trivial fun w l _ =>
      (finiteTurn_follows timeout w l).mono ?_
    rintro (_ | r) l' here
    · trivial
    · exact fun same => here (congrArg Sum.inr same)
  exact waits.bind fun r l here same => here (GoroutineEnd.wait.inj same)

/-! ## What has been read stays so -/

theorem setPaymentControlPending_pending (c : Coordinator) (pending : Bool) :
    (c.setPaymentControlPending pending).paymentControlPending = pending := by
  unfold Coordinator.setPaymentControlPending
  split
  · next same => exact same
  · rfl

theorem setPaymentControlPending_result (c : Coordinator) (pending : Bool) :
    (c.setPaymentControlPending pending).result = c.result := by
  unfold Coordinator.setPaymentControlPending
  split
  · rfl
  · rfl

variable {l : Phase} {c : Coordinator}

/-- A result that is set after the wait has missed nothing. -/
theorem Phase.Holds.of_unchecked (h : l.hasChecked = false) : l.Holds c := by
  match l, h with
  | .outside, _ => trivial
  | .sampled true, _ => exact nofun

theorem Phase.Holds.setPaymentControlPending (h : l.Holds c) {pending : Bool}
    (unread : pending = true → l.hasSampled = false) :
    l.Holds (c.setPaymentControlPending pending) := by
  cases pending with
  | false =>
    match l, h with
    | .outside, _ => trivial
    | .checked, h => exact (setPaymentControlPending_result c false).trans h
    | .sampled _, h =>
      exact fun down => ⟨(setPaymentControlPending_result c false).trans (h down).1,
        setPaymentControlPending_pending c false⟩
    | .settled, h =>
      exact ⟨(setPaymentControlPending_result c false).trans h.1,
        setPaymentControlPending_pending c false⟩
  | true =>
    match l, h, unread rfl with
    | .outside, _, _ => trivial
    | .checked, h, _ => exact (setPaymentControlPending_result c true).trans h
    | .sampled true, _, _ => exact nofun

variable {β : Type} {a : IngressAct β} {b : β} {e : IngressOracle} {s s' : IngressState}
  {loc : Goroutine → Phase} {i : Goroutine}

theorem select_state {changed : Nat} {controlDone : Bool} {woken : Woken}
    (ran : s.exec (.stream (.select changed controlDone)) e = some (s', woken)) :
    s' = s := by
  unfold IngressState.exec IngressState.execStream at ran
  dsimp only at ran
  split at ran
  · split at ran
    · cases ran
    · cases ran
      rfl
  · split at ran
    · cases ran
      rfl
    · cases ran
  · cases ran
    rfl

theorem holds_kept (ok : undisturbed i a (s, loc)) (ran : s.exec a e = some (s', b))
    (h : (loc .wait).Holds s.coordinator) : (loc .wait).Holds s'.coordinator := by
  cases a with
  | control a =>
    unfold IngressState.exec IngressState.execControl at ran
    dsimp only at ran
    split at ran
    · next pending =>
        cases ran
        refine h.setPaymentControlPending fun raised => ?_
        simpa [undisturbed, raised] using ok
    · split at ran
      · cases ran
      · cases ran
        exact h
  | stream a =>
    cases a with
    | setResult result =>
      exact .of_unchecked (by simpa [undisturbed] using ok)
    | closeDone | currentResult | paymentControlState | getStatus =>
      cases ran
      exact h
    | select changed controlDone =>
      rw [select_state ran]
      exact h

theorem holds_next (ok : undisturbed i a (s, loc)) (ran : s.exec a e = some (s', b))
    (h : (loc .wait).Holds s.coordinator) :
    (protocol.next (loc .wait) a b).Holds s'.coordinator := by
  cases a with
  | control a => exact holds_kept ok ran h
  | stream a =>
    cases a with
    | setResult | closeDone => exact holds_kept ok ran h
    | currentResult =>
      cases ran
      dsimp only [protocol, Phase.nextStream]
      split
      · next none => exact Option.isNone_iff_eq_none.mp none
      · trivial
    | paymentControlState =>
      cases ran
      dsimp only [protocol, Phase.nextStream]
      split
      · next checked =>
          rw [checked] at h
          exact fun down => ⟨h, down⟩
      · trivial
    | getStatus =>
      cases ran
      dsimp only [protocol, Phase.nextStream]
      split
      · next sampled =>
          rw [sampled.1] at h
          exact h rfl
      · trivial
    | select changed controlDone => trivial

/-- In every interleaving in which the payment control neither sets a result nor begins after the
wait has read that there is none, the wait returns nil on an active session only with no result and
no payment control pending at the coordinator. -/
theorem settled_end_undisturbed (sidecar : Sidecar) (session : Option LocalSession)
    (timeout : String) (start : Consumer.State)
    (c : Config IngressAct Goroutine (IngressState × (Goroutine → Phase)) GoroutineEnd)
    (run : ((machine.observe protocol).restrict undisturbed).Reach
      ((startStream sidecar session timeout start).observe fun _ => .outside) c)
    (returned : c.threads .wait = .ret (.wait .settled)) :
    c.shared.1.coordinator.result = none ∧
      c.shared.1.coordinator.paymentControlPending = false := by
  obtain ⟨followed, holds⟩ :=
    (startStream_followed sidecar session timeout start).invariant_restrict
    (J := fun s => (s.2 .wait).Holds s.1.coordinator) run trivial
    fun i β a e s s' b loc _ ok ran h => by
      by_cases own : i = .wait
      · subst own
        dsimp only
        rw [Function.update_self]
        exact holds_next ok ran h
      · dsimp only
        rw [Function.update_of_ne (Ne.symm own)]
        exact holds_kept ok ran h
  have ended := followed .wait
  rw [returned] at ended
  have phase : c.shared.2 .wait = .settled := ended rfl
  rw [phase] at holds
  exact holds

/-! ## A stream of one session -/

open Spending (signsAll paying oneMore)

/-- The provider reports the session active and without payment control. -/
def reportsActive : IngressOracle where
  status := .ok (some ⟨true, .unspecified, false, ⟨[]⟩, ⟨[]⟩⟩)

/-- The payment control makes `n` steps while the provider says this. -/
def hears (message : Consumer.Message) (n : Nat) : Goroutine × IngressOracle × Nat :=
  (.control, { sidecar := { message := .ok message } }, n)

/-- The wait makes `n` steps. -/
def waits (n : Nat) : Goroutine × IngressOracle × Nat := (.wait, reportsActive, n)

/-- The stream of a session that has its payment client. -/
def streaming : Config IngressAct Goroutine IngressState GoroutineEnd :=
  startStream signsAll (some paying) "10s" { clients := (∅ : AList _).insert "s" "provider" }

/-- A RAV is asked for, submitted and accepted before the wait begins. -/
def paidBefore : Config IngressAct Goroutine (IngressState × (Goroutine → Phase)) GoroutineEnd :=
  ((machine.observe protocol).restrict undisturbed).play [
    hears (.ravRequest (oneMore [1])) 8, hears (.sessionControl .continue "") 3, waits 4]
    (streaming.observe fun _ => .outside)

theorem settled_end_undisturbed_paid :
    paidBefore.threads .wait = .ret (.wait .settled) ∧ paidBefore.shared.1.coordinator.changed = 2 ∧
      paidBefore.shared.1.coordinator.result = none ∧
      paidBefore.shared.1.coordinator.paymentControlPending = false := by
  have returned : paidBefore.threads .wait = .ret (.wait .settled) :=
    Prog.result_eq_some (by decide +kernel)
  exact ⟨returned, by decide +kernel,
    settled_end_undisturbed signsAll (some paying) "10s" _ paidBefore
      (Machine.play_reach _ _) returned⟩

/-- The wait has sampled the coordinator; then the payment control hears `message` and makes `n`
steps. -/
def sampledBefore (message : Consumer.Message) (n : Nat) :
    Config IngressAct Goroutine IngressState GoroutineEnd :=
  machine.play [hears .empty 3, waits 3, hears message n] streaming

/-- The wait returns nil on the status answer although a RAV has been asked for, or the provider has
stopped the stream, since it sampled the coordinator. -/
theorem settled_end_disturbed :
    (∃ c c' e, machine.Reach streaming c ∧ machine.stepAt c .wait e = some c' ∧
      c'.threads .wait = .ret (.wait .settled) ∧
      c'.shared.coordinator.paymentControlPending = true) ∧
    ∃ c c' e, machine.Reach streaming c ∧ machine.stepAt c .wait e = some c' ∧
      c'.threads .wait = .ret (.wait .settled) ∧
      c'.shared.coordinator.result = some (.semanticStop .resourceExhausted "need more funds") := by
  have ends (message : Consumer.Message) (n : Nat) (coordinator : Coordinator)
      (stepped : (machine.stepAt (sampledBefore message n) .wait reportsActive).map
        (fun c => ((c.threads .wait).result, c.shared.coordinator)) =
          some (some (.wait .settled), coordinator)) :
      ∃ c c' e, machine.Reach streaming c ∧ machine.stepAt c .wait e = some c' ∧
        c'.threads .wait = .ret (.wait .settled) ∧ c'.shared.coordinator = coordinator := by
    obtain ⟨c', stepped, same⟩ := Option.map_eq_some_iff.mp stepped
    exact ⟨_, c', _, Machine.play_reach _ _, stepped,
      Prog.result_eq_some (congrArg Prod.fst same), congrArg Prod.snd same⟩
  constructor
  · obtain ⟨c, c', e, run, stepped, returned, same⟩ := ends (.ravRequest (oneMore [1])) 2
      { paymentControlPending := true, changed := 1 } (by decide +kernel)
    exact ⟨c, c', e, run, stepped, returned, by rw [same]⟩
  · obtain ⟨c, c', e, run, stepped, returned, same⟩ := ends (.needMoreFunds none) 2
      { result := some (.semanticStop .resourceExhausted "need more funds") } (by decide +kernel)
    exact ⟨c, c', e, run, stepped, returned, by rw [same]⟩

end Sdsce.Guarantees.FiniteEnds
