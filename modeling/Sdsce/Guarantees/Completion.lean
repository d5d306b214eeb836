import Sdsce.Source.Handlers
import Sdsce.Theory.Progress

/-!
# A submission is answered

Run alone, with the two mutexes it needs free, `handleRAVSubmission` returns. An outside that is
fair to it does not report a swap as lost when nobody else moved.
-/
namespace Sdsce.Guarantees

open Sdsce.Theory Sdsce.Source Sdsce.Source.InMemory

/-- No compare-and-swap is lost to a thread that is not moving. -/
def Uncontended (e : Oracle) : Prop := e.yes = true

/-- Run alone, the loop of an update makes one swap, of the session that it has read. -/
theorem swapSession_once {fair : Oracle → Prop} {i : ThreadId} {w : World}
    {Q : Except RepoError Unit → World → Prop} {id : String} {update : Time → SessionUpdate}
    (uncontended : ∀ e, fair e → Uncontended e)
    (absent : w.store.sessions.lookup id = none → Q (.error (.sessionNotFound id)) w)
    (swapped : ∀ e session history, fair e → w.store.sessions.lookup id = some session →
      Q (.ok ()) { w with
        store := { w.store with
          sessions := w.store.sessions.insert id ((update e.time).apply session) }
        history }) :
    machine.Finishes i fair Q (InMemory.swapSession id update) w := by
  refine .retry (.step (fun _ _ => rfl) ?_)
  cases found : w.store.sessions.lookup id with
  | none => exact .ret ⟨_, rfl, absent found⟩
  | some session =>
    refine .bind (R := fun now w' => w = w' ∧ ∃ e, fair e ∧ now = e.time)
      (.perform (fun _ _ => rfl) fun e _ _ here ran => by
        cases ran
        exact ⟨rfl, e, here, rfl⟩) ?_
    rintro _ _ ⟨rfl, clock, fairly, rfl⟩
    have swap (e : Oracle) (here : fair e) :
        machine.exec i (.store (.sessionsCompareAndSwap id session (update clock.time))) e w =
          some ({ w with
            store := { w.store with
              sessions := w.store.sessions.insert id ((update clock.time).apply session) }
            history := w.log i (some (.swapped id session (update clock.time))) }, true) := by
      simp only [machine, World.exec, Store.exec]
      rw [if_pos ⟨found, uncontended e here⟩]
    exact .step swap (.ret ⟨_, rfl, swapped clock session _ fairly found⟩)

section Actions

variable {i : ThreadId} {α β : Type} {fair : Oracle → Prop} {w : World} {Q : β → World → Prop}

/-- The same world with `collectionMu` held by `owner`. -/
def withMutex (w : World) (owner : Option ThreadId) : World :=
  { w with store := { w.store with collectionMu := owner } }

theorem withCollectionMu_finishes {body : Program β} (free : w.store.collectionMu = none)
    (inside : machine.Finishes i fair (fun b w' => Q b (withMutex w' none)) body
      (withMutex w (some i))) :
    machine.Finishes i fair Q (withCollectionMu body) w := by
  have locks (e : Oracle) (_ : fair e) :
      machine.exec i (.store .lockCollection) e w = some (withMutex w (some i), ()) := by
    simp only [machine, World.exec, Store.exec, free]
    rfl
  have unlocks (w' : World) (e : Oracle) (_ : fair e) :
      machine.exec i (.store .unlockCollection) e w' = some (withMutex w' none, ()) :=
    rfl
  refine .step locks (inside.bind fun a w' done => ?_)
  exact .step (unlocks w') (.ret done)

theorem recordsGet_finishes {key : String} {f : Option CollectionRecord → Program β}
    (rest : machine.Finishes i fair Q (f (w.store.records.lookup key)) w) :
    machine.Finishes i fair Q ((store (.recordsGet key)).bind f) w :=
  Machine.Finishes.step (fun _ _ => rfl) rest

theorem now_finishes {f : Time → Program β}
    (rest : ∀ e, fair e → machine.Finishes i fair Q (f e.time) w) :
    machine.Finishes i fair Q ((outside .now).bind f) w :=
  .act (fun _ _ => rfl) fun e _ _ here ran => by cases ran; exact rest e here

theorem getOrSet_finishes {Q : Bool → World → Prop} {session : Session}
    (taken : (w.store.sessions.lookup session.id).isSome → Q true w)
    (stored : ∀ history, w.store.sessions.lookup session.id = none →
      Q false { w with
        store := { w.store with sessions := w.store.sessions.insert session.id session }
        history }) :
    machine.Finishes i fair Q (store (.sessionsGetOrSet session)) w := by
  cases found : w.store.sessions.lookup session.id with
  | some other =>
    have answer (e : Oracle) :
        machine.exec i (.store (.sessionsGetOrSet session)) e w = some (w, true) := by
      simp only [machine, World.exec, Store.exec, found]
      rfl
    exact .answers (fun e _ => answer e) (taken (by rw [found]; rfl))
  | none =>
    have answer (e : Oracle) :
        machine.exec i (.store (.sessionsGetOrSet session)) e w = some ({ w with
          store := { w.store with sessions := w.store.sessions.insert session.id session }
          history := w.log i (some (.created session)) }, false) := by
      simp only [machine, World.exec, Store.exec, found]
    exact .answers (fun e _ => answer e) (stored _ found)

end Actions

/-- Run alone, the program returns and leaves `collectionMu` as it found it. -/
def Completes (i : ThreadId) (m : Option ThreadId) {α : Type} (p : Program α) : Prop :=
  ∀ w : World, w.store.collectionMu = m →
    machine.Finishes i Uncontended (fun _ w' => w'.store.collectionMu = m) p w

/-- The actions that may have to wait. -/
def waits {β : Type} : RuntimeAct β → Bool
  | .lockEval _ | .select .. => true
  | _ => false

namespace Completes

variable {i : ThreadId} {m : Option ThreadId} {α β : Type}

theorem ret (a : α) : Completes i m (.ret a) := fun _ mu => .ret mu

theorem bind {p : Program α} {f : α → Program β} (first : Completes i m p)
    (rest : ∀ a, Completes i m (f a)) : Completes i m (p.bind f) :=
  fun w mu => (first w mu).bind fun a w' mu' => rest a w' mu'

theorem runtime {a : RuntimeAct β} (free : waits a = false) :
    Completes i m (runtime a) := by
  intro w mu
  have enabled (e : Oracle) : (w.runtime.exec i a e).isSome := by
    cases a with
    | lockEval | select => cases free
    | bindLocked | runtimeState | clearQueuedResponse | cleanupSessionState | clearPendingRAV
    | clearQueuedControl | hasPendingRAV | hasPendingPaymentControl | trySend =>
      simp only [Runtime.exec]
      split <;> (try split) <;> rfl
    | _ => rfl
  refine .perform (fun e _ => ?_) fun e w' b _ ran => ?_
  · obtain ⟨_, found⟩ := Option.isSome_iff_exists.mp (enabled e)
    simp only [machine, World.exec, found, Option.isSome_some]
  simp only [machine, World.exec] at ran
  split at ran
  · cases ran
  · cases ran
    exact mu

theorem outside (a : OutsideAct β) : Completes i m (outside a) :=
  fun _ mu => .perform (fun _ _ => rfl) fun _ _ _ _ ran => by cases ran; exact mu

theorem gateway (a : GatewayAct β) : Completes i m (gateway a) := by
  refine fun w mu => .perform (fun _ _ => rfl) fun e w' b _ ran => ?_
  cases a with
  | authCacheGet | authCacheSet | note =>
    cases ran
    exact mu

theorem sessionsGet (id : String) : Completes i m (store (.sessionsGet id)) :=
  fun _ mu => .perform (fun _ _ => rfl) fun _ _ _ _ ran => by cases ran; exact mu

theorem recordsGet (key : String) : Completes i m (store (.recordsGet key)) :=
  fun _ mu => .perform (fun _ _ => rfl) fun _ _ _ _ ran => by cases ran; exact mu

theorem setRecord (record : CollectionRecord) : Completes i m (setRecord record) :=
  fun _ mu => .perform (fun _ _ => rfl) fun _ _ _ _ ran => by cases ran; exact mu

theorem swapSession (id : String) (update : Time → SessionUpdate) :
    Completes i m (swapSession id update) :=
  fun _ mu => swapSession_once (fun _ here => here) (fun _ => mu) fun _ _ _ _ _ => mu

theorem withCollectionMu {p : Program α} (inside : Completes i (some i) p) :
    Completes i none (withCollectionMu p) :=
  fun w free => withCollectionMu_finishes free
    ((inside (withMutex w (some i)) rfl).mono fun _ _ _ => rfl)

theorem collectionNextCollectibleLocked (id : String) (rav : SignedRAV) :
    Completes i m (collectionNextCollectibleLocked id rav) := by
  refine (outside .now).bind fun now => ?_
  cases newCollectionRecordFromRAV id rav now with
  | error err => exact ret _
  | ok record => exact (recordsGet _).bind fun current => ret _

theorem commitAcceptedRAV (id : String) (rav : SignedRAV) (pending : PendingRAVRequest) :
    Completes i none (Gateway.commitAcceptedRAV id rav pending) := by
  refine withCollectionMu ((collectionNextCollectibleLocked id rav).bind fun next => ?_)
  cases next with
  | error err => exact ret _
  | ok next =>
    refine (swapSession id _).bind fun swapped => ?_
    cases swapped with
    | error err => exact ret _
    | ok _ => exact (setRecord next).bind fun _ => ret _

theorem queryAuthorization (payer signer : Address) :
    Completes i m (Gateway.queryAuthorization payer signer) := by
  refine (outside .now).bind fun now => (gateway (.authCacheGet _)).bind fun cached => ?_
  split
  · exact ret _
  refine (outside (.isAuthorized payer signer)).bind fun answer => ?_
  cases answer with
  | error err => exact ret _
  | ok ok => exact (outside .now).bind fun later => (gateway _).bind fun _ => ret _

theorem isSignerAuthorized (g : Gateway) (payer signer : Address) :
    Completes i m (g.isSignerAuthorized payer signer) := by
  refine bind ?_ fun answer => (gateway _).bind fun _ => ret _
  unfold Gateway.checkAuthorization
  split
  · exact ret _
  · split
    · exact queryAuthorization payer signer
    · exact ret _

theorem assessSessionFunds (g : Gateway) (session : Session) :
    Completes i m (g.assessSessionFunds session) := by
  refine bind ?_ fun balance => ret _
  unfold Gateway.getEscrowBalance
  split
  · refine (outside _).bind fun answer => ?_
    cases answer with
    | error | ok => exact ret _
  · exact ret _

theorem dispatch (id : String) (response : PaymentSessionResponse)
    (pending : Option PendingRAVRequest) :
    Completes i m (Gateway.dispatch id response pending) := by
  refine (runtime rfl).bind fun dispatched => ?_
  obtain ⟨events, queued⟩ := dispatched
  cases events with
  | none => exact ret _
  | some events =>
    refine (runtime rfl).bind fun sent => ?_
    cases sent with
    | true => exact runtime rfl
    | false => exact ret _

theorem requestRAV (g : Gateway) (id : String) (session : Session) :
    Completes i m (g.requestRAV id session) := by
  unfold Gateway.requestRAV
  split
  · refine (runtime rfl).bind fun state => ?_
    obtain ⟨events, pending⟩ := state
    dsimp only
    split
    · exact ret _
    cases session.currentRAV with
    | none => exact ret _
    | some rav =>
      exact (outside .now).bind fun now => (gateway _).bind fun _ => dispatch id _ _
  · exact ret _

theorem evaluateActive (g : Gateway) (id : String) (session : Session) :
    Completes i m (g.evaluateActive id session) := by
  refine (assessSessionFunds g session).bind fun assessment => ?_
  dsimp only
  split
  · refine (outside .now).bind fun now => (swapSession id _).bind fun stored => ?_
    cases stored with
    | error err => exact ret _
    | ok _ => exact (runtime rfl).bind fun _ => (dispatch id _ _).bind fun _ => ret _
  · refine (swapSession id _).bind fun stored => ?_
    cases stored with
    | error err => exact ret _
    | ok _ => exact (requestRAV g id _).bind fun _ => ret _

theorem sessionGet (id : String) : Completes i m (sessionGet id) := by
  refine (sessionsGet id).bind fun found => ?_
  cases found with
  | none | some => exact ret _

theorem evaluateMeteredUsage (g : Gateway) (id : String) :
    Completes i m (g.evaluateMeteredUsage id) := by
  refine (sessionGet id).bind fun found => ?_
  cases found with
  | error err => exact ret _
  | ok session =>
    dsimp only
    split
    · exact evaluateActive g id session
    · exact ret _

theorem acceptSubmission (g : Gateway) (state : StatePtr) (id : String) (rav : SignedRAV)
    (pending : PendingRAVRequest) :
    Completes i none (g.acceptSubmission state id rav pending) := by
  refine (gateway _).bind fun _ => (commitAcceptedRAV id rav pending).bind fun committed => ?_
  cases committed with
  | error err => exact ret _
  | ok _ =>
    exact (runtime rfl).bind fun _ => (runtime rfl).bind fun _ =>
      (evaluateMeteredUsage g id).bind fun _ => ret _

theorem answerInFlight (g : Gateway) (state : StatePtr) (id : String) (session : Session)
    (psr : Proto.SignedRAV) (usage : Option Proto.Usage) (pending : PendingRAVRequest) :
    Completes i none (g.answerInFlight state id session psr usage pending) := by
  unfold Gateway.answerInFlight
  split
  · exact ret _
  rename_i rav signer _
  refine (isSignerAuthorized g session.payer signer).bind fun answer => ?_
  rcases answer with err | _ | _
  · exact ret _
  · exact ret _
  dsimp only
  split
  · exact ret _
  · exact acceptSubmission g state id rav pending

end Completes

/-- The runtime state that a handler of the session works on. -/
def evalState (w : World) (id : String) : RuntimeSessionState :=
  (w.runtime.ensure id).1.heap (w.runtime.ensure id).2

/-- With both mutexes free, a submission that meets an in-flight request is answered. -/
theorem handleRAVSubmission_finishes (g : Gateway) (i : ThreadId) {id : String}
    (session : Session) {submission : SignedRAVSubmission} {psr : Proto.SignedRAV}
    (given : submission.signedRav = some psr) {w : World} {pending : PendingRAVRequest}
    (collectionFree : w.store.collectionMu = none) (evalFree : (evalState w id).evalMu = none)
    (inFlight : (evalState w id).pendingRAV = some pending) :
    machine.Finishes i Uncontended
      (fun response w' => ⟨i, .note (.answered id session submission pending response)⟩ ∈
        w'.history)
      (g.handleRAVSubmission id session (some submission)) w := by
  simp only [Gateway.handleRAVSubmission, given]
  let w₁ : World := { w with runtime := (w.runtime.ensure id).1 }
  let state := (w.runtime.ensure id).2
  let held : RuntimeSessionState := { w₁.runtime.heap state with evalMu := some i }
  let w₂ : World := { w₁ with runtime := w₁.runtime.write state held }
  refine .bind (R := fun found w' => w₁ = w' ∧ state = found)
    (.perform (fun _ _ => rfl) fun _ _ _ _ ran => by cases ran; exact ⟨rfl, rfl⟩) ?_
  rintro _ _ ⟨rfl, rfl⟩
  have locked (e : Oracle) :
      machine.exec i (.runtime (.lockEval state)) e w₁ = some (w₂, ()) := by
    have free : (w₁.runtime.heap state).evalMu = none := evalFree
    simp only [machine, World.exec, Runtime.exec, free]
    rfl
  refine .bind (R := fun _ w' => w₂ = w')
    (.perform (fun e _ => by rw [locked]; rfl) fun e _ _ _ ran => ?_) ?_
  · rw [locked] at ran
    cases ran
    rfl
  rintro _ _ rfl
  refine .bind (R := fun response w' =>
    ⟨i, .note (.answered id session submission pending response)⟩ ∈ w'.history) ?_
    fun response w' noted => ?_
  · have mine : w₂.runtime.heap state = held := Function.update_self ..
    have found : (w₂.runtime.heap state).pendingRAV = some pending := by
      rw [mine]
      exact inFlight
    refine .bind (R := fun r w' => w₂ = w' ∧ some pending = r)
      (.perform (fun _ _ => rfl) fun _ _ _ _ ran => ?_) ?_
    · cases ran
      exact ⟨rfl, found.symm⟩
    rintro _ _ ⟨rfl, rfl⟩
    refine .bind ((Completes.gateway _) w₂ collectionFree) fun _ w' free => ?_
    refine .bind
      ((Completes.answerInFlight g state id session psr submission.usage pending) w' free)
      fun response w' _ => ?_
    refine .bind (R := fun _ w' =>
      ⟨i, .note (.answered id session submission pending response)⟩ ∈ w'.history)
      (.perform (fun _ _ => rfl) fun _ _ _ _ ran => ?_) fun _ _ noted => .ret noted
    cases ran
    exact List.mem_append_right _ (List.mem_singleton_self _)
  · refine .bind (R := fun _ w' =>
      ⟨i, .note (.answered id session submission pending response)⟩ ∈ w'.history)
      (.perform (fun _ _ => rfl) fun _ _ _ _ ran => ?_) fun _ _ noted => .ret noted
    cases ran
    exact noted

end Sdsce.Guarantees
