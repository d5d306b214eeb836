import Sdsce.Guarantees.Policy

/-!
# The runtime manager keeps the policy

Every function of the runtime manager only dispatches in-flight requests that were made from
a stored session, and only reads what the policy promises.
-/
namespace Sdsce.Guarantees

open Sdsce.Theory Sdsce.Source Sdsce.Source.InMemory

variable {g : Gateway} {pool : Pool} {i : ThreadId} {α β : Type}

/-- The discipline of a provider. -/
abbrev provider (g : Gateway) (pool : Pool) : Discipline machine :=
  discipline (providerPolicy g pool)

/-- A program that keeps the policy whatever is known. -/
def Permitted (g : Gateway) (pool : Pool) (i : ThreadId) (p : Program α) : Prop :=
  (provider g pool).Task (.none _ i) p (fun _ => .none _ i)

namespace Permitted

theorem within {p : Program α} (h : Permitted g pool i p) {A : (provider g pool).Knowledge i} :
    (provider g pool).Task A p (fun _ => .none _ i) :=
  h.pre fun _ _ _ => trivial

theorem of_task {p : Program α} {Q : α → (provider g pool).Knowledge i}
    (h : (provider g pool).Task (.none _ i) p Q) : Permitted g pool i p :=
  h.forget

theorem ret (a : α) : Permitted g pool i (.ret a) := Discipline.Task.ret fun _ _ _ => trivial

theorem bind {p : Program α} {f : α → Program β} (first : Permitted g pool i p)
    (next : ∀ a, Permitted g pool i (f a)) : Permitted g pool i (p.bind f) :=
  Discipline.Task.bind first fun a => (next a).within

theorem act {a : Act α} (allowed : ∀ w, Sound (providerPolicy g pool) w →
    may (providerPolicy g pool) i a w) : Permitted g pool i (.perform a) :=
  Discipline.Task.perform (fun w sound _ => allowed w sound) fun _ _ _ _ _ _ _ => trivial

theorem outside (a : OutsideAct α) : Permitted g pool i (Source.outside a) := act fun _ _ => trivial

theorem runtime {a : RuntimeAct α} (allowed : ∀ w, mayRuntime (providerPolicy g pool) w a) :
    Permitted g pool i (Source.runtime a) :=
  act fun w _ => allowed w

end Permitted

/-! ## Repository methods -/

/-- A session that was read is one that was stored. -/
def gotSession (g : Gateway) (pool : Pool) (i : ThreadId) (id : String) :
    Except RepoError Session → (provider g pool).Knowledge i
  | .ok session => stored _ i id session
  | .error _ => .none _ i

theorem sessionGet_task (id : String) :
    (provider g pool).Task (.none _ i) (sessionGet id) (gotSession g pool i id) := by
  refine .bind (R := fun found => found.elim (.none _ i) (stored _ i id)) ?_ ?_
  · refine .perform (fun _ _ _ => trivial) fun e w w' found sound _ ran => ?_
    cases ran
    cases lookup : w.store.sessions.lookup id with
    | none => trivial
    | some session => exact sound.stored id session lookup
  · rintro (_ | session)
    · exact .ret fun _ _ _ => trivial
    · exact .ret fun _ _ here => here.2

theorem permitted_of_triple {p : Program α} {A : World → Prop} {Q : α → World → Prop}
    (triple : (provider g pool).Triple i A p Q) (holds : ∀ w, A w) : Permitted g pool i p :=
  triple.conseq (fun w _ _ => holds w) fun _ _ _ _ => trivial

theorem sessionTouch_permitted (id : String) (lastKeepAlive : Time) :
    Permitted g pool i (sessionTouch id lastKeepAlive) :=
  permitted_of_triple (sessionTouch_triple lasting_true id lastKeepAlive)
    fun _ => ⟨fun _ => trivial, trivial⟩

theorem sessionApplyUsage_permitted (id : String) (usage : UsageEvent) {cost : Int}
    (priced : cost = (g.pricingConfig.calculateUsageCost usage.sanitizedTotals.1
      usage.sanitizedTotals.2.1).bigInt) : Permitted g pool i (sessionApplyUsage id usage cost) :=
  permitted_of_triple (sessionApplyUsage_triple lasting_true id usage cost)
    fun _ => ⟨fun _ => priced, trivial⟩

theorem storeRuntimeState_permitted (id : String) (session : Session) :
    Permitted g pool i (Gateway.storeRuntimeState id session) :=
  permitted_of_triple (sessionUpdateRuntimeState_triple lasting_true id _ _ _ _ _)
    fun _ => ⟨fun _ => trivial, trivial⟩

/-! ## Funds and authorization -/

namespace Gateway

theorem getEscrowBalance_permitted (payer : Address) :
    Permitted g pool i (g.getEscrowBalance payer) := by
  unfold Gateway.getEscrowBalance
  split
  · refine .bind (.outside _) fun answer => ?_
    cases answer with
    | error | ok => exact .ret _
  · exact .ret _

theorem assessSessionFunds_permitted (session : Session) :
    Permitted g pool i (g.assessSessionFunds session) :=
  Permitted.bind (getEscrowBalance_permitted session.payer) fun _ => Permitted.ret _

theorem queryAuthorization_permitted (payer signer : Address) :
    Permitted g pool i (Gateway.queryAuthorization payer signer) := by
  refine .bind (.outside _) fun now => ?_
  refine .bind (.act fun _ _ => trivial) fun cached => ?_
  split
  · exact .ret _
  refine .bind (.outside _) fun answer => ?_
  cases answer with
  | error err => exact .ret _
  | ok ok =>
    refine .bind (.outside _) fun later => ?_
    exact .bind (.act fun _ _ => trivial) fun _ => Permitted.ret _

theorem checkAuthorization_permitted (payer signer : Address) :
    Permitted g pool i (g.checkAuthorization payer signer) := by
  unfold Gateway.checkAuthorization
  split
  · exact .ret _
  · split
    · exact queryAuthorization_permitted payer signer
    · exact .ret _

theorem isSignerAuthorized_task (h₀ : History) (payer signer : Address) :
    (provider g pool).Task (after _ i h₀) (g.isSignerAuthorized payer signer)
      (fun answer => since _ i h₀ ⟨i, .note (.authorization payer signer answer)⟩) := by
  refine .bind (checkAuthorization_permitted payer signer).within fun answer => ?_
  refine .bind
    (R := fun _ => since _ i h₀ ⟨i, .note (.authorization payer signer answer)⟩) ?_ fun _ => ?_
  · refine .perform (fun _ _ _ => trivial) fun e w w' _ _ here ran => ?_
    cases ran
    exact Since.last here.1 _
  · exact .ret fun _ _ here => here.2

/-! ## Dispatch -/

/-- The pending request of a dispatch, if there is one. -/
def justifies (g : Gateway) (pool : Pool) (i : ThreadId) (id : String)
    (pending : Option PendingRAVRequest) : (provider g pool).Knowledge i :=
  recorded _ i (fun h => ∀ p, pending = some p → Requested h id p)
    fun _ _ grown here p same => (here p same).mono grown

theorem deliver_task (id : String) (events : Chan) (queued : Queued)
    (pending : Option PendingRAVRequest) :
    (provider g pool).Task (justifies g pool i id pending)
      (Gateway.deliver id events queued pending) (fun _ => .none _ i) := by
  refine .bind (Permitted.runtime fun _ => by trivial).within fun sent => ?_
  cases sent with
  | false => exact (Permitted.ret _).within
  | true =>
    exact .perform (fun w _ here => here.1) fun _ _ _ _ _ _ _ => trivial

theorem dispatch_task (id : String) (response : PaymentSessionResponse)
    (pending : Option PendingRAVRequest) :
    (provider g pool).Task (justifies g pool i id pending) (Gateway.dispatch id response pending)
      (fun _ => .none _ i) := by
  refine .bind (R := fun _ => .none _ i) ?_ fun outcome => ?_
  · exact .perform (fun w _ here => here) fun _ _ _ _ _ _ _ => trivial
  obtain ⟨events, queued⟩ := outcome
  cases events with
  | none => exact (Permitted.ret _).within
  | some events => exact (deliver_task id events queued pending).pre fun _ _ here => here.1

theorem tryDeliverQueuedResponse_task (id : String) (events : Chan) (queued : Option Queued)
    (pending : Option PendingRAVRequest) :
    (provider g pool).Task (justifies g pool i id pending)
      (Gateway.tryDeliverQueuedResponse id events queued pending) (fun _ => .none _ i) := by
  cases queued with
  | none => exact (Permitted.ret _).within
  | some queued => exact deliver_task id events queued pending

/-! ## Evaluation -/

/-- A request made from the session as it was read and assessed is one made from the stored
session: the assessment changes the metadata only. -/
theorem requested_of_assessed {h : History} {id : String} {session : Session}
    (once : Stored h id session) (assessment : FundsAssessment) (p : PendingRAVRequest)
    (made : newPendingRAVRequest (applyFundsAssessmentMetadata session assessment)
      (requestedUsage (applyFundsAssessmentMetadata session assessment)) = some p) :
    Requested h id p :=
  ⟨session, once, made⟩

theorem requestRAV_task (id : String) (session : Session) (assessment : FundsAssessment) :
    (provider g pool).Task (stored _ i id session)
      (g.requestRAV id (applyFundsAssessmentMetadata session assessment))
      (fun _ => .none _ i) := by
  unfold Gateway.requestRAV
  split
  · refine .bind (Permitted.runtime fun _ => by trivial).within fun state => ?_
    obtain ⟨events, pending⟩ := state
    dsimp only
    split
    · exact (Permitted.ret _).within
    split
    · exact (Permitted.ret _).within
    rename_i rav held
    refine .bind (Permitted.outside _).within fun now => ?_
    refine .bind (R := fun _ => .none _ i) ?_ fun _ => ?_
    · refine .perform (fun w _ here => ?_) fun _ _ _ _ _ _ _ => trivial
      exact ⟨session, rav, here.1.1, held, rfl, rfl⟩
    · exact (dispatch_task id _ _).pre fun w _ here p made =>
        requested_of_assessed here.1.1.1 assessment p made
  · exact (Permitted.ret _).within

theorem dispatchNothing_permitted (id : String) (response : PaymentSessionResponse) :
    Permitted g pool i (Gateway.dispatch id response none) :=
  (dispatch_task id response none).pre fun _ _ _ => nofun

theorem evaluateActive_task (id : String) (session : Session) :
    (provider g pool).Task (stored _ i id session) (g.evaluateActive id session)
      (fun _ => .none _ i) := by
  refine .bind (assessSessionFunds_permitted session).within fun assessment => ?_
  dsimp only
  split
  · refine .bind (Permitted.outside _).within fun now => ?_
    refine .bind (storeRuntimeState_permitted id _).within fun result => ?_
    cases result with
    | error err => exact (Permitted.ret _).within
    | ok _ =>
      refine (Permitted.bind (Permitted.runtime fun _ => by trivial) fun _ => ?_).within
      exact .bind (dispatchNothing_permitted id _) fun _ => Permitted.ret _
  · refine .bind (storeRuntimeState_permitted id _).within fun result => ?_
    cases result with
    | error err => exact (Permitted.ret _).within
    | ok _ =>
      refine .bind ((requestRAV_task id session assessment).pre
        fun _ _ here => here.1.1) fun _ => ?_
      exact (Permitted.ret _).within

theorem evaluateMeteredUsage_permitted (id : String) :
    Permitted g pool i (g.evaluateMeteredUsage id) := by
  refine Discipline.Task.bind (sessionGet_task id) fun found => ?_
  cases found with
  | error err => exact (Permitted.ret _).within
  | ok session =>
    dsimp only
    split
    · exact (evaluateActive_task id session).pre fun _ _ here => here.2
    · exact (Permitted.ret _).within

theorem withSessionEval_task {A : (provider g pool).Knowledge i} {id : String}
    {fn : StatePtr → Program α} {Q : α → (provider g pool).Knowledge i}
    (body : ∀ state, state.sessionID = id → (provider g pool).Task A (fn state) Q) :
    (provider g pool).Task A (Gateway.withSessionEval id fn) Q := by
  refine .bind (R := fun state => .pure _ i (state.sessionID = id)) ?_ fun state => ?_
  · refine .perform (fun _ _ _ => trivial) fun e w w' state _ _ ran => ?_
    obtain ⟨rfl, rfl⟩ := Prod.mk.inj (Option.some.inj ran)
    exact w.runtime.ensure_sessionID id
  · refine .assume (fun _ _ here => here.2) fun named => ?_
    refine .bind (Permitted.runtime fun _ => by trivial).within fun _ => ?_
    refine .bind ((body state named).pre fun _ _ here => here.1.1) fun result => ?_
    refine .bind (Permitted.runtime fun _ => by trivial).within fun _ => ?_
    exact .ret fun _ _ here => here.1.2

theorem onMeteredUsage_permitted (id : String) : Permitted g pool i (g.onMeteredUsage id) :=
  withSessionEval_task fun _ _ => evaluateMeteredUsage_permitted id

/-- What a bind takes over from the entry is a request of the session. -/
theorem bindLocked_task (id : String) (events : Chan) :
    (provider g pool).Task (.none _ i) (runtime (.bindLocked id events))
      (fun bound => match bound with
        | none => .none _ i
        | some (_, pending) => justifies g pool i id pending) := by
  refine .perform (fun _ _ _ => trivial) fun e w w' bound sound _ ran => ?_
  have ensured := sound.pending.ensure id
  simp only [machine, World.exec, Runtime.exec] at ran
  split at ran
  · cases ran
  rename_i r result found
  cases ran
  split at found
  · cases found
    trivial
  cases found
  intro p same
  split at same
  · cases same
  · have kept := ensured _ p same
    rw [Runtime.ensure_sessionID] at kept
    exact kept

theorem bindSession_permitted (id : String) (events : Chan) :
    Permitted g pool i (g.bindSession id events) := by
  unfold Gateway.bindSession
  split
  · exact .ret _
  refine Discipline.Task.bind (bindLocked_task id events) fun bound => ?_
  cases bound with
  | none => exact (Permitted.ret _).within
  | some pair =>
    obtain ⟨queued, pending⟩ := pair
    refine Discipline.Task.bind ((tryDeliverQueuedResponse_task id events queued pending).pre
      fun _ _ here => here.2) fun _ => ?_
    refine .bind (onMeteredUsage_permitted id).within fun result => ?_
    cases result with
    | error err =>
      exact (Permitted.bind (Permitted.runtime fun _ => by trivial)
        fun _ => Permitted.ret _).within
    | ok _ => exact (Permitted.ret _).within

end Gateway

end Sdsce.Guarantees
