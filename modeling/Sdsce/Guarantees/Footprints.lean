import Sdsce.Source.System

/-!
# What the programs touch

Which parts of the world the programs of the repository, the operator gateway, the collectors and
the gateway's own helpers act on. The repository is reached through its maps and the clock, a
transaction through the outside alone, and nothing here goes near the runtime manager.
-/
namespace Sdsce.Guarantees

open Sdsce.Theory Sdsce.Source Sdsce.Source.InMemory Sdsce.Source.Gateway

/-- Actions on the outside. -/
def OnOutside {β : Type} : Act β → Prop
  | .outside _ => True
  | _ => False

/-- Actions on the repository's maps and the outside. -/
def OnRepository {β : Type} : Act β → Prop
  | .store _ | .outside _ => True
  | _ => False

/-- Actions that do not touch the runtime manager. -/
def Apart {β : Type} : Act β → Prop
  | .runtime _ => False
  | _ => True

/-- Sections that only ask what is pending for a session. -/
def AskingRuntime {β : Type} : RuntimeAct β → Prop
  | .hasPendingRAV _ | .hasPendingPaymentControl _ => True
  | _ => False

/-- Actions that at most ask the runtime manager what is pending. -/
def Asking {β : Type} : Act β → Prop
  | .runtime a => AskingRuntime a
  | _ => True

theorem Apart.asking {β : Type} (a : Act β) (h : Apart a) : Asking a := by
  cases a with
  | runtime _ => exact h.elim
  | _ => trivial

theorem OnOutside.apart {β : Type} (a : Act β) (h : OnOutside a) : Apart a := by
  cases a with
  | outside _ => trivial
  | _ => exact h.elim

theorem OnRepository.apart {β : Type} (a : Act β) (h : OnRepository a) : Apart a := by
  cases a with
  | store _ | outside _ => trivial
  | _ => exact h.elim

/-! ## The repository -/

section Repository

theorem withCollectionMu_onRepository {α : Type} {body : Program α}
    (inside : body.Only OnRepository) :
    (withCollectionMu body).Only OnRepository :=
  .bind (.perform trivial) fun _ => inside.bind fun _ => .bind (.perform trivial) fun _ => .ret _

theorem swapSession_only {ok : {β : Type} → Act β → Prop} {id : String}
    {update : Time → SessionUpdate} (read : ok (.store (.sessionsGet id)))
    (clock : ok (.outside .now))
    (swap : ∀ session now, ok (.store (.sessionsCompareAndSwap id session (update now)))) :
    (swapSession id update).Only ok := by
  refine .retry (.bind (.perform read) ?_)
  rintro (_ | session)
  · exact .ret _
  refine .bind (.perform clock) fun now => .bind (.perform (swap session now)) ?_
  rintro (_ | _)
  · exact .ret _
  · exact .ret _

theorem swapSession_onRepository (id : String) (update : Time → SessionUpdate) :
    (swapSession id update).Only OnRepository :=
  swapSession_only trivial trivial fun _ _ => trivial

theorem nextCollectibleLocked_onRepository (id : String) (rav : SignedRAV) :
    (collectionNextCollectibleLocked id rav).Only OnRepository := by
  refine .bind (.perform trivial) fun now => ?_
  cases newCollectionRecordFromRAV id rav now with
  | error err => exact .ret _
  | ok record => exact .bind (.perform trivial) fun _ => .ret _

theorem sessionCreate_onRepository (session : Session) :
    (sessionCreate session).Only OnRepository := by
  unfold sessionCreate
  split
  · exact .ret _
  split
  · refine .bind (.perform trivial) ?_
    rintro (_ | _)
    · exact .ret _
    · exact .ret _
  · refine withCollectionMu_onRepository ((nextCollectibleLocked_onRepository _ _).bind ?_)
    rintro (err | next)
    · exact .ret _
    refine .bind (.perform trivial) ?_
    rintro (_ | _)
    · exact .bind (.perform trivial) fun _ => .ret _
    · exact .ret _

theorem sessionGet_onRepository (id : String) : (sessionGet id).Only OnRepository := by
  refine .bind (.perform trivial) ?_
  rintro (_ | _)
  · exact .ret _
  · exact .ret _

theorem sessionUpdateRAVAndBaseline_onRepository (id : String) (rav : Option SignedRAV)
    (blocks bytes requests : UInt64) (cost : Int) :
    (sessionUpdateRAVAndBaseline id rav blocks bytes requests cost).Only OnRepository := by
  cases rav with
  | none => exact swapSession_onRepository _ _
  | some rav =>
    refine withCollectionMu_onRepository ((nextCollectibleLocked_onRepository _ _).bind ?_)
    rintro (err | next)
    · exact .ret _
    refine (swapSession_onRepository _ _).bind ?_
    rintro (err | _)
    · exact .ret _
    · exact .bind (.perform trivial) fun _ => .ret _

theorem sessionApplyUsage_onRepository (id : String) (usage : UsageEvent) (cost : Int) :
    (sessionApplyUsage id usage cost).Only OnRepository := by
  refine (swapSession_onRepository _ _).bind ?_
  rintro (err | _)
  · exact .ret _
  · exact .bind (.perform trivial) fun _ => .ret _

theorem collectionGet_onRepository (key : CollectionKey) :
    (collectionGet key).Only OnRepository := by
  refine .bind (.perform trivial) ?_
  rintro (_ | _)
  · exact .ret _
  · exact .ret _

theorem collectRecords_onRepository (filter : CollectionFilter) (keys : List String) :
    (collectRecords filter keys).Only OnRepository := by
  induction keys with
  | nil => exact .ret _
  | cons key rest ih =>
    refine .bind (.perform trivial) ?_
    rintro (_ | record)
    · exact ih
    · exact ih.bind fun _ => .ret _

theorem updateCollection_onRepository (key : CollectionKey) (expected : Int) (mark : CollectionMark)
    (updatedAt : Time) : (updateCollection key expected mark updatedAt).Only OnRepository := by
  refine withCollectionMu_onRepository (.bind (.perform trivial) ?_)
  rintro (_ | current)
  · exact .ret _
  dsimp only
  split
  · exact .ret _
  refine .bind (.perform trivial) fun now => ?_
  cases mark.apply (collectionUpdatedAt updatedAt now) current with
  | error err => exact .ret _
  | ok next => exact .bind (.perform trivial) fun _ => .ret _

end Repository

/-! ## Operator RPCs and collectors -/

section Operator

open Sdsce.Source.Operator

theorem listCollections_onRepository (req : Proto.ListCollectionsRequest) :
    (listCollections req).Only OnRepository := by
  unfold listCollections
  split
  · exact .ret _
  · refine .bind (.bind (.perform trivial) fun keys => ?_) fun _ => .ret _
    exact collectRecords_onRepository _ keys

theorem getCollection_onRepository (key : Option Proto.CollectionKey) :
    (getCollection key).Only OnRepository := by
  unfold getCollection
  split
  · exact .ret _
  refine (collectionGet_onRepository _).bind ?_
  rintro (_ | _)
  · exact .ret _
  · exact .ret _

theorem markCollection_onRepository (key : Option Proto.CollectionKey) (expected : Option Proto.GRT)
    (mark : Proto.Mark) : (markCollection key expected mark).Only OnRepository := by
  unfold markCollection
  split
  · exact .ret _
  split
  · exact .ret _
  refine .bind (.perform trivial) fun now => (updateCollection_onRepository _ _ _ _).bind ?_
  rintro (_ | _)
  · exact .ret _
  · exact .ret _

theorem handle_onRepository (request : OperatorRequest) : (handle request).Only OnRepository := by
  cases request with
  | listCollections req => exact listCollections_onRepository req
  | getCollection key => exact getCollection_onRepository key
  | markCollection key expected mark => exact markCollection_onRepository key expected mark

theorem serve_apart : serve.Only Apart := by
  refine .bind (.perform trivial) ?_
  rintro ⟨call, request⟩
  refine .bind (.perform trivial) ?_
  rintro (_ | _)
  · exact .perform trivial
  · exact ((handle_onRepository request).mono OnRepository.apart).bind fun _ => .perform trivial

end Operator

section Collector

open Sdsce.Source.Collector

theorem orQuery_onOutside (given : Option Nat) (label : String) :
    (orQuery given label).Only OnOutside := by
  cases given with
  | some n => exact .ret _
  | none =>
    refine .bind (.perform trivial) ?_
    rintro (_ | _)
    · exact .ret _
    · exact .ret _

theorem transactionFees_onOutside (opts : TxOptions) : (transactionFees opts).Only OnOutside := by
  unfold transactionFees
  split
  · refine (orQuery_onOutside _ _).bind ?_
    rintro (_ | _)
    · exact .ret _
    · exact .ret _
  refine (orQuery_onOutside _ _).bind ?_
  rintro (_ | tip)
  · exact .ret _
  dsimp only
  split
  · exact .ret _
  refine (orQuery_onOutside _ _).bind ?_
  rintro (_ | _)
  · exact .ret _
  · exact .ret _

theorem waitReceipt_onOutside (call : CollectCall) (hash : TxHash) :
    (waitReceipt call hash).Only OnOutside := by
  refine .retry (.bind (.perform trivial) ?_)
  rintro (status | _ | err)
  · exact .ret _
  · refine .bind (.perform trivial) ?_
    rintro (_ | _)
    · exact .ret _
    · exact .ret _
  · exact .ret _

theorem submitTransaction_onOutside (call : CollectCall) (opts : TxOptions) :
    (submitTransaction call opts).Only OnOutside := by
  refine (orQuery_onOutside _ _).bind ?_
  rintro (_ | nonce)
  · exact .ret _
  refine .bind (.perform trivial) ?_
  rintro (_ | hash)
  · exact .ret _
  dsimp only
  split
  · exact .ret _
  refine (waitReceipt_onOutside call hash).bind ?_
  rintro (_ | status)
  · exact .ret _
  · exact .ret _

theorem sendDynamicFeeTransaction_onOutside (call : CollectCall) (opts : TxOptions) :
    (sendDynamicFeeTransaction call opts).Only OnOutside := by
  unfold sendDynamicFeeTransaction
  split
  · exact .ret _
  refine (orQuery_onOutside _ _).bind ?_
  rintro (_ | gas)
  · exact .ret _
  refine (transactionFees_onOutside opts).bind ?_
  rintro (_ | _)
  · exact .ret _
  dsimp only
  split
  · exact .ret _
  · exact submitTransaction_onOutside call opts

theorem sendDynamicFeeTransaction_apart (call : CollectCall) (opts : TxOptions) :
    (sendDynamicFeeTransaction call opts).Only Apart :=
  (sendDynamicFeeTransaction_onOutside call opts).mono OnOutside.apart

theorem callOperator_apart (request : OperatorRequest) : (callOperator request).Only Apart := by
  refine .bind (.perform trivial) fun call => .bind (.perform trivial) fun answer => ?_
  split
  · exact .ret _
  · exact .ret _
  · exact .ret _

theorem markRecord_apart (record : Proto.CollectionRecord) (mark : Proto.Mark) :
    (markRecord record mark).Only Apart := by
  refine (callOperator_apart _).bind ?_
  rintro (_ | _)
  · exact .ret _
  · exact .ret _

theorem listRecords_apart (request : Proto.ListCollectionsRequest) :
    (listRecords request).Only Apart := by
  refine (callOperator_apart _).bind fun answer => ?_
  split
  · exact .ret _
  · exact .ret _
  · exact .ret _

theorem fetchProviderOperatorCollection_apart (key : Proto.CollectionKey) :
    (fetchProviderOperatorCollection key).Only Apart := by
  unfold fetchProviderOperatorCollection
  split
  · refine (callOperator_apart _).bind fun answer => ?_
    split
    · exact .ret _
    · exact .ret _
    · exact .ret _
  · refine (listRecords_apart _).bind fun answer => ?_
    split
    · exact .ret _
    · exact .ret _
    · exact .ret _
    · exact .ret _

theorem finishCollect_apart (opts : CollectOptions) (record : Proto.CollectionRecord)
    (result : Except TxError TxHash) : (finishCollect opts record result).Only Apart := by
  unfold finishCollect
  split
  · split
    · exact .ret _
    refine (markRecord_apart _ _).bind ?_
    rintro (_ | _)
    · exact .ret _
    · exact .ret _
  · split
    · exact .ret _
    · split
      · exact .ret _
      · exact markRecord_apart _ _

theorem sendCollect_apart (opts : CollectOptions) (record : Proto.CollectionRecord)
    (signedRAV : SignedRAV) : (sendCollect opts record signedRAV).Only Apart := by
  unfold sendCollect
  split
  · exact (sendDynamicFeeTransaction_apart _ _).bind fun _ => finishCollect_apart _ _ _
  refine (markRecord_apart _ _).bind ?_
  rintro (_ | _)
  · exact .ret _
  · exact (sendDynamicFeeTransaction_apart _ _).bind fun _ => finishCollect_apart _ _ _

theorem collect_apart (opts : CollectOptions) : (collect opts).Only Apart := by
  unfold collect
  split
  · exact .ret _
  refine (fetchProviderOperatorCollection_apart _).bind ?_
  rintro (_ | record)
  · exact .ret _
  dsimp only
  split
  · exact .ret _
  · split
    · exact .ret _
    · exact sendCollect_apart _ _ _

open AutoCollector in
theorem selectEligible_apart (c : AutoCollector) (records : List Proto.CollectionRecord) :
    (c.selectEligible records).Only Apart := by
  induction records with
  | nil => exact .ret _
  | cons record rest ih => exact .bind (.perform trivial) fun _ => ih.bind fun _ => .ret _

theorem listEligible_apart (c : AutoCollector) : (c.listEligible).Only Apart := by
  refine (listRecords_apart _).bind ?_
  rintro (_ | fresh)
  · exact .ret _
  refine (selectEligible_apart c fresh).bind fun _ => (listRecords_apart _).bind ?_
  rintro (_ | failed)
  · exact .ret _
  · exact (selectEligible_apart c failed).bind fun _ => .ret _

theorem collectOne_apart (c : AutoCollector) (record : Proto.CollectionRecord) :
    (c.collectOne record).Only Apart := by
  unfold AutoCollector.collectOne
  split
  · exact .ret _
  refine (markRecord_apart _ _).bind ?_
  rintro (_ | _)
  · exact .ret _
  refine (sendDynamicFeeTransaction_apart _ _).bind ?_
  rintro (_ | _)
  · exact (markRecord_apart _ _).bind fun _ => .ret _
  · exact (markRecord_apart _ _).bind fun _ => .ret _

theorem whileRunning_apart {f : Proto.CollectionRecord → Program Unit}
    (each : ∀ r, (f r).Only Apart)
    (records : List Proto.CollectionRecord) :
    (AutoCollector.whileRunning f records).Only Apart := by
  induction records with
  | nil => exact .ret _
  | cons record rest ih =>
    refine .bind (.perform trivial) ?_
    rintro (_ | _)
    · exact (each record).bind fun _ => ih
    · exact .ret _

theorem reclaimStalePending_apart (c : AutoCollector) : (c.reclaimStalePending).Only Apart := by
  unfold AutoCollector.reclaimStalePending
  split
  · exact .ret _
  refine (listRecords_apart _).bind ?_
  rintro (_ | records)
  · exact .ret _
  refine .bind (.perform trivial) fun now => (whileRunning_apart ?_ records).bind fun _ => .ret _
  intro record
  unfold AutoCollector.reclaimRecord
  split
  · exact (markRecord_apart _ _).bind fun _ => .ret _
  · exact .ret _

theorem collectDaemon_apart (c : AutoCollector) : (c.run).Only Apart := by
  have sweep : (c.sweep).Only Apart := by
    refine (listEligible_apart c).bind ?_
    rintro (_ | records)
    · exact .ret _
    dsimp only
    split
    · exact .ret _
    refine (whileRunning_apart (collectOne_apart c) records).bind ?_
    rintro (_ | _)
    · exact .ret _
    · exact reclaimStalePending_apart c
  refine .retry (sweep.bind fun _ => ?_)
  split
  · exact .ret _
  refine .bind (.perform trivial) ?_
  rintro (_ | _)
  · exact .ret _
  · exact .ret _

end Collector

/-! ## The gateway -/

theorem sessionGet_apart (id : String) : (sessionGet id).Only Apart :=
  (sessionGet_onRepository id).mono OnRepository.apart

theorem assessSessionFunds_onOutside (g : Gateway) (session : Session) :
    (g.assessSessionFunds session).Only OnOutside := by
  have balance : (g.getEscrowBalance session.payer).Only OnOutside := by
    unfold getEscrowBalance
    split
    · refine .bind (.perform trivial) ?_
      rintro (_ | _)
      · exact .ret _
      · exact .ret _
    · exact .ret _
  exact balance.bind fun _ => .ret _

theorem assessSessionFunds_apart (g : Gateway) (session : Session) :
    (g.assessSessionFunds session).Only Apart :=
  (assessSessionFunds_onOutside g session).mono OnOutside.apart

theorem queryAuthorization_apart (payer signer : Address) :
    (queryAuthorization payer signer).Only Apart := by
  refine .bind (.perform trivial) fun now => .bind (.perform trivial) fun cached => ?_
  split
  · exact .ret _
  refine .bind (.perform trivial) ?_
  rintro (_ | _)
  · exact .ret _
  · exact .bind (.perform trivial) fun _ => .bind (.perform trivial) fun _ => .ret _

theorem isSignerAuthorized_apart (g : Gateway) (payer signer : Address) :
    (g.isSignerAuthorized payer signer).Only Apart := by
  refine .bind ?_ fun _ => .bind (.perform trivial) fun _ => .ret _
  unfold checkAuthorization
  split
  · exact .ret _
  · split
    · exact queryAuthorization_apart payer signer
    · exact .ret _

theorem answerUnexpected_apart (id : String) : (answerUnexpected id).Only Apart := by
  refine (sessionGet_apart id).bind ?_
  rintro (_ | _)
  · exact .ret _
  · exact .ret _

theorem validateInitialRAV_apart (g : Gateway) (payer dataService : Address)
    (rav : Option SignedRAV) : (g.validateInitialRAV payer dataService rav).Only Apart := by
  unfold validateInitialRAV
  split
  · exact .ret _
  split
  · exact .ret _
  refine (isSignerAuthorized_apart g _ _).bind ?_
  rintro (_ | _ | _)
  · exact .ret _
  · exact .ret _
  · exact .ret _

theorem startSession_apart (g : Gateway) (req : StartSessionRequest) :
    (g.startSession req).Only Apart := by
  unfold startSession
  split
  · exact .ret _
  split
  · exact .ret _
  split
  · exact .ret _
  refine (validateInitialRAV_apart g _ _ _).bind ?_
  rintro (_ | _)
  · exact .ret _
  refine .bind (.perform trivial) fun id => .bind (.perform trivial) fun now => ?_
  refine ((sessionCreate_onRepository _).mono OnRepository.apart).bind ?_
  rintro (_ | _)
  · exact .ret _
  dsimp only
  split
  · exact .ret _
  · exact .ret _

theorem keepAlive_apart (id : String) (payer : Address) : (keepAlive id payer).Only Apart := by
  refine (sessionGet_apart id).bind ?_
  rintro (_ | session)
  · exact .ret _
  dsimp only
  split
  · exact .bind (.perform trivial) fun _ =>
      ((swapSession_onRepository _ _).mono OnRepository.apart).bind fun _ => .ret _
  · exact .ret _

/-! ## Evaluations -/

/-- Sections of the runtime manager that an evaluation enters. -/
def EvaluatingRuntime {β : Type} : RuntimeAct β → Prop
  | .runtimeState _ | .clearPendingRAV _ | .dispatchLocked .. | .trySend ..
  | .clearQueuedResponse .. => True
  | _ => False

/-- What an evaluation does: it reads a session, swaps its runtime state and dispatches. -/
def Evaluating {β : Type} (a : Act β) : Prop :=
  match β, a with
  | _, .store (.sessionsGet _) | _, .outside _ | _, .gateway (.note _) => True
  | _, .store (.sessionsCompareAndSwap _ _ (.runtimeState ..)) => True
  | _, .runtime a => EvaluatingRuntime a
  | _, _ => False

theorem OnOutside.evaluating {β : Type} (a : Act β) (h : OnOutside a) : Evaluating a := by
  cases a with
  | outside _ => trivial
  | _ => exact h.elim

theorem deliver_evaluating (id : String) (events : Chan) (queued : Queued)
    (pending : Option PendingRAVRequest) : (deliver id events queued pending).Only Evaluating := by
  refine .bind (.perform trivial) ?_
  rintro (_ | _)
  · exact .ret _
  · exact .perform trivial

theorem dispatch_evaluating (id : String) (response : PaymentSessionResponse)
    (pending : Option PendingRAVRequest) : (dispatch id response pending).Only Evaluating := by
  refine .bind (.perform trivial) ?_
  rintro ⟨_ | events, queued⟩
  · exact .ret _
  · exact deliver_evaluating id events queued pending

theorem requestRAV_evaluating (g : Gateway) (id : String) (session : Session) :
    (g.requestRAV id session).Only Evaluating := by
  unfold requestRAV
  split
  · refine .bind (.perform trivial) ?_
    rintro ⟨events, pending⟩
    dsimp only
    split
    · exact .ret _
    split
    · exact .ret _
    · exact .bind (.perform trivial) fun _ => .bind (.perform trivial) fun _ =>
        dispatch_evaluating _ _ _
  · exact .ret _

theorem evaluateMeteredUsage_evaluating (g : Gateway) (id : String) :
    (g.evaluateMeteredUsage id).Only Evaluating := by
  have stored (session : Session) : (storeRuntimeState id session).Only Evaluating :=
    swapSession_only trivial trivial fun _ _ => trivial
  have read : (sessionGet id).Only Evaluating := by
    refine .bind (.perform trivial) ?_
    rintro (_ | _)
    · exact .ret _
    · exact .ret _
  refine read.bind ?_
  rintro (_ | session)
  · exact .ret _
  dsimp only
  split
  · refine ((assessSessionFunds_onOutside g session).mono OnOutside.evaluating).bind fun _ => ?_
    split
    · refine .bind (.perform trivial) fun now => (stored _).bind ?_
      rintro (_ | _)
      · exact .ret _
      · exact .bind (.perform trivial) fun _ => (dispatch_evaluating _ _ _).bind fun _ => .ret _
    · refine (stored _).bind ?_
      rintro (_ | _)
      · exact .ret _
      · exact (requestRAV_evaluating g _ _).bind fun _ => .ret _
  · exact .ret _

/-! ## Calls that ask what is pending -/

theorem submitRAV_asking (g : Gateway) (req : SubmitRAVRequest) :
    (g.submitRAV req).Only Asking := by
  have accept (session : Session) (rav : SignedRAV) :
      (g.acceptSubmitted req.sessionId session rav).Only Apart := by
    unfold acceptSubmitted
    split
    · exact .ret _
    refine (isSignerAuthorized_apart g _ _).bind ?_
    rintro (_ | _ | _)
    · exact .ret _
    · exact .ret _
    dsimp only
    split
    · exact .ret _
    · exact .bind (.perform trivial) fun _ =>
        ((sessionUpdateRAVAndBaseline_onRepository _ _ _ _ _ _).mono OnRepository.apart).bind
          fun _ => .ret _
  refine ((sessionGet_apart _).mono Apart.asking).bind ?_
  rintro (_ | session)
  · exact .ret _
  dsimp only
  split
  · refine .bind (.perform trivial) ?_
    rintro (_ | _)
    · split
      · exact .ret _
      split
      · exact .ret _
      · split
        · exact .ret _
        · exact ((accept session _).mono Apart.asking).bind fun _ => .ret _
    · exact .ret _
  · exact .ret _

theorem getSessionStatus_asking (g : Gateway) (requested : String) (activeWorkers : Nat) :
    (g.getSessionStatus requested activeWorkers).Only Asking := by
  have pending (session : Session) :
      (g.paymentControlPending session activeWorkers).Only Asking := by
    unfold paymentControlPending
    split
    · split
      · exact .ret _
      · exact .bind (.perform trivial) fun _ => .ret _
    · exact .ret _
  unfold getSessionStatus
  dsimp only
  split
  · exact .ret _
  refine ((sessionGet_apart _).mono Apart.asking).bind ?_
  rintro (_ | session)
  · exact .ret _
  · exact (pending session).bind fun _ => .ret _

end Sdsce.Guarantees
