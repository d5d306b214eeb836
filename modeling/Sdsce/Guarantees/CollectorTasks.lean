import Sdsce.Guarantees.HandlerTasks

/-!
# Operators and collectors keep the policy

A collector asks for a record to be marked collected only after the receipt of its own collect
transaction, and the operator gateway marks only what it is asked to.
-/
namespace Sdsce.Guarantees

open Sdsce.Theory Sdsce.Source Sdsce.Source.InMemory

variable {g : Gateway} {pool : Pool} {i : ThreadId}

/-! ## The operator gateway -/

namespace Operator

variable {key : Option Proto.CollectionKey} {expected : Option Proto.GRT} {k : CollectionKey}
  {name : String} {mark : Proto.Mark}

theorem mutationKeyAndExpectedValue_ok {v : Int}
    (parsed : Operator.mutationKeyAndExpectedValue key expected = .ok (k, v)) :
    Operator.collectionKeyFromProto key = .ok k ∧ ∃ value, expected = some value ∧
      v = value.toBigInt := by
  unfold Operator.mutationKeyAndExpectedValue at parsed
  split at parsed
  · cases parsed
  rename_i named
  split at parsed
  · cases parsed
  · next value =>
      cases parsed
      exact ⟨named, value, rfl, rfl⟩

theorem requiredAddress_ok {field : Option Address} {address : Address}
    (parsed : Gateway.requiredAddress name field = .ok address) :
    Proto.toEth field = .ok address := by
  unfold Gateway.requiredAddress at parsed
  split at parsed
  · cases parsed
  · next found =>
      cases parsed
      exact found

theorem requiredCollectionID_ok {raw : List UInt8} {collectionID : CollectionID}
    (parsed : Operator.requiredCollectionID name raw = .ok collectionID) :
    collectionID.bytes = raw := by
  unfold Operator.requiredCollectionID at parsed
  split at parsed
  · cases parsed
  · cases parsed
  rename_i found
  cases parsed
  unfold Operator.optionalCollectionID at found
  split at found
  · cases found
  split at found
  · cases found
    rfl
  · cases found

theorem collectionKeyFromProto_ok {key : Proto.CollectionKey}
    (parsed : Operator.collectionKeyFromProto (some key) = .ok k) :
    k.collectionID.bytes = key.collectionId ∧ Proto.toEth key.payer = .ok k.payer ∧
      Proto.toEth key.serviceProvider = .ok k.serviceProvider ∧
      Proto.toEth key.dataService = .ok k.dataService := by
  simp only [Operator.collectionKeyFromProto] at parsed
  cases empty : decide (key.sessionId = "") with
  | true =>
    rw [if_pos (of_decide_eq_true empty)] at parsed
    cases parsed
  | false =>
    rw [if_neg (of_decide_eq_false empty)] at parsed
    cases collectionID : Operator.requiredCollectionID "key.collection_id" key.collectionId with
    | error err =>
      rw [collectionID] at parsed
      cases parsed
    | ok c =>
      cases payer : Gateway.requiredAddress "key.payer" key.payer with
      | error err =>
        rw [collectionID, payer] at parsed
        cases parsed
      | ok p =>
        cases serviceProvider : Gateway.requiredAddress "key.service_provider"
            key.serviceProvider with
        | error err =>
          rw [collectionID, payer, serviceProvider] at parsed
          cases parsed
        | ok s =>
          cases dataService : Gateway.requiredAddress "key.data_service"
              key.dataService with
          | error err =>
            rw [collectionID, payer, serviceProvider, dataService] at parsed
            cases parsed
          | ok d =>
            rw [collectionID, payer, serviceProvider, dataService] at parsed
            cases parsed
            exact ⟨requiredCollectionID_ok collectionID, requiredAddress_ok payer,
              requiredAddress_ok serviceProvider, requiredAddress_ok dataService⟩

theorem markFromProto_collected {txHash : String} {amount : Option Int}
    (parsed : Operator.markFromProto mark = .ok (.collected txHash amount)) :
    ∃ amount', mark = .collected txHash amount' := by
  cases mark with
  | pending hash => cases parsed
  | collected hash amount' =>
    simp only [Operator.markFromProto] at parsed
    split at parsed
    · cases parsed
    · cases parsed
      exact ⟨amount', rfl⟩
  | retryable hash err =>
    simp only [Operator.markFromProto] at parsed
    split at parsed
    · cases parsed
    · cases parsed

/-- The request may be sent as things stand. -/
def requestable (g : Gateway) (pool : Pool) (i : ThreadId) (request : OperatorRequest) :
    (provider g pool).Knowledge i :=
  recorded _ i (fun h => mayRequest h request)
    fun _ _ grown => (providerPolicy g pool).request_mono grown

theorem mayMark_of_request {h : History} {v : Int} {m : CollectionMark}
    (asked : mayRequest h (.markCollection key expected mark))
    (parsed : Operator.mutationKeyAndExpectedValue key expected = .ok (k, v))
    (marked : Operator.markFromProto mark = .ok m) : mayMark h k v m := by
  cases m with
  | collected txHash amount =>
    obtain ⟨amount', rfl⟩ := markFromProto_collected marked
    exact asked k v parsed
  | pending | failedRetryable => trivial

theorem markCollection_task (key : Option Proto.CollectionKey) (expected : Option Proto.GRT)
    (mark : Proto.Mark) :
    (provider g pool).Task (requestable g pool i (.markCollection key expected mark))
      (Operator.markCollection key expected mark) (fun _ => .none _ i) := by
  unfold Operator.markCollection
  split
  · exact (Permitted.ret _).within
  rename_i k v parsed
  split
  · exact (Permitted.ret _).within
  rename_i m marked
  refine .bind (Permitted.outside _).within fun now => ?_
  refine .bind (R := fun _ => .none _ i) ?_ fun result => ?_
  · refine (updateCollection_triple lasting_true k v m now).conseq ?_
      fun _ _ _ _ => trivial
    exact fun w _ here => ⟨mayMark_of_request here.1 parsed marked, trivial⟩
  · cases result with
    | error | ok => exact (Permitted.ret _).within

theorem collectRecords_permitted (filter : CollectionFilter) (keys : List String) :
    Permitted g pool i (collectRecords filter keys) := by
  induction keys with
  | nil => exact .ret _
  | cons key rest ih =>
    refine .bind (.act fun _ _ => trivial) fun found => ?_
    cases found with
    | none => exact ih
    | some record => exact .bind ih fun _ => Permitted.ret _

theorem listCollections_permitted (req : Proto.ListCollectionsRequest) :
    Permitted g pool i (Operator.listCollections req) := by
  unfold Operator.listCollections
  split
  · exact .ret _
  rename_i filter selected _
  refine .bind ?_ fun records => Permitted.ret _
  exact .bind (.act fun _ _ => trivial)
    fun keys => collectRecords_permitted filter keys

theorem getCollection_permitted (key : Option Proto.CollectionKey) :
    Permitted g pool i (Operator.getCollection key) := by
  unfold Operator.getCollection
  split
  · exact .ret _
  rename_i k _
  refine .bind (.bind (.act fun _ _ => trivial) fun found => ?_)
    fun result => ?_
  · cases found with
    | none | some => exact .ret _
  · cases result with
    | error | ok => exact .ret _

theorem handle_task (request : OperatorRequest) :
    (provider g pool).Task (requestable g pool i request) (Operator.handle request)
      (fun _ => .none _ i) := by
  cases request with
  | listCollections req => exact (listCollections_permitted req).within
  | getCollection key => exact (getCollection_permitted key).within
  | markCollection key expected mark => exact markCollection_task key expected mark

theorem serve_permitted : Permitted g pool i Operator.serve := by
  refine Discipline.Task.bind (R := fun taken => requestable g pool i taken.2) ?_ fun taken => ?_
  · refine Discipline.Task.perform (fun _ _ _ => trivial) fun e w w' taken sound _ ran => ?_
    simp only [machine, World.exec] at ran
    split at ran
    · cases ran
    rename_i calls result found
    cases ran
    simp only [RpcAct.exec] at found
    split at found
    · next request response present =>
        cases found
        exact sound.calls { request, taken := false, response } (List.mem_of_getElem? present)
    · cases found
  · obtain ⟨call, request⟩ := taken
    have replied (response : OperatorResponse) :
        Permitted g pool i (rpc (.reply call response)) :=
      Permitted.act fun _ _ => trivial
    refine .bind (Permitted.act fun _ _ => by trivial).within fun authorized => ?_
    cases authorized with
    | false => exact (replied _).within
    | true =>
      refine .bind ((handle_task request).pre fun _ _ here => here.1.2)
        fun response => ?_
      exact (replied response).within

end Operator

/-! ## Transactions -/

namespace Collector

/-- The transaction was mined with success. -/
def Mined (h : History) (call : CollectCall) : Prop := ∃ j, ⟨j, .note (.receipt call true)⟩ ∈ h

theorem Mined.mono {h h' : History} {call : CollectCall} (grown : h <+: h')
    (mined : Mined h call) : Mined h' call := by
  obtain ⟨j, member⟩ := mined
  exact ⟨j, grown.subset member⟩

/-- The transaction was mined with success, provided that `φ`. -/
def minedIf (g : Gateway) (pool : Pool) (i : ThreadId) (call : CollectCall) (φ : Prop) :
    (provider g pool).Knowledge i :=
  recorded _ i (fun h => φ → Mined h call) fun _ _ grown here known => (here known).mono grown

theorem orQuery_permitted (given : Option Nat) (label : String) :
    Permitted g pool i (Collector.orQuery given label) := by
  cases given with
  | some n => exact .ret _
  | none =>
    refine .bind (.outside _) fun answer => ?_
    cases answer with
    | error | ok => exact .ret _

theorem dynamicFees_permitted (opts : Collector.TxOptions) :
    Permitted g pool i (Collector.dynamicFees opts) := by
  refine .bind (orQuery_permitted _ _) fun tip => ?_
  cases tip with
  | error err => exact .ret _
  | ok tip =>
    dsimp only
    split
    · exact .ret _
    refine .bind (orQuery_permitted _ _) fun base => ?_
    cases base with
    | error | ok => exact .ret _

theorem legacyFees_permitted (opts : Collector.TxOptions) :
    Permitted g pool i (Collector.legacyFees opts) := by
  refine .bind (orQuery_permitted _ _) fun price => ?_
  cases price with
  | error | ok => exact .ret _

theorem transactionFees_permitted (opts : Collector.TxOptions) :
    Permitted g pool i (Collector.transactionFees opts) := by
  unfold Collector.transactionFees
  split
  · exact legacyFees_permitted opts
  · exact dynamicFees_permitted opts

/-- A receipt that was waited for is in the history. -/
def receiptOutcome (g : Gateway) (pool : Pool) (i : ThreadId) (call : CollectCall) :
    Except String Nat → (provider g pool).Knowledge i
  | .ok status => minedIf g pool i call (status ≠ 0)
  | .error _ => .none _ i

theorem waitReceipt_task (call : CollectCall) (hash : Collector.TxHash) :
    (provider g pool).Task (.none _ i) (Collector.waitReceipt call hash)
      (receiptOutcome g pool i call) := by
  refine .retry (Discipline.Task.bind (R := fun answer => match answer with
    | .found status => minedIf g pool i call (status ≠ 0)
    | _ => .none _ i) ?_ fun answer => ?_)
  · refine .perform (fun _ _ _ => trivial) fun e w w' answer _ _ ran => ?_
    cases ran
    cases received : e.receipt with
    | found status =>
      simp only [OutsideAct.exec, received]
      intro success
      refine ⟨i, List.mem_append_right _ ?_⟩
      simp [success]
    | notFound | failed =>
      simp only [OutsideAct.exec, received]
      trivial
  · cases answer with
    | found status => exact .ret fun _ _ here => here.2
    | failed err => exact .ret fun _ _ _ => trivial
    | notFound =>
      refine .bind (Permitted.outside _).within fun ended => ?_
      cases ended with
      | true | false => exact .ret fun _ _ _ => trivial

/-- A transaction that is waited for and succeeds was mined. -/
def sendOutcome (g : Gateway) (pool : Pool) (i : ThreadId) (call : CollectCall)
    (opts : Collector.TxOptions) :
    Except Collector.TxError Collector.TxHash → (provider g pool).Knowledge i
  | .ok _ => minedIf g pool i call (opts.noWait = false ∧ opts.dryRun = false)
  | .error _ => .none _ i

theorem submitTransaction_task (call : CollectCall) (opts : Collector.TxOptions) :
    (provider g pool).Task (.none _ i) (Collector.submitTransaction call opts)
      (sendOutcome g pool i call opts) := by
  refine .bind (orQuery_permitted _ _).within fun nonce => ?_
  cases nonce with
  | error err => exact .ret fun _ _ _ => trivial
  | ok nonce =>
    refine .bind (Permitted.outside _).within fun sent => ?_
    cases sent with
    | error err => exact .ret fun _ _ _ => trivial
    | ok hash =>
      dsimp only
      split
      · next noWait =>
          refine .ret fun _ _ _ waited => ?_
          rw [noWait] at waited
          cases waited.1
      refine .bind ((waitReceipt_task call hash).pre fun _ _ _ => trivial)
        fun receipt => ?_
      cases receipt with
      | error err => exact .ret fun _ _ _ => trivial
      | ok status =>
        dsimp only
        split
        · exact .ret fun _ _ _ => trivial
        · next success => exact .ret fun _ _ here _ => here.2 success

theorem sendDynamicFeeTransaction_task (call : CollectCall) (opts : Collector.TxOptions) :
    (provider g pool).Task (.none _ i) (Collector.sendDynamicFeeTransaction call opts)
      (sendOutcome g pool i call opts) := by
  unfold Collector.sendDynamicFeeTransaction
  split
  · exact .ret fun _ _ _ => trivial
  refine .bind (orQuery_permitted _ _).within fun gas => ?_
  cases gas with
  | error err => exact .ret fun _ _ _ => trivial
  | ok gas =>
    refine .bind (transactionFees_permitted opts).within fun fees => ?_
    cases fees with
    | error err => exact .ret fun _ _ _ => trivial
    | ok _ =>
      dsimp only
      split
      · next dryRun =>
          refine .ret fun _ _ _ waited => ?_
          rw [dryRun] at waited
          cases waited.2
      · exact (submitTransaction_task call opts).pre fun _ _ _ => trivial

/-! ## RPCs -/

theorem callOperator_task (request : OperatorRequest) :
    (provider g pool).Task (Operator.requestable g pool i request)
      (Collector.callOperator request) (fun _ => .none _ i) := by
  refine .bind (R := fun _ => .none _ i) ?_ fun call => ?_
  · exact .perform (fun _ _ here => here) fun _ _ _ _ _ _ _ => trivial
  refine .bind (Permitted.act fun _ _ => by trivial).within fun response => ?_
  rcases response with _ | response
  · exact (Permitted.ret _).within
  · cases response with
    | collections | collection | failed => exact (Permitted.ret _).within

section

variable (record : Proto.CollectionRecord)

include record

theorem markRecord_task (mark : Proto.Mark) :
    (provider g pool).Task (Operator.requestable g pool i
        (.markCollection (some record.key) (some record.valueAggregate) mark))
      (Collector.markRecord record mark) (fun _ => .none _ i) := by
  refine .bind (callOperator_task _) fun result => ?_
  cases result with
  | error | ok => exact (Permitted.ret _).within

theorem markCollectionPending_permitted :
    Permitted g pool i (Collector.markCollectionPending record) :=
  (markRecord_task record (.pending "")).pre fun _ _ _ => trivial

theorem markCollectionRetryable_permitted
    (hash : Collector.TxHash) (cause : String) :
    Permitted g pool i (Collector.markCollectionRetryable record hash cause) :=
  (markRecord_task record (.retryable hash cause)).pre fun _ _ _ => trivial

end

theorem listRecords_permitted (request : Proto.ListCollectionsRequest) :
    Permitted g pool i (Collector.listRecords request) := by
  refine .bind ((callOperator_task _).pre fun _ _ _ => trivial) fun result => ?_
  rcases result with err | response
  · exact .ret _
  · cases response with
    | collections | collection | failed => exact .ret _

theorem fetchProviderOperatorCollection_permitted (key : Proto.CollectionKey) :
    Permitted g pool i (Collector.fetchProviderOperatorCollection key) := by
  unfold Collector.fetchProviderOperatorCollection
  split
  · refine .bind ((callOperator_task _).pre fun _ _ _ => trivial) fun result => ?_
    rcases result with err | response
    · exact .ret _
    · cases response with
      | collections | collection | failed => exact .ret _
  · refine .bind (listRecords_permitted _) fun result => ?_
    rcases result with err | _ | ⟨record, _ | ⟨other, rest⟩⟩
    · exact .ret _
    · exact .ret _
    · exact .ret _
    · exact .ret _

/-! ## Reports of success -/

theorem protoAddressMatchesEth_ok {field : String} {got : Option Address} {want : Address}
    (matched : Collector.protoAddressMatchesEth field got want = .ok ()) :
    Proto.toEth got = .ok want := by
  unfold Collector.protoAddressMatchesEth at matched
  split at matched
  · cases matched
  rename_i address found
  split at matched
  · next same =>
      rw [found]
      exact congrArg _ (by simpa [addressesEqual] using same)
  · cases matched

variable {record : Proto.CollectionRecord} {providerAddress dataServiceAddress : Address}
  {rav : SignedRAV}

section

variable (valid : Collector.validateProviderCollectRecord record providerAddress
  dataServiceAddress = .ok rav)

include valid

/-- A record that passes validation carries a RAV of its value under its own tuple. -/
theorem validateProviderCollectRecord_ok
 :
    record.valueAggregate.toBigInt = rav.message.valueAggregate ∧
      record.key.collectionId = rav.message.collectionID.bytes ∧
      Proto.toEth record.key.payer = .ok rav.message.payer ∧
      Proto.toEth record.key.serviceProvider = .ok rav.message.serviceProvider ∧
      Proto.toEth record.key.dataService = .ok rav.message.dataService := by
  simp only [Collector.validateProviderCollectRecord] at valid
  split at valid
  · cases valid
  split at valid
  · cases valid
  rename_i rav' converted
  split at valid
  · cases valid
  rename_i value
  split at valid
  · cases valid
  rename_i _ keyed
  have same : rav' = rav := by
    split at valid
    · cases valid
    · split at valid
      · cases valid
      · exact Except.ok.inj valid
  subst same
  unfold Collector.validateCollectionKeyMatchesRAV at keyed
  split at keyed
  · cases keyed
  rename_i collectionID
  cases payer : Collector.protoAddressMatchesEth "payer" record.key.payer
      rav'.message.payer with
  | error err =>
    rw [payer] at keyed
    cases keyed
  | ok _ =>
    cases serviceProvider : Collector.protoAddressMatchesEth
        "service provider" record.key.serviceProvider
        rav'.message.serviceProvider with
    | error err =>
      rw [payer, serviceProvider] at keyed
      cases keyed
    | ok _ =>
      rw [payer, serviceProvider] at keyed
      exact ⟨not_not.mp value, not_not.mp collectionID, protoAddressMatchesEth_ok payer,
        protoAddressMatchesEth_ok serviceProvider, protoAddressMatchesEth_ok keyed⟩

/-- A mined transaction for a validated record justifies the report of its collection. -/
theorem mayRequest_of_mined {h : History} {cut : UInt64}
 (mined : Mined h (Collector.packQueryFeeCollect rav cut)) (hash : Collector.TxHash) :
    mayRequest h (.markCollection (some record.key) (some record.valueAggregate)
      (.collected hash none)) := by
  intro k v parsed
  obtain ⟨value, collectionID, payer, serviceProvider, dataService⟩ :=
    validateProviderCollectRecord_ok valid
  obtain ⟨named, expected, same, rfl⟩ := Operator.mutationKeyAndExpectedValue_ok parsed
  cases same
  obtain ⟨collectionID', payer', serviceProvider', dataService'⟩ :=
    Operator.collectionKeyFromProto_ok named
  obtain ⟨j, member⟩ := mined
  refine ⟨j, _, member, value.symm, ?_⟩
  obtain ⟨_, ⟨bytes, size⟩, _, _, _⟩ := k
  rw [payer] at payer'
  rw [serviceProvider] at serviceProvider'
  rw [dataService] at dataService'
  cases payer'
  cases serviceProvider'
  cases dataService'
  have same : rav.message.collectionID = ⟨bytes, size⟩ := by
    rw [collectionID] at collectionID'
    cases shape : rav.message.collectionID
    rw [shape] at collectionID'
    cases collectionID'
    rfl
  simp only [collectionKeyFromRAV, Collector.packQueryFeeCollect, same]

end

section

variable (opts : Collector.CollectOptions)
  (valid : Collector.validateProviderCollectRecord record opts.providerAddress
    opts.dataServiceAddress = .ok rav)

include opts valid

theorem finishCollect_task
 (result : Except Collector.TxError Collector.TxHash) :
    (provider g pool).Task (sendOutcome g pool i
        (Collector.packQueryFeeCollect rav opts.dataServiceCutPPM) opts.tx result)
      (Collector.finishCollect opts record result) (fun _ => .none _ i) := by
  rcases result with ⟨err, hash⟩ | hash
  · simp only [Collector.finishCollect]
    split
    · exact (Permitted.ret _).within
    refine (Permitted.bind (markCollectionRetryable_permitted record hash err)
      fun marked => ?_).within
    cases marked with
    | error | ok => exact .ret _
  · simp only [Collector.finishCollect]
    split
    · exact (Permitted.ret _).within
    rename_i dryRun
    split
    · exact (Permitted.ret _).within
    rename_i noWait
    refine (markRecord_task record (.collected hash none)).pre fun w _ here => ?_
    exact mayRequest_of_mined valid
      (here ⟨by simpa using noWait, by simpa using dryRun⟩) hash

theorem sendCollect_permitted
 :
    Permitted g pool i (Collector.sendCollect opts record rav) := by
  have sent : Permitted g pool i ((Collector.sendDynamicFeeTransaction
      (Collector.packQueryFeeCollect rav opts.dataServiceCutPPM) opts.tx).bind
      fun result => Collector.finishCollect opts record result) :=
    Discipline.Task.bind (sendDynamicFeeTransaction_task _ _)
      fun result => (finishCollect_task opts valid result).pre fun _ _ here => here.2
  unfold Collector.sendCollect
  split
  · exact sent
  refine .bind (markCollectionPending_permitted record) fun marked => ?_
  cases marked with
  | error err => exact .ret _
  | ok _ => exact sent

end

theorem collect_permitted (opts : Collector.CollectOptions) :
    Permitted g pool i (Collector.collect opts) := by
  unfold Collector.collect
  split
  · exact .ret _
  refine .bind (fetchProviderOperatorCollection_permitted opts.key) fun fetched => ?_
  cases fetched with
  | error err => exact .ret _
  | ok record =>
    dsimp only
    split
    · exact .ret _
    · split
      · exact .ret _
      · next rav valid => exact sendCollect_permitted opts valid

/-! ## The daemon -/

variable (c : Collector.AutoCollector)

theorem selectEligible_permitted (records : List Proto.CollectionRecord) :
    Permitted g pool i (c.selectEligible records) := by
  induction records with
  | nil => exact .ret _
  | cons record rest ih =>
    refine .bind (.outside _) fun now => ?_
    exact .bind ih fun others => Permitted.ret _

theorem listEligible_permitted : Permitted g pool i c.listEligible := by
  refine .bind (listRecords_permitted _) fun fresh => ?_
  cases fresh with
  | error err => exact .ret _
  | ok fresh =>
    refine .bind (selectEligible_permitted c fresh) fun eligible => ?_
    refine .bind (listRecords_permitted _) fun failed => ?_
    cases failed with
    | error err => exact .ret _
    | ok failed =>
      exact .bind (selectEligible_permitted c failed) fun retried => Permitted.ret _

theorem collectOne_permitted (record : Proto.CollectionRecord) :
    Permitted g pool i (c.collectOne record) := by
  unfold Collector.AutoCollector.collectOne
  split
  · exact .ret _
  rename_i rav valid
  refine .bind (markCollectionPending_permitted record) fun marked => ?_
  cases marked with
  | error err => exact .ret _
  | ok _ =>
    refine Discipline.Task.bind (sendDynamicFeeTransaction_task _ _) fun result => ?_
    rcases result with ⟨err, hash⟩ | hash
    · exact (Permitted.bind (markCollectionRetryable_permitted record hash err)
        fun _ => Permitted.ret _).within
    · refine Discipline.Task.bind ((markRecord_task record (.collected hash none)).pre
        fun w _ here => ?_) fun _ => (Permitted.ret _).within
      exact mayRequest_of_mined valid (here.2 ⟨rfl, rfl⟩) hash

theorem whileRunning_permitted {f : Proto.CollectionRecord → Program Unit}
    (step : ∀ record, Permitted g pool i (f record)) (records : List Proto.CollectionRecord) :
    Permitted g pool i (Collector.AutoCollector.whileRunning f records) := by
  induction records with
  | nil => exact .ret _
  | cons record rest ih =>
    refine .bind (.outside _) fun ended => ?_
    cases ended with
    | true => exact .ret _
    | false => exact .bind (step record) fun _ => ih

theorem reclaimRecord_permitted (now : Time) (record : Proto.CollectionRecord) :
    Permitted g pool i (c.reclaimRecord now record) := by
  unfold Collector.AutoCollector.reclaimRecord
  split
  · exact .bind (markCollectionRetryable_permitted record _ _) fun _ => Permitted.ret _
  · exact .ret _

theorem reclaimStalePending_permitted : Permitted g pool i c.reclaimStalePending := by
  unfold Collector.AutoCollector.reclaimStalePending
  split
  · exact .ret _
  refine .bind (listRecords_permitted _) fun pending => ?_
  cases pending with
  | error err => exact .ret _
  | ok records =>
    refine .bind (.outside _) fun now => ?_
    exact .bind (whileRunning_permitted (reclaimRecord_permitted c now) records)
      fun _ => Permitted.ret _

theorem sweep_permitted : Permitted g pool i c.sweep := by
  refine .bind (listEligible_permitted c) fun eligible => ?_
  cases eligible with
  | error err => exact .ret _
  | ok records =>
    dsimp only
    split
    · exact .ret _
    refine .bind (whileRunning_permitted (collectOne_permitted c) records)
      fun running => ?_
    cases running with
    | true => exact reclaimStalePending_permitted c
    | false => exact .ret _

theorem run_permitted : Permitted g pool i c.run := by
  refine .retry (Discipline.Task.post (Permitted.bind (sweep_permitted c)
    fun _ => ?_) ?_)
  · split
    · exact .ret _
    refine .bind (Permitted.outside _) fun ended => ?_
    cases ended with
    | true | false => exact .ret _
  · rintro (_ | _) _ _ _
    · trivial
    · trivial

end Collector

/-! ## The whole system -/

theorem program_permitted (g : Gateway) (pool : Pool) (i : ThreadId) :
    Permitted g pool i ((pool i).program g) := by
  have replied {α : Type} {p : Program α} (h : Permitted g pool i p) (wrap : α → Reply) :
      Permitted g pool i (Handler.reply p wrap) :=
    Permitted.bind h fun _ => Permitted.ret _
  cases mine : pool i with
  | startSession req => exact replied (Gateway.startSession_permitted mine) _
  | paymentSession inputs => exact replied (Gateway.paymentSession_permitted mine) _
  | submitRAV req => exact replied (Gateway.submitRAV_permitted mine) _
  | getSessionStatus sessionID activeWorkers =>
    exact replied (Gateway.getSessionStatus_permitted sessionID activeWorkers) _
  | report events => exact replied (Gateway.report_permitted events) _
  | keepAlive id payer => exact replied (Gateway.keepAlive_permitted id payer) _
  | operatorRPC => exact replied Operator.serve_permitted _
  | collect opts => exact replied (Collector.collect_permitted opts) _
  | collectDaemon collector => exact replied (Collector.run_permitted collector) _

/-- Every handler of a freshly started provider keeps the policy in every interleaving. -/
theorem boot_verified (g : Gateway) (pool : Pool) :
    (provider g pool).Verified (fun _ _ _ => True) (boot g pool) where
  inv := sound_empty _
  threads i := program_permitted g pool i {} (sound_empty _) trivial

variable {c : Config Act ThreadId World Reply}

theorem boot_sound (run : machine.Reach (boot g pool) c) :
    Sound (providerPolicy g pool) c.shared :=
  ((boot_verified g pool).reach run).inv

theorem boot_accountable (run : machine.Reach (boot g pool) c) :
    Accountable (providerPolicy g pool) c.shared.history :=
  verified_accountable (boot_verified g pool) .nil run

end Sdsce.Guarantees
