import Sdsce.Guarantees.Alone
import Sdsce.Guarantees.CollectionLifecycle
import Sdsce.Guarantees.Footprints
import Sdsce.Theory.Environment

/-!
# Sweeps of the collect daemon

A sweep lists what is due, collects it and reclaims what has been pending for too long, while the
operator gateway serves its calls. The gateway cuts every list off before the daemon looks at it,
and a sweep that finds nothing due ends before it reclaims anything.
-/
namespace Sdsce.Guarantees.Sweeps

open Sdsce.Theory Sdsce.Source Sdsce.Source.InMemory Sdsce.Source.Operator Sdsce.Source.Collector
open CollectionLifecycle (WellKeyed)

/-! ## Served calls -/

/-- Nothing is cancelled, every call is answered without an error, and the clock does not go back
behind the start of the sweep. -/
def undisturbed (start : Time) {β : Type} (a : Act β) (b : β) : Bool :=
  match β, a, b with
  | _, .outside .now, time => decide (start ≤ time)
  | _, .outside .contextDone, done => !done
  | _, .rpc (.await _), none => false
  | _, .rpc (.await _), some (.failed _) => false
  | _, _, _ => true

/-- A collector beside an operator gateway that serves its calls. -/
def sweeping (i : ThreadId) (start : Time) : Setting Act ThreadId Oracle World where
  machine := machine
  thread := i
  moves w w' := ∃ j, machine.Runs j serve w () w'
  answers := undisturbed start

/-- Every call that was sent has been taken up. -/
def Idle (w : World) : Prop := ∀ call ∈ w.calls, call.taken = true

variable {i j : ThreadId} {start : Time} {w w' : World}

variable {n : Nat} {request : OperatorRequest} {e : Oracle} {response : OperatorResponse}
  {records : List CollectionRecord} {r : Except String (List Proto.CollectionRecord)}
  {key : CollectionKey} {record next : CollectionRecord} {mark : Proto.Mark} {c : AutoCollector}
  {now : Time}

theorem take_runs (ran : machine.Runs j (rpc .take) w (n, request) w') :
    ∃ response, w.calls[n]? = some ⟨request, false, response⟩ ∧
      w' = { w with calls := w.calls.set n ⟨request, true, response⟩ } := by
  obtain ⟨e, executed⟩ := ran.perform_inv
  simp only [machine, World.exec, RpcAct.exec] at executed
  split at executed
  · cases executed
  rename_i calls found taken
  split at taken
  · next request' response there =>
      cases taken
      cases executed
      exact ⟨response, there, rfl⟩
  · cases taken

/-- Where nothing waits to be served the environment stands still. -/
theorem Idle.still (idle : Idle w) (waits : (sweeping i start).Waits w w') : w' = w := by
  rcases Relation.ReflTransGen.cases_head waits with same | ⟨mid, ⟨j, served⟩, _⟩
  · exact same.symm
  · obtain ⟨⟨n, request⟩, mid, taken, _⟩ := served.bind_inv
    obtain ⟨response, there, _⟩ := take_runs taken
    cases idle _ (List.mem_of_getElem? there)

theorem onRepository_calls {β : Type} {a : Act β} {b : β} (ok : OnRepository a)
    (ran : machine.exec j a e w = some (w', b)) : w'.calls = w.calls := by
  cases a with
  | store a =>
    simp only [machine, World.exec] at ran
    split at ran
    · cases ran
    · cases ran
      rfl
  | outside a =>
    cases ran
    rfl
  | _ => exact ok.elim

/-- A handler leaves the calls in flight alone. -/
theorem handle_calls (ran : machine.Runs j (handle request) w response w') : w'.calls = w.calls :=
  ran.keeps (J := fun w' => w'.calls = w.calls)
    (fun _ _ _ _ _ _ ok same executed => (onRepository_calls ok executed).trans same)
    (handle_onRepository request) rfl

theorem reply_runs (ran : machine.Runs j (rpc (.reply n response)) w () w') :
    w' = { w with calls := w.calls.modify n fun c => { c with response := some response } } := by
  obtain ⟨e, executed⟩ := ran.perform_inv
  cases executed
  rfl

theorem authorize_runs {allowed : Bool} (ran : machine.Runs j (rpc .authorize) w allowed w') :
    w' = w := by
  obtain ⟨e, executed⟩ := ran.perform_inv
  cases executed
  rfl

/-- The call that waits is answered, with what its handler says unless it is refused. -/
theorem serve_runs {earlier : List Call} (waiting : w.calls = earlier ++ [⟨request, false, none⟩])
    (taken : ∀ call ∈ earlier, call.taken = true) (ran : machine.Runs j serve w () w') :
    ∃ response, w'.calls = earlier ++ [⟨request, true, some response⟩] ∧
      ((∃ err, response = .failed err) ∨ ∃ w₁ w₂, w₁.store = w.store ∧
        machine.Runs j (handle request) w₁ response w₂ ∧ w'.store = w₂.store) := by
  obtain ⟨⟨n, request'⟩, w₁, take, rest⟩ := ran.bind_inv
  obtain ⟨response, there, rfl⟩ := take_runs take
  rw [waiting] at there
  -- every earlier call has been taken up
  have last : n = earlier.length := by
    rcases Nat.lt_trichotomy n earlier.length with before | same | after
    · rw [List.getElem?_append_left before] at there
      cases taken _ (List.mem_of_getElem? there)
    · exact same
    · rw [List.getElem?_eq_none (by simp; omega)] at there
      cases there
  subst last
  rw [List.getElem?_concat_length] at there
  cases there
  have replied (response : OperatorResponse) :
      (earlier ++ [(⟨request, true, none⟩ : Call)]).modify earlier.length
        (fun c => { c with response := some response }) =
        earlier ++ [⟨request, true, some response⟩] := by
    rw [List.modify_eq_set_getElem?]
    simp
  obtain ⟨allowed, mid, asked, rest⟩ := rest.bind_inv
  cases authorize_runs asked
  have calls : w.calls.set earlier.length ⟨request, true, none⟩ =
      earlier ++ [⟨request, true, none⟩] := by
    rw [waiting]
    simp
  cases allowed with
  | false =>
    rw [reply_runs rest]
    refine ⟨.failed ⟨.unauthenticated, "invalid bearer token"⟩, ?_, .inl ⟨_, rfl⟩⟩
    rw [calls, replied]
  | true =>
    obtain ⟨response, mid, handled, rest⟩ := rest.bind_inv
    rw [reply_runs rest]
    refine ⟨response, ?_, .inr ⟨_, mid, ?_, handled, rfl⟩⟩
    · rw [handle_calls handled, calls, replied]
    · rfl

/-- An answer that is no error has come from the gateway. -/
theorem await_exec {answer : Option OperatorResponse}
    (awaited : machine.exec i (.rpc (.await n)) e w = some (w', answer))
    (met : undisturbed start (.rpc (.await n)) answer) :
    w' = w ∧ ∃ call response, w.calls[n]? = some call ∧ call.response = some response ∧
      answer = some response ∧ ∀ err, response ≠ .failed err := by
  simp only [machine, World.exec, RpcAct.exec] at awaited
  split at awaited
  · cases awaited
  rename_i calls b found
  cases awaited
  split at found
  · split at found
    · next call response there =>
        cases found
        refine ⟨rfl, _, response, there, rfl, rfl, ?_⟩
        rintro err rfl
        cases met
    · cases found
  · cases found
    cases met

theorem callOperator_runs {r : Except String OperatorResponse} (idle : Idle w)
    (ran : (sweeping i start).Runs (callOperator request) w r w') :
    Idle w' ∧ ∃ j response w₁ w₂, r = .ok response ∧ w₁.store = w.store ∧
      machine.Runs j (handle request) w₁ response w₂ ∧ w'.store = w₂.store ∧
      ∀ err, response ≠ .failed err := by
  obtain ⟨before, e, n, mid, waits, sent, _, rest⟩ := ran.act_inv
  cases idle.still waits
  cases sent
  obtain ⟨before, e, answer, mid, waits, awaited, met, rest⟩ := rest.act_inv
  obtain ⟨rfl, call, response, there, answered, rfl, fine⟩ := await_exec awaited met
  rcases Relation.ReflTransGen.cases_head waits with rfl | ⟨w₁, ⟨j, served⟩, waits⟩
  · -- nobody has answered yet
    rw [List.getElem?_concat_length] at there
    cases there
    cases answered
  obtain ⟨response', calls, handled⟩ := serve_runs rfl idle served
  have idle₁ : Idle w₁ := by
    unfold Idle
    rw [calls, List.forall_mem_append]
    exact ⟨idle, by simp⟩
  cases idle₁.still waits
  rw [calls, List.getElem?_concat_length] at there
  cases there
  cases answered
  obtain ⟨err, failed⟩ | ⟨w₁, w₂, before, handled, after⟩ := handled
  · exact (fine err failed).elim
  have ended : r = .ok response ∧ (sweeping i start).Waits mid w' := by
    cases response with
    | collections | collection => exact rest.ret_inv
    | failed err => exact (fine err rfl).elim
  obtain ⟨rfl, waits⟩ := ended
  cases idle₁.still waits
  exact ⟨idle₁, j, response, w₁, w₂, rfl, before, handled, after, fine⟩

/-! ## Lists -/

/-- The records in the order in which the repository lists them. -/
def recordsOf (w : World) : List CollectionRecord :=
  w.store.records.keys.filterMap w.store.records.lookup

/-- The records of one state, in that order. -/
def inState (w : World) (state : CollectionState) : List CollectionRecord :=
  (recordsOf w).filter (·.state = state)

/-- The records of one state that a call for them gets to see. -/
def firstOf (w : World) (state : CollectionState) : List CollectionRecord :=
  (inState w state).take 500

theorem firstOf_store (same : w'.store = w.store) (state : CollectionState) :
    firstOf w' state = firstOf w state := by
  unfold firstOf inState recordsOf
  rw [same]

theorem collectRecords_runs {filter : CollectionFilter} {keys : List String}
    (ran : machine.Runs j (collectRecords filter keys) w records w') :
    w'.store = w.store ∧
      records = (keys.filterMap w.store.records.lookup).filter filter.passes := by
  induction keys generalizing w records with
  | nil =>
    obtain ⟨rfl, rfl⟩ := ran.ret_inv
    exact ⟨rfl, rfl⟩
  | cons key rest ih =>
    obtain ⟨found, mid, read, ran⟩ := ran.bind_inv
    obtain ⟨rfl, rfl⟩ := Alone.recordsGet_runs read
    rw [List.filterMap_cons]
    cases present : mid.store.records.lookup key with
    | none =>
      rw [present] at ran
      exact ih ran
    | some record =>
      rw [present] at ran
      obtain ⟨others, mid', more, ran⟩ := ran.bind_inv
      obtain ⟨rfl, rfl⟩ := ran.ret_inv
      obtain ⟨kept, rfl⟩ := ih more
      exact ⟨kept, by rw [List.filter_cons]⟩

/-- A list of the daemon asks for a state and for nothing else. -/
theorem parse_listRequest (state : CollectionState) :
    parseListRequest (listRequest (repositoryCollectionStateToProto state)) =
      .ok ({ sessionID := none, state := some state, payer := none },
        collectionRecordMatches none none none) := by
  cases state <;> rfl

/-- The filters and the limit of such a request. -/
theorem firstOf_filters (state : CollectionState) (w : World) :
    (((w.store.records.keys.filterMap w.store.records.lookup).filter
      ({ sessionID := none, state := some state, payer := none } : CollectionFilter).passes).filter
      (collectionRecordMatches none none none)).take
      (operatorLimit (listRequest (repositoryCollectionStateToProto state)).limit) =
      firstOf w state := by
  have passes : ({ sessionID := none, state := some state, payer := none } :
      CollectionFilter).passes = fun record => decide (record.state = state) := by
    funext record
    simp [CollectionFilter.passes, eq_comm]
  have selected : collectionRecordMatches none none none = fun _ => true := rfl
  rw [passes, selected, List.filter_true]
  rfl

theorem listCollections_runs {state : CollectionState} (ran : machine.Runs j
      (listCollections (listRequest (repositoryCollectionStateToProto state))) w response w') :
    w'.store = w.store ∧
      response = .collections ((firstOf w state).map collectionRecordToProto) := by
  unfold listCollections at ran
  rw [parse_listRequest] at ran
  obtain ⟨records, mid, list, rest⟩ := ran.bind_inv
  obtain ⟨rfl, rfl⟩ := rest.ret_inv
  obtain ⟨keys, mid, read, collected⟩ := list.bind_inv
  obtain ⟨e, executed⟩ := read.perform_inv
  cases executed
  obtain ⟨kept, rfl⟩ := collectRecords_runs collected
  exact ⟨kept, congrArg (fun first : List CollectionRecord =>
    OperatorResponse.collections (first.map collectionRecordToProto)) (firstOf_filters state w)⟩

theorem listRecords_runs (state : CollectionState) (idle : Idle w) (ran : (sweeping i start).Runs
      (listRecords (listRequest (repositoryCollectionStateToProto state))) w r w') :
    Idle w' ∧ w'.store = w.store ∧ r = .ok ((firstOf w state).map collectionRecordToProto) := by
  obtain ⟨answer, mid, called, rest⟩ := ran.bind_inv
  obtain ⟨idle', j, response, w₁, w₂, rfl, before, handled, after, _⟩ :=
    callOperator_runs idle called
  obtain ⟨kept, rfl⟩ := listCollections_runs handled
  obtain ⟨rfl, waits⟩ := rest.ret_inv
  cases idle'.still waits
  refine ⟨idle', after.trans (kept.trans before), ?_⟩
  rw [firstOf_store before]

/-! ## Marks -/

/-- A record's key arrives as it was listed. -/
theorem collectionKeyFromProto_ok {key' : CollectionKey}
    (decoded : collectionKeyFromProto (some (collectionKeyToProto key)) = .ok key') :
    key' = key := by
  have address (name : String) (a b : Address)
      (passed : Gateway.requiredAddress name (some a) = .ok b) : b = a := by
    unfold Gateway.requiredAddress Proto.toEth at passed
    grind
  have collection (name : String) (a b : CollectionID)
      (passed : requiredCollectionID name a.bytes = .ok b) : b = a := by
    unfold requiredCollectionID optionalCollectionID at passed
    simp only [a.size] at passed
    exact (Except.ok.inj passed).symm
  unfold collectionKeyFromProto at decoded
  dsimp only [collectionKeyToProto] at decoded
  split at decoded
  · cases decoded
  obtain ⟨collectionID, first, decoded⟩ := except_bind_ok decoded
  obtain ⟨payer, second, decoded⟩ := except_bind_ok decoded
  obtain ⟨serviceProvider, third, decoded⟩ := except_bind_ok decoded
  obtain ⟨dataService, fourth, decoded⟩ := except_bind_ok decoded
  cases decoded
  rw [collection _ _ _ first, address _ _ _ second, address _ _ _ third, address _ _ _ fourth]

theorem updateCollection_runs {expected : Int} {mark : CollectionMark} {updatedAt : Time}
    {r : Except RepoError CollectionRecord}
    (ran : machine.Runs j (updateCollection key expected mark updatedAt) w r w') :
    (∃ err, r = .error err) ∨ ∃ current time next,
      w.store.records.lookup (collectionMapKey key) = some current ∧
      mark.apply time current = .ok next ∧
      w'.store.records = w.store.records.insert (collectionMapKey key) next := by
  obtain ⟨_, mid, inside, rfl⟩ := Alone.withCollectionMu_runs ran
  obtain ⟨found, mid, read, rest⟩ := inside.bind_inv
  obtain ⟨rfl, rfl⟩ := Alone.recordsGet_runs read
  cases present : w.store.records.lookup (collectionMapKey key) with
  | none =>
    rw [present] at rest
    obtain ⟨rfl, _⟩ := rest.ret_inv
    exact .inl ⟨_, rfl⟩
  | some current =>
    rw [present] at rest
    dsimp only at rest
    split at rest
    · obtain ⟨rfl, _⟩ := rest.ret_inv
      exact .inl ⟨_, rfl⟩
    obtain ⟨now, mid, clock, rest⟩ := rest.bind_inv
    obtain ⟨e, executed⟩ := clock.perform_inv
    cases executed
    dsimp only at rest
    split at rest
    · obtain ⟨rfl, _⟩ := rest.ret_inv
      exact .inl ⟨_, rfl⟩
    rename_i next applied
    obtain ⟨_, mid, write, rest⟩ := rest.bind_inv
    obtain ⟨rfl, rfl⟩ := rest.ret_inv
    obtain ⟨e, executed⟩ := write.perform_inv
    cases executed
    exact .inr ⟨current, _, next, rfl, applied, rfl⟩

theorem markRecord_runs {r : Except String Unit} (idle : Idle w)
    (ran : (sweeping i start).Runs (markRecord (collectionRecordToProto record) mark) w r w') :
    Idle w' ∧ r = .ok () ∧ ∃ mark' current time next, markFromProto mark = .ok mark' ∧
      w.store.records.lookup (collectionMapKey record.key) = some current ∧
      mark'.apply time current = .ok next ∧
      w'.store.records = w.store.records.insert (collectionMapKey record.key) next := by
  obtain ⟨answer, mid, called, rest⟩ := ran.bind_inv
  obtain ⟨idle', j, response, w₁, w₂, rfl, before, handled, after, fine⟩ :=
    callOperator_runs idle called
  obtain ⟨rfl, waits⟩ := rest.ret_inv
  cases idle'.still waits
  refine ⟨idle', rfl, ?_⟩
  dsimp only [handle] at handled
  unfold markCollection at handled
  split at handled
  · obtain ⟨rfl, _⟩ := handled.ret_inv
    exact (fine _ rfl).elim
  rename_i key expected decoded
  split at handled
  · obtain ⟨rfl, _⟩ := handled.ret_inv
    exact (fine _ rfl).elim
  rename_i mark' checked
  obtain ⟨now, mid, clock, handled⟩ := handled.bind_inv
  obtain ⟨updated, mid', update, handled⟩ := handled.bind_inv
  have same : mid.store = w.store := (Alone.outside_runs clock).store.trans before
  have own : key = record.key := by
    unfold mutationKeyAndExpectedValue at decoded
    split at decoded
    · cases decoded
    · next parsed =>
        cases decoded
        exact collectionKeyFromProto_ok parsed
  obtain ⟨err, rfl⟩ | ⟨current, time, next, present, applied, stored⟩ :=
    updateCollection_runs update
  · obtain ⟨rfl, _⟩ := handled.ret_inv
    exact (fine _ rfl).elim
  rw [same, own] at present stored
  refine ⟨mark', current, time, next, checked, present, applied, ?_⟩
  cases updated with
  | error err =>
    obtain ⟨rfl, _⟩ := handled.ret_inv
    exact (fine _ rfl).elim
  | ok updated =>
    obtain ⟨_, rfl⟩ := handled.ret_inv
    rw [after, stored]

/-! ## Pending records -/

/-- The record under a key is `collect_pending`. -/
def Pending (w : World) (key : String) (record : CollectionRecord) : Prop :=
  w.store.records.lookup key = some record ∧ record.state = .collectPending

/-- Nothing has become pending. -/
structure NoNewPending (w w' : World) : Prop where
  pending : ∀ key record, Pending w' key record → Pending w key record
  keyed : WellKeyed w.store.records → WellKeyed w'.store.records

theorem NoNewPending.trans {w₁ w₂ w₃ : World} (first : NoNewPending w₁ w₂)
    (second : NoNewPending w₂ w₃) : NoNewPending w₁ w₃ where
  pending key record here := first.pending key record (second.pending key record here)
  keyed before := second.keyed (first.keyed before)

theorem NoNewPending.of_store (same : w'.store = w.store) : NoNewPending w w' where
  pending key record here := by
    unfold Pending at here
    rwa [same] at here
  keyed before := by rwa [same]

theorem NoNewPending.of_insert {key : String} (present : w.store.records.lookup key = some record)
    (stored : w'.store.records = w.store.records.insert key next) (own : next.key = record.key)
    (settled : next.state ≠ .collectPending) : NoNewPending w w' where
  pending other found here := by
    obtain ⟨there, pending⟩ := here
    rw [stored] at there
    by_cases same : other = key
    · subst same
      rw [AList.lookup_insert] at there
      cases there
      exact (settled pending).elim
    · rw [AList.lookup_insert_ne same] at there
      exact ⟨there, pending⟩
  keyed before := by
    have name := before key record present
    rw [← own] at name
    rw [stored, ← name]
    exact before.insert

/-! ## Collecting -/

theorem look_runs {β : Type} {a : OutsideAct β} {b : β} (idle : Idle w)
    (unnoted : ∀ e, (a.exec e).2 = none) (ran : (sweeping i start).Runs (outside a) w b w') :
    w' = w ∧ undisturbed start (.outside a) b := by
  obtain ⟨before, e, b', mid, waits, executed, met, rest⟩ := ran.act_inv
  cases idle.still waits
  have same : mid = w := by
    cases executed
    rw [unnoted e]
    rfl
  subst same
  obtain ⟨rfl, waits⟩ := rest.ret_inv
  exact ⟨idle.still waits, met⟩

/-- A transaction does not touch the repository. -/
theorem transaction_runs {call : CollectCall} {opts : TxOptions} {r : Except TxError TxHash}
    (idle : Idle w)
    (ran : (sweeping i start).Runs (sendDynamicFeeTransaction call opts) w r w') :
    Idle w' ∧ w'.store = w.store := by
  refine ran.keeps (J := fun w' => Idle w' ∧ w'.store = w.store) ?_ ?_
    (sendDynamicFeeTransaction_onOutside call opts) ⟨idle, rfl⟩
  · rintro w₁ w₂ moved ⟨idle₁, same⟩
    cases idle₁.still (i := i) (.single moved)
    exact ⟨idle₁, same⟩
  intro β a e w₁ w₂ b ok here executed
  cases a with
  | outside a =>
    cases executed
    exact here
  | _ => exact ok.elim

/-- A mark makes a pending record only of one that was not pending. -/
theorem apply_pending {mark : CollectionMark} {time : Time}
    (applied : mark.apply time record = .ok next) :
    next.key = record.key ∧ (next.state = .collectPending → ∃ txHash, mark = .pending txHash) := by
  refine ⟨(CollectionMark.apply_ok applied).1, fun pending => ?_⟩
  cases mark with
  | pending txHash => exact ⟨txHash, rfl⟩
  | collected | failedRetryable =>
    simp only [CollectionMark.apply] at applied
    split at applied
    · cases applied
    · cases applied
      cases pending

theorem markFromProto_pending {txHash : String}
    (checked : markFromProto mark = .ok (.pending txHash)) : mark = .pending txHash := by
  cases mark with
  | pending _ =>
    cases checked
    rfl
  | collected | retryable =>
    simp only [markFromProto] at checked
    split at checked
    · cases checked
    · cases checked

/-- A mark other than `pending` settles the record, and touches no other. -/
theorem settle_runs {r : Except String Unit} (idle : Idle w)
    (settles : ∀ txHash, mark ≠ .pending txHash)
    (ran : (sweeping i start).Runs (markRecord (collectionRecordToProto record) mark) w r w') :
    Idle w' ∧ NoNewPending w w' ∧ ∀ found, ¬ Pending w' (collectionMapKey record.key) found := by
  obtain ⟨idle', _, mark', current, time, next, checked, present, applied, stored⟩ :=
    markRecord_runs idle ran
  obtain ⟨own, pending⟩ := apply_pending applied
  have settled : next.state ≠ .collectPending := by
    intro held
    obtain ⟨txHash, rfl⟩ := pending held
    exact settles txHash (markFromProto_pending checked)
  refine ⟨idle', .of_insert present stored own settled, fun found here => ?_⟩
  obtain ⟨there, held⟩ := here
  rw [stored, AList.lookup_insert] at there
  cases there
  exact settled held

/-- Collecting a record leaves none behind that is pending and was not before. -/
theorem collectOne_runs (idle : Idle w)
    (ran : (sweeping i start).Runs (c.collectOne (collectionRecordToProto record)) w () w') :
    Idle w' ∧ NoNewPending w w' := by
  unfold AutoCollector.collectOne at ran
  split at ran
  · obtain ⟨_, waits⟩ := ran.ret_inv
    cases idle.still waits
    exact ⟨idle, .of_store rfl⟩
  obtain ⟨_, w₁, marked, ran⟩ := ran.bind_inv
  obtain ⟨idle₁, rfl, mark', current, time, next, checked, present, applied, stored⟩ :=
    markRecord_runs idle marked
  obtain ⟨result, w₂, sent, ran⟩ := ran.bind_inv
  obtain ⟨idle₂, same⟩ := transaction_runs idle₁ sent
  have settled : ∃ mark r, (∀ txHash, mark ≠ .pending txHash) ∧ (sweeping i start).Runs
      (markRecord (collectionRecordToProto record) mark) w₂ r w' := by
    cases result with
    | error failure =>
      obtain ⟨r, mid, marked, ran⟩ := ran.bind_inv
      obtain ⟨_, waits⟩ := ran.ret_inv
      cases (markRecord_runs idle₂ marked).1.still waits
      exact ⟨.retryable failure.hash failure.err, r, nofun, marked⟩
    | ok hash =>
      obtain ⟨r, mid, marked, ran⟩ := ran.bind_inv
      obtain ⟨_, waits⟩ := ran.ret_inv
      cases (markRecord_runs idle₂ marked).1.still waits
      exact ⟨.collected hash none, r, nofun, marked⟩
  obtain ⟨mark, r, settles, ran⟩ := settled
  obtain ⟨idle', settled, done⟩ := settle_runs idle₂ settles ran
  refine ⟨idle', ?_, fun keyed => settled.keyed ?_⟩
  · intro key found here
    obtain ⟨there, held⟩ := settled.pending key found here
    have other : key ≠ collectionMapKey record.key := by
      rintro rfl
      exact done found here
    rw [same, stored, AList.lookup_insert_ne other] at there
    exact ⟨there, held⟩
  · have name := keyed _ current present
    rw [← (apply_pending applied).1] at name
    rw [same, stored, ← name]
    exact keyed.insert

/-! ## Loops over records -/

/-- The program of every record runs to its end, one after the other. -/
inductive Each (i : ThreadId) (start : Time) (f : Proto.CollectionRecord → Program Unit) :
    List CollectionRecord → World → World → Prop
  | nil {w : World} : Each i start f [] w w
  | cons {record : CollectionRecord} {rest : List CollectionRecord} {w mid w' : World}
      (idle : Idle w)
      (first : (sweeping i start).Runs (f (collectionRecordToProto record)) w () mid)
      (others : Each i start f rest mid w') : Each i start f (record :: rest) w w'

/-- A loop that is not cancelled gets to every record. -/
theorem whileRunning_runs {f : Proto.CollectionRecord → Program Unit} {finished : Bool}
    (idle : Idle w) (step : ∀ record w w', Idle w →
      (sweeping i start).Runs (f (collectionRecordToProto record)) w () w' → Idle w')
    (ran : (sweeping i start).Runs
      (AutoCollector.whileRunning f (records.map collectionRecordToProto)) w finished w') :
    finished = true ∧ Idle w' ∧ Each i start f records w w' := by
  induction records generalizing w with
  | nil =>
    obtain ⟨rfl, waits⟩ := ran.ret_inv
    cases idle.still waits
    exact ⟨rfl, idle, .nil⟩
  | cons record rest ih =>
    obtain ⟨done, mid, asked, ran⟩ := ran.bind_inv
    obtain ⟨rfl, met⟩ := look_runs idle (fun _ => rfl) asked
    cases done with
    | true => cases met
    | false =>
      obtain ⟨_, next, first, ran⟩ := ran.bind_inv
      obtain ⟨rfl, idle', others⟩ := ih (step record _ _ idle first) ran
      exact ⟨rfl, idle', .cons idle first others⟩

theorem Each.noNewPending (each : Each i start c.collectOne records w w') : NoNewPending w w' := by
  induction each with
  | nil => exact .of_store rfl
  | cons idle first _ ih => exact (collectOne_runs idle first).2.trans ih

/-! ## What is due -/

theorem shouldCollect_later {record : Proto.CollectionRecord} {later : Time}
    (due : c.shouldCollect record now = true) (order : now ≤ later) :
    c.shouldCollect record later = true := by
  unfold AutoCollector.shouldCollect at due ⊢
  split at due
  · cases due
  rename_i enough
  rw [if_neg enough]
  split at due
  · next retried =>
      rw [if_pos retried]
      rw [Bool.and_eq_true, decide_eq_true_eq, decide_eq_true_eq] at due ⊢
      exact ⟨due.1, Int.le_trans due.2 (Int.sub_le_sub_right order _)⟩
  · next fresh => rw [if_neg fresh]

theorem selectEligible_runs {r : List Proto.CollectionRecord} (idle : Idle w)
    (ran : (sweeping i start).Runs (c.selectEligible (records.map collectionRecordToProto))
      w r w') :
    w' = w ∧ ∃ kept : List CollectionRecord, r = kept.map collectionRecordToProto ∧
      (∀ record ∈ kept, record ∈ records) ∧ ∀ record ∈ records,
        c.shouldCollect (collectionRecordToProto record) start = true → record ∈ kept := by
  induction records generalizing r w' with
  | nil =>
    obtain ⟨rfl, waits⟩ := ran.ret_inv
    exact ⟨idle.still waits, [], rfl, List.forall_mem_nil _, List.forall_mem_nil _⟩
  | cons record rest ih =>
    obtain ⟨now, mid, clock, next⟩ := ran.bind_inv
    obtain ⟨same, met⟩ := look_runs idle (fun _ => rfl) clock
    rw [same] at next
    obtain ⟨others, mid', more, last⟩ := next.bind_inv
    obtain ⟨same, kept, rfl, within, complete⟩ := ih more
    rw [same] at last
    obtain ⟨rfl, waits⟩ := last.ret_inv
    refine ⟨idle.still waits, ?_⟩
    have order : start ≤ now := of_decide_eq_true met
    by_cases due : c.shouldCollect (collectionRecordToProto record) now = true
    · rw [if_pos due]
      refine ⟨record :: kept, rfl, ?_, ?_⟩
      · exact List.forall_mem_cons.mpr ⟨List.mem_cons_self,
          fun other held => List.mem_cons_of_mem _ (within other held)⟩
      · exact List.forall_mem_cons.mpr ⟨fun _ => List.mem_cons_self,
          fun other held due => List.mem_cons_of_mem _ (complete other held due)⟩
    · rw [if_neg due]
      refine ⟨kept, rfl, fun other held => List.mem_cons_of_mem _ (within other held), ?_⟩
      exact List.forall_mem_cons.mpr
        ⟨fun early => (due (shouldCollect_later early order)).elim, complete⟩

theorem listEligible_runs (idle : Idle w) (ran : (sweeping i start).Runs c.listEligible w r w') :
    Idle w' ∧ w'.store = w.store ∧ ∃ due : List CollectionRecord,
      r = .ok (due.map collectionRecordToProto) ∧
      (∀ record ∈ due, record ∈ firstOf w .collectible ∨
        record ∈ firstOf w .collectFailedRetryable) ∧
      ∀ record, c.shouldCollect (collectionRecordToProto record) start = true →
        record ∈ firstOf w .collectible ∨ record ∈ firstOf w .collectFailedRetryable →
        record ∈ due := by
  obtain ⟨_, w₁, asked, ran₁⟩ := ran.bind_inv
  obtain ⟨idle₁, same₁, rfl⟩ := listRecords_runs .collectible idle asked
  obtain ⟨_, w₂, chosen, ran₂⟩ := ran₁.bind_inv
  obtain ⟨rfl, fresh, rfl, freshWithin, freshDue⟩ := selectEligible_runs idle₁ chosen
  obtain ⟨_, w₃, asked, ran₃⟩ := ran₂.bind_inv
  obtain ⟨idle₃, same₃, rfl⟩ := listRecords_runs .collectFailedRetryable idle₁ asked
  obtain ⟨_, w₄, chosen, ran₄⟩ := ran₃.bind_inv
  obtain ⟨rfl, failed, rfl, failedWithin, failedDue⟩ := selectEligible_runs idle₃ chosen
  obtain ⟨rfl, waits⟩ := ran₄.ret_inv
  cases idle₃.still waits
  rw [firstOf_store same₁] at failedWithin failedDue
  refine ⟨idle₃, same₃.trans same₁, fresh ++ failed, by rw [List.map_append], ?_, ?_⟩
  · intro record held
    rcases List.mem_append.mp held with held | held
    · exact .inl (freshWithin record held)
    · exact .inr (failedWithin record held)
  · rintro record due (held | held)
    · exact List.mem_append_left _ (freshDue record held due)
    · exact List.mem_append_right _ (failedDue record held due)

/-! ## Reclaiming -/

/-- Pending, and by its time stamp for long enough. -/
def Stale (c : AutoCollector) (now : Time) (w : World) (key : String) (record : CollectionRecord) :
    Prop :=
  Pending w key record ∧ c.reclaimAfter ≤ now - timeToUnixNano record.updatedAt

theorem Stale.reclaimed {key : String} (stale : Stale c start w key record)
    (positive : 0 < c.reclaimAfter) (order : start ≤ now) :
    c.shouldReclaimPending (collectionRecordToProto record) now = true := by
  obtain ⟨⟨_, pending⟩, long⟩ := stale
  have state : (collectionRecordToProto record).state = .collectPending := by
    dsimp only [collectionRecordToProto]
    rw [pending]
    rfl
  have later : c.reclaimAfter ≤ now - (collectionRecordToProto record).updatedAtNs :=
    Int.le_trans long (Int.sub_le_sub_right order _)
  simp [AutoCollector.shouldReclaimPending, positive, state, later]

theorem mem_recordsOf : record ∈ recordsOf w ↔ ∃ key, w.store.records.lookup key = some record := by
  unfold recordsOf
  rw [List.mem_filterMap]
  constructor
  · rintro ⟨key, _, found⟩
    exact ⟨key, found⟩
  · rintro ⟨key, found⟩
    exact ⟨key, AList.mem_keys.mp (AList.lookup_isSome.mp (found ▸ rfl)), found⟩

theorem reclaimRecord_runs (idle : Idle w)
    (ran : (sweeping i start).Runs (c.reclaimRecord now (collectionRecordToProto record)) w () w') :
    Idle w' ∧ NoNewPending w w' ∧
      (c.shouldReclaimPending (collectionRecordToProto record) now = true →
        ∀ found, ¬ Pending w' (collectionMapKey record.key) found) := by
  unfold AutoCollector.reclaimRecord at ran
  split at ran
  · obtain ⟨r, mid, marked, rest⟩ := ran.bind_inv
    obtain ⟨idle', kept, settled⟩ := settle_runs idle (fun _ h => by cases h) marked
    obtain ⟨_, waits⟩ := rest.ret_inv
    cases idle'.still waits
    exact ⟨idle', kept, fun _ => settled⟩
  · next fresh =>
      obtain ⟨_, waits⟩ := ran.ret_inv
      cases idle.still waits
      exact ⟨idle, .of_store rfl, fun due => (fresh due).elim⟩

theorem Each.reclaimed (each : Each i start (c.reclaimRecord now) records w w') :
    NoNewPending w w' ∧ ∀ record ∈ records,
      c.shouldReclaimPending (collectionRecordToProto record) now = true →
        ∀ found, ¬ Pending w' (collectionMapKey record.key) found := by
  induction each with
  | nil => exact ⟨.of_store rfl, List.forall_mem_nil _⟩
  | cons idle first _ ih =>
    obtain ⟨_, kept, settled⟩ := reclaimRecord_runs idle first
    refine ⟨kept.trans ih.1, List.forall_mem_cons.mpr ⟨fun due found here => ?_, ih.2⟩⟩
    exact settled due found (ih.1.pending _ found here)

/-- With all pending records in view, none that has been so for too long is left. -/
theorem reclaimStalePending_runs (idle : Idle w) (keyed : WellKeyed w.store.records)
    (positive : 0 < c.reclaimAfter) (few : (inState w .collectPending).length ≤ 500)
    (ran : (sweeping i start).Runs c.reclaimStalePending w () w') :
    ∀ key record, Pending w' key record → Pending w key record ∧ ¬ Stale c start w key record := by
  unfold AutoCollector.reclaimStalePending at ran
  rw [if_neg (by omega)] at ran
  obtain ⟨_, w₁, asked, ran₁⟩ := ran.bind_inv
  obtain ⟨idle₁, same₁, rfl⟩ := listRecords_runs .collectPending idle asked
  obtain ⟨now, w₂, clock, ran₂⟩ := ran₁.bind_inv
  obtain ⟨rfl, met⟩ := look_runs idle₁ (fun _ => rfl) clock
  obtain ⟨finished, w₃, looped, ran₃⟩ := ran₂.bind_inv
  obtain ⟨_, idle₃, each⟩ := whileRunning_runs idle₁
    (fun record _ _ idle ran => (reclaimRecord_runs idle ran).1) looped
  obtain ⟨_, waits⟩ := ran₃.ret_inv
  cases idle₃.still waits
  obtain ⟨kept, reclaimed⟩ := each.reclaimed
  intro key record here
  have before : Pending w key record := by
    have there := kept.pending key record here
    unfold Pending at there ⊢
    rwa [same₁] at there
  refine ⟨before, fun stale => ?_⟩
  have listed : record ∈ firstOf w .collectPending := by
    unfold firstOf
    rw [List.take_of_length_le few]
    exact List.mem_filter.mpr ⟨mem_recordsOf.mpr ⟨key, before.1⟩, decide_eq_true before.2⟩
  refine reclaimed record listed (stale.reclaimed positive (of_decide_eq_true met)) record ?_
  rw [keyed key record before.1]
  exact here

/-- Where nothing becomes pending, the pending records do not get more. -/
theorem NoNewPending.length_le (kept : NoNewPending w w') :
    (inState w' .collectPending).length ≤ (inState w .collectPending).length := by
  have counted (v : World) : (inState v .collectPending).length = (v.store.records.keys.filter
      fun key => ((v.store.records.lookup key).filter (·.state = .collectPending)).isSome).length :=
    by
      unfold inState recordsOf
      rw [List.filter_filterMap, List.length_filterMap_eq_countP, List.countP_eq_length_filter]
  rw [counted, counted]
  refine (List.subperm_of_subset (w'.store.records.keys_nodup.filter _) ?_).length_le
  intro key held
  rw [List.mem_filter, Option.isSome_iff_exists] at held ⊢
  obtain ⟨_, record, found⟩ := held
  rw [Option.filter_eq_some_iff] at found
  obtain ⟨there, pending⟩ := kept.pending key record ⟨found.1, of_decide_eq_true found.2⟩
  refine ⟨AList.mem_keys.mp (AList.lookup_isSome.mp (there ▸ rfl)), record, ?_⟩
  exact Option.filter_eq_some_iff.mpr ⟨there, decide_eq_true pending⟩

/-! ## Sweeps -/

/-- A sweep from `w` to `w'` that attempts exactly these records: it lists them, collects each of
them and then reclaims, unless there are none. -/
def Attempts (i : ThreadId) (start : Time) (c : AutoCollector) (w : World)
    (attempted : List CollectionRecord) (w' : World) : Prop :=
  ∃ mid, (sweeping i start).Runs c.listEligible w
    (.ok (attempted.map collectionRecordToProto)) mid ∧
    ((attempted = [] ∧ w' = mid) ∨ attempted ≠ [] ∧ ∃ collected,
      Each i start c.collectOne attempted mid collected ∧
      (sweeping i start).Runs c.reclaimStalePending collected () w')

/-- What a sweep finds due is what the gateway lets it see. -/
structure Due (start : Time) (c : AutoCollector) (w : World)
    (attempted : List CollectionRecord) : Prop where
  seen : ∀ record ∈ attempted, record ∈ firstOf w .collectible ∨
    record ∈ firstOf w .collectFailedRetryable
  all : ∀ record, c.shouldCollect (collectionRecordToProto record) start = true →
    record ∈ firstOf w .collectible ∨ record ∈ firstOf w .collectFailedRetryable →
    record ∈ attempted

theorem sweep_runs (idle : Idle w) (ran : (sweeping i start).Runs c.sweep w () w') :
    ∃ attempted, Attempts i start c w attempted w' ∧ Due start c w attempted := by
  obtain ⟨_, mid, listed, ran₁⟩ := ran.bind_inv
  obtain ⟨idle₁, same, due, rfl, seen, all⟩ := listEligible_runs idle listed
  refine ⟨due, ⟨mid, listed, ?_⟩, seen, all⟩
  cases due with
  | nil =>
    obtain ⟨_, waits⟩ := ran₁.ret_inv
    exact .inl ⟨rfl, idle₁.still waits⟩
  | cons record rest =>
    obtain ⟨finished, collected, looped, ran₂⟩ := ran₁.bind_inv
    obtain ⟨rfl, idle₂, each⟩ := whileRunning_runs idle₁
      (fun _ _ _ idle ran => (collectOne_runs idle ran).1) looped
    exact .inr ⟨nofun, collected, each, ran₂⟩

theorem Each.idle (here : Idle w) (each : Each i start c.collectOne records w w') : Idle w' := by
  induction each with
  | nil => exact here
  | cons idle first _ ih => exact ih (collectOne_runs idle first).1

/-- A sweep that attempts something leaves no record pending that has been so for too long. -/
theorem Attempts.reclaims {attempted : List CollectionRecord} (idle : Idle w)
    (keyed : WellKeyed w.store.records) (positive : 0 < c.reclaimAfter)
    (few : (inState w .collectPending).length ≤ 500) (swept : Attempts i start c w attempted w')
    (some : attempted ≠ []) {key : String} (stale : Stale c start w key record) :
    ∀ found, ¬ Pending w' key found := by
  obtain ⟨mid, listed, stages⟩ := swept
  obtain ⟨idle₁, same, -⟩ := listEligible_runs idle listed
  obtain ⟨none, -⟩ | ⟨-, collected, each, reclaimed⟩ := stages
  · exact (some none).elim
  intro found here
  have kept : NoNewPending w collected := (NoNewPending.of_store same).trans each.noNewPending
  obtain ⟨before, fresh⟩ := reclaimStalePending_runs (each.idle idle₁) (kept.keyed keyed) positive
    (kept.length_le.trans few) reclaimed key found here
  have there := kept.pending key found before
  cases stale.1.1.symm.trans there.1
  exact fresh ⟨before, stale.2⟩

/-! ## Sweeps that find nothing due -/

theorem collectRecords_reads (filter : CollectionFilter) (keys : List String) (w : World) :
    machine.Runs j (collectRecords filter keys) w
      ((keys.filterMap w.store.records.lookup).filter filter.passes) w := by
  induction keys with
  | nil => exact .ret
  | cons key rest ih =>
    refine .act (e := {}) rfl ?_
    rw [List.filterMap_cons]
    cases w.store.records.lookup key with
    | none => exact ih
    | some record =>
      rw [List.filter_cons]
      exact ih.bind .ret

theorem serve_answers (w : World)
    (handled : ∀ calls,
      machine.Runs j (handle request) { w with calls } response { w with calls }) :
    machine.Runs j serve { w with calls := w.calls ++ [⟨request, false, none⟩] } ()
      { w with calls := w.calls ++ [⟨request, true, some response⟩] } := by
  have taken : machine.exec j (.rpc .take) { call := w.calls.length }
      { w with calls := w.calls ++ [⟨request, false, none⟩] } =
      some ({ w with calls := w.calls ++ [⟨request, true, none⟩] }, (w.calls.length, request)) := by
    simp [machine, World.exec, RpcAct.exec]
  have replied : machine.exec j (.rpc (.reply w.calls.length response)) {}
      { w with calls := w.calls ++ [⟨request, true, none⟩] } =
      some ({ w with calls := w.calls ++ [⟨request, true, some response⟩] }, ()) := by
    simp [machine, World.exec, RpcAct.exec, List.modify_eq_set_getElem?]
  refine .act taken (.act (e := {}) (b := true) rfl ?_)
  exact (handled _).bind (.act replied .ret)

theorem listCollections_reads (state : CollectionState) (w : World) :
    machine.Runs j (listCollections (listRequest (repositoryCollectionStateToProto state))) w
      (.collections ((firstOf w state).map collectionRecordToProto)) w := by
  unfold listCollections
  rw [parse_listRequest, ← firstOf_filters]
  exact .bind (.act (e := {}) rfl (collectRecords_reads _ _ w)) .ret

theorem listRecords_reads (i : ThreadId) (start : Time) (state : CollectionState) (w : World) :
    ∃ w', w'.store = w.store ∧ (sweeping i start).Runs
      (listRecords (listRequest (repositoryCollectionStateToProto state))) w
      (.ok ((firstOf w state).map collectionRecordToProto)) w' := by
  let request := listRequest (repositoryCollectionStateToProto state)
  let response := OperatorResponse.collections ((firstOf w state).map collectionRecordToProto)
  let w' : World := { w with calls := w.calls ++ [⟨.listCollections request, true, some response⟩] }
  have served : (sweeping i start).moves
      { w with calls := w.calls ++ [⟨.listCollections request, false, none⟩] } w' :=
    ⟨i, serve_answers w fun calls => listCollections_reads state { w with calls }⟩
  have awaited : machine.exec i (.rpc (.await w.calls.length)) {} w' =
      some (w', some response) := by
    simp [machine, World.exec, RpcAct.exec, w']
  refine ⟨w', rfl, .act (e := {}) rfl rfl (.move served (.act awaited rfl .ret))⟩

theorem selectEligible_reads (c : AutoCollector) (records : List Proto.CollectionRecord)
    (w : World) :
    (sweeping i start).Runs (c.selectEligible records) w
      (records.filter (c.shouldCollect · start)) w := by
  induction records with
  | nil => exact .ret
  | cons record rest ih =>
    have clock : machine.exec i (.outside .now) { time := start } w = some (w, start) := rfl
    rw [List.filter_cons]
    exact .act clock (decide_eq_true (Int.le_refl start)) (ih.bind .ret)

theorem sweep_ends (none : ∀ record ∈ firstOf w .collectible ++ firstOf w .collectFailedRetryable,
      c.shouldCollect (collectionRecordToProto record) start = false) :
    ∃ w', w'.store = w.store ∧ (sweeping i start).Runs c.listEligible w (.ok []) w' ∧
      (sweeping i start).Runs c.sweep w () w' := by
  have nothing {records : List CollectionRecord} (undue : ∀ record ∈ records,
      c.shouldCollect (collectionRecordToProto record) start = false) :
      (records.map collectionRecordToProto).filter (c.shouldCollect · start) = [] := by
    rw [List.filter_eq_nil_iff]
    intro p held
    obtain ⟨record, member, rfl⟩ := List.mem_map.mp held
    rw [undue record member]
    exact Bool.false_ne_true
  rw [List.forall_mem_append] at none
  obtain ⟨w₁, same₁, fresh⟩ := listRecords_reads i start .collectible w
  obtain ⟨w₂, same₂, failed⟩ := listRecords_reads i start .collectFailedRetryable w₁
  have listed : (sweeping i start).Runs c.listEligible w (.ok []) w₂ := by
    refine fresh.bind ((selectEligible_reads c _ w₁).bind (failed.bind
      ((selectEligible_reads c _ w₂).bind ?_)))
    rw [nothing none.1, firstOf_store same₁, nothing none.2]
    exact .ret
  exact ⟨w₂, same₂.trans same₁, listed, listed.bind .ret⟩

/-- From a repository with at most 500 pending records, the sweeps that are neither cancelled nor
meet an error all reclaim what has been pending for too long exactly when some record that the
gateway lists for them is due at their start, or when there is nothing to reclaim. -/
theorem stale_reclaimed_iff {c : AutoCollector} (idle : Idle w) (keyed : WellKeyed w.store.records)
    (few : (inState w .collectPending).length ≤ 500) (positive : 0 < c.reclaimAfter) :
    (∀ w', (sweeping i start).Runs c.sweep w () w' →
      ∀ key record, Stale c start w key record → ∀ found, ¬ Pending w' key found) ↔
      (∃ record ∈ firstOf w .collectible ++ firstOf w .collectFailedRetryable,
        c.shouldCollect (collectionRecordToProto record) start = true) ∨
      ∀ key record, ¬ Stale c start w key record := by
  constructor
  · intro settled
    by_cases due : ∃ record ∈ firstOf w .collectible ++ firstOf w .collectFailedRetryable,
        c.shouldCollect (collectionRecordToProto record) start = true
    · exact .inl due
    -- a sweep during which the clock stands still finds nothing due and leaves the repository alone
    obtain ⟨w', same, -, swept⟩ := sweep_ends (i := i) fun record held =>
      Bool.eq_false_iff.mpr fun now => due ⟨record, held, now⟩
    refine .inr fun key record stale => settled w' swept key record stale record ?_
    unfold Pending
    rw [same]
    exact stale.1
  · rintro (⟨record, seen, now⟩ | none) w' swept key other stale
    · obtain ⟨attempted, stages, due⟩ := sweep_runs idle swept
      have held : record ∈ attempted := due.all record now (List.mem_append.mp seen)
      exact stages.reclaims idle keyed positive few (List.ne_nil_of_mem held) stale
    · exact (none key other stale).elim

/-- In every sweep that is neither cancelled nor meets an error, a record that is due at its start
is attempted exactly when it is in one of the two states that are asked for and among the first 500
records of its state in the order of the repository. -/
theorem due_attempted_iff {c : AutoCollector} (idle : Idle w)
    (swept : (sweeping i start).Runs c.sweep w () w') :
    ∃ attempted, Attempts i start c w attempted w' ∧ ∀ record,
      c.shouldCollect (collectionRecordToProto record) start = true →
        (record ∈ attempted ↔
          (record.state = .collectible ∨ record.state = .collectFailedRetryable) ∧
          record ∈ firstOf w record.state) := by
  obtain ⟨attempted, stages, due⟩ := sweep_runs idle swept
  refine ⟨attempted, stages, fun record now => ⟨fun held => ?_, fun seen => due.all record now ?_⟩⟩
  · have state {state : CollectionState} (first : record ∈ firstOf w state) :
        record.state = state :=
      of_decide_eq_true (List.mem_filter.mp (List.mem_of_mem_take first)).2
    rcases due.seen record held with first | first
    · exact ⟨.inl (state first), state first ▸ first⟩
    · exact ⟨.inr (state first), state first ▸ first⟩
  · obtain ⟨listed | listed, first⟩ := seen
    · exact .inl (listed ▸ first)
    · exact .inr (listed ▸ first)

/-! ## Two repositories -/

/-- A daemon that collects from ten units on and reclaims after a microsecond. -/
def collector : AutoCollector where
  providerAddress := List.replicate 20 2
  dataServiceAddress := List.replicate 20 3
  cutPPM := 0
  tx := ⟨true, 1, 0, none, none, none, false, false⟩
  minValue := 10
  maxAttempts := 5
  backoffBase := 60000000000
  reclaimAfter := 1000
  once := true

/-- The `n`-th record, last updated in 1970. -/
def recordOf (n : Nat) (value : Int) (state : CollectionState) : CollectionRecord where
  key := collectionKeyFromRAV (String.ofList (List.replicate (n + 1) 's'))
    (ReadConsistency.voucher value).message
  signedRAV := ReadConsistency.voucher value
  valueAggregate := value
  state
  attemptCount := 0
  lastTxHash := ""
  lastError := ""
  collectedAmount := none
  createdAt := 0
  updatedAt := 0

/-- A repository that lists these records in this order. -/
def holding (records : List CollectionRecord) : World where
  store := { records := records.foldr (fun r m => m.insert (collectionMapKey r.key) r) ∅ }

/-- The gateway answers the last call. -/
def answerLast (w : World) : Option World :=
  (machine.runAlone 1 { time := 5000, call := w.calls.length - 1 } 100 serve w).map (·.2)

/-- A sweep five microseconds after the records were updated. -/
def sweepFrom (w : World) : Option (Unit × World) :=
  (sweeping 0 5000).run { time := 5000, text := "0x1" } answerLast 200 collector.sweep w

theorem sweepFrom_runs (ended : sweepFrom w = some ((), w')) :
    (sweeping 0 5000).Runs collector.sweep w () w' := by
  have helps (w₁ w₂ : World) (answered : answerLast w₁ = some w₂) :
      (sweeping 0 5000).moves w₁ w₂ := by
    obtain ⟨⟨_, _⟩, served, rfl⟩ := Option.map_eq_some_iff.mp answered
    exact ⟨1, Machine.runAlone_runs served⟩
  exact Setting.run_runs helps ended

theorem holding_idle (records : List CollectionRecord) : Idle (holding records) :=
  fun _ member => (List.not_mem_nil member).elim

theorem holding_keyed (records : List CollectionRecord) :
    WellKeyed (holding records).store.records := by
  induction records with
  | nil => exact CollectionLifecycle.wellKeyed_empty
  | cons record rest ih => exact ih.insert

/-- A record that was left pending. -/
def stuck : CollectionRecord := recordOf 0 10 .collectPending

/-- With nothing else to do, a sweep leaves the record pending. -/
theorem stale_left_pending : ∃ w', (sweeping 0 5000).Runs collector.sweep (holding [stuck]) () w' ∧
    Stale collector 5000 (holding [stuck]) (collectionMapKey stuck.key) stuck ∧
    Pending w' (collectionMapKey stuck.key) stuck := by
  have swept : (sweepFrom (holding [stuck])).map
      (fun r => r.2.store.records.lookup (collectionMapKey stuck.key)) = some (some stuck) := by
    decide +kernel
  obtain ⟨⟨_, w'⟩, ended, left⟩ := Option.map_eq_some_iff.mp swept
  exact ⟨w', sweepFrom_runs ended, ⟨⟨AList.lookup_insert _, rfl⟩, by decide +kernel⟩, left, rfl⟩

/-- The same record beside one that is due. -/
def busy : World := holding [stuck, recordOf 1 10 .collectible]

theorem stale_reclaimed_iff_busy :
    Stale collector 5000 busy (collectionMapKey stuck.key) stuck ∧
    (∀ w', (sweeping 0 5000).Runs collector.sweep busy () w' →
      ∀ found, ¬ Pending w' (collectionMapKey stuck.key) found) ∧
    ∃ w', (sweeping 0 5000).Runs collector.sweep busy () w' ∧
      (recordsOf w').map (·.state) = [.collectFailedRetryable, .collected] := by
  have stale : Stale collector 5000 busy (collectionMapKey stuck.key) stuck :=
    ⟨⟨AList.lookup_insert _, rfl⟩, by decide +kernel⟩
  have settled : ∀ w', (sweeping 0 5000).Runs collector.sweep busy () w' →
      ∀ key record, Stale collector 5000 busy key record → ∀ found, ¬ Pending w' key found :=
    (stale_reclaimed_iff (holding_idle _) (holding_keyed _) (by decide +kernel) (by decide)).mpr
      (.inl (by decide +kernel))
  have swept : (sweepFrom busy).map (fun r => (recordsOf r.2).map (·.state)) =
      some [.collectFailedRetryable, .collected] := by
    decide +kernel
  obtain ⟨⟨_, w'⟩, ended, states⟩ := Option.map_eq_some_iff.mp swept
  exact ⟨stale, fun w' ran => settled w' ran _ _ stale, w', sweepFrom_runs ended, states⟩

theorem due_attempted_iff_busy : ∃ w' attempted, Attempts 0 5000 collector busy attempted w' ∧
    recordOf 1 10 .collectible ∈ attempted := by
  have swept : (sweepFrom busy).isSome := by decide +kernel
  obtain ⟨⟨_, w'⟩, ended⟩ := Option.isSome_iff_exists.mp swept
  obtain ⟨attempted, stages, due⟩ := due_attempted_iff (c := collector) (holding_idle _)
    (sweepFrom_runs ended)
  exact ⟨w', attempted, stages,
    (due (recordOf 1 10 .collectible) (by decide +kernel)).mpr (by decide +kernel)⟩

/-! ## A crowded repository -/

/-- A number of records below the minimum, and behind them one that is due. -/
def crowd (n : Nat) : List CollectionRecord :=
  (List.range n).map (fun n => recordOf n 1 .collectible) ++ [recordOf n 10 .collectible]

theorem recordsOf_holding (distinct : (records.map (·.key)).Nodup) :
    recordsOf (holding records) = records := by
  induction records with
  | nil => rfl
  | cons record rest ih =>
    rw [List.map_cons, List.nodup_cons] at distinct
    have ih := ih distinct.2
    have absent : collectionMapKey record.key ∉ (holding rest).store.records := by
      intro held
      obtain ⟨found, there⟩ := Option.isSome_iff_exists.mp (AList.lookup_isSome.mpr held)
      have same := collectionMapKey_injective (holding_keyed rest _ found there)
      have member : found ∈ rest := ih ▸ mem_recordsOf.mpr ⟨_, there⟩
      exact distinct.1 (List.mem_map.mpr ⟨found, member, same⟩)
    have keys : (holding (record :: rest)).store.records.keys =
        collectionMapKey record.key :: (holding rest).store.records.keys := by
      change (AList.insert _ _ (holding rest).store.records).keys = _
      rw [AList.keys_insert, List.erase_of_not_mem (mt AList.mem_keys.mpr absent)]
    have others : ∀ key ∈ (holding rest).store.records.keys,
        (holding (record :: rest)).store.records.lookup key =
          (holding rest).store.records.lookup key := by
      intro key held
      refine AList.lookup_insert_ne ?_
      rintro rfl
      exact absent (AList.mem_keys.mpr held)
    have first : (holding (record :: rest)).store.records.lookup (collectionMapKey record.key) =
        some record :=
      AList.lookup_insert _
    unfold recordsOf at ih ⊢
    rw [keys, List.filterMap_cons, first, List.filterMap_congr others, ih]

theorem crowd_distinct (n : Nat) : ((crowd n).map (·.key)).Nodup := by
  have keys : (crowd n).map (·.key) =
      (List.range (n + 1)).map fun n => (recordOf n 1 .collectible).key := by
    rw [crowd, List.map_append, List.map_map, List.range_succ, List.map_append]
    rfl
  rw [keys]
  refine List.nodup_range.map fun a b same => ?_
  have text := congrArg (fun key : CollectionKey => key.sessionID.toList.length) same
  simpa [recordOf, collectionKeyFromRAV] using text

theorem crowd_state (n : Nat) (record : CollectionRecord) (held : record ∈ crowd n) :
    record.state = .collectible := by
  rcases List.mem_append.mp held with held | held
  · obtain ⟨_, _, rfl⟩ := List.mem_map.mp held
    rfl
  · cases List.mem_singleton.mp held
    rfl

theorem shouldCollect_recordOf (n : Nat) (value : Int) (now : Time) :
    collector.shouldCollect (collectionRecordToProto (recordOf n value .collectible)) now =
      !decide ((Proto.GRT.fromBigInt value).toBigInt < 10) := by
  simp [AutoCollector.shouldCollect, collectionRecordToProto, recordOf, collector,
    repositoryCollectionStateToProto]

/-- The due record is behind what the gateway returns, in this sweep and in every later one. -/
theorem due_record_missed :
    (∀ now, collector.shouldCollect (collectionRecordToProto (recordOf 500 10 .collectible)) now =
      true) ∧ recordOf 500 10 .collectible ∈ recordsOf (holding (crowd 500)) ∧
    ∃ w', (sweeping 0 5000).Runs collector.listEligible (holding (crowd 500)) (.ok []) w' ∧
      (sweeping 0 5000).Runs collector.sweep (holding (crowd 500)) () w' ∧
      w'.store = (holding (crowd 500)).store := by
  have all := recordsOf_holding (crowd_distinct 500)
  have due (now : Time) : collector.shouldCollect
      (collectionRecordToProto (recordOf 500 10 .collectible)) now = true := by
    rw [shouldCollect_recordOf]
    decide +kernel
  have fresh : firstOf (holding (crowd 500)) .collectible =
      (List.range 500).map fun n => recordOf n 1 .collectible := by
    unfold firstOf inState
    rw [all, List.filter_eq_self.mpr
      fun record held => decide_eq_true (crowd_state 500 record held)]
    exact List.take_left' (by rw [List.length_map, List.length_range])
  have failed : firstOf (holding (crowd 500)) .collectFailedRetryable = [] := by
    unfold firstOf inState
    rw [all, List.filter_eq_nil_iff.mpr fun record held retried => ?_, List.take_nil]
    cases (crowd_state 500 record held).symm.trans (of_decide_eq_true retried)
  have undue : ∀ record ∈ firstOf (holding (crowd 500)) .collectible ++
      firstOf (holding (crowd 500)) .collectFailedRetryable,
      collector.shouldCollect (collectionRecordToProto record) 5000 = false := by
    rw [failed, List.append_nil]
    intro record held
    obtain ⟨n, _, rfl⟩ := List.mem_map.mp (fresh ▸ held)
    rw [shouldCollect_recordOf]
    decide +kernel
  obtain ⟨w', same, listed, swept⟩ := sweep_ends (i := 0) undue
  exact ⟨due, by rw [all]; simp [crowd], w', listed, swept, same⟩

end Sdsce.Guarantees.Sweeps
