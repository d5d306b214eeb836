import Sdsce.Guarantees.RepositoryTriples
import Sdsce.Source.System

/-!
# Session and collection stores move together

Any number of goroutines, each inside one method of the in-memory repository, interleaved
at every map operation and every retry of a compare-and-swap loop.
-/
namespace Sdsce.Guarantees.Coupling

open Sdsce.Theory Sdsce.Source Sdsce.Source.InMemory

/-- A call of one repository method. -/
inductive RepositoryOp where
  | sessionCreate (session : Session)
  | sessionTouch (sessionID : String) (lastKeepAlive : Time)
  | sessionApplyUsage (sessionID : String) (usage : UsageEvent) (cost : Int)
  | sessionUpdateRuntimeState (sessionID : String) (status : SessionStatus)
      (metadata : Metadata) (endedAt : Option Time) (endReason : EndReason) (updatedAt : Time)
  | sessionUpdateRAVAndBaseline (sessionID : String) (currentRAV : SignedRAV)
      (baselineBlocks baselineBytes baselineReqs : UInt64) (baselineCost : Int)
  | collectionMarkPending (key : CollectionKey) (expectedValue : Int) (txHash : String)
      (updatedAt : Time)
  | collectionMarkCollected (key : CollectionKey) (expectedValue : Int) (txHash : String)
      (collectedAmount : Option Int) (updatedAt : Time)
  | collectionMarkFailedRetryable (key : CollectionKey) (expectedValue : Int)
      (txHash lastError : String) (updatedAt : Time)

/-- The record a transition returns is not looked at here. -/
def discardRecord (method : Program (Except RepoError CollectionRecord)) :
    Program (Except RepoError Unit) := do
  let result ← method
  return result.map fun _ => ()

def RepositoryOp.program : RepositoryOp → Program (Except RepoError Unit)
  | .sessionCreate session => InMemory.sessionCreate session
  | .sessionTouch sessionID lastKeepAlive => InMemory.sessionTouch sessionID lastKeepAlive
  | .sessionApplyUsage sessionID usage cost => InMemory.sessionApplyUsage sessionID usage cost
  | .sessionUpdateRuntimeState sessionID status metadata endedAt endReason updatedAt =>
    InMemory.sessionUpdateRuntimeState sessionID status metadata endedAt endReason updatedAt
  | .sessionUpdateRAVAndBaseline sessionID currentRAV blocks bytes reqs cost =>
    InMemory.sessionUpdateRAVAndBaseline sessionID (some currentRAV) blocks bytes reqs cost
  | .collectionMarkPending key expectedValue txHash updatedAt =>
    discardRecord (InMemory.collectionMarkPending key expectedValue txHash updatedAt)
  | .collectionMarkCollected key expectedValue txHash collectedAmount updatedAt =>
    discardRecord
      (InMemory.collectionMarkCollected key expectedValue txHash collectedAmount updatedAt)
  | .collectionMarkFailedRetryable key expectedValue txHash lastError updatedAt =>
    discardRecord
      (InMemory.collectionMarkFailedRetryable key expectedValue txHash lastError updatedAt)

/-- A new repository and the calls that are made on it. -/
def start (ops : ThreadId → RepositoryOp) : Config Act ThreadId World (Except RepoError Unit) :=
  ⟨{}, fun i => (ops i).program⟩

/-- The methods accept any data. -/
def anyData : Policy where
  create _ _ _ := True
  update _ _ _ _ := True
  mark _ _ _ _ := True
  pending _ _ _ := True
  request _ _ := True
  note _ _ _ := True
  create_mono _ _ := trivial
  update_mono _ _ := trivial
  mark_mono _ _ := trivial
  pending_mono _ _ := trivial
  request_mono _ _ := trivial

/-- A method that fails has written nothing. -/
def silentFailure (i : ThreadId) (r : Except RepoError Unit) (w : World) : Prop :=
  ∀ err, r = .error err → own i w.history = []

theorem silentFailure_of_outcome {i : ThreadId} {failed done : History → Prop}
    (quiet : ∀ h, failed h → own i h = []) (r : Except RepoError Unit) (w : World)
    (outcome : MethodOutcome failed done r w.history) : silentFailure i r w := by
  rintro err rfl
  exact quiet _ outcome

theorem discardRecord_triple {i : ThreadId} {method : Program (Except RepoError CollectionRecord)}
    (verified : (discipline anyData).Triple i (fun w => True ∧ own i w.history = []) method
      (fun r w => MarkOutcome (fun h => own i h = []) r w.history)) :
    (discipline anyData).Triple i (fun w => own i w.history = []) (discardRecord method)
      (silentFailure i) := by
  refine .bind (verified.conseq (fun _ _ here => ⟨trivial, here⟩)
    fun _ _ _ here => here) fun r => ?_
  cases r with
  | ok record => exact .ret (Discipline.Stable.const True) (fun _ _ _ => nofun)
  | error err => exact .ret (Lasting.own []).stable fun w _ here _ _ => here

theorem program_triple (i : ThreadId) (op : RepositoryOp) :
    (discipline anyData).Triple i (fun w => own i w.history = []) op.program
      (silentFailure i) := by
  have own_lasting := Lasting.own (i := i) []
  cases op with
  | sessionCreate session =>
    exact (sessionCreate_triple own_lasting session).conseq (fun _ _ here => ⟨trivial, here⟩)
      fun r w _ => silentFailure_of_outcome (fun _ same => same) r w
  | sessionTouch sessionID lastKeepAlive =>
    exact (sessionTouch_triple own_lasting sessionID lastKeepAlive).conseq
      (fun _ _ here => ⟨fun _ => trivial, here⟩)
      fun r w _ => silentFailure_of_outcome (fun _ same => same) r w
  | sessionApplyUsage sessionID usage cost =>
    exact (sessionApplyUsage_triple own_lasting sessionID usage cost).conseq
      (fun _ _ here => ⟨fun _ => trivial, here⟩)
      fun r w _ => silentFailure_of_outcome (fun _ same => same) r w
  | sessionUpdateRuntimeState sessionID status metadata endedAt endReason updatedAt =>
    exact (sessionUpdateRuntimeState_triple own_lasting sessionID status metadata endedAt
      endReason updatedAt).conseq (fun _ _ here => ⟨fun _ => trivial, here⟩)
      fun r w _ => silentFailure_of_outcome (fun _ same => same) r w
  | sessionUpdateRAVAndBaseline sessionID currentRAV blocks bytes reqs cost =>
    exact (sessionUpdateRAVAndBaseline_triple (B := fun _ => True) own_lasting sessionID
      currentRAV blocks bytes reqs cost (fun _ _ _ _ => trivial) fun _ _ _ _ => trivial).conseq
      (fun _ _ here => ⟨fun _ => trivial, here⟩)
      fun r w _ => silentFailure_of_outcome (fun _ same => same.1) r w
  | collectionMarkPending key expectedValue txHash updatedAt
  | collectionMarkCollected key expectedValue txHash collectedAmount updatedAt
  | collectionMarkFailedRetryable key expectedValue txHash lastError updatedAt =>
    exact discardRecord_triple (updateCollection_triple own_lasting key expectedValue _ updatedAt)

theorem start_verified (ops : ThreadId → RepositoryOp) :
    (discipline anyData).Verified silentFailure (start ops) where
  inv := sound_empty anyData
  threads i := program_triple i (ops i) {} (sound_empty anyData) rfl

/-- Whenever `collectionMu` is free, each session with a RAV has a record under its ID and
the RAV's settlement tuple that carries the RAV's value; and a method that returns an error
has left both stores as they were at each of its steps. -/
theorem stores_stay_coupled (ops : ThreadId → RepositoryOp) :
    (∀ c, machine.Reach (start ops) c → c.shared.store.collectionMu = none →
      ∀ id session rav, c.shared.store.sessions.lookup id = some session →
        session.currentRAV = some rav → session.id = id ∧
        ∃ record, c.shared.store.records.lookup
            (collectionMapKey (collectionKeyFromRAV session.id rav.message)) = some record ∧
          record.key = collectionKeyFromRAV session.id rav.message ∧
          record.valueAggregate = rav.message.valueAggregate) ∧
    (∀ c c' c'' i e err, machine.Reach (start ops) c → machine.stepAt c i e = some c' →
      machine.Reach c' c'' → c''.threads i = .ret (.error err) →
      c'.shared.store.sessions = c.shared.store.sessions ∧
        c'.shared.store.records = c.shared.store.records) := by
  constructor
  · intro c run free id session rav present held
    have sound := ((start_verified ops).reach run).inv
    have named := sound.keyed id session present
    obtain ⟨record, found, value⟩ :=
      sound.coupled free id rav ((ravOf_of_lookup present).trans held)
    refine ⟨named, record, by rw [named]; exact found, ?_, value⟩
    rw [named]
    exact collectionMapKey_injective (sound.recordKeys _ record found)
  · intro c c' c'' i e err before stepped after failed
    have verified := (start_verified ops).reach before
    obtain ⟨verified', same | effect⟩ := verified_step verified stepped
    · rw [same]
      exact ⟨rfl, rfl⟩
    refine effect.written.resolve_right ?_
    rintro ⟨kind, member⟩
    -- an entry of the thread would still be there when it returns its error
    have silent : own i c''.shared.history = [] := (verified'.reach after).returned failed err rfl
    have kept := (verified_history verified' after).subset member
    have mine : (⟨i, kind⟩ : Event) ∈ own i c''.shared.history :=
      List.mem_filter.mpr ⟨kept, by simp⟩
    rw [silent] at mine
    cases mine

/-- A session that starts with a RAV. -/
def openedSession : Session :=
  { Session.new "s" Sample.payer Sample.serviceProvider Sample.dataService ⟨⟨1⟩, ⟨0⟩⟩ 0 with
    currentRAV := (protoSignedRAVToHorizon (Sample.signed (Sample.rav 1))).toOption }

/-- Every call creates the same session. -/
def createdAgain (_ : ThreadId) : RepositoryOp := .sessionCreate openedSession

def createdOnce : Config Act ThreadId World (Except RepoError Unit) :=
  machine.letRun 0 { text := "s" } 200 (start createdAgain)

/-- The first call has stored the session and its record, the second has failed. -/
def createdTwice : Config Act ThreadId World (Except RepoError Unit) :=
  machine.letRun 1 { text := "s" } 200 createdOnce

theorem stores_stay_coupled_twice :
    (∃ session rav record, createdTwice.shared.store.sessions.lookup "s" = some session ∧
      session.currentRAV = some rav ∧ createdTwice.shared.store.records.lookup
        (collectionMapKey (collectionKeyFromRAV session.id rav.message)) = some record ∧
      record.valueAggregate = rav.message.valueAggregate) ∧
    createdTwice.threads 1 = .ret (.error (.alreadyExists "s")) ∧
    ∀ c, machine.stepAt createdOnce 1 { text := "s" } = some c →
      c.shared.store.sessions = createdOnce.shared.store.sessions ∧
        c.shared.store.records = createdOnce.shared.store.records := by
  have once : machine.Reach (start createdAgain) createdOnce := Machine.letRun_reach ..
  have twice : machine.Reach createdOnce createdTwice := Machine.letRun_reach ..
  have held : ((createdTwice.shared.store.sessions.lookup "s").bind (·.currentRAV)).isSome := by
    decide +kernel
  have failed : (createdTwice.threads 1).result = some (.error (.alreadyExists "s")) := by
    decide +kernel
  have failed' := Prog.result_eq_some failed
  obtain ⟨coupled, silent⟩ := stores_stay_coupled createdAgain
  refine ⟨?_, failed', fun c stepped => ?_⟩
  · obtain ⟨rav, found⟩ := Option.isSome_iff_exists.mp held
    obtain ⟨session, present, signed⟩ := Option.bind_eq_some_iff.mp found
    obtain ⟨-, record, recorded, -, value⟩ :=
      coupled _ (once.trans twice) (by decide +kernel) "s" session rav present signed
    exact ⟨session, rav, record, present, signed, recorded, value⟩
  · have rest : createdTwice = machine.letRun 1 { text := "s" } 199 c := by
      conv_lhs => rw [createdTwice, Machine.letRun, stepped]
    exact silent _ _ _ 1 _ _ once stepped (rest ▸ Machine.letRun_reach 1 _ 199 c) failed'

end Sdsce.Guarantees.Coupling
