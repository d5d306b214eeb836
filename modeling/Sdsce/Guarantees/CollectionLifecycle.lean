import Sdsce.Guarantees.Completion
import Sdsce.Guarantees.ReadConsistency
import Sdsce.Source.InMemory
import Sdsce.Theory.Refinement
import Sdsce.Theory.Table

/-!
# One collection lifecycle, two repositories

The lifecycle of a collection record as a specification of its own: what a RAV that is offered
under a key makes of the record there, and what each transition of the operator does. Both
repositories implement it, call by call, so they cannot be told apart by calls made one at a
time.
-/
namespace Sdsce.Guarantees.CollectionLifecycle

open Sdsce.Theory Sdsce.Source Function
open Sdsce.Source.Psql hiding ThreadId machine Program run Reply start

/-! ## The lifecycle -/

/-- Records of different keys are stored under different texts, whatever their session IDs. -/
theorem collectionMapKey_eq_iff (a b : CollectionKey) :
    collectionMapKey a = collectionMapKey b ↔
      a.sessionID = b.sessionID ∧ a.collectionID = b.collectionID ∧ a.payer = b.payer ∧
        a.serviceProvider = b.serviceProvider ∧ a.dataService = b.dataService := by
  rw [← CollectionKey.mk.injEq]
  exact ⟨collectionMapKey_injective, congrArg collectionMapKey⟩

/-- A record without its RAV and its times. -/
structure Standing where
  key : CollectionKey
  value : Int
  state : CollectionState
  attemptCount : Nat
  lastTxHash : String
  lastError : String
  collectedAmount : Option Int
deriving DecidableEq

/-- Why a call fails. Beside the three kinds that callers tell apart there are arguments that a
repository does not take and failures of the database. -/
inductive Failure where
  | notFound | valueConflict | invalidTransition | other
deriving DecidableEq

abbrev Outcome := Except Failure Standing

abbrev Ledger := CollectionKey → Option Standing

/-- A record that is to be collected. -/
def Standing.fresh (key : CollectionKey) (value : Int) : Standing :=
  ⟨key, value, .collectible, 0, "", "", none⟩

/-- A RAV of this value is offered. What is under way or done with the same value stands; a
pending record takes no other value and a collected one no smaller value. -/
def offer (key : CollectionKey) (value : Int) : Option Standing → Outcome
  | none => .ok (.fresh key value)
  | some current =>
    match current.state with
    | .collectible | .collectFailedRetryable => .ok (.fresh key value)
    | .collectPending => if current.value = value then .ok current else .error .valueConflict
    | .collected =>
      if current.value < value then .ok (.fresh key value)
      else if current.value = value then .ok current
      else .error .valueConflict

variable {value expectedValue : Int} {current : Standing} {record : CollectionRecord}

theorem offer_open {key : CollectionKey}
    (state : current.state = .collectible ∨ current.state = .collectFailedRetryable) :
    offer key value (some current) = .ok (.fresh key value) := by
  rcases state with state | state <;> simp only [offer, state]

theorem offer_pending {key : CollectionKey} (state : current.state = .collectPending) :
    offer key value (some current) =
      if current.value = value then .ok current else .error .valueConflict := by
  simp only [offer, state]

theorem offer_collected {key : CollectionKey} (state : current.state = .collected) :
    offer key value (some current) = if current.value < value then .ok (.fresh key value)
      else if current.value = value then .ok current
      else .error .valueConflict := by
  simp only [offer, state]

/-- A transition of the operator, made for the value that it has seen. -/
def advance (expectedValue : Int) (current : Standing) : CollectionMark → Outcome
  | .pending txHash =>
    if current.value ≠ expectedValue then .error .valueConflict
    else if current.state = .collectible ∨ current.state = .collectFailedRetryable then
      .ok { current with
        state := .collectPending
        attemptCount := current.attemptCount + 1
        lastTxHash := txHash
        lastError := "" }
    else .error .invalidTransition
  | .collected txHash collectedAmount =>
    if current.value ≠ expectedValue then .error .valueConflict
    else if current.state = .collectPending then
      .ok { current with
        state := .collected
        lastTxHash := txHash
        lastError := ""
        collectedAmount }
    else .error .invalidTransition
  | .failedRetryable txHash lastError =>
    if current.value ≠ expectedValue then .error .valueConflict
    else if current.state = .collectPending then
      .ok { current with state := .collectFailedRetryable, lastTxHash := txHash, lastError }
    else .error .invalidTransition

inductive CollectionCall where
  | createOrUpdateCollectible (sessionID : String) (rav : SignedRAV)
  | markPending (key : CollectionKey) (expectedValue : Int) (txHash : String) (updatedAt : Time)
  | markCollected (key : CollectionKey) (expectedValue : Int) (txHash : String)
      (collectedAmount : Option Int) (updatedAt : Time)
  | markFailedRetryable (key : CollectionKey) (expectedValue : Int) (txHash lastError : String)
      (updatedAt : Time)
  | get (key : CollectionKey)

/-- The record under `key` becomes what the outcome says. -/
def Ledger.settle (ledger : Ledger) (key : CollectionKey) : Outcome → Ledger × Outcome
  | .ok standing => (Function.update ledger key (some standing), .ok standing)
  | .error failure => (ledger, .error failure)

theorem Ledger.settle_held {ledger : Ledger} {key : CollectionKey}
    (held : ledger key = some current) :
    ledger.settle key (.ok current) = (ledger, .ok current) := by
  rw [Ledger.settle, ← held, update_eq_self]

def Ledger.mark (ledger : Ledger) (key : CollectionKey) (expectedValue : Int)
    (mark : CollectionMark) : Ledger × Outcome :=
  match ledger key with
  | none => (ledger, .error .notFound)
  | some current => ledger.settle key (advance expectedValue current mark)

/-- The lifecycle of all records. -/
def lifecycle : Spec CollectionCall Ledger Outcome where
  step
    | .createOrUpdateCollectible sessionID rav, ledger =>
      if sessionID = "" then (ledger, .error .other)
      else
        let key := collectionKeyFromRAV sessionID rav.message
        ledger.settle key (offer key rav.message.valueAggregate (ledger key))
    | .markPending key expectedValue txHash _, ledger =>
      ledger.mark key expectedValue (.pending txHash)
    | .markCollected key expectedValue txHash collectedAmount _, ledger =>
      ledger.mark key expectedValue (.collected txHash collectedAmount)
    | .markFailedRetryable key expectedValue txHash lastError _, ledger =>
      ledger.mark key expectedValue (.failedRetryable txHash lastError)
    | .get key, ledger =>
      (ledger, match ledger key with
        | none => .error .notFound
        | some current => .ok current)

/-! ## Records as a ledger -/

def standing (record : CollectionRecord) : Standing :=
  ⟨record.key, record.valueAggregate, record.state, record.attemptCount, record.lastTxHash,
    record.lastError, record.collectedAmount⟩

abbrev RecordMap := AList (fun _ : String => CollectionRecord)

def ledgerOf (records : RecordMap) : Ledger :=
  fun key => (records.lookup (collectionMapKey key)).map standing

/-- Every record is kept under its own key. -/
def WellKeyed (records : RecordMap) : Prop :=
  ∀ key record, records.lookup key = some record → collectionMapKey record.key = key

theorem ledgerOf_insert (records : RecordMap) (key : CollectionKey) (record : CollectionRecord) :
    ledgerOf (records.insert (collectionMapKey key) record) =
      Function.update (ledgerOf records) key (some (standing record)) := by
  funext other
  by_cases same : other = key
  · subst same
    rw [update_self, ledgerOf, AList.lookup_insert]
    rfl
  · rw [update_of_ne same, ledgerOf,
      AList.lookup_insert_ne fun keys => same (collectionMapKey_injective keys)]
    rfl

theorem wellKeyed_empty : WellKeyed ∅ := nofun

theorem WellKeyed.insert {records : RecordMap} (keyed : WellKeyed records) :
    WellKeyed (records.insert (collectionMapKey record.key) record) :=
  Table.forall_lookup_insert rfl keyed

/-- A RAV of a session that has an ID starts from a fresh record. -/
theorem standing_new {sessionID : String} {rav : SignedRAV} {now : Time}
    (made : newCollectionRecordFromRAV sessionID rav now = .ok record) :
    sessionID ≠ "" ∧ standing record =
      .fresh (collectionKeyFromRAV sessionID rav.message) rav.message.valueAggregate := by
  unfold newCollectionRecordFromRAV at made
  split at made
  · cases made
  · next named =>
      cases made
      exact ⟨named, rfl⟩

/-! ## The in-memory repository -/

namespace CollectionCall

def inMemory : CollectionCall → Source.Program (Except RepoError CollectionRecord)
  | createOrUpdateCollectible sessionID rav =>
    InMemory.collectionCreateOrUpdateCollectible sessionID rav
  | markPending key expectedValue txHash updatedAt =>
    InMemory.collectionMarkPending key expectedValue txHash updatedAt
  | markCollected key expectedValue txHash collectedAmount updatedAt =>
    InMemory.collectionMarkCollected key expectedValue txHash collectedAmount updatedAt
  | markFailedRetryable key expectedValue txHash lastError updatedAt =>
    InMemory.collectionMarkFailedRetryable key expectedValue txHash lastError updatedAt
  | get key => InMemory.collectionGet key

def psql : CollectionCall → Psql.Program (Except DbError CollectionRecord)
  | createOrUpdateCollectible sessionID rav =>
    Psql.collectionCreateOrUpdateCollectible sessionID rav
  | markPending key expectedValue txHash updatedAt =>
    Psql.collectionMarkPending key expectedValue txHash updatedAt
  | markCollected key expectedValue txHash collectedAmount updatedAt =>
    Psql.collectionMarkCollected key expectedValue txHash collectedAmount updatedAt
  | markFailedRetryable key expectedValue txHash lastError updatedAt =>
    Psql.collectionMarkFailedRetryable key expectedValue txHash lastError updatedAt
  | get key => Psql.collectionGet key

/-- The key that the call is about. -/
def key : CollectionCall → CollectionKey
  | createOrUpdateCollectible sessionID rav => collectionKeyFromRAV sessionID rav.message
  | markPending key .. | markCollected key .. | markFailedRetryable key .. | get key => key

/-- Its addresses have 20 bytes. -/
def Addressed (call : CollectionCall) : Prop :=
  call.key.payer.length = 20 ∧ call.key.serviceProvider.length = 20 ∧
    call.key.dataService.length = 20

instance (call : CollectionCall) : Decidable call.Addressed :=
  inferInstanceAs (Decidable (_ ∧ _ ∧ _))

end CollectionCall

def repoFailure : RepoError → Failure
  | .notFound => .notFound
  | .pendingConflict .. | .staleConflict .. | .conflict => .valueConflict
  | .invalidCollectionTransition => .invalidTransition
  | .sessionIDEmpty | .alreadyExists _ | .sessionNotFound _ => .other

def repoOutcome : Except RepoError CollectionRecord → Outcome
  | .ok record => .ok (standing record)
  | .error err => .error (repoFailure err)

/-- The decision of `collectionNextCollectibleLocked` is the lifecycle's. -/
theorem repoOutcome_nextCollectible
    (fresh : standing record = .fresh record.key record.valueAggregate)
    (current : Option CollectionRecord) :
    repoOutcome (nextCollectible record current) =
      offer record.key record.valueAggregate (current.map standing) := by
  cases current with
  | none => exact congrArg Except.ok fresh
  | some current =>
    have renewed : standing { record with createdAt := current.createdAt } =
        .fresh record.key record.valueAggregate := fresh
    simp only [nextCollectible, Option.map_some]
    cases state : current.state with
    | collectible | collectFailedRetryable =>
      rw [offer_open (by simp [standing, state])]
      simp only [reduceCtorEq, if_false, false_and]
      exact congrArg Except.ok renewed
    | collectPending =>
      rw [offer_pending (show (standing current).state = _ from state), if_pos rfl]
      change _ = if current.valueAggregate = _ then _ else _
      split <;> rfl
    | collected =>
      rw [offer_collected (show (standing current).state = _ from state)]
      simp only [reduceCtorEq, if_false, true_and]
      rcases lt_trichotomy current.valueAggregate record.valueAggregate with
        less | same | greater
      · rw [if_neg less.ne, if_neg less.asymm, if_pos (show (standing current).value < _ from less)]
        exact congrArg Except.ok renewed
      · rw [if_pos same, if_neg (show ¬ (standing current).value < _ from same.not_lt),
          if_pos (show (standing current).value = _ from same)]
        rfl
      · rw [if_neg greater.ne', if_pos greater,
          if_neg (show ¬ (standing current).value < _ from greater.asymm),
          if_neg (show ¬ (standing current).value = _ from greater.ne')]
        rfl

/-- The transitions of the in-memory repository are the lifecycle's. -/
theorem repoOutcome_mark (updatedAt : Time) (seen : record.valueAggregate = expectedValue)
    (mark : CollectionMark) :
    repoOutcome (mark.apply updatedAt record) = advance expectedValue (standing record) mark := by
  cases mark with
  | pending txHash =>
    simp only [CollectionMark.apply, advance, standing, seen, ne_eq, not_true_eq_false, if_false]
    by_cases attemptable : record.state = .collectible ∨ record.state = .collectFailedRetryable
    · rw [if_neg (by tauto), if_pos attemptable]
      simp only [repoOutcome, standing]
    · rw [if_pos (by tauto), if_neg attemptable]
      rfl
  | collected | failedRetryable =>
    simp only [CollectionMark.apply, advance, standing, seen, ne_eq, not_true_eq_false, if_false]
    by_cases pending : record.state = .collectPending
    · rw [if_neg (not_not_intro pending), if_pos pending]
      simp only [repoOutcome, standing]
    · rw [if_pos pending, if_neg pending]
      rfl

/-- The store stands for a ledger between two calls. -/
structure StoreStands (w : World) (ledger : Ledger) : Prop where
  records : ledgerOf w.store.records = ledger
  keyed : WellKeyed w.store.records
  free : w.store.collectionMu = none

section InMemory

variable {i : Source.ThreadId} {w : World} {next : CollectionRecord}

/-- What the specification says is the outcome of the call and the state it leaves. -/
def Answers (target : Ledger × Outcome) (r : Except RepoError CollectionRecord) (w : World) :
    Prop :=
  repoOutcome r = target.2 ∧ StoreStands w target.1

variable {ledger : Ledger}

theorem recordsSet_finishes (records : ledgerOf w.store.records = ledger)
    (keyed : WellKeyed w.store.records) :
    machine.Finishes i (fun _ => True)
      (fun r w' => Answers (ledger.settle next.key (.ok (standing next))) r (withMutex w' none))
      ((store (.recordsSet (collectionMapKey next.key) next)).bind fun _ => .ret (.ok next)) w := by
  refine .step (fun _ _ => rfl) (.ret ⟨rfl, ?_, keyed.insert, rfl⟩)
  subst records
  exact ledgerOf_insert _ _ _

/-- The record that an accepted RAV leads to is kept under the key of the RAV. -/
theorem nextCollectible_key {records : RecordMap} (keyed : WellKeyed records)
    {record : CollectionRecord}
    (accepted : nextCollectible record (records.lookup (collectionMapKey record.key)) = .ok next) :
    next.key = record.key := by
  rcases nextCollectible_ok accepted with ⟨found, _⟩ | ⟨_, _, rfl⟩
  · exact collectionMapKey_injective (keyed _ _ found)
  · rfl

/-- `collectionNextCollectibleLocked` answers with the lifecycle's decision. -/
theorem nextCollectibleLocked_finishes (sessionID : String) (rav : SignedRAV)
    (records : ledgerOf w.store.records = ledger) (keyed : WellKeyed w.store.records) :
    machine.Finishes i (fun _ => True)
      (fun r w' => w' = w ∧ (sessionID = "" → r = .error .sessionIDEmpty) ∧
        (sessionID ≠ "" →
          repoOutcome r = offer (collectionKeyFromRAV sessionID rav.message)
            rav.message.valueAggregate (ledger (collectionKeyFromRAV sessionID rav.message)) ∧
          ∀ next, r = .ok next → next.key = collectionKeyFromRAV sessionID rav.message))
      (InMemory.collectionNextCollectibleLocked sessionID rav) w := by
  refine now_finishes fun e _ => ?_
  cases made : newCollectionRecordFromRAV sessionID rav e.time with
  | error err =>
    have empty := newCollectionRecordFromRAV_error made
    rw [newCollectionRecordFromRAV, if_pos empty] at made
    cases made
    exact .ret ⟨rfl, fun _ => rfl, fun named => absurd empty named⟩
  | ok record =>
    obtain ⟨named, fresh⟩ := standing_new made
    obtain ⟨key, value, _⟩ := newCollectionRecordFromRAV_ok made
    rw [← key, ← value] at fresh
    rw [← key, ← value, ← records]
    refine recordsGet_finishes (.ret ⟨rfl, fun empty => absurd empty named, fun _ => ⟨?_, ?_⟩⟩)
    · exact repoOutcome_nextCollectible fresh _
    · exact fun next accepted => nextCollectible_key keyed accepted

theorem createOrUpdate_inMemory (sessionID : String) (rav : SignedRAV) :
    machine.Implements i (fun _ => True) lifecycle StoreStands repoOutcome
      CollectionCall.inMemory (.createOrUpdateCollectible sessionID rav) := by
  intro w ledger here
  refine withCollectionMu_finishes here.free ?_
  refine (nextCollectibleLocked_finishes sessionID rav (w := withMutex w (some i)) here.records
    here.keyed).bind ?_
  rintro r _ ⟨rfl, empty, named⟩
  have back : StoreStands (withMutex (withMutex w (some i)) none) ledger :=
    ⟨here.records, here.keyed, rfl⟩
  simp only [lifecycle]
  split
  · next unnamed =>
      rw [empty unnamed]
      exact .ret ⟨rfl, back⟩
  rename_i id
  obtain ⟨outcome, key⟩ := named id
  rw [← outcome]
  cases r with
  | error err => exact .ret ⟨rfl, back⟩
  | ok next =>
    rw [← key next rfl]
    exact recordsSet_finishes (w := withMutex w (some i)) here.records here.keyed

theorem updateCollection_inMemory (key : CollectionKey) (expectedValue : Int)
    (mark : CollectionMark) (updatedAt : Time) (here : StoreStands w ledger) :
    machine.Finishes i (fun _ => True) (Answers (ledger.mark key expectedValue mark))
      (InMemory.updateCollection key expectedValue mark updatedAt) w := by
  refine withCollectionMu_finishes here.free (recordsGet_finishes ?_)
  have back : StoreStands (withMutex (withMutex w (some i)) none) ledger :=
    ⟨here.records, here.keyed, rfl⟩
  have held : ledger key = (w.store.records.lookup (collectionMapKey key)).map standing :=
    here.records ▸ rfl
  simp only [withMutex, Ledger.mark, held]
  cases found : w.store.records.lookup (collectionMapKey key) with
  | none => exact .ret ⟨rfl, back⟩
  | some current =>
    simp only [Option.map_some]
    split
    · next other =>
        have conflict : advance expectedValue (standing current) mark = .error .valueConflict := by
          cases mark <;> exact if_pos other
        rw [conflict]
        exact .ret ⟨rfl, back⟩
    rename_i seen
    refine now_finishes fun e _ => ?_
    rw [← repoOutcome_mark (collectionUpdatedAt updatedAt e.time) (not_not.mp seen) mark]
    cases applied : mark.apply (collectionUpdatedAt updatedAt e.time) current with
    | error err => exact .ret ⟨rfl, back⟩
    | ok next =>
      have own : next.key = key := (CollectionMark.apply_ok applied).1.trans
        (collectionMapKey_injective (here.keyed _ _ found))
      rw [← own]
      exact recordsSet_finishes (w := withMutex w (some i)) here.records here.keyed

theorem inMemory_implements (call : CollectionCall) :
    machine.Implements i (fun _ => True) lifecycle StoreStands repoOutcome
      CollectionCall.inMemory call := by
  cases call with
  | createOrUpdateCollectible sessionID rav => exact createOrUpdate_inMemory sessionID rav
  | markPending | markCollected | markFailedRetryable =>
    exact fun w ledger here => updateCollection_inMemory _ _ _ _ here
  | get key =>
    intro w ledger here
    refine recordsGet_finishes ?_
    have held : ledger key = (w.store.records.lookup (collectionMapKey key)).map standing :=
      here.records ▸ rfl
    simp only [lifecycle, held]
    cases found : w.store.records.lookup (collectionMapKey key) with
    | none | some => exact .ret ⟨rfl, here⟩

end InMemory

/-! ## PostgreSQL -/

def dbFailure : DbError → Failure
  | .notFound => .notFound
  | .collectionConflict => .valueConflict
  | .invalidCollectionTransition => .invalidTransition
  | .failed _ => .other

def dbOutcome : Except DbError CollectionRecord → Outcome
  | .ok record => .ok (standing record)
  | .error err => .error (dbFailure err)

/-- The tables stand for a ledger, with these sessions and no transaction on a record. -/
structure TablesStand (sessions : AList fun _ : String => SessionRow) (db : Db) (ledger : Ledger) :
    Prop where
  records : ledgerOf db.tables.collectionRecords = ledger
  keyed : WellKeyed db.tables.collectionRecords
  unlocked : ∀ key, db.recordLocks key = none
  sessions : db.tables.sessions = sessions

/-- The connection answers every statement, and every value fits its column: texts have no U+0000,
session IDs at most 255 characters, and counts of attempts are below `2 ^ 31`. -/
def Connected (e : DbOracle) : Prop := e.error = none

/-- What `CollectionCreateOrUpdateCollectible` makes of a record that it could not update. -/
def judge (value : Int) (existing : CollectionRecord) : Except DbError CollectionRecord :=
  if existing.state = .collectPending ∧ existing.valueAggregate ≠ value then
    .error .collectionConflict
  else if existing.state = .collected ∧ value < existing.valueAggregate then
    .error .collectionConflict
  else .ok existing

theorem upsertCollectible_some {fresh : CollectionRecord} {current : Option CollectionRecord}
    (begins : standing fresh = .fresh fresh.key fresh.valueAggregate)
    (upserted : Psql.upsertCollectible fresh current = some record) :
    record.key = fresh.key ∧
      offer fresh.key fresh.valueAggregate (current.map standing) = .ok (standing record) := by
  cases current with
  | none =>
    cases upserted
    exact ⟨rfl, congrArg Except.ok begins.symm⟩
  | some current =>
    simp only [Psql.upsertCollectible] at upserted
    split at upserted
    · next clause =>
        cases upserted
        refine ⟨rfl, Eq.trans ?_ (congrArg Except.ok begins.symm)⟩
        rcases clause with state | state | ⟨state, less⟩
        · exact offer_open (.inl state)
        · exact offer_open (.inr state)
        · exact (offer_collected state).trans (if_pos less)
    · cases upserted

/-- An upsert that does not go through has met the record that decides. -/
theorem upsertCollectible_none {fresh : CollectionRecord} {current : Option CollectionRecord}
    (refused : Psql.upsertCollectible fresh current = none) :
    ∃ existing, current = some existing ∧
      offer fresh.key fresh.valueAggregate (current.map standing) =
        dbOutcome (judge fresh.valueAggregate existing) := by
  cases current with
  | none => cases refused
  | some current =>
    refine ⟨current, rfl, ?_⟩
    simp only [Psql.upsertCollectible] at refused
    split at refused
    · cases refused
    rename_i clause
    simp only [not_or, not_and, not_lt] at clause
    obtain ⟨notOpen, notFailed, notLess⟩ := clause
    cases state : current.state with
    | collectible => exact absurd state notOpen
    | collectFailedRetryable => exact absurd state notFailed
    | collectPending =>
      rw [Option.map_some, offer_pending (show (standing current).state = _ from state),
        judge, state]
      by_cases same : current.valueAggregate = fresh.valueAggregate
      · simp [same, standing, dbOutcome, state]
      · simp [same, standing, dbOutcome, dbFailure]
    | collected =>
      have least := notLess state
      rw [Option.map_some, offer_collected (show (standing current).state = _ from state),
        judge, state, if_neg (show ¬ (standing current).value < _ from least.not_gt)]
      by_cases same : current.valueAggregate = fresh.valueAggregate
      · simp [same, standing, dbOutcome, state]
      · have greater := lt_of_le_of_ne least (Ne.symm same)
        simp [same, greater, standing, dbOutcome, dbFailure]

/-- The statements make the transitions of the in-memory repository. -/
theorem markCollection_seen (seen : record.valueAggregate = expectedValue) (updatedAt : Time)
    (mark : CollectionMark) :
    Psql.markCollection expectedValue updatedAt record mark =
      (mark.apply updatedAt record).toOption := by
  cases mark with
  | pending txHash =>
    simp only [Psql.markCollection, CollectionMark.apply, seen, true_and]
    by_cases attemptable : record.state = .collectible ∨ record.state = .collectFailedRetryable
    · rw [if_pos attemptable, if_neg (by tauto)]
      rfl
    · rw [if_neg attemptable, if_pos (by tauto)]
      rfl
  | collected | failedRetryable =>
    simp only [Psql.markCollection, CollectionMark.apply, seen, true_and]
    by_cases pending : record.state = .collectPending
    · rw [if_pos pending, if_neg (not_not_intro pending)]
      rfl
    · rw [if_neg pending, if_pos pending]
      rfl

theorem markCollection_unseen (other : record.valueAggregate ≠ expectedValue) (updatedAt : Time)
    (mark : CollectionMark) : Psql.markCollection expectedValue updatedAt record mark = none := by
  cases mark <;> exact if_neg fun both => other both.1

theorem CollectionMark.apply_error {mark : CollectionMark} {updatedAt : Time} {err : RepoError}
    (failed : mark.apply updatedAt record = .error err) : err = .invalidCollectionTransition := by
  cases mark <;>
    (simp only [CollectionMark.apply] at failed; split at failed <;> cases failed; rfl)

theorem collectionKeyParams_addressed {call : CollectionCall} (addressed : call.Addressed) :
    collectionKeyParams call.key = call.key := by
  obtain ⟨payer, serviceProvider, dataService⟩ := addressed
  simp only [collectionKeyParams, newAddress, if_pos payer, if_pos serviceProvider,
    if_pos dataService]

section Psql

variable {i : Psql.ThreadId} {sessions : AList fun _ : String => SessionRow} {db : Db}
  {ledger : Ledger}

theorem dbNow_finishes {β : Type} {Q : β → Db → Prop} {f : Time → Psql.Program β}
    (rest : ∀ now, Psql.machine.Finishes i Connected Q (f now) db) :
    Psql.machine.Finishes i Connected Q ((Psql.run .now).bind f) db :=
  .act (fun _ _ => rfl) fun _ _ _ _ ran => by cases ran; exact rest _

/-- What `collection/get.sql` answers. -/
def answerOf : Option CollectionRecord → Except DbError CollectionRecord
  | none => .error .notFound
  | some record => .ok record

variable {e : DbOracle} {row : SessionRow} {next : CollectionRecord} {sessionID : String}
  {rav : SignedRAV} {now updatedAt : Time} {expectedValue : Int}

theorem getCollection_exec (connected : Connected e) (key : CollectionKey) :
    Psql.machine.exec i (.getCollection key) e db =
      some (db, answerOf (db.tables.collectionRecords.lookup (collectionMapKey key))) := by
  have answered : e.error = none := connected
  change db.exec i (.getCollection key) e = _
  simp only [Db.exec, answered]
  cases db.tables.collectionRecords.lookup (collectionMapKey key) <;> rfl

theorem execCollectible_exec (connected : Connected e) {fresh : CollectionRecord}
    (unlocked : ∀ key, db.recordLocks key = none)
    (session : db.tables.sessions.lookup fresh.key.sessionID = some row) :
    Psql.machine.exec i (.execCollectible fresh) e db = some
      (match Psql.upsertCollectible fresh
          (db.tables.collectionRecords.lookup (collectionMapKey fresh.key)) with
      | none => (db, .ok none)
      | some record => (db.applyNow (.record (collectionMapKey fresh.key) record),
          .ok (some record))) := by
  have answered : e.error = none := connected
  change db.exec i (.execCollectible fresh) e = _
  simp only [Db.exec, answered, unlocked, session]
  cases Psql.upsertCollectible fresh _ <;> rfl

theorem markCollection_exec (connected : Connected e) (statement : String) (key : CollectionKey)
    (expectedValue : Int) (mark : CollectionMark) (updatedAt : Time)
    (unlocked : ∀ key, db.recordLocks key = none) :
    Psql.machine.exec i (.markCollection statement key expectedValue mark updatedAt) e db = some
      (match (db.tables.collectionRecords.lookup (collectionMapKey key)).bind
          (Psql.markCollection expectedValue updatedAt · mark) with
      | none => (db, .ok none)
      | some next => (db.applyNow (.record (collectionMapKey key) next), .ok (some next))) := by
  have answered : e.error = none := connected
  change db.exec i (.markCollection statement key expectedValue mark updatedAt) e = _
  simp only [Db.exec, answered, unlocked]
  cases db.tables.collectionRecords.lookup (collectionMapKey key) with
  | none => rfl
  | some record =>
    simp only [Option.bind_some]
    cases Psql.markCollection expectedValue updatedAt record mark <;> rfl

theorem TablesStand.write (here : TablesStand sessions db ledger) :
    TablesStand sessions (db.applyNow (.record (collectionMapKey next.key) next))
      (ledger.settle next.key (.ok (standing next))).1 where
  records := here.records ▸ ledgerOf_insert _ _ _
  keyed := here.keyed.insert
  unlocked := here.unlocked
  sessions := here.sessions

theorem TablesStand.held (here : TablesStand sessions db ledger) (key : CollectionKey) :
    ledger key = (db.tables.collectionRecords.lookup (collectionMapKey key)).map standing :=
  here.records ▸ rfl

theorem collectionCollectibleParams_ok {fresh : CollectionRecord}
    (addressed : (CollectionCall.createOrUpdateCollectible sessionID rav).Addressed)
    (made : collectionCollectibleParams sessionID rav now = .ok fresh) :
    sessionID ≠ "" ∧ fresh.key = collectionKeyFromRAV sessionID rav.message ∧
      fresh.valueAggregate = rav.message.valueAggregate ∧
      standing fresh = .fresh fresh.key fresh.valueAggregate := by
  have params := collectionKeyParams_addressed addressed
  unfold collectionCollectibleParams at made
  split at made
  · cases made
  rename_i record new
  cases made
  obtain ⟨named, begins⟩ := standing_new new
  obtain ⟨key, value, _⟩ := newCollectionRecordFromRAV_ok new
  refine ⟨named, (congrArg collectionKeyParams key).trans params, value, ?_⟩
  have rest := (Standing.mk.injEq ..).mp begins
  simp only [standing, Standing.fresh, Standing.mk.injEq, true_and]
  exact rest.2.2

theorem collectionCollectibleParams_error {err : DbError}
    (failed : collectionCollectibleParams sessionID rav now = .error err) :
    sessionID = "" ∧ dbFailure err = .other := by
  unfold collectionCollectibleParams at failed
  split at failed
  · next unmade =>
      cases failed
      exact ⟨newCollectionRecordFromRAV_error unmade, rfl⟩
  · cases failed

theorem createOrUpdate_psql
    (addressed : (CollectionCall.createOrUpdateCollectible sessionID rav).Addressed)
    (session : sessions.lookup sessionID = some row) :
    Psql.machine.Implements i Connected lifecycle (TablesStand sessions) dbOutcome
      CollectionCall.psql (.createOrUpdateCollectible sessionID rav) := by
  intro db ledger here
  refine dbNow_finishes fun now => ?_
  simp only [lifecycle]
  cases made : collectionCollectibleParams sessionID rav now with
  | error err =>
    obtain ⟨empty, kind⟩ := collectionCollectibleParams_error made
    simp only [if_pos empty]
    exact .ret ⟨congrArg Except.error kind, here⟩
  | ok fresh =>
    obtain ⟨named, key, value, begins⟩ := collectionCollectibleParams_ok addressed made
    have known : db.tables.sessions.lookup fresh.key.sessionID = some row := by
      rw [here.sessions, key]
      exact session
    simp only [if_neg named, ← key, ← value, here.held]
    refine .step
      (fun e connected => execCollectible_exec connected here.unlocked known) ?_
    cases upserted : Psql.upsertCollectible fresh
        (db.tables.collectionRecords.lookup (collectionMapKey fresh.key)) with
    | some record =>
      obtain ⟨same, outcome⟩ := upsertCollectible_some begins upserted
      rw [outcome, ← same]
      exact .ret ⟨rfl, here.write⟩
    | none =>
      obtain ⟨existing, found, outcome⟩ := upsertCollectible_none upserted
      rw [outcome]
      have read : collectionKeyParams fresh.key = fresh.key := by
        rw [key]
        exact collectionKeyParams_addressed addressed
      refine .step
        (fun e connected => getCollection_exec connected (collectionKeyParams fresh.key)) ?_
      rw [read, found]
      simp only [answerOf, judge]
      split
      · exact .ret ⟨rfl, here⟩
      split
      · exact .ret ⟨rfl, here⟩
      have held : ledger fresh.key = some (standing existing) := by
        rw [here.held, found, Option.map_some]
      rw [dbOutcome, Ledger.settle_held held]
      exact .ret ⟨rfl, here⟩

/-- Why a transition found no row to update. -/
def refusal (expectedValue : Int) : Option CollectionRecord → DbError
  | none => .notFound
  | some record =>
    if record.valueAggregate ≠ expectedValue then .collectionConflict
    else .invalidCollectionTransition

theorem classify_finishes {key : CollectionKey} (params : collectionKeyParams key = key)
    (expectedValue : Int) :
    Psql.machine.Finishes i Connected
      (fun err db' => db' = db ∧ err = refusal expectedValue
        (db.tables.collectionRecords.lookup (collectionMapKey key)))
      (classifyCollectionTransitionFailure key expectedValue) db := by
  refine .step
    (fun e connected => getCollection_exec connected (collectionKeyParams key)) ?_
  rw [params]
  cases db.tables.collectionRecords.lookup (collectionMapKey key) with
  | none => exact .ret ⟨rfl, rfl⟩
  | some record =>
    simp only [answerOf, refusal]
    split
    · exact .ret ⟨rfl, rfl⟩
    · exact .ret ⟨rfl, rfl⟩

/-- The lifecycle refuses what found no row, and for the same reason. -/
theorem mark_refused (here : TablesStand sessions db ledger) {key : CollectionKey}
    {mark : CollectionMark}
    (refused : (db.tables.collectionRecords.lookup (collectionMapKey key)).bind
      (Psql.markCollection expectedValue updatedAt · mark) = none) :
    ledger.mark key expectedValue mark = (ledger, .error (dbFailure (refusal expectedValue
      (db.tables.collectionRecords.lookup (collectionMapKey key))))) := by
  simp only [Ledger.mark, here.held]
  cases found : db.tables.collectionRecords.lookup (collectionMapKey key) with
  | none => rfl
  | some record =>
    rw [found, Option.bind_some] at refused
    simp only [Option.map_some, refusal]
    by_cases seen : record.valueAggregate = expectedValue
    · rw [markCollection_seen seen] at refused
      have outcome := repoOutcome_mark updatedAt seen mark
      cases applied : mark.apply updatedAt record with
      | ok next =>
        rw [applied] at refused
        cases refused
      | error err =>
        rw [applied, CollectionMark.apply_error applied] at outcome
        rw [← outcome, if_neg (not_not_intro seen)]
        rfl
    · have conflict : advance expectedValue (standing record) mark = .error .valueConflict := by
        cases mark <;> exact if_pos seen
      rw [conflict, if_pos seen]
      rfl

theorem mark_accepted (here : TablesStand sessions db ledger) {key : CollectionKey}
    {mark : CollectionMark}
    (accepted : (db.tables.collectionRecords.lookup (collectionMapKey key)).bind
      (Psql.markCollection expectedValue updatedAt · mark) = some next) :
    next.key = key ∧ ledger.mark key expectedValue mark =
      ledger.settle key (.ok (standing next)) := by
  obtain ⟨record, found, marked⟩ := Option.bind_eq_some_iff.mp accepted
  have seen : record.valueAggregate = expectedValue := by
    by_contra other
    rw [markCollection_unseen other] at marked
    cases marked
  rw [markCollection_seen seen] at marked
  have outcome := repoOutcome_mark updatedAt seen mark
  cases applied : mark.apply updatedAt record with
  | error err =>
    rw [applied] at marked
    cases marked
  | ok next' =>
    rw [applied] at marked outcome
    cases marked
    refine ⟨(CollectionMark.apply_ok applied).1.trans
      (collectionMapKey_injective (here.keyed _ _ found)), ?_⟩
    simp only [Ledger.mark, here.held, found, Option.map_some]
    rw [← outcome]
    rfl

theorem execCollectionTransition_psql (statement : String) {key : CollectionKey}
    (params : collectionKeyParams key = key) (expectedValue : Int) (mark : CollectionMark)
    (updatedAt : Time) (here : TablesStand sessions db ledger) :
    Psql.machine.Finishes i Connected
      (fun r db' => dbOutcome r = (ledger.mark key expectedValue mark).2 ∧
        TablesStand sessions db' (ledger.mark key expectedValue mark).1)
      (Psql.execCollectionTransition statement key expectedValue mark updatedAt) db := by
  refine dbNow_finishes fun now => ?_
  refine .step (fun e connected => markCollection_exec connected statement
    (collectionKeyParams key) expectedValue mark (collectionUpdatedAt updatedAt now)
    here.unlocked) ?_
  rw [params]
  cases marked : (db.tables.collectionRecords.lookup (collectionMapKey key)).bind
      (Psql.markCollection expectedValue (collectionUpdatedAt updatedAt now) · mark) with
  | some next =>
    obtain ⟨own, outcome⟩ := mark_accepted here marked
    rw [outcome]
    subst own
    exact .ret ⟨rfl, here.write⟩
  | none =>
    rw [mark_refused here marked]
    refine (classify_finishes params expectedValue).bind ?_
    rintro err _ ⟨rfl, rfl⟩
    exact .ret ⟨rfl, here⟩

/-- The session of the call is stored. -/
def OnExisting (sessions : AList fun _ : String => SessionRow) (call : CollectionCall) : Prop :=
  (sessions.lookup call.key.sessionID).isSome = true

instance (sessions : AList fun _ : String => SessionRow) (call : CollectionCall) :
    Decidable (OnExisting sessions call) :=
  inferInstanceAs (Decidable (_ = true))

theorem psql_implements {call : CollectionCall} (addressed : call.Addressed)
    (existing : OnExisting sessions call) :
    Psql.machine.Implements i Connected lifecycle (TablesStand sessions) dbOutcome
      CollectionCall.psql call := by
  have params := collectionKeyParams_addressed addressed
  cases call with
  | createOrUpdateCollectible sessionID rav =>
    obtain ⟨row, session⟩ := Option.isSome_iff_exists.mp existing
    exact createOrUpdate_psql addressed session
  | markPending | markCollected | markFailedRetryable =>
    exact fun db ledger here => execCollectionTransition_psql _ params _ _ _ here
  | get key =>
    intro db ledger here
    simp only [CollectionCall.key] at params
    refine .perform (fun e connected => ?_) fun e db' r connected ran => ?_
    · rw [getCollection_exec connected]
      rfl
    rw [getCollection_exec connected, params] at ran
    cases ran
    simp only [lifecycle, here.held]
    cases db.tables.collectionRecords.lookup (collectionMapKey key) with
    | none | some => exact ⟨rfl, here⟩

end Psql

/-! ## The two repositories side by side -/

/-- Before the calls the two repositories hold the same records, and no call is under way. -/
structure SameRecords (w : World) (db : Db) : Prop where
  same : ledgerOf w.store.records = ledgerOf db.tables.collectionRecords
  keyed : WellKeyed w.store.records
  keyed' : WellKeyed db.tables.collectionRecords
  free : w.store.collectionMu = none
  unlocked : ∀ key, db.recordLocks key = none

/-- Calls made one at a time on existing sessions, with 20-byte addresses: there are answers and
records with which both repositories end, whatever their clocks say and as long as the database
answers. -/
theorem backends_agree {w : World} {db : Db} (before : SameRecords w db)
    {calls : List CollectionCall} (addressed : ∀ call ∈ calls, call.Addressed)
    (existing : ∀ call ∈ calls, OnExisting db.tables.sessions call) (i : Source.ThreadId)
    (j : Psql.ThreadId) :
    ∃ (outcomes : List Outcome) (ledger : Ledger),
      machine.Finishes i (fun _ => True)
        (fun replies w' => replies.map repoOutcome = outcomes ∧ ledgerOf w'.store.records = ledger)
        (.mapEach CollectionCall.inMemory calls) w ∧
      Psql.machine.Finishes j Connected
        (fun replies db' => replies.map dbOutcome = outcomes ∧
          ledgerOf db'.tables.collectionRecords = ledger)
        (.mapEach CollectionCall.psql calls) db := by
  have start : StoreStands w (ledgerOf w.store.records) := ⟨rfl, before.keyed, before.free⟩
  have start' : TablesStand db.tables.sessions db (ledgerOf w.store.records) :=
    ⟨before.same.symm, before.keyed', before.unlocked, rfl⟩
  refine ⟨(lifecycle.run calls (ledgerOf w.store.records)).2,
    (lifecycle.run calls (ledgerOf w.store.records)).1, ?_, ?_⟩
  · exact (Machine.Implements.run calls (fun call _ => inMemory_implements call) start).mono
      fun replies w' done => ⟨done.1, done.2.records⟩
  · exact (Machine.Implements.run calls
      (fun call member => psql_implements (addressed call member) (existing call member))
      start').mono fun replies db' done => ⟨done.1, done.2.records⟩

/-- The record of the sample session. -/
def sampleKey : CollectionKey := collectionKeyFromRAV "s" (ReadConsistency.voucher 0).message

/-- A RAV is collected at the second attempt; a late report of a failure and a RAV that is worth
less are refused. -/
def settlement : List CollectionCall :=
  [.get sampleKey, .createOrUpdateCollectible "s" (ReadConsistency.voucher 10),
    .markPending sampleKey 10 "0x1" 0, .markFailedRetryable sampleKey 10 "0x1" "reverted" 0,
    .markPending sampleKey 10 "0x2" 0, .markCollected sampleKey 10 "0x2" (some 10) 0,
    .markFailedRetryable sampleKey 10 "0x1" "timeout" 0,
    .createOrUpdateCollectible "s" (ReadConsistency.voucher 9)]

example : (lifecycle.run settlement fun _ => none).2.map (·.toOption.map (·.attemptCount)) =
    [none, some 0, some 1, some 1, some 2, some 2, none, none] := by
  decide +kernel

theorem sampleRecords : SameRecords {} { tables := ReadConsistency.owingTables } where
  same := rfl
  keyed := wellKeyed_empty
  keyed' := wellKeyed_empty
  free := rfl
  unlocked _ := rfl

theorem backends_agree_settlement : ∃ (outcomes : List Outcome) (ledger : Ledger),
    machine.Finishes 0 (fun _ => True)
      (fun replies w' => replies.map repoOutcome = outcomes ∧ ledgerOf w'.store.records = ledger)
      (.mapEach CollectionCall.inMemory settlement) {} ∧
    Psql.machine.Finishes 0 Connected
      (fun replies db' => replies.map dbOutcome = outcomes ∧
        ledgerOf db'.tables.collectionRecords = ledger)
      (.mapEach CollectionCall.psql settlement) { tables := ReadConsistency.owingTables } :=
  backends_agree sampleRecords (by decide) (by decide) 0 0

end Sdsce.Guarantees.CollectionLifecycle
