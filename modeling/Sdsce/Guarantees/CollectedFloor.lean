import Sdsce.Guarantees.CollectionLifecycle

/-!
# The value that was collected as a floor

A collected record refuses a smaller value, and a larger one makes it collectible again. There
the check ends: a collectible record, or one whose collection failed, takes any value. So what was
collected is a floor for the record exactly as long as no RAV below it is offered to the record in
one of these states.
-/
namespace Sdsce.Guarantees.CollectedFloor

open Sdsce.Theory Sdsce.Source Function
open Sdsce.Source.Psql hiding ThreadId machine Program run Reply start
open Sdsce.Guarantees.CollectionLifecycle

/-- No RAV below the floor is offered to the record while it is collectible or failed. -/
def NotBelow (key : CollectionKey) (floor : Int) : CollectionCall → Ledger → Prop
  | .createOrUpdateCollectible sessionID rav, ledger =>
    sessionID ≠ "" → collectionKeyFromRAV sessionID rav.message = key →
      ∀ current ∈ ledger key,
        (current.state = .collectible ∨ current.state = .collectFailedRetryable) →
          floor ≤ rav.message.valueAggregate
  | _, _ => True

/-- The record under the key is worth at least `floor`. -/
def AtLeast (key : CollectionKey) (floor : Int) (ledger : Ledger) : Prop :=
  ∃ current, ledger key = some current ∧ floor ≤ current.value

/-- The record under the key is collected, at this value. -/
def CollectedAt (key : CollectionKey) (value : Int) (ledger : Ledger) : Prop :=
  ∃ current, ledger key = some current ∧ current.state = .collected ∧ current.value = value

/-! ## One call -/

variable {ledger : Ledger} {key key' : CollectionKey} {floor : Int} {current next : Standing}
  {P : Ledger → Prop} {calls : List CollectionCall}

theorem settle_atLeast (above : AtLeast key floor ledger) {outcome : Outcome}
    (kept : ∀ current next, key' = key → ledger key = some current → floor ≤ current.value →
      outcome = .ok next → floor ≤ next.value) :
    AtLeast key floor (ledger.settle key' outcome).1 := by
  obtain ⟨current, held, least⟩ := above
  cases outcome with
  | error failure => exact ⟨current, held, least⟩
  | ok next =>
    by_cases same : key = key'
    · subst same
      exact ⟨next, update_self .., kept current next rfl held least rfl⟩
    · exact ⟨current, (update_of_ne same ..).trans held, least⟩

/-- An offer that is accepted keeps the floor, unless it is below it and the record is open. -/
theorem offer_atLeast {value : Int} (least : floor ≤ current.value)
    (notBelow : current.state = .collectible ∨ current.state = .collectFailedRetryable →
      floor ≤ value) (accepted : offer key value (some current) = .ok next) :
    floor ≤ next.value := by
  cases state : current.state with
  | collectible =>
    rw [offer_open (.inl state)] at accepted
    cases accepted
    exact notBelow (.inl state)
  | collectFailedRetryable =>
    rw [offer_open (.inr state)] at accepted
    cases accepted
    exact notBelow (.inr state)
  | collectPending =>
    rw [offer_pending state] at accepted
    split at accepted
    · cases accepted
      exact least
    · cases accepted
  | collected =>
    rw [offer_collected state] at accepted
    split at accepted
    · next less =>
        cases accepted
        exact least.trans less.le
    · split at accepted
      · cases accepted
        exact least
      · cases accepted

theorem advance_value {expectedValue : Int} {mark : CollectionMark}
    (advanced : advance expectedValue current mark = .ok next) : next.value = current.value := by
  cases mark <;> simp only [advance] at advanced <;> split at advanced <;>
    first
      | cases advanced
      | (split at advanced
         · cases advanced
           rfl
         · cases advanced)

theorem mark_atLeast (above : AtLeast key floor ledger) (expectedValue : Int)
    (mark : CollectionMark) : AtLeast key floor (ledger.mark key' expectedValue mark).1 := by
  unfold Ledger.mark
  split
  · exact above
  rename_i current found
  refine settle_atLeast above ?_
  rintro current' next rfl held least advanced
  cases found.symm.trans held
  exact least.trans (advance_value advanced).ge

theorem step_atLeast_iff (key : CollectionKey) (floor : Int) (call : CollectionCall)
    (ledger : Ledger) (above : AtLeast key floor ledger) :
    AtLeast key floor (lifecycle.step call ledger).1 ↔ NotBelow key floor call ledger := by
  cases call with
  | createOrUpdateCollectible sessionID rav =>
    simp only [lifecycle, NotBelow]
    split
    · next empty => exact ⟨fun _ named => absurd empty named, fun _ => above⟩
    rename_i named
    constructor
    · rintro ⟨next, held, least⟩ - rfl current here state
      rw [here, offer_open state] at held
      cases (update_self ..).symm.trans held
      exact least
    · intro notBelow
      refine settle_atLeast above ?_
      rintro current next same held least accepted
      rw [same, held] at accepted
      exact offer_atLeast least (notBelow named same current held) accepted
  | markPending | markCollected | markFailedRetryable =>
    exact ⟨fun _ => trivial, fun _ => mark_atLeast above _ _⟩
  | get key => exact ⟨fun _ => trivial, fun _ => above⟩

/-! ## Sequences of calls in both repositories -/

/-- The calls, made one after the other in memory, end with records that satisfy `P`. -/
def EndsInMemory (i : Source.ThreadId) (P : Ledger → Prop) (calls : List CollectionCall)
    (w : World) : Prop :=
  machine.Finishes i (fun _ => True) (fun _ w' => P (ledgerOf w'.store.records))
    (.mapEach CollectionCall.inMemory calls) w

/-- The calls, made one after the other in PostgreSQL, end with rows that satisfy `P`. -/
def EndsInPsql (j : Psql.ThreadId) (P : Ledger → Prop) (calls : List CollectionCall) (db : Db) :
    Prop :=
  Psql.machine.Finishes j Connected (fun _ db' => P (ledgerOf db'.tables.collectionRecords))
    (.mapEach CollectionCall.psql calls) db

theorem endsInMemory_iff {i : Source.ThreadId} {w : World} (here : StoreStands w ledger) :
    EndsInMemory i P calls w ↔ P (lifecycle.run calls ledger).1 := by
  have follows := Machine.Implements.run (i := i) calls
    (fun call _ => inMemory_implements call) here
  constructor
  · intro ends
    obtain ⟨_, w', holds, _, stands⟩ := ends.meet (e := ({} : Oracle)) trivial follows
    exact stands.records ▸ holds
  · exact fun holds => follows.mono fun _ w' done => done.2.records ▸ holds

theorem endsInPsql_iff {j : Psql.ThreadId} {db : Db}
    (here : TablesStand db.tables.sessions db ledger) (addressed : ∀ call ∈ calls, call.Addressed)
    (existing : ∀ call ∈ calls, OnExisting db.tables.sessions call) :
    EndsInPsql j P calls db ↔ P (lifecycle.run calls ledger).1 := by
  have follows := Machine.Implements.run (i := j) calls
    (fun call member => psql_implements (addressed call member) (existing call member)) here
  constructor
  · intro ends
    obtain ⟨_, db', holds, _, stands⟩ :=
      ends.meet (e := ({} : DbOracle)) (show Connected {} from rfl) follows
    exact stands.records ▸ holds
  · exact fun holds => follows.mono fun _ db' done => done.2.records ▸ holds

/-- From a state in which the record is collected at a value, the record stays at that value or
above throughout a sequence of calls, in either repository, exactly when no call offers a smaller
value while the record is collectible or failed. -/
theorem collected_floor_iff {w : World} {db : Db} (before : SameRecords w db)
    {key : CollectionKey} {value : Int}
    (collected : CollectedAt key value (ledgerOf w.store.records)) {calls : List CollectionCall}
    (addressed : ∀ call ∈ calls, call.Addressed)
    (existing : ∀ call ∈ calls, OnExisting db.tables.sessions call) (i : Source.ThreadId)
    (j : Psql.ThreadId) :
    ((∀ first, first <+: calls → EndsInMemory i (AtLeast key value) first w) ↔
      lifecycle.Meets (NotBelow key value) calls (ledgerOf w.store.records)) ∧
    ((∀ first, first <+: calls → EndsInPsql j (AtLeast key value) first db) ↔
      lifecycle.Meets (NotBelow key value) calls (ledgerOf w.store.records)) := by
  obtain ⟨current, held, _, worth⟩ := collected
  have spec : (∀ first, first <+: calls →
      AtLeast key value (lifecycle.run first (ledgerOf w.store.records)).1) ↔
      lifecycle.Meets (NotBelow key value) calls (ledgerOf w.store.records) :=
    Spec.meets_iff (step_atLeast_iff key value) ⟨current, held, worth.ge⟩
  constructor
  · refine Iff.trans (forall₂_congr fun first _ => ?_) spec
    exact endsInMemory_iff ⟨rfl, before.keyed, before.free⟩
  refine Iff.trans (forall₂_congr fun first begins => ?_) spec
  exact endsInPsql_iff ⟨before.same.symm, before.keyed', before.unlocked, rfl⟩
    (fun call member => addressed call (begins.subset member))
    fun call member => existing call (begins.subset member)

instance (key : CollectionKey) (floor : Int) :
    (call : CollectionCall) → (ledger : Ledger) → Decidable (NotBelow key floor call ledger)
  | .createOrUpdateCollectible _ _, _ => inferInstanceAs (Decidable (_ → _ → ∀ _ ∈ _, _ → _))
  | .markPending .., _ | .markCollected .., _ | .markFailedRetryable .., _ | .get _, _ =>
    isTrue trivial

/-- Ten units have been collected for the sample session. -/
def settledRecord : CollectionRecord where
  key := sampleKey
  signedRAV := ReadConsistency.voucher 10
  valueAggregate := 10
  state := .collected
  attemptCount := 1
  lastTxHash := "0x1"
  lastError := ""
  collectedAmount := some 10
  createdAt := 0
  updatedAt := 0

def settledRecords : RecordMap :=
  (∅ : RecordMap).insert (collectionMapKey settledRecord.key) settledRecord

theorem settledRecords_keyed : WellKeyed settledRecords := wellKeyed_empty.insert

def settledStore : World := { store := { records := settledRecords } }

def settledTables : Db :=
  { tables := { ReadConsistency.owingTables with collectionRecords := settledRecords } }

theorem settledStore_settledTables : SameRecords settledStore settledTables where
  same := rfl
  keyed := settledRecords_keyed
  keyed' := settledRecords_keyed
  free := rfl
  unlocked _ := rfl

theorem settledStore_collectedAt :
    CollectedAt sampleKey 10 (ledgerOf settledStore.store.records) := by
  refine ⟨standing settledRecord, ?_, rfl, rfl⟩
  rw [settledStore, settledRecords, ledgerOf_insert]
  exact update_self ..

/-- A larger RAV reopens the record, and one between the two values replaces it. -/
def reopened : List CollectionCall :=
  [.createOrUpdateCollectible "s" (ReadConsistency.voucher 20),
    .createOrUpdateCollectible "s" (ReadConsistency.voucher 15)]

theorem collected_floor_reopened :
    (∀ first, first <+: reopened → EndsInMemory 0 (AtLeast sampleKey 10) first settledStore) ∧
      ∀ first, first <+: reopened → EndsInPsql 0 (AtLeast sampleKey 10) first settledTables := by
  have met : lifecycle.Meets (NotBelow sampleKey 10) reopened
      (ledgerOf settledStore.store.records) := by
    decide +kernel
  have addressed : ∀ call ∈ reopened, call.Addressed := by decide
  have floor := collected_floor_iff settledStore_settledTables settledStore_collectedAt addressed
    (by decide) 0 0
  exact ⟨floor.1.mpr met, floor.2.mpr met⟩

/-! ## A record that is worth less than what was collected -/

def settled : List CollectionCall :=
  [.createOrUpdateCollectible "s" (ReadConsistency.voucher 10),
    .markPending sampleKey 10 "0x1" 0, .markCollected sampleKey 10 "0x1" (some 10) 0]

/-- The larger RAV reopens the record, the smaller one replaces it. -/
def undercut : List CollectionCall :=
  [.createOrUpdateCollectible "s" (ReadConsistency.voucher 20),
    .createOrUpdateCollectible "s" (ReadConsistency.voucher 5)]

theorem settled_collectedAt :
    CollectedAt sampleKey 10 (lifecycle.run settled (ledgerOf ∅)).1 :=
  ⟨⟨sampleKey, 10, .collected, 1, "0x1", "", some 10⟩, by decide +kernel, rfl, rfl⟩

theorem undercut_below :
    ¬ AtLeast sampleKey 10 (lifecycle.run (settled ++ undercut) (ledgerOf ∅)).1 := by
  have left : (lifecycle.run (settled ++ undercut) (ledgerOf ∅)).1 sampleKey =
      some (.fresh sampleKey 5) := by
    decide +kernel
  rintro ⟨current, held, least⟩
  cases left.symm.trans held
  revert least
  decide

/-- Starting from no records at all, both repositories let the value of a record fall below what
was collected for it. -/
theorem collected_floor_undercut :
    (¬ ∀ first later key value, EndsInMemory 0 (CollectedAt key value) first {} →
      EndsInMemory 0 (AtLeast key value) (first ++ later) {}) ∧
    ¬ ∀ first later key value,
      EndsInPsql 0 (CollectedAt key value) first { tables := ReadConsistency.owingTables } →
      EndsInPsql 0 (AtLeast key value) (first ++ later)
        { tables := ReadConsistency.owingTables } := by
  have store : StoreStands {} (ledgerOf ∅) := ⟨rfl, sampleRecords.keyed, rfl⟩
  have tables : TablesStand ReadConsistency.owingTables.sessions
      { tables := ReadConsistency.owingTables } (ledgerOf ∅) :=
    ⟨rfl, sampleRecords.keyed', fun _ => rfl, rfl⟩
  constructor
  · intro floor
    have ends := floor settled undercut sampleKey 10
      ((endsInMemory_iff store).mpr settled_collectedAt)
    exact undercut_below ((endsInMemory_iff store).mp ends)
  · intro floor
    have ends := floor settled undercut sampleKey 10
      ((endsInPsql_iff tables (by decide) (by decide)).mpr settled_collectedAt)
    exact undercut_below ((endsInPsql_iff tables (by decide) (by decide)).mp ends)

end Sdsce.Guarantees.CollectedFloor
