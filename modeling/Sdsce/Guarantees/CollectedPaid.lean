import Sdsce.Guarantees.SessionHistory

/-!
# Collected means paid

Any number of collect commands and daemons report to the operator service while RAVs keep
being accepted. Each transition carries the value that its collector fetched, so a report of
success reaches only a record of the value that was paid.
-/
namespace Sdsce.Guarantees

open Sdsce.Theory Sdsce.Source

section Entries

variable {g : Gateway} {pool : Pool} {i : ThreadId} {h : History}

variable {key : String} {record : CollectionRecord} {P : Policy}

theorem accountable_paid (accountable : Accountable (providerPolicy g pool) h)
    (last : lastRecord h key = some record) (collected : record.state = .collected) :
    Paid h record.key record.valueAggregate := by
  refine accountable.record
    (J := fun h record => record.state = .collected → Paid h record.key record.valueAggregate)
    ?_ ?_ ?_ last collected
  · intro h event record paid collected
    exact (paid collected).mono (List.prefix_append _ _)
  · intro h id rav now record made _ createdAt collected
    rw [(newCollectionRecordFromRAV_ok made).2.2] at collected
    cases collected
  · intro h current mark updatedAt record _ applied allowed collected
    obtain ⟨key, value, reported⟩ := CollectionMark.apply_ok applied
    obtain ⟨_, txHash, amount, rfl⟩ := reported collected
    rw [key, value]
    exact allowed

/-- Neither an acceptance nor a transition changes the value of a pending record. -/
theorem recordStep_pending {record' : CollectionRecord} (step : RecordStep P h key record')
    (last : lastRecord h key = some record) (pending : record.state = .collectPending) :
    record'.valueAggregate = record.valueAggregate := by
  rcases step with ⟨id, rav, now, fresh, _, _, _, next⟩ | ⟨current, mark, _, found, applied, _⟩
  · rw [last] at next
    rcases nextCollectible_ok next with ⟨same, _⟩ | ⟨free, _⟩
    · cases same
      rfl
    · exact absurd pending (free record rfl)
  · rw [last] at found
    cases found
    exact (CollectionMark.apply_ok applied).2.1

theorem entry_pending {kind : EventKind} (why : Justified P i h kind)
    (last : lastRecord h key = some record) (pending : record.state = .collectPending) :
    ∃ record', lastRecord (h ++ [⟨i, kind⟩]) key = some record' ∧
      record'.valueAggregate = record.valueAggregate := by
  rw [lastRecord_append]
  split
  · next written =>
      split
      · next same =>
          cases same
          exact ⟨written, rfl, recordStep_pending why last pending⟩
      · exact ⟨record, last, rfl⟩
  · exact ⟨record, last, rfl⟩

end Entries

/-- In every run, a record is collected only at a value for which a collect transaction under
its key succeeded, and no step changes the value of a pending record. -/
theorem collected_means_paid (g : Gateway) (pool : Pool) {c : Config Act ThreadId World Reply}
    (run : machine.Reach (boot g pool) c) :
    (∀ key record, c.shared.store.records.lookup key = some record →
      record.state = .collected → Paid c.shared.history record.key record.valueAggregate) ∧
    (∀ c', machine.Step c c' → ∀ key record, c.shared.store.records.lookup key = some record →
      record.state = .collectPending → ∃ record',
        c'.shared.store.records.lookup key = some record' ∧
        record'.valueAggregate = record.valueAggregate) := by
  have sound := boot_sound run
  constructor
  · intro key record found collected
    exact accountable_paid (boot_accountable run) ((sound.lastRecords key).symm.trans found)
      collected
  intro c' step key record found pending
  rw [sound.lastRecords] at found
  rw [(boot_sound (run.tail step)).lastRecords]
  rcases verified_entry ((boot_verified g pool).reach run) step with
    same | ⟨i, kind, grown, why⟩
  · exact ⟨record, by rw [same, found], rfl⟩
  · rw [grown]
    exact entry_pending why found pending

def collectPool : Pool := Sample.pool [Sample.start 1, Sample.collect]

/-- The record of a session opened at 1 is fetched, marked pending, paid and marked
collected. -/
def collectedOnce : Config Act ThreadId World Reply :=
  machine.play [Sample.whole 0, Sample.whole 1, Sample.serve 2 0, Sample.whole 1,
    Sample.serve 3 1, Sample.whole 1, Sample.serve 4 2] (boot Sample.gateway collectPool)

theorem collected_means_paid_once :
    ∃ key record, collectedOnce.shared.store.records.lookup key = some record ∧
      record.state = .collected ∧
      Paid collectedOnce.shared.history record.key record.valueAggregate := by
  let key := collectionMapKey ⟨"s", .zero, Sample.payer, Sample.serviceProvider, Sample.dataService⟩
  have state : (collectedOnce.shared.store.records.lookup key).map (·.state) =
      some .collected := by decide +kernel
  obtain ⟨record, found, collected⟩ := Option.map_eq_some_iff.mp state
  have paid := (collected_means_paid Sample.gateway collectPool
    (c := collectedOnce) (Machine.play_reach _ _)).1
  exact ⟨key, record, found, collected, paid key record found collected⟩

end Sdsce.Guarantees
