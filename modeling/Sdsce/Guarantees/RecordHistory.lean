import Sdsce.Guarantees.CollectedPaid

/-!
# Where collection records come from and how they change

Acceptances, operator calls and collectors write the records of the provider concurrently. Each
record stands for one RAV that its session has held, and whatever is written follows one diagram.
-/
namespace Sdsce.Guarantees.RecordHistory

open Sdsce.Theory Sdsce.Source

/-- The record stands for the same RAV. -/
structure Same (record after : CollectionRecord) : Prop where
  key : after.key = record.key
  signedRAV : after.signedRAV = record.signedRAV
  value : after.valueAggregate = record.valueAggregate
  createdAt : after.createdAt = record.createdAt

/-- A collector's change to a record. -/
inductive Marked (record after : CollectionRecord) : Prop
  | attempted (attemptable : record.state = .collectible ∨ record.state = .collectFailedRetryable)
      (state : after.state = .collectPending)
      (attempts : after.attemptCount = record.attemptCount + 1) (same : Same record after)
  | concluded (pending : record.state = .collectPending)
      (state : after.state = .collected ∨ after.state = .collectFailedRetryable)
      (attempts : after.attemptCount = record.attemptCount) (same : Same record after)

/-- What may follow what. -/
inductive Follows (before : Option CollectionRecord) (after : CollectionRecord) : Prop
  /-- A RAV is accepted where no record is pending; a collected one gives way to larger values. -/
  | accepted (state : after.state = .collectible) (attempts : after.attemptCount = 0)
      (earlier : ∀ record ∈ before, record.state ≠ .collectPending ∧
        record.createdAt = after.createdAt ∧
        (record.state = .collected → record.valueAggregate < after.valueAggregate))
  | marked (record : CollectionRecord) (last : before = some record) (how : Marked record after)

variable {g : Gateway} {pool : Pool} {h : History} {id : String} {rav : SignedRAV} {now : Time}
  {made record after : CollectionRecord} {before : Option CollectionRecord}

theorem marked_of_apply {mark : CollectionMark} {updatedAt : Time}
    (applied : mark.apply updatedAt record = .ok after) : Marked record after := by
  cases mark with
  | pending =>
    simp only [CollectionMark.apply] at applied
    split at applied
    · cases applied
    rename_i attemptable
    cases applied
    exact .attempted ((not_and_or.mp attemptable).imp not_not.mp not_not.mp) rfl rfl
      ⟨rfl, rfl, rfl, rfl⟩
  | collected | failedRetryable =>
    simp only [CollectionMark.apply] at applied
    split at applied
    · cases applied
    rename_i pending
    cases applied
    exact .concluded (not_not.mp pending) (by simp) rfl ⟨rfl, rfl, rfl, rfl⟩

theorem follows_of_next (new : newCollectionRecordFromRAV id rav now = .ok made)
    (next : nextCollectible made before = .ok after) :
    before = some after ∨ Follows before after := by
  have new : made.state = .collectible ∧ made.attemptCount = 0 := by
    unfold newCollectionRecordFromRAV at new
    split at new
    · cases new
    · cases new
      exact ⟨rfl, rfl⟩
  unfold nextCollectible at next
  split at next
  · cases next
    exact .inr (.accepted new.1 new.2 nofun)
  rename_i record
  split at next
  -- A pending record keeps out every RAV but its own.
  · split at next
    · cases next
      exact .inl rfl
    · cases next
  rename_i settled
  -- A collected record stays for its own value and keeps out smaller ones.
  split at next
  · cases next
    exact .inl rfl
  rename_i other
  split at next
  · cases next
  rename_i larger
  cases next
  refine .inr (.accepted new.1 new.2 fun _ member => ?_)
  cases member
  refine ⟨settled, rfl, fun collected => ?_⟩
  have differs := fun same => other ⟨collected, same⟩
  have least := fun less => larger ⟨collected, less⟩
  exact lt_of_le_of_ne (not_lt.mp least) differs

theorem follows_of_step {P : Policy} {key : String} (step : RecordStep P h key after) :
    lastRecord h key = some after ∨ Follows (lastRecord h key) after := by
  rcases step with ⟨id, rav, now, fresh, made, _, _, next⟩ | ⟨current, mark, _, last, applied, _⟩
  · exact follows_of_next made next
  · exact .inr (.marked current last (marked_of_apply applied))

/-- In every run of the provider, a step leaves the record under a key alone or replaces it by one
that may follow it; no record is ever deleted. -/
theorem records_follow {c c' : Config Act ThreadId World Reply}
    (run : machine.Reach (boot g pool) c) (step : machine.Step c c') (key : String) :
    c'.shared.store.records.lookup key = c.shared.store.records.lookup key ∨
      ∃ after, c'.shared.store.records.lookup key = some after ∧
        Follows (c.shared.store.records.lookup key) after := by
  rw [(boot_sound run).lastRecords, (boot_sound (run.tail step)).lastRecords]
  rcases verified_entry ((boot_verified g pool).reach run) step with same | ⟨i, kind, grown, why⟩
  · exact .inl (by rw [same])
  rw [grown, lastRecord_append]
  split
  · next written =>
      split
      · next same =>
          cases same
          exact (follows_of_step why).imp Eq.symm fun follows => ⟨written, rfl, follows⟩
      · exact .inl rfl
  · exact .inl rfl

def recordKey : String :=
  collectionMapKey ⟨"s", .zero, Sample.payer, Sample.serviceProvider, Sample.dataService⟩

/-- The operator call that marks the record pending is about to write it. -/
def attempting : Config Act ThreadId World Reply :=
  machine.play [Sample.whole 0, Sample.whole 1, Sample.serve 2 0, Sample.whole 1,
    (3, { call := 1 }, 6)] (boot Sample.gateway collectPool)

theorem records_follow_attempt : ∃ c' after, machine.Step attempting c' ∧
    c'.shared.store.records.lookup recordKey = some after ∧ after.attemptCount = 1 ∧
    Follows (attempting.shared.store.records.lookup recordKey) after := by
  have marks : (machine.stepAt attempting 3 { call := 1 }).map (fun c' =>
      ((c'.shared.store.records.lookup recordKey).map (·.attemptCount),
        (attempting.shared.store.records.lookup recordKey).map (·.attemptCount))) =
      some (some 1, some 0) := by decide +kernel
  obtain ⟨c', stepped, counts⟩ := Option.map_eq_some_iff.mp marks
  obtain ⟨written, earlier⟩ := Prod.mk.inj counts
  have step : machine.Step attempting c' := ⟨3, _, stepped⟩
  have run : machine.Reach (boot Sample.gateway collectPool) attempting := Machine.play_reach _ _
  rcases records_follow run step recordKey with same | ⟨after, found, follows⟩
  · rw [same, earlier] at written
    cases written
  · rw [found] at written
    exact ⟨c', after, step, found, Option.some.inj written, follows⟩

/-! ## Provenance -/

/-- The record is made of a RAV that its session has held; it is collectible until the first
attempt. -/
structure Traced (h : History) (record : CollectionRecord) : Prop where
  key : record.key = collectionKeyFromRAV record.key.sessionID record.signedRAV.message
  value : record.valueAggregate = record.signedRAV.message.valueAggregate
  held : ∃ session, Stored h record.key.sessionID session ∧
    session.currentRAV = some record.signedRAV
  attempts : record.attemptCount = 0 ↔ record.state = .collectible

namespace Traced

theorem append (traced : Traced h record) (event : Event) : Traced (h ++ [event]) record := by
  obtain ⟨session, stored, held⟩ := traced.held
  exact ⟨traced.key, traced.value, ⟨session, stored.append, held⟩, traced.attempts⟩

theorem same (traced : Traced h record) (same : Same record after)
    (attempts : after.attemptCount = 0 ↔ after.state = .collectible) : Traced h after := by
  obtain ⟨key, signedRAV, value, _⟩ := same
  refine ⟨?_, ?_, ?_, attempts⟩
  · rw [key, signedRAV]
    exact traced.key
  · rw [value, signedRAV]
    exact traced.value
  · rw [key, signedRAV]
    exact traced.held

theorem marked (traced : Traced h record) (marked : Marked record after) : Traced h after := by
  cases marked with
  | attempted _ state attempts kept => exact traced.same kept (by simp [state, attempts])
  | concluded pending state attempts kept =>
    refine traced.same kept ?_
    rw [attempts, traced.attempts, pending]
    rcases state with state | state <;> simp [state]

theorem fresh (new : newCollectionRecordFromRAV id rav now = .ok made)
    (held : lastRAV h id = some rav) (createdAt : Time) : Traced h { made with createdAt } := by
  obtain ⟨session, last, current⟩ := Option.bind_eq_some_iff.mp held
  unfold newCollectionRecordFromRAV at new
  split at new
  · cases new
  cases new
  exact ⟨rfl, rfl, ⟨session, lastSession_stored last, current⟩, by simp⟩

end Traced

/-- In every run of the provider, every record is made of a RAV that its session has held, that
some call has submitted and that names this provider. -/
theorem records_traced {c : Config Act ThreadId World Reply}
    (run : machine.Reach (boot g pool) c) {key : String}
    (found : c.shared.store.records.lookup key = some record) :
    Traced c.shared.history record ∧ (∃ i, Submits pool i record.signedRAV) ∧
      record.signedRAV.message.serviceProvider = g.serviceProvider := by
  have accountable := boot_accountable run
  have traced : Traced c.shared.history record :=
    accountable.record (fun traced => traced.append _) Traced.fresh
      (fun traced applied _ => traced.marked (marked_of_apply applied))
      ((boot_sound run).lastRecords key ▸ found)
  obtain ⟨session, stored, held⟩ := traced.held
  obtain ⟨i, kind, member, accepts⟩ := accountable.accepted stored held
  obtain ⟨submits, provider⟩ := accountable.vetted member accepts
  exact ⟨traced, ⟨i, submits⟩, provider⟩

theorem records_traced_paid : ∃ key record,
    collectedOnce.shared.store.records.lookup key = some record ∧ record.state = .collected ∧
    Traced collectedOnce.shared.history record := by
  have state : (collectedOnce.shared.store.records.lookup recordKey).map (·.state) =
      some .collected := by decide +kernel
  obtain ⟨record, found, collected⟩ := Option.map_eq_some_iff.mp state
  exact ⟨_, record, found, collected, (records_traced (Machine.play_reach _ _) found).1⟩

end Sdsce.Guarantees.RecordHistory
