import Sdsce.Guarantees.SessionHistory

/-!
# The settlement tuple of a session

The acceptance paths compare the parties of a RAV with those of the session, `SubmitRAV`
without the data service, and none of them looks at the collection ID. A session keeps to one
tuple, and so to one collection record, in the runs whose accepted RAVs agree on these two.
-/
namespace Sdsce.Guarantees

open Sdsce.Theory Sdsce.Source

/-- The accepted RAV has the collection ID of the RAV it replaces and, from `SubmitRAV`, the
data service of the session. -/
def KeepsTuple (pool : Pool) (i : ThreadId) (_ : History) : EventKind → Prop
  | .swapped _ session (.ravAndBaseline (some rav) ..) =>
    (∀ current ∈ session.currentRAV, rav.message.collectionID = current.message.collectionID) ∧
    (CallsSubmitRAV pool i → rav.message.dataService = session.dataService)
  | _ => True

/-- Every RAV that is accepted for a session which holds one settles under the tuple of that
one, and a session owns one collection record. -/
def OneTuple (w : World) : Prop :=
  (∀ before i id session rav blocks bytes reqs cost now after,
    w.history = before ++
      ⟨i, .swapped id session (.ravAndBaseline (some rav) blocks bytes reqs cost now)⟩ :: after →
    ∀ current, session.currentRAV = some current →
      collectionKeyFromRAV id rav.message = collectionKeyFromRAV id current.message) ∧
  (∀ key key' record record', w.store.records.lookup key = some record →
    w.store.records.lookup key' = some record' →
    record.key.sessionID = record'.key.sessionID → key = key')

/-- A state that a session went through settles under the tuple of the current one. -/
structure Agrees (g : Gateway) (current session : Session) : Prop where
  payer : session.payer = current.payer
  dataService : session.dataService = current.dataService
  rav : ∀ rav, session.currentRAV = some rav →
    rav.message.payer = current.payer ∧ rav.message.serviceProvider = g.serviceProvider ∧
    rav.message.dataService = current.dataService ∧
    ∃ held, current.currentRAV = some held ∧ rav.message.collectionID = held.message.collectionID

namespace Agrees

variable {g : Gateway} {current session session' : Session}

theorem key (agrees : Agrees g current session) (agrees' : Agrees g current session')
    {rav rav' : SignedRAV} (held : session.currentRAV = some rav)
    (held' : session'.currentRAV = some rav') (id : String) :
    collectionKeyFromRAV id rav.message = collectionKeyFromRAV id rav'.message := by
  obtain ⟨payer, provider, dataService, now, holds, collectionID⟩ := agrees.rav rav held
  obtain ⟨payer', provider', dataService', now', holds', collectionID'⟩ := agrees'.rav rav' held'
  rw [holds] at holds'
  cases holds'
  simp only [collectionKeyFromRAV, payer, payer', provider, provider', dataService, dataService',
    collectionID, collectionID']

/-- The parties of a session never change, so agreement outlives an update that keeps the
collection ID. -/
theorem update {old : Session} {u : SessionUpdate} (agrees : Agrees g old session)
    (keeps : ∀ held, old.currentRAV = some held → ∃ held', (u.apply old).currentRAV = some held' ∧
      held.message.collectionID = held'.message.collectionID) : Agrees g (u.apply old) session := by
  obtain ⟨payer, dataService⟩ := u.apply_parties old
  refine ⟨agrees.payer.trans payer.symm, agrees.dataService.trans dataService.symm, ?_⟩
  intro rav held
  obtain ⟨ravPayer, provider, ravDataService, now, holds, collectionID⟩ := agrees.rav rav held
  obtain ⟨now', holds', same⟩ := keeps now holds
  exact ⟨ravPayer.trans payer.symm, provider, ravDataService.trans dataService.symm, now', holds',
    collectionID.trans same⟩

/-- A committed RAV belongs to the parties of the session it is stored in. -/
theorem commit {pool : Pool} {i : ThreadId} {h : History} {id : String} {old : Session}
    {rav : SignedRAV} {blocks bytes reqs : UInt64} {cost : Int} (now : Time)
    (each : ∀ session, Stored h id session → Agrees g old session)
    (commits : Commits g pool i h id rav blocks bytes reqs cost)
    (submitted : CallsSubmitRAV pool i → rav.message.dataService = old.dataService) :
    Agrees g ((SessionUpdate.ravAndBaseline (some rav) blocks bytes reqs cost now).apply old)
      ((SessionUpdate.ravAndBaseline (some rav) blocks bytes reqs cost now).apply old) := by
  obtain ⟨seen, stored, payer, service⟩ := commits.parties
  have agrees := each seen stored
  refine ⟨rfl, rfl, fun rav' held => ?_⟩
  cases held
  refine ⟨payer.trans agrees.payer, commits.provider, ?_, rav, rfl, rfl⟩
  rcases service with mine | service
  · exact submitted mine
  · exact service.trans agrees.dataService

end Agrees

/-- Every state the session went through settles under one tuple. -/
def Settled (g : Gateway) (id : String) (h : History) (current : Session) : Prop :=
  ∀ session, Stored h id session → Agrees g current session

section Entries

variable {g : Gateway} {pool : Pool} {i : ThreadId} {h : History} {id : String}

theorem settled_created {session : Session} (absent : lastSession h session.id = none)
    (opened : Opened g pool i session) :
    Settled g session.id (h ++ [⟨i, .created session⟩]) session := by
  intro other stored
  rcases stored.of_append with before | now
  · obtain ⟨last, found⟩ := before.lastSession
    rw [absent] at found
    cases found
  · cases now
    refine ⟨rfl, rfl, fun rav held => ?_⟩
    obtain ⟨id, payer, dataService, initialRAV, now, rfl, vetted⟩ := opened
    obtain ⟨ravPayer, provider, service⟩ := checkInitialRAV_ok (vetted rav held).2
    exact ⟨ravPayer, provider, service, rav, held, rfl⟩

theorem settled_swapped {old : Session} {u : SessionUpdate} (last : lastSession h id = some old)
    (settled : Settled g id h old) (allowed : mayUpdate g pool i h id u)
    (keeps : KeepsTuple pool i h (.swapped id old u)) :
    Settled g id (h ++ [⟨i, .swapped id old u⟩]) (u.apply old) := by
  intro session stored
  cases sets : u.setsRAV with
  | false =>
    have same := u.apply_currentRAV sets old
    have still (session : Session) (before : Stored h id session) :
        Agrees g (u.apply old) session :=
      (settled session before).update fun held holds => ⟨held, same.trans holds, rfl⟩
    rcases stored.of_append with before | now
    · exact still session before
    · cases now
      have agrees := still old (lastSession_stored last)
      exact ⟨rfl, rfl, fun rav held => agrees.rav rav (same ▸ held)⟩
  | true =>
    obtain ⟨rav, blocks, bytes, reqs, cost, now, rfl, commits⟩ := mayUpdate_commits allowed sets
    rcases stored.of_append with before | now
    · exact (settled session before).update fun held holds =>
        ⟨rav, rfl, (keeps.1 held holds).symm⟩
    · cases now
      exact Agrees.commit _ settled commits keeps.2

theorem along_settled {session : Session}
    (along : Along (fun i h kind => Justified (providerPolicy g pool) i h kind ∧
      KeepsTuple pool i h kind) h)
    (last : lastSession h id = some session) : Settled g id h session := by
  refine along_session (J := Settled g id) ?_ ?_ ?_ along last
  · rintro h i session absent rfl opened
    exact settled_created absent opened
  · intro h i old u last settled allowed keeps
    exact settled_swapped last settled allowed keeps
  · intro h i kind session other settled s stored
    exact settled s (stored.of_other other)

/-- Every record settles a RAV that its session once held. -/
theorem accountable_record {P : Policy} (accountable : Accountable P h) {key : String}
    {record : CollectionRecord} (last : lastRecord h key = some record) :
    ∃ session rav, Stored h record.key.sessionID session ∧ session.currentRAV = some rav ∧
      record.key = collectionKeyFromRAV record.key.sessionID rav.message := by
  refine accountable.record (J := fun h record => ∃ session rav,
    Stored h record.key.sessionID session ∧ session.currentRAV = some rav ∧
      record.key = collectionKeyFromRAV record.key.sessionID rav.message) ?_ ?_ ?_ last
  · rintro h event record ⟨session, rav, stored, rest⟩
    exact ⟨session, rav, stored.mono (List.prefix_append _ _), rest⟩
  · intro h id rav now record made held createdAt
    obtain ⟨session, found, holds⟩ := Option.bind_eq_some_iff.mp held
    have key := (newCollectionRecordFromRAV_ok made).1
    refine ⟨session, rav, ?_, holds, ?_⟩
    · simp only [key]
      exact lastSession_stored found
    · simp only [key]
      rfl
  · rintro h current mark updatedAt record ⟨session, rav, stored, rest⟩ applied _
    rw [(CollectionMark.apply_ok applied).1]
    exact ⟨session, rav, stored, rest⟩

end Entries

/-- In every run whose accepted RAVs keep the collection ID, and the data service when they
come through `SubmitRAV`, each session keeps to one settlement tuple and one record. -/
theorem session_keeps_one_tuple (g : Gateway) (pool : Pool)
    {c : Config Act ThreadId World Reply}
    (run : ReachMeeting (KeepsTuple pool) (boot g pool) c) : OneTuple c.shared := by
  have sound := boot_sound run.reach
  have along := verified_along (boot_verified g pool) .nil run
  have accountable := boot_accountable run.reach
  constructor
  · intro before i id session rav blocks bytes reqs cost now after split current held
    rw [split, List.append_cons] at along
    have upTo := along.of_grown (List.prefix_append _ _)
    have written : lastSession (before ++ [⟨i, .swapped id session (.ravAndBaseline (some rav)
        blocks bytes reqs cost now)⟩]) id = some _ := lastSession_written rfl
    have settled := along_settled upTo written
    exact (settled _ (lastSession_stored written)).key
      (settled session (lastSession_stored upTo.last.1.1).append) rfl held id
  · intro key key' record record' found found' same
    obtain ⟨session, rav, stored, held, named⟩ :=
      accountable_record accountable ((sound.lastRecords key).symm.trans found)
    obtain ⟨session', rav', stored', held', named'⟩ :=
      accountable_record accountable ((sound.lastRecords key').symm.trans found')
    obtain ⟨current, last⟩ := stored.lastSession
    have settled := along_settled along last
    have tuple := (settled session stored).key (settled session' (same ▸ stored')) held held'
      record.key.sessionID
    calc key = collectionMapKey record.key := (sound.recordKeys key record found).symm
      _ = collectionMapKey record'.key := by rw [named, named', tuple, same]
      _ = key' := sound.recordKeys key' record' found'

instance (pool : Pool) (i : ThreadId) (h : History) (kind : EventKind) :
    Decidable (KeepsTuple pool i h kind) :=
  match kind with
  | .swapped _ session u =>
    match u with
    | .ravAndBaseline (some rav) .. => inferInstanceAs (Decidable
        ((∀ current ∈ session.currentRAV, rav.message.collectionID = current.message.collectionID) ∧
        (CallsSubmitRAV pool i → rav.message.dataService = session.dataService)))
    | .ravAndBaseline none .. | .touch .. | .runtimeState .. | .applyUsage .. => isTrue trivial
  | .created _ | .recordStored .. | .note _ => isTrue trivial

/-- A session opened at 1 is raised to 5 through `SubmitRAV`. -/
def raisedPool : Pool := Sample.pool [Sample.start 1, Sample.submit (Sample.rav 5)]

def raised : Config Act ThreadId World Reply :=
  machine.play [Sample.whole 0, Sample.whole 1] (boot Sample.gateway raisedPool)

theorem session_keeps_one_tuple_raised :
    ReachMeeting (KeepsTuple raisedPool) (boot Sample.gateway raisedPool) raised ∧
      raised.shared.store.records.entries.length = 1 ∧ OneTuple raised.shared := by
  have keeps : Along (KeepsTuple raisedPool) raised.shared.history :=
    Along.of_entries (by decide +kernel)
  have run : ReachMeeting (KeepsTuple raisedPool) (boot Sample.gateway raisedPool) raised :=
    verified_meeting (boot_verified _ _) (Machine.play_reach _ _) keeps
  exact ⟨run, by decide +kernel, session_keeps_one_tuple Sample.gateway raisedPool run⟩

/-- The same with a RAV for another collection. -/
def movedPool : Pool :=
  Sample.pool [Sample.start 1,
    Sample.submit { Sample.rav 5 with collectionId := List.replicate 32 1 }]

def moved : Config Act ThreadId World Reply :=
  machine.play [Sample.whole 0, Sample.whole 1] (boot Sample.gateway movedPool)

/-- `SubmitRAV` accepts a RAV for another collection, and the session owns two records. -/
theorem session_owns_two_records :
    ¬ ∀ (g : Gateway) (pool : Pool) (c : Config Act ThreadId World Reply),
      machine.Reach (boot g pool) c → OneTuple c.shared := by
  intro one
  have unique := (one Sample.gateway movedPool moved (Machine.play_reach _ _)).2
  let key (byte : UInt8) := collectionMapKey ⟨"s", ⟨List.replicate 32 byte, by simp⟩,
    Sample.payer, Sample.serviceProvider, Sample.dataService⟩
  have both : (moved.shared.store.records.lookup (key 0)).map (·.key.sessionID) = some "s" ∧
      (moved.shared.store.records.lookup (key 1)).map (·.key.sessionID) = some "s" := by
    decide +kernel
  obtain ⟨first, second⟩ := both
  obtain ⟨record, found, named⟩ := Option.map_eq_some_iff.mp first
  obtain ⟨record', found', named'⟩ := Option.map_eq_some_iff.mp second
  have same := unique _ _ record record' found found' (named.trans named'.symm)
  exact absurd same (by decide +kernel)

end Sdsce.Guarantees
