import Sdsce.Guarantees.Statements
import Sdsce.Theory.RelyGuarantee

/-!
# Reads of the accounting state

`SessionUpdateRAVAndBaseline` commits the RAV and its baseline together, but `SessionGet` reads
them with two statements. What it returns was stored together as long as no commit on the
session falls between the two.
-/
namespace Sdsce.Guarantees.ReadConsistency

open Sdsce.Theory Sdsce.Source
open Sdsce.Source.Psql hiding ThreadId machine Program run Reply start
open Sdsce.Guarantees.Statements

/-- The part of a session that an accepted RAV moves. -/
structure Accounting where
  currentRAV : Option SignedRAV
  baseline : Baseline
deriving DecidableEq

def accounting (s : Session) : Accounting where
  currentRAV := s.currentRAV
  baseline := ⟨s.baselineBlocks, s.baselineBytes, s.baselineReqs, s.baselineCost⟩

/-- The accounting state of a session in one version of the tables. -/
def storedAccounting (t : Tables) (id : String) : Option Accounting :=
  (t.sessions.lookup id).map fun row => ⟨(t.ravs.lookup id).map RavRow.toRepository, row.baseline⟩

/-- Some committed version of the database held exactly this. -/
def StoredTogether (db : Db) (id : String) (a : Accounting) : Prop :=
  ∃ t ∈ db.tables :: db.earlier, storedAccounting t id = some a

/-- The session whose accounting state a write is part of. -/
def sessionOf : Write → Option String
  | .baseline id _ _ => some id
  | .rav id _ => some id
  | .create .. | .session .. | .record .. => none

/-- A commit finds no `SessionGet` between the two reads of a session that it writes. -/
def apart (i : Psql.ThreadId) {β : Type} (a : DbAct β) (db : Db) : Bool :=
  match β, a with
  | _, .commit => (db.txs i).all fun w =>
    db.reading.entries.all fun entry => sessionOf w ≠ some entry.2.1
  | _, _ => true

/-! ## What a statement changes -/

/-- What a statement does to the committed tables and to the reads in progress. -/
inductive Change (i : Psql.ThreadId) (db : Db) : Db → Prop
  | other {db' : Db} (tables : db'.tables = db.tables) (earlier : db'.earlier = db.earlier)
      (reading : db'.reading = db.reading) : Change i db db'
  | started (id : String) (row : SessionRow) (found : db.tables.sessions.lookup id = some row) :
      Change i db (db.startReading i id row)
  | stopped : Change i db (db.stopReading i)
  | wrote (writes : List Write) {db' : Db}
      (tables : db'.tables = writes.foldl Tables.write db.tables)
      (earlier : db'.earlier = db.tables :: db.earlier) (reading : db'.reading = db.reading)
      (free : ∀ w ∈ writes, ∀ j id row, db.reading.lookup j = some (id, row) →
        sessionOf w ≠ some id) : Change i db db'

variable {i : Psql.ThreadId} {db db' : Db} {t : Tables} {w : Write} {id : String} {b : Baseline}

theorem apart_commit (ok : apart i .commit db = true) :
    ∀ w ∈ db.txs i, ∀ j id row, db.reading.lookup j = some (id, row) → sessionOf w ≠ some id := by
  intro w member j id row found
  have each := List.all_eq_true.mp (List.all_eq_true.mp ok w member)
  exact of_decide_eq_true (each ⟨j, (id, row)⟩ (AList.mem_lookup_iff.mp found))

/-- A statement outside a transaction leaves the accounting state alone. -/
theorem sessionOf_letThrough (through : LetThrough t w) : sessionOf w = none := by
  cases w with
  | create | session | record => rfl
  | baseline | rav => exact through.elim

theorem exec_change {β : Type} {a : DbAct β} {e : DbOracle} {b : β}
    (ran : (Psql.machine.restrict apart).exec i a e db = some (db', b)) : Change i db db' := by
  simp only [Machine.restrict] at ran
  split at ran
  · next ok =>
      cases exec_statement ran with
      | silent tables _ earlier reading | queued _ _ _ tables _ earlier reading =>
        exact .other tables earlier reading
      | started id row found => exact .started id row found
      | stopped => exact .stopped
      | wrote w _ through =>
        refine .wrote [w] rfl rfl rfl fun w' member j id row _ => ?_
        rw [List.mem_singleton.mp member, sessionOf_letThrough through]
        nofun
      | committed => exact .wrote (db.txs i) rfl rfl rfl (apart_commit ok)
      | rolledBack => exact .other rfl rfl rfl
  · cases ran

/-! ## A commit leaves other sessions alone -/

/-- The baseline that the row of a session holds. -/
def baselineOf (t : Tables) (id : String) : Option Baseline :=
  (t.sessions.lookup id).map SessionRow.baseline

theorem RowUpdate.apply_baseline (update : RowUpdate) (now : Time) (row : SessionRow) :
    (update.apply now row).baseline = row.baseline := by
  cases update <;> rfl

theorem write_baseline (other : sessionOf w ≠ some id) (here : baselineOf t id = some b) :
    baselineOf (t.write w) id = some b := by
  cases w with
  | create row =>
    simp only [Tables.write]
    split
    · exact here
    rename_i absent
    by_cases same : id = row.id
    · subst same
      rw [baselineOf, absent] at here
      cases here
    · rw [baselineOf, AList.lookup_insert_ne same]
      exact here
  | baseline id' updatedAt baseline =>
    simp only [Tables.write]
    split
    · exact here
    · rw [baselineOf, AList.lookup_insert_ne fun same => other (congrArg some same.symm)]
      exact here
  | session id' updatedAt update =>
    simp only [Tables.write]
    split
    · exact here
    rename_i row found
    by_cases same : id = id'
    · subst same
      rw [baselineOf, found, Option.map_some] at here
      simp only [baselineOf, AList.lookup_insert, Option.map_some, RowUpdate.apply_baseline]
      exact here
    · rw [baselineOf, AList.lookup_insert_ne same]
      exact here
  | rav | record => exact here

theorem writes_baseline {writes : List Write} (other : ∀ w ∈ writes, sessionOf w ≠ some id)
    (here : baselineOf t id = some b) : baselineOf (writes.foldl Tables.write t) id = some b := by
  induction writes generalizing t with
  | nil => exact here
  | cons w rest ih =>
    exact ih (fun w' member => other w' (List.mem_cons_of_mem w member))
      (write_baseline (other w List.mem_cons_self) here)

/-! ## The discipline of the calls -/

/-- A row that is being read still has the baseline that was read. -/
def ReadsCurrent (db : Db) : Prop :=
  ∀ i id row, db.reading.lookup i = some (id, row) → baselineOf db.tables id = some row.baseline

/-- What a thread keeps while others move: its own read, and every version so far. -/
structure Moves (i : Psql.ThreadId) (db db' : Db) : Prop where
  reading : db'.reading.lookup i = db.reading.lookup i
  versions : db.tables :: db.earlier ⊆ db'.tables :: db'.earlier

theorem Change.versions (change : Change i db db') :
    db.tables :: db.earlier ⊆ db'.tables :: db'.earlier := by
  cases change with
  | other tables earlier _ => rw [tables, earlier]; exact List.Subset.refl _
  | started | stopped => exact List.Subset.refl _
  | wrote _ _ earlier _ _ => rw [earlier]; exact List.subset_cons_self _ _

theorem Change.readsCurrent (change : Change i db db') (current : ReadsCurrent db) :
    ReadsCurrent db' := by
  intro j id row found
  cases change with
  | other tables _ reading =>
    rw [tables]
    exact current j id row (reading ▸ found)
  | started id' row' present =>
    by_cases same : j = i
    · subst same
      cases (AList.lookup_insert _).symm.trans found
      exact congrArg (Option.map SessionRow.baseline) present
    · exact current j id row ((AList.lookup_insert_ne same).symm.trans found)
  | stopped =>
    by_cases same : j = i
    · subst same
      cases (AList.lookup_erase _ _).symm.trans found
    · exact current j id row ((AList.lookup_erase_ne same).symm.trans found)
  | wrote writes tables _ reading free =>
    rw [reading] at found
    rw [tables]
    exact writes_baseline (fun w member => free w member j id row found)
      (current j id row found)

theorem Change.moves {j : Psql.ThreadId} (change : Change i db db') (different : j ≠ i) :
    Moves j db db' := by
  refine ⟨?_, change.versions⟩
  cases change with
  | other _ _ reading | wrote _ _ _ reading _ => rw [reading]
  | started id row _ => exact AList.lookup_insert_ne different
  | stopped => exact AList.lookup_erase_ne different

def discipline : Discipline (Psql.machine.restrict apart) where
  inv := ReadsCurrent
  rely := Moves
  may _ _ _ _ := True
  rely_refl _ _ := ⟨rfl, List.Subset.refl _⟩
  rely_trans first second :=
    ⟨second.reading.trans first.reading, List.Subset.trans first.versions second.versions⟩
  preserves current _ ran := (exec_change ran).readsCurrent current
  respects different _ _ ran := (exec_change ran).moves different

section Calls

variable {i : Psql.ThreadId}

variable {id : String} {row : SessionRow}

theorem together_stable {a : Accounting} : discipline.Stable i (StoredTogether · id a) := by
  rintro db db' _ _ moved ⟨t, member, stored⟩
  exact ⟨t, moved.versions member, stored⟩

theorem reading_stable : discipline.Stable i (fun db => db.reading.lookup i = some (id, row)) :=
  fun _ _ _ _ moved found => moved.reading.trans found

/-- The second read meets the baseline that the first one has seen. -/
theorem readsCurrent_together {db : Db} (current : ReadsCurrent db)
    (found : db.reading.lookup i = some (id, row)) :
    StoredTogether db id ⟨(db.tables.ravs.lookup id).map RavRow.toRepository, row.baseline⟩ := by
  obtain ⟨now, present, baseline⟩ := Option.map_eq_some_iff.mp (current i id row found)
  refine ⟨db.tables, List.mem_cons_self, ?_⟩
  rw [storedAccounting, present, Option.map_some, baseline]

/-- What the answer of `session/get_rav.sql` makes of a session. -/
def ravAnswer : Except DbError RavRow → Option (Option SignedRAV)
  | .ok row => some (some row.toRepository)
  | .error .notFound => some none
  | .error _ => none

theorem getRav_triple (id : String) (row : SessionRow) :
    discipline.Triple i (fun db => db.reading.lookup i = some (id, row)) (Psql.run (.getRav id))
      (fun r db => ∀ rav ∈ ravAnswer r, StoredTogether db id ⟨rav, row.baseline⟩) := by
  refine .perform reading_stable
    (fun r => fun db db' cur cur' moved here rav answer =>
      together_stable db db' cur cur' moved (here rav answer)) (fun _ _ _ => trivial) ?_
  intro e db db' r current found ran rav answer
  have together := readsCurrent_together current found
  change db.exec i (.getRav id) e = _ at ran
  simp only [Db.exec] at ran
  split at ran
  · cases ran
    cases answer
  · next absent =>
      cases ran
      cases answer
      rw [absent] at together
      exact together
  · next ravRow _ present =>
      cases ran
      cases answer
      rw [present] at together
      exact together

theorem getSession_triple (id : String) :
    discipline.Triple i (fun _ => True) (Psql.run (.getSession id))
      (fun r db => ∀ row, r = .ok row → db.reading.lookup i = some (id, row)) := by
  refine .perform (fun _ _ _ _ _ h => h)
    (fun r => fun db db' _ _ moved here row answer => moved.reading.trans (here row answer))
    (fun _ _ _ => trivial) ?_
  rintro e db db' r _ _ ran row rfl
  change db.exec i (.getSession id) e = _ at ran
  simp only [Db.exec] at ran
  split at ran
  · cases ran
  · cases ran
  · cases ran
    exact AList.lookup_insert _

theorem sessionGet_triple (id : String) :
    discipline.Triple i (fun _ => True) (Psql.sessionGet id)
      (fun r db => ∀ s, r = .ok s → StoredTogether db id (accounting s)) := by
  refine .bind (getSession_triple id) fun r => ?_
  cases r with
  | error err =>
    refine .ret_of_post fun db _ s same => ?_
    cases same
  | ok row =>
    refine .bind ((getRav_triple id row).conseq
      (fun _ _ here => here row rfl) fun _ _ _ h => h) fun answer => ?_
    -- what the second read has settled stays settled
    have kept : discipline.Stable i fun db =>
        ∀ rav ∈ ravAnswer answer, StoredTogether db id ⟨rav, row.baseline⟩ :=
      fun db db' cur cur' moved here rav found =>
        together_stable db db' cur cur' moved (here rav found)
    match answer with
    | .ok ravRow =>
      refine .ret kept fun db _ here s same => ?_
      cases same
      exact here _ rfl
    | .error .notFound =>
      refine .ret kept fun db _ here s same => ?_
      cases same
      exact here _ rfl
    | .error .collectionConflict | .error .invalidCollectionTransition | .error (.failed _) =>
      refine .ret_of_post fun db _ s same => ?_
      cases same

end Calls

/-- What a finished call has established. -/
def post (ops : Psql.ThreadId → Op) (i : Psql.ThreadId) (reply : Psql.Reply) (db : Db) : Prop :=
  ∀ id s, ops i = .sessionGet id → reply = .session (.ok s) → StoredTogether db id (accounting s)

theorem program_triple (ops : Psql.ThreadId → Op) (i : Psql.ThreadId) :
    discipline.Triple i (fun _ => True) (ops i).program (post ops i) := by
  cases op : ops i with
  | sessionGet id =>
    refine .bind (sessionGet_triple id) fun r => ?_
    refine .ret ?_ ?_
    · exact fun db db' cur cur' moved here s found =>
        together_stable db db' cur cur' moved (here s found)
    intro db _ here id' s same reply
    rw [op] at same
    cases same
    cases reply
    exact here s rfl
  | sessionUpdateRAVAndBaseline id rav baseline =>
    refine (Discipline.Triple.of_permissive (fun _ _ _ => trivial) _).conseq (fun _ _ h => h)
      fun reply db _ _ id' s same => ?_
    rw [op] at same
    cases same

theorem start_verified (tables : Tables) (ops : Psql.ThreadId → Op) :
    discipline.Verified (post ops) (Psql.start tables ops) where
  inv := fun i id row found => by simp [Psql.start] at found
  threads i := program_triple ops i _ (fun i id row found => by simp [Psql.start] at found) trivial

/-- In every run in which no commit on a session falls between the two reads of a `SessionGet`
on it, `SessionGet` returns an accounting state that one committed version held. -/
theorem session_read_together (tables : Tables) (ops : Psql.ThreadId → Op)
    {c : Config DbAct Psql.ThreadId Db Psql.Reply}
    (run : (Psql.machine.restrict apart).Reach (Psql.start tables ops) c)
    {i : Psql.ThreadId} {id : String}
    {s : Session} (op : ops i = .sessionGet id)
    (returned : c.threads i = .ret (.session (.ok s))) :
    StoredTogether c.shared id (accounting s) :=
  ((start_verified tables ops).reach run).returned returned id s op rfl

/-! ## A read beside a commit -/

instance (db : Db) (id : String) (a : Accounting) : Decidable (StoredTogether db id a) :=
  inferInstanceAs (Decidable (∃ t ∈ db.tables :: db.earlier, storedAccounting t id = some a))

/-- A RAV between the parties of the session below. -/
def voucher (value : Int) : SignedRAV where
  message := ⟨.zero, List.replicate 20 1, List.replicate 20 2, List.replicate 20 3, 0, value, []⟩
  signature := ⟨27 :: List.replicate 64 1, rfl⟩

/-- An active session that owes for two blocks. -/
def owingRow : SessionRow where
  id := "s"
  createdAt := 0
  updatedAt := 0
  lastKeepAlive := 0
  status := .active
  metadata := ∅
  endedAt := none
  endReason := .unspecified
  payer := List.replicate 20 1
  receiver := List.replicate 20 2
  dataService := List.replicate 20 3
  blocksProcessed := 2
  bytesTransferred := 0
  requests := 0
  totalCost := 2
  baseline := ⟨0, 0, 0, 0⟩

def owingTables : Tables where
  sessions := (∅ : AList fun _ : String => SessionRow).insert "s" owingRow
  ravs := (∅ : AList fun _ : String => RavRow).insert "s" ⟨voucher 1, 0⟩

/-- Thread 0 reads the session; every other thread stores the RAV that pays for the blocks. -/
def readAndPay : Psql.ThreadId → Op
  | 0 => .sessionGet "s"
  | _ => .sessionUpdateRAVAndBaseline "s" (some (voucher 3)) ⟨2, 0, 0, 2⟩

/-- The session that thread `i` has been answered. -/
def answered (c : Config DbAct Psql.ThreadId Db Psql.Reply) (i : Psql.ThreadId) : Option Session :=
  match (c.threads i).result with
  | some (.session (.ok s)) => some s
  | _ => none

theorem answered_returned {c : Config DbAct Psql.ThreadId Db Psql.Reply} {s : Session}
    (h : answered c i = some s) : c.threads i = .ret (.session (.ok s)) := by
  unfold answered at h
  split at h
  · next s' finished =>
      cases h
      exact Prog.result_eq_some finished
  · cases h

/-- The update is through before the read begins. -/
def readAfter : Config DbAct Psql.ThreadId Db Psql.Reply :=
  (Psql.machine.restrict apart).play [(1, {}, 20), (0, {}, 20)] (Psql.start owingTables readAndPay)

theorem session_read_together_after : ∃ s, answered readAfter 0 = some s ∧
    accounting s = ⟨some (voucher 3), ⟨2, 0, 0, 2⟩⟩ ∧
    StoredTogether readAfter.shared "s" (accounting s) := by
  have read : (answered readAfter 0).map accounting = some ⟨some (voucher 3), ⟨2, 0, 0, 2⟩⟩ := by
    decide +kernel
  obtain ⟨s, got, whole⟩ := Option.map_eq_some_iff.mp read
  exact ⟨s, got, whole, session_read_together owingTables readAndPay
    ((Psql.machine.restrict apart).play_reach _ _) rfl (answered_returned got)⟩

/-- The update commits between the two reads: the new RAV comes with the old baseline, and the
blocks that it has paid for look unpaid. -/
theorem session_read_torn :
    ¬ ∀ (tables : Tables) (ops : Psql.ThreadId → Op) (c : Config DbAct Psql.ThreadId Db Psql.Reply)
      (i : Psql.ThreadId) (id : String) (s : Session),
      Psql.machine.Reach (Psql.start tables ops) c →
        ops i = .sessionGet id → c.threads i = .ret (.session (.ok s)) →
        StoredTogether c.shared id (accounting s) := by
  intro consistent
  have read : (answered (Psql.machine.play [(0, {}, 1), (1, {}, 20), (0, {}, 20)]
      (Psql.start owingTables readAndPay)) 0).map accounting =
        some ⟨some (voucher 3), ⟨0, 0, 0, 0⟩⟩ := by
    decide +kernel
  obtain ⟨s, got, torn⟩ := Option.map_eq_some_iff.mp read
  have together := consistent owingTables readAndPay _ 0 "s" s (Psql.machine.play_reach _ _) rfl
    (answered_returned got)
  rw [torn] at together
  revert together
  decide +kernel

end Sdsce.Guarantees.ReadConsistency
