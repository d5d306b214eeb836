import Sdsce.Source.Psql

/-!
# What a statement changes

Every statement of the PostgreSQL repository said once: what it does to the committed tables, to
the writes that its transaction keeps back and to the reads in progress. Locks are not followed
further.
-/
namespace Sdsce.Guarantees.Statements

open Sdsce.Theory Sdsce.Source
open Sdsce.Source.Psql hiding ThreadId machine Program run Reply start

/-- Every row lets the update through. -/
def Unconditional : Write → Prop
  | .session _ _ update => ∀ row, update.applies row = true
  | _ => True

/-- The row that is updated lets the update through. -/
def LetThrough (t : Tables) : Write → Prop
  | .session id _ update => ∃ row, t.sessions.lookup id = some row ∧ update.applies row = true
  | .record _ _ => True
  | .create row => t.sessions.lookup row.id = none
  | .baseline .. | .rav .. => False

/-- What a statement on `sessions` writes is what it was given. -/
def Makes {β : Type} : DbAct β → Write → Prop
  | .createSession row, .create row' | .createSessionTx row, .create row' => row' = row
  | .updateSession _ id update, .session id' _ update' => id' = id ∧ update' = update
  | .applyUsage id blocks bytes requests cost, .session id' _ update =>
    id' = id ∧ update = .usage blocks bytes requests cost
  | _, .create _ | _, .session .. => False
  | _, _ => True

/-- The effect of a statement of thread `i`. -/
inductive Statement (i : Psql.ThreadId) (db : Db) : {β : Type} → DbAct β → Db → Prop
  | silent {β : Type} {a : DbAct β} {db' : Db} (tables : db'.tables = db.tables)
      (txs : db'.txs = db.txs) (earlier : db'.earlier = db.earlier)
      (reading : db'.reading = db.reading) : Statement i db a db'
  | started (id : String) (row : SessionRow) (found : db.tables.sessions.lookup id = some row) :
      Statement i db (.getSession id) (db.startReading i id row)
  | stopped (id : String) : Statement i db (.getRav id) (db.stopReading i)
  | wrote {β : Type} {a : DbAct β} (w : Write) (made : Makes a w)
      (through : LetThrough db.tables w) : Statement i db a (db.applyNow w)
  | queued {β : Type} {a : DbAct β} {db' : Db} (w : Write) (made : Makes a w)
      (unconditional : Unconditional w) (tables : db'.tables = db.tables)
      (txs : db'.txs = Function.update db.txs i (db.txs i ++ [w]))
      (earlier : db'.earlier = db.earlier) (reading : db'.reading = db.reading) :
      Statement i db a db'
  | committed : Statement i db .commit ((db.applyCommit i).closeTx i)
  | rolledBack : Statement i db .rollback (db.closeTx i)

theorem Statement.idle {i : Psql.ThreadId} {db : Db} {β : Type} {a : DbAct β} :
    Statement i db a db :=
  .silent rfl rfl rfl rfl

/-- One case for each way a statement can go; a statement that waits for a lock does not happen. -/
theorem exec_statement {i : Psql.ThreadId} {β : Type} {a : DbAct β} {e : DbOracle} {db db' : Db}
    {b : β} (ran : db.exec i a e = some (db', b)) : Statement i db a db' := by
  cases a with
  | now =>
    cases ran
    exact .idle
  | createSession row =>
    simp only [Db.exec] at ran
    repeat' split at ran
    all_goals cases ran
    · exact .idle
    · exact .idle
    · next absent _ _ => exact .wrote (.create row) rfl absent
  | createSessionTx row =>
    simp only [Db.exec] at ran
    repeat' split at ran
    all_goals cases ran
    · exact .idle
    · exact .idle
    · exact .queued (.create row) rfl trivial rfl rfl rfl rfl
  | getSession id =>
    simp only [Db.exec] at ran
    repeat' split at ran
    all_goals cases ran
    · exact .idle
    · exact .idle
    · next row _ found => exact .started id row found
  | getRav id =>
    simp only [Db.exec] at ran
    split at ran <;> (cases ran; exact .stopped id)
  | updateSession statement id update =>
    simp only [Db.exec] at ran
    repeat' split at ran
    all_goals cases ran
    · exact .idle
    · exact .idle
    · next row found _ _ applies => exact .wrote _ ⟨rfl, rfl⟩ ⟨row, found, applies⟩
    · exact .idle
  | execCollectible | markCollection =>
    simp only [Db.exec] at ran
    repeat' split at ran
    all_goals cases ran
    · exact .idle
    · exact .idle
    · exact .idle
    · exact .wrote _ trivial trivial
  | listSessions | getCollection | getCollectionTx | beginTx | addUsage =>
    simp only [Db.exec] at ran
    split at ran <;> (cases ran; exact .idle)
  | updateRavBaseline id updatedAt baseline =>
    simp only [Db.exec] at ran
    repeat' split at ran
    all_goals cases ran
    · exact .idle
    · exact .idle
    · exact .queued (.baseline id e.time baseline) trivial trivial rfl rfl rfl rfl
  | upsertRav id row =>
    simp only [Db.exec] at ran
    repeat' split at ran
    all_goals cases ran
    · exact .idle
    · exact .queued (.rav id row) trivial trivial rfl rfl rfl rfl
  | upsertCollectible fresh =>
    simp only [Db.exec] at ran
    repeat' split at ran
    all_goals cases ran
    · exact .idle
    · exact .silent rfl rfl rfl rfl
    · exact .queued (.record _ _) trivial trivial rfl rfl rfl rfl
  | applyUsage id blocks bytes requests cost =>
    simp only [Db.exec] at ran
    repeat' split at ran
    all_goals cases ran
    · exact .idle
    · exact .idle
    · exact .queued (.session id e.time (.usage blocks bytes requests cost)) ⟨rfl, rfl⟩
        (fun _ => rfl) rfl rfl rfl rfl
    · exact .idle
  | commit =>
    simp only [Db.exec] at ran
    repeat' split at ran
    all_goals cases ran
    · exact .committed
    · exact .committed
    · exact .idle
  | rollback =>
    cases ran
    exact .rolledBack

/-- What holds of every write that is kept back and of every write a statement makes is kept. -/
theorem Statement.kept_back {P : Write → Prop} {i : Psql.ThreadId} {β : Type} {a : DbAct β}
    {db db' : Db} (statement : Statement i db a db')
    (new : ∀ w, Makes a w → Unconditional w → P w) (old : ∀ j, ∀ w ∈ db.txs j, P w) :
    ∀ j, ∀ w ∈ db'.txs j, P w := by
  have replaced {ws : List Write} (kept : ∀ w ∈ ws, P w) :
      ∀ j, ∀ w ∈ Function.update db.txs i ws j, P w :=
    (Function.forall_update_iff db.txs fun _ ws => ∀ w ∈ ws, P w).mpr ⟨kept, fun j _ => old j⟩
  cases statement with
  | silent _ txs _ _ => exact txs ▸ old
  | started | stopped | wrote => exact old
  | queued w made unconditional _ txs _ _ =>
    rw [txs]
    refine replaced fun w' member => ?_
    rcases List.mem_append.mp member with before | last
    · exact old i w' before
    · exact List.mem_singleton.mp last ▸ new w made unconditional
  | committed | rolledBack => exact replaced (List.forall_mem_nil P)

end Sdsce.Guarantees.Statements
