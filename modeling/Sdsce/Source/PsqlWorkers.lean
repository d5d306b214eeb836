import Sdsce.Source.Psql
import Sdsce.Source.Workers

/-!
# Worker reservations in PostgreSQL

`WorkerCreateAndReserveQuota` of `provider/repository/psql/worker.go` with the statements it runs. A
transaction keeps its writes to itself until `Commit`, which applies all of them or, when it reports
an error, none: unlike with the sessions, the reply to a `Commit` is never lost. It holds the rows
of `quota_usage` that it has written or selected for update and the keys that it has inserted into
`workers`; a statement that meets a lock of another transaction waits and then sees what was
committed.

A statement fails when the connection does, when a constraint is violated that is not spelled out
here, or when a column cannot hold a value. The rows that a query has answered may fail to be read.
-/
namespace Sdsce.Source.PsqlWorkers

open Sdsce.Theory Sdsce.Source.Workers

/-- `fromWorker`: the row as its columns hold it. -/
def fromWorker (worker : Worker) : Worker :=
  { worker with
    payer := Psql.newAddress worker.payer
    createdAt := Psql.timestamptz worker.createdAt }

/-! ## The database -/

/-- The committed rows of `workers` and `quota_usage`. -/
structure Tables where
  workers : AList (fun _ : String => Worker) := ∅
  quotas : AList (fun _ : Address => QuotaUsage) := ∅

inductive Write where
  | worker (row : Worker)
  | quota (payer : Address) (row : QuotaUsage)

def Tables.write (t : Tables) : Write → Tables
  | .worker row => { t with workers := t.workers.insert row.key row }
  | .quota payer row => { t with quotas := t.quotas.insert payer row }

/-- What goes wrong while the rows of a query are read: in `Next`, in `StructScan` or in `Close`. -/
inductive RowsFault where
  | next (err : String)
  | scan (err : String)
  | close (err : String)

/-- The first row of a query, and what meets its reader. -/
structure QueryRows (α : Type) where
  row : Option α
  fault : Option RowsFault

/-- The committed tables, what each open transaction has written, and the rows and keys that are
locked. `committed` is a history variable: the transactions that have been committed. -/
structure Db where
  tables : Tables
  txs : ThreadId → List Write := fun _ => []
  quotaLocks : Address → Option ThreadId := fun _ => none
  keyLocks : String → Option ThreadId := fun _ => none
  committed : List ThreadId := []

/-- The statements of `WorkerCreateAndReserveQuota`, and the end of its transaction. -/
inductive DbAct : Type → Type
  | beginTx : DbAct (Except String Unit)
  | ensureQuota (payer : Address) : DbAct (Except String Unit)
  | getForUpdate (payer : Address) : DbAct (Except String (QueryRows QuotaUsage))
  | createWorker (row : Worker) : DbAct (Except String (QueryRows Worker))
  | incrementQuota (payer : Address) (sessions workers : Int) :
      DbAct (Except String (QueryRows QuotaUsage))
  | commit : DbAct (Except String Unit)
  | rollback : DbAct Unit

/-- What the clock of the database and the connection answer. -/
structure DbOracle where
  time : Time := 0
  error : Option String := none
  fault : Option RowsFault := none
deriving Inhabited

namespace Db

/-- The tables as the transaction of thread `i` sees them. -/
def view (i : ThreadId) (db : Db) : Tables := (db.txs i).foldl Tables.write db.tables

def addWrite (i : ThreadId) (w : Write) (db : Db) : Db :=
  { db with txs := Function.update db.txs i (db.txs i ++ [w]) }

def lockQuota (i : ThreadId) (payer : Address) (db : Db) : Db :=
  { db with quotaLocks := Function.update db.quotaLocks payer (some i) }

def lockKey (i : ThreadId) (key : String) (db : Db) : Db :=
  { db with keyLocks := Function.update db.keyLocks key (some i) }

/-- The transaction of thread `i` is over. -/
def closeTx (i : ThreadId) (db : Db) : Db :=
  { db with
    txs := Function.update db.txs i []
    quotaLocks := fun payer => if db.quotaLocks payer = some i then none else db.quotaLocks payer
    keyLocks := fun key => if db.keyLocks key = some i then none else db.keyLocks key }

def applyCommit (i : ThreadId) (db : Db) : Db :=
  { db with tables := db.view i, committed := db.committed ++ [i] }

/-- The row of `quota_usage` that `ON CONFLICT DO NOTHING` leaves alone or inserts. -/
def zeroQuota (payer : Address) (now : Time) : QuotaUsage := ⟨payer, 0, 0, now⟩

/-- `quota/increment.sql`. -/
def incremented (payer : Address) (sessions workers : Int) (now : Time) :
    Option QuotaUsage → QuotaUsage
  | none => ⟨payer, sessions, workers, now⟩
  | some current => { current with
      activeSessions := current.activeSessions + sessions
      activeWorkers := current.activeWorkers + workers
      lastUpdated := now }

/-- What the primary key of `workers` answers to a second row. -/
def duplicateKey : String := "pq: duplicate key value violates unique constraint \"workers_pkey\""

/-- Another transaction holds the lock. -/
def heldByOther (i : ThreadId) (lock : Option ThreadId) : Bool :=
  match lock with
  | none => false
  | some j => j ≠ i

/-- One statement of thread `i`. -/
def exec (i : ThreadId) {β : Type} (a : DbAct β) (e : DbOracle) (db : Db) : Option (Db × β) :=
  match β, a with
  | _, .beginTx =>
    match e.error with
    | some err => some (db, .error err)
    | none => some (db, .ok ())
  | _, .ensureQuota payer =>
    match e.error with
    | some err => some (db, .error err)
    | none =>
      match (db.view i).quotas.lookup payer with
      | some _ => some (db, .ok ())
      | none =>
        -- another transaction has inserted the row and may yet be rolled back
        if heldByOther i (db.quotaLocks payer) then none
        else some ((db.lockQuota i payer).addWrite i
          (.quota payer (zeroQuota payer e.time)), .ok ())
  | _, .getForUpdate payer =>
    match e.error with
    | some err => some (db, .error err)
    | none =>
      if heldByOther i (db.quotaLocks payer) then none
      else
        match (db.view i).quotas.lookup payer with
        | none => some (db, .ok ⟨none, e.fault⟩)
        | some row => some (db.lockQuota i payer, .ok ⟨some row, e.fault⟩)
  | _, .createWorker row =>
    match e.error with
    | some err => some (db, .error err)
    | none =>
      match (db.view i).workers.lookup row.key with
      | some _ => some (db, .error duplicateKey)
      | none =>
        if heldByOther i (db.keyLocks row.key) then none
        else some ((db.lockKey i row.key).addWrite i (.worker row), .ok ⟨some row, e.fault⟩)
  | _, .incrementQuota payer sessions workers =>
    match e.error with
    | some err => some (db, .error err)
    | none =>
      if heldByOther i (db.quotaLocks payer) then none
      else
        let next := incremented payer sessions workers e.time
          ((db.view i).quotas.lookup payer)
        some ((db.lockQuota i payer).addWrite i (.quota payer next), .ok ⟨some next, e.fault⟩)
  | _, .commit =>
    match e.error with
    | some err => some (db, .error err)
    | none => some ((db.applyCommit i).closeTx i, .ok ())
  | _, .rollback => some (db.closeTx i, ())

end Db

def machine : Machine DbAct ThreadId DbOracle Db where
  exec i := Db.exec i

abbrev Program := Prog DbAct

def run {β : Type} (a : DbAct β) : Program β := .perform a

/-! ## The method -/

/-- The errors of `WorkerCreateAndReserveQuota`; `ErrQuotaExceeded` comes with the counters. -/
inductive ReserveFailure where
  | quotaExceeded (current : QuotaUsage)
  | failed (text : String)

/-- `Next`, `StructScan`, `Err` and `Close` on the rows of a query, and the check for a row. -/
def QueryRows.read {α : Type} (scanning closing missing : String) (rows : QueryRows α) :
    Except String α :=
  match rows.fault, rows.row with
  | some (.next err), _ => .error (scanning ++ ": " ++ err)
  | some (.scan err), some _ => .error (scanning ++ ": " ++ err)
  | some (.close err), _ => .error (closing ++ ": " ++ err)
  | _, none => .error missing
  | none, some row => .ok row

/-- The rows of `worker/create.sql`, which are not scanned. -/
def QueryRows.readCreated {α : Type} (rows : QueryRows α) : Except String Unit :=
  match rows.fault, rows.row with
  | some (.next err), _ => .error ("scan worker create rows: " ++ err)
  | some (.close err), _ => .error ("close worker create rows: " ++ err)
  | _, none => .error "worker create returned no row"
  | _, some _ => .ok ()

/-- From the increment of the counter on. -/
def countAndCommit (payer : Address) : Program (Except ReserveFailure QuotaUsage) := do
  match ← run (.incrementQuota payer 0 1) with
  | .error err => return .error (.failed err)
  | .ok rows =>
    match rows.read "scan updated quota row" "close updated quota row result"
        "quota reservation update returned no row" with
    | .error err => return .error (.failed err)
    | .ok updated =>
      match ← run .commit with
      | .error err =>
        return .error (.failed ("commit worker reservation transaction: " ++ err))
      | .ok () => return .ok updated

/-- The statements between `BeginTxx` and the deferred `Rollback`. -/
def reserveInTx (worker : Worker) (maxWorkers : Int) :
    Program (Except ReserveFailure QuotaUsage) := do
  let payer := Psql.newAddress worker.payer
  match ← run (.ensureQuota payer) with
  | .error err => return .error (.failed ("ensure quota row: " ++ err))
  | .ok () =>
    match ← run (.getForUpdate payer) with
    | .error err => return .error (.failed err)
    | .ok rows =>
      match rows.read "scan quota row" "close quota row result"
          "quota row missing after ensure" with
      | .error err => return .error (.failed err)
      | .ok current =>
        if current.activeWorkers + 1 > maxWorkers then return .error (.quotaExceeded current)
        else
          match ← run (.createWorker (fromWorker worker)) with
          | .error err => return .error (.failed ("failed worker/create.sql: " ++ err))
          | .ok rows =>
            match rows.readCreated with
            | .error err => return .error (.failed err)
            | .ok () => countAndCommit payer

def workerCreateAndReserveQuota (worker : Worker) (maxWorkers : Int) :
    Program (Except ReserveFailure QuotaUsage) :=
  if worker.key = "" then return .error (.failed "worker key must not be empty")
  else if maxWorkers < 0 then return .error (.failed "max workers must not be negative")
  else do
    match ← run .beginTx with
    | .error err => return .error (.failed err)
    | .ok () =>
      match ← reserveInTx worker maxWorkers with
      | .ok quota => return .ok quota
      | .error err =>
        run .rollback
        return .error err

/-- Committed tables and one call on each thread. -/
def start (tables : Tables) (calls : ThreadId → Worker × Int) :
    Config DbAct ThreadId Db (Except ReserveFailure QuotaUsage) :=
  ⟨{ tables }, fun i => workerCreateAndReserveQuota (calls i).1 (calls i).2⟩

end Sdsce.Source.PsqlWorkers
