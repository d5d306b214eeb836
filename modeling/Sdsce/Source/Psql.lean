import Mathlib.Data.List.Sort
import Sdsce.Source.Repository
import Sdsce.Theory.Program

/-!
# The PostgreSQL repository

The methods of `provider/repository/psql/session.go`, `usage.go` and `collection.go` that the
gateways call, with the statements they run. A statement outside a transaction is a step of its
own, sees the latest commit and commits what it writes; a transaction keeps its writes to itself
until `Commit` and holds the locks of the rows it has written. A statement that meets a lock
waits and then sees the row as it was committed.

Columns that `toRepository` does not read are left out; integer columns keep their 64 bits. The
statements on `sessions` refuse what the columns of `migrations/000001_init_schema.up.sql` cannot
hold. `NUMERIC` has 131072 digits before the point and is taken as unbounded, and so are the sizes
of a row and of a `JSONB`; what `collection_records` cannot hold (U+0000 in a text, a session ID of
more than 255 characters, an `attempt_count` that is no `INTEGER`) is one of the errors of the
connection.
-/
namespace Sdsce.Source.Psql

open Sdsce.Theory

abbrev ThreadId := Nat

/-- What an accepted RAV has paid for. -/
structure Baseline where
  blocks : UInt64
  bytes : UInt64
  reqs : UInt64
  cost : Int
deriving DecidableEq

/-- A row of `sessions`. -/
structure SessionRow where
  id : String
  createdAt : Time
  updatedAt : Time
  lastKeepAlive : Time
  status : SessionStatus
  metadata : Metadata
  endedAt : Option Time
  endReason : EndReason
  payer : Address
  receiver : Address
  dataService : Address
  blocksProcessed : UInt64
  bytesTransferred : UInt64
  requests : UInt64
  totalCost : Int
  baseline : Baseline
deriving DecidableEq

/-- `newAddress`: bytes that are no address become the zero address. -/
def newAddress (addr : Address) : Address := if addr.length = 20 then addr else List.replicate 20 0

/-- What a `TIMESTAMPTZ` column makes of a time: the nearest microsecond, and the even one of
two. -/
def timestamptz (t : Time) : Time :=
  if t % 1000 < 500 ∨ (t % 1000 = 500 ∧ t / 1000 % 2 = 0) then 1000 * (t / 1000)
  else 1000 * (t / 1000 + 1)

/-- The range of `TIMESTAMPTZ`, from 4713 BC to the year 294276. -/
def isTimestamptz (t : Time) : Bool :=
  -210866803200000000000 ≤ t && t < 9224318016000000000000

/-- A text of PostgreSQL holds no U+0000. -/
def isText (s : String) : Bool := s.toList.all (· ≠ '\x00')

/-- A `JSONB` column refuses the escape of U+0000. -/
def isJSONB (m : Metadata) : Bool := decide (∀ entry ∈ m.entries, isText entry.1 ∧ isText entry.2)

/-- `fromSession`: the row as its columns hold it. -/
def fromSession (session : Session) : SessionRow where
  id := session.id
  createdAt := timestamptz session.createdAt
  updatedAt := timestamptz session.updatedAt
  lastKeepAlive := timestamptz session.lastKeepAlive
  status := session.status
  metadata := session.metadata
  endedAt := session.endedAt.map timestamptz
  endReason := session.endReason
  payer := newAddress session.payer
  receiver := newAddress session.receiver
  dataService := newAddress session.dataService
  blocksProcessed := session.blocksProcessed
  bytesTransferred := session.bytesTransferred
  requests := session.requests
  totalCost := session.totalCost
  baseline := ⟨session.baselineBlocks, session.baselineBytes, session.baselineReqs,
    session.baselineCost⟩

/-- A row of `ravs`. -/
structure RavRow where
  signedRAV : SignedRAV
  createdAt : Time
deriving DecidableEq

/-- The RAV as its columns hold it. -/
def columnsOf (rav : SignedRAV) : SignedRAV :=
  { rav with message := { rav.message with
      payer := newAddress rav.message.payer
      serviceProvider := newAddress rav.message.serviceProvider
      dataService := newAddress rav.message.dataService } }

/-- `fromRAV`. -/
def fromRAV (rav : SignedRAV) (createdAt : Time) : RavRow := ⟨columnsOf rav, createdAt⟩

def RavRow.toRepository (row : RavRow) : SignedRAV := row.signedRAV

/-- `sessionRow.toRepository` with the empty `PricingConfig`. -/
def SessionRow.toRepository (row : SessionRow) (rav : Option SignedRAV) : Session where
  id := row.id
  createdAt := row.createdAt
  updatedAt := row.updatedAt
  lastKeepAlive := row.lastKeepAlive
  status := row.status
  metadata := row.metadata
  endedAt := row.endedAt
  endReason := row.endReason
  payer := row.payer
  receiver := row.receiver
  dataService := row.dataService
  currentRAV := rav
  blocksProcessed := row.blocksProcessed
  bytesTransferred := row.bytesTransferred
  requests := row.requests
  totalCost := row.totalCost
  baselineBlocks := row.baseline.blocks
  baselineBytes := row.baseline.bytes
  baselineReqs := row.baseline.reqs
  baselineCost := row.baseline.cost
  pricingConfig := ⟨.zero, .zero⟩

/-- The committed tables. -/
structure Tables where
  sessions : AList (fun _ : String => SessionRow) := ∅
  ravs : AList (fun _ : String => RavRow) := ∅
  collectionRecords : AList (fun _ : String => CollectionRecord) := ∅

/-- What `session/touch.sql`, `session/update_runtime_state.sql` and `session/apply_usage.sql`
set in a row of `sessions`. -/
inductive RowUpdate where
  | touch (lastKeepAlive : Time)
  | runtimeState (status : SessionStatus) (metadata : Metadata) (endedAt : Option Time)
      (endReason : EndReason)
  | usage (blocks bytes requests : UInt64) (cost : Int)

/-- The `WHERE` of the statement beside the session ID. -/
def RowUpdate.applies (row : SessionRow) : RowUpdate → Bool
  | touch lastKeepAlive => row.lastKeepAlive < lastKeepAlive
  | runtimeState .. => row.status ≠ .terminated
  | usage .. => true

def RowUpdate.apply (now : Time) (row : SessionRow) : RowUpdate → SessionRow
  | touch lastKeepAlive => { row with lastKeepAlive, updatedAt := now }
  | runtimeState status metadata endedAt endReason =>
    { row with status, metadata, endedAt, endReason, updatedAt := now }
  | usage blocks bytes requests cost =>
    { row with
      blocksProcessed := row.blocksProcessed + blocks
      bytesTransferred := row.bytesTransferred + bytes
      requests := row.requests + requests
      totalCost := row.totalCost + cost
      updatedAt := now }

/-- A write that a statement makes or that a transaction will make. The trigger
`sessions_updated_at` sets `updated_at` to the time of the database, whatever the statement has
set it to. -/
inductive Write where
  | create (row : SessionRow)
  | baseline (id : String) (updatedAt : Time) (baseline : Baseline)
  | session (id : String) (updatedAt : Time) (update : RowUpdate)
  | rav (id : String) (row : RavRow)
  | record (key : String) (record : CollectionRecord)

/-- The statements that write `sessions`, `session/upsert_rav.sql` and those that write
`collection_records`, on the tables. -/
def Tables.write (t : Tables) : Write → Tables
  | .create row =>
    match t.sessions.lookup row.id with
    | some _ => t
    | none => { t with sessions := t.sessions.insert row.id row }
  | .baseline id updatedAt baseline =>
    match t.sessions.lookup id with
    | none => t
    | some row => { t with sessions := t.sessions.insert id { row with updatedAt, baseline } }
  | .session id updatedAt update =>
    match t.sessions.lookup id with
    | none => t
    | some row => { t with sessions := t.sessions.insert id (update.apply updatedAt row) }
  | .rav id row => { t with ravs := t.ravs.insert id row }
  | .record key record => { t with collectionRecords := t.collectionRecords.insert key record }

/-- The `ON CONFLICT … WHERE` of `collection/upsert_collectible.sql`; no row is returned when
the clause does not hold. -/
def upsertCollectible (fresh : CollectionRecord) :
    Option CollectionRecord → Option CollectionRecord
  | none => some fresh
  | some current =>
    if current.state = .collectible ∨ current.state = .collectFailedRetryable ∨
        (current.state = .collected ∧ current.valueAggregate < fresh.valueAggregate) then
      some { fresh with createdAt := current.createdAt }
    else none

/-- `collection/mark_pending.sql`, `collection/mark_collected.sql` and
`collection/mark_failed_retryable.sql`; no row is returned when the `WHERE` does not hold. -/
def markCollection (expectedValue : Int) (updatedAt : Time) (record : CollectionRecord) :
    CollectionMark → Option CollectionRecord
  | .pending txHash =>
    if record.valueAggregate = expectedValue ∧
        (record.state = .collectible ∨ record.state = .collectFailedRetryable) then
      some { record with
        state := .collectPending
        attemptCount := record.attemptCount + 1
        lastTxHash := txHash
        lastError := ""
        updatedAt }
    else none
  | .collected txHash collectedAmount =>
    if record.valueAggregate = expectedValue ∧ record.state = .collectPending then
      some { record with
        state := .collected
        lastTxHash := txHash
        lastError := ""
        collectedAmount
        updatedAt }
    else none
  | .failedRetryable txHash lastError =>
    if record.valueAggregate = expectedValue ∧ record.state = .collectPending then
      some { record with
        state := .collectFailedRetryable
        lastTxHash := txHash
        lastError
        updatedAt }
    else none

inductive DbError where
  | notFound
  | collectionConflict
  | invalidCollectionTransition
  | failed (text : String)
deriving DecidableEq

/-- `fmt.Errorf("…: %w", err)`. -/
def DbError.within (context : String) : DbError → DbError
  | failed text => failed (context ++ ": " ++ text)
  | err => err

/-- The database: the committed tables, what each open transaction has written, and the locks of
the rows of `sessions` and of `collection_records`. `earlier` and `reading` are history variables:
the versions that were committed before, and the row that a thread has read with `session/get.sql`
and not yet completed with `session/get_rav.sql`. -/
structure Db where
  tables : Tables
  txs : ThreadId → List Write := fun _ => []
  rowLocks : String → Option ThreadId := fun _ => none
  recordLocks : String → Option ThreadId := fun _ => none
  earlier : List Tables := []
  reading : AList (fun _ : ThreadId => String × SessionRow) := ∅

/-- Statements; `BeginTxx` and the clock. Those from `beginTx` on belong to a transaction. -/
inductive DbAct : Type → Type
  | now : DbAct Time
  | createSession (row : SessionRow) : DbAct (Except DbError Unit)
  | listSessions : DbAct (Except DbError (List SessionRow))
  | getSession (id : String) : DbAct (Except DbError SessionRow)
  | getRav (id : String) : DbAct (Except DbError RavRow)
  | updateSession (statement : String) (id : String) (update : RowUpdate) :
      DbAct (Except DbError Bool)
  | execCollectible (fresh : CollectionRecord) : DbAct (Except DbError (Option CollectionRecord))
  | getCollection (key : CollectionKey) : DbAct (Except DbError CollectionRecord)
  | markCollection (statement : String) (key : CollectionKey) (expectedValue : Int)
      (mark : CollectionMark) (updatedAt : Time) : DbAct (Except DbError (Option CollectionRecord))
  | beginTx : DbAct (Except DbError Unit)
  | createSessionTx (row : SessionRow) : DbAct (Except DbError Unit)
  | updateRavBaseline (id : String) (updatedAt : Time) (baseline : Baseline) :
      DbAct (Except DbError Bool)
  | upsertRav (id : String) (row : RavRow) : DbAct (Except DbError Unit)
  | upsertCollectible (fresh : CollectionRecord) : DbAct (Except DbError (Option CollectionRecord))
  | applyUsage (id : String) (blocks bytes requests : UInt64) (cost : Int) :
      DbAct (Except DbError Bool)
  | addUsage (id : String) (usage : UsageEvent) : DbAct (Except DbError Unit)
  | getCollectionTx (key : CollectionKey) : DbAct (Except DbError CollectionRecord)
  | commit : DbAct (Except DbError Unit)
  | rollback : DbAct Unit

/-- What the clock and the connection answer. A commit whose reply is lost may have been
applied. -/
structure DbOracle where
  time : Time := 0
  error : Option String := none
  applied : Bool := false

namespace Db

/-- The writes of a transaction take effect together. -/
def applyCommit (i : ThreadId) (db : Db) : Db :=
  { db with
    tables := (db.txs i).foldl Tables.write db.tables
    earlier := db.tables :: db.earlier }

/-- The transaction of thread `i` is over. -/
def closeTx (i : ThreadId) (db : Db) : Db :=
  { db with
    txs := Function.update db.txs i []
    rowLocks := fun id => if db.rowLocks id = some i then none else db.rowLocks id
    recordLocks := fun key => if db.recordLocks key = some i then none else db.recordLocks key }

/-- A statement outside a transaction commits its write. -/
def applyNow (w : Write) (db : Db) : Db :=
  { db with tables := db.tables.write w, earlier := db.tables :: db.earlier }

def addWrite (i : ThreadId) (w : Write) (db : Db) : Db :=
  { db with txs := Function.update db.txs i (db.txs i ++ [w]) }

def startReading (i : ThreadId) (id : String) (row : SessionRow) (db : Db) : Db :=
  { db with reading := db.reading.insert i (id, row) }

def stopReading (i : ThreadId) (db : Db) : Db := { db with reading := db.reading.erase i }

def fail {α : Type} (statement err : String) : Except DbError α :=
  .error (.failed ("failed " ++ statement ++ ": " ++ err))

def invalidText : String := "pq: invalid byte sequence for encoding \"UTF8\": 0x00"

/-- Why a session ID is refused as a parameter. -/
def refusesID (id : String) : Option String := if isText id then none else some invalidText

def refusesMetadata (m : Metadata) : Option String :=
  if isJSONB m then none else some "pq: unsupported Unicode escape sequence"

def refusesTimes (times : List Time) : Option String :=
  if times.all isTimestamptz then none else some "pq: timestamp out of range"

/-- Why the columns of `sessions` refuse a row. A `VARCHAR(255)` takes a longer text if only spaces
are beyond the limit, and cuts them off; such IDs are refused here. -/
def refusesRow (row : SessionRow) : Option String :=
  (refusesID row.id).or <|
    if row.id.toList.length ≤ 255 then
      (refusesMetadata row.metadata).or <|
        refusesTimes ([row.createdAt, row.updatedAt, row.lastKeepAlive] ++ row.endedAt.toList)
    else some "pq: value too long for type character varying(255)"

def refusesUpdate : RowUpdate → Option String
  | .touch lastKeepAlive => refusesTimes [lastKeepAlive]
  | .runtimeState _ metadata endedAt _ =>
    (refusesMetadata metadata).or (refusesTimes endedAt.toList)
  | .usage .. => none

/-- The sum of a `BIGINT` column and a parameter stays in the column's range. -/
def addsUp (column delta : UInt64) : Bool :=
  let sum := column.toInt64.toInt + delta.toInt64.toInt
  sum < 2 ^ 63 && -2 ^ 63 ≤ sum

/-- What the primary key of `sessions` answers to a second row. -/
def duplicateKey : String := "pq: duplicate key value violates unique constraint \"sessions_pkey\""

/-- One statement of thread `i`. `getRav`, `upsertRav` and `addUsage` are run with the ID of a row
only. -/
def exec (i : ThreadId) {β : Type} (a : DbAct β) (e : DbOracle) (db : Db) : Option (Db × β) :=
  match β, a with
  | _, .now => some (db, e.time)
  | _, .createSession row =>
    match e.error.or (refusesRow row) with
    | some err => some (db, fail "session/create.sql" err)
    | none =>
      match db.tables.sessions.lookup row.id with
      | some _ => some (db, fail "session/create.sql" duplicateKey)
      | none =>
        match db.rowLocks row.id with
        -- another transaction has inserted the key
        | some _ => none
        | none => some (db.applyNow (.create row), .ok ())
  | _, .listSessions =>
    match e.error with
    | some err => some (db, fail "session/list.sql" err)
    | none =>
      let rows := db.tables.sessions.entries.map Sigma.snd
      some (db, .ok (rows.insertionSort fun a b => b.createdAt ≤ a.createdAt))
  | _, .getSession id =>
    match e.error.or (refusesID id), db.tables.sessions.lookup id with
    | some err, _ => some (db, fail "session/get.sql" err)
    | none, none => some (db, .error .notFound)
    | none, some row => some (db.startReading i id row, .ok row)
  | _, .getRav id =>
    match e.error, db.tables.ravs.lookup id with
    | some err, _ => some (db.stopReading i, fail "session/get rav.sql" err)
    | none, none => some (db.stopReading i, .error .notFound)
    | none, some row => some (db.stopReading i, .ok row)
  | _, .updateSession statement id update =>
    match e.error.or ((refusesID id).or (refusesUpdate update)) with
    | some err => some (db, fail statement err)
    | none =>
      match db.tables.sessions.lookup id with
      | none => some (db, .ok false)
      | some row =>
        match db.rowLocks id with
        | some _ => none
        | none =>
          if update.applies row then
            some (db.applyNow (.session id e.time update), .ok true)
          -- `UNION ALL` answers with the row that was left alone
          else some (db, .ok true)
  | _, .execCollectible fresh =>
    match e.error with
    | some err => some (db, fail "collection/upsert collectible.sql" err)
    | none =>
      let key := collectionMapKey fresh.key
      match db.recordLocks key with
      | some _ => none
      | none =>
        match db.tables.sessions.lookup fresh.key.sessionID with
        | none => some (db, fail "collection/upsert collectible.sql"
            "pq: insert or update violates foreign key constraint")
        | some _ =>
          match Psql.upsertCollectible fresh (db.tables.collectionRecords.lookup key) with
          | none => some (db, .ok none)
          | some record => some (db.applyNow (.record key record), .ok (some record))
  | _, .getCollection key =>
    match e.error, db.tables.collectionRecords.lookup (collectionMapKey key) with
    | some err, _ => some (db, fail "collection/get.sql" err)
    | none, none => some (db, .error .notFound)
    | none, some record => some (db, .ok record)
  | _, .markCollection statement key expectedValue mark updatedAt =>
    match e.error with
    | some err => some (db, fail statement err)
    | none =>
      match db.tables.collectionRecords.lookup (collectionMapKey key) with
      | none => some (db, .ok none)
      | some record =>
        match db.recordLocks (collectionMapKey key) with
        | some _ => none
        | none =>
          match Psql.markCollection expectedValue updatedAt record mark with
          | none => some (db, .ok none)
          | some next =>
            some (db.applyNow (.record (collectionMapKey key) next), .ok (some next))
  | _, .beginTx =>
    match e.error with
    | some err => some (db, .error (.failed err))
    | none => some (db, .ok ())
  | _, .createSessionTx row =>
    match e.error.or (refusesRow row) with
    | some err => some (db, .error (.failed err))
    | none =>
      match db.tables.sessions.lookup row.id with
      | some _ => some (db, .error (.failed duplicateKey))
      | none =>
        match db.rowLocks row.id with
        | some _ => none
        | none => some (({ db with rowLocks := Function.update db.rowLocks row.id (some i)
            }).addWrite i (.create row), .ok ())
  | _, .updateRavBaseline id _ baseline =>
    match e.error.or (refusesID id) with
    | some err => some (db, .error (.failed err))
    | none =>
      match db.tables.sessions.lookup id with
      | none => some (db, .ok false)
      | some _ =>
        match db.rowLocks id with
        -- the statement waits for the transaction that has updated the row
        | some _ => none
        | none => some (({ db with rowLocks := Function.update db.rowLocks id (some i)
            }).addWrite i (.baseline id e.time baseline), .ok true)
  | _, .upsertRav id row =>
    match e.error with
    | some err => some (db, .error (.failed err))
    | none => some (db.addWrite i (.rav id row), .ok ())
  | _, .upsertCollectible fresh =>
    match e.error with
    | some err => some (db, fail "collection/upsert collectible.sql" err)
    | none =>
      let key := collectionMapKey fresh.key
      match db.recordLocks key with
      | some _ => none
      | none =>
        -- the row of the conflict is locked whether or not the clause lets it be updated
        let db := { db with recordLocks := Function.update db.recordLocks key (some i) }
        match Psql.upsertCollectible fresh (db.tables.collectionRecords.lookup key) with
        | none => some (db, .ok none)
        | some record => some (db.addWrite i (.record key record), .ok (some record))
  | _, .applyUsage id blocks bytes requests cost =>
    match e.error.or (refusesID id) with
    | some err => some (db, fail "session/apply usage.sql" err)
    | none =>
      match db.tables.sessions.lookup id with
      | none => some (db, .ok false)
      | some row =>
        match db.rowLocks id with
        | some _ => none
        | none =>
          if addsUp row.blocksProcessed blocks && addsUp row.bytesTransferred bytes &&
              addsUp row.requests requests then
            some (({ db with rowLocks := Function.update db.rowLocks id (some i)
              }).addWrite i (.session id e.time (.usage blocks bytes requests cost)), .ok true)
          else some (db, fail "session/apply usage.sql" "pq: bigint out of range")
  | _, .addUsage _ usage =>
    -- `usage_events` is not read
    match e.error.or (refusesTimes [timestamptz usage.timestamp]) with
    | some err => some (db, fail "usage/add.sql" err)
    | none => some (db, .ok ())
  | _, .getCollectionTx key =>
    match e.error, db.tables.collectionRecords.lookup (collectionMapKey key) with
    | some err, _ => some (db, fail "collection/get.sql" err)
    | none, none => some (db, .error .notFound)
    | none, some record => some (db, .ok record)
  | _, .commit =>
    match e.error with
    | none => some ((db.applyCommit i).closeTx i, .ok ())
    | some err =>
      some (if e.applied then (db.applyCommit i).closeTx i else db, .error (.failed err))
  | _, .rollback => some (db.closeTx i, ())

end Db

def machine : Machine DbAct ThreadId DbOracle Db where
  exec i := Db.exec i

abbrev Program := Prog DbAct

def run {β : Type} (a : DbAct β) : Program β := .perform a

/-! ## The methods -/

/-- `collectionKeyParams`. -/
def collectionKeyParams (key : CollectionKey) : CollectionKey :=
  { key with
    payer := newAddress key.payer
    serviceProvider := newAddress key.serviceProvider
    dataService := newAddress key.dataService }

/-- `collectionCollectibleParams`: the row that `collection/upsert_collectible.sql` inserts. -/
def collectionCollectibleParams (sessionID : String) (rav : SignedRAV) (now : Time) :
    Except DbError CollectionRecord :=
  match newCollectionRecordFromRAV sessionID rav now with
  | .error err => .error (.failed err.text)
  | .ok record => .ok { record with
      key := collectionKeyParams record.key
      signedRAV := columnsOf rav }

def sessionGet (sessionID : String) : Program (Except DbError Session) := do
  match ← run (.getSession sessionID) with
  | .error err => return .error err
  | .ok row =>
    match ← run (.getRav sessionID) with
    | .error .notFound => return .ok (row.toRepository none)
    | .error err => return .error err
    | .ok ravRow => return .ok (row.toRepository (some ravRow.toRepository))

/-- `collectionCreateOrUpdateCollectibleTx`. -/
def collectionCreateOrUpdateCollectibleTx (sessionID : String) (rav : SignedRAV) :
    Program (Except DbError CollectionRecord) := do
  let now ← run .now
  match collectionCollectibleParams sessionID rav now with
  | .error err => return .error err
  | .ok fresh =>
    match ← run (.upsertCollectible fresh) with
    | .error err => return .error err
    | .ok (some record) => return .ok record
    | .ok none =>
      match ← run (.getCollectionTx fresh.key) with
      | .error err => return .error err
      | .ok existing =>
        if existing.state = .collectPending ∧
            existing.valueAggregate ≠ rav.message.valueAggregate then
          return .error .collectionConflict
        else if existing.state = .collected ∧
            rav.message.valueAggregate < existing.valueAggregate then
          return .error .collectionConflict
        else return .ok existing

def collectionGet (key : CollectionKey) : Program (Except DbError CollectionRecord) :=
  run (.getCollection (collectionKeyParams key))

def collectionCreateOrUpdateCollectible (sessionID : String) (rav : SignedRAV) :
    Program (Except DbError CollectionRecord) := do
  let now ← run .now
  match collectionCollectibleParams sessionID rav now with
  | .error err => return .error err
  | .ok fresh =>
    match ← run (.execCollectible fresh) with
    | .error err => return .error err
    | .ok (some record) => return .ok record
    | .ok none =>
      match ← collectionGet (collectionKeyFromRAV sessionID rav.message) with
      | .error err => return .error err
      | .ok existing =>
        if existing.state = .collectPending ∧
            existing.valueAggregate ≠ rav.message.valueAggregate then
          return .error .collectionConflict
        else if existing.state = .collected ∧
            rav.message.valueAggregate < existing.valueAggregate then
          return .error .collectionConflict
        else return .ok existing

def classifyCollectionTransitionFailure (key : CollectionKey) (expectedValue : Int) :
    Program DbError := do
  match ← collectionGet key with
  | .error err => return err
  | .ok current =>
    if current.valueAggregate ≠ expectedValue then return .collectionConflict
    else return .invalidCollectionTransition

/-- `execCollectionTransition` with the parameters of one of the `CollectionMark` methods. -/
def execCollectionTransition (statement : String) (key : CollectionKey) (expectedValue : Int)
    (mark : CollectionMark) (updatedAt : Time) : Program (Except DbError CollectionRecord) := do
  let now ← run .now
  match ← run (.markCollection statement (collectionKeyParams key) expectedValue mark
      (collectionUpdatedAt updatedAt now)) with
  | .error err => return .error err
  | .ok (some record) => return .ok record
  | .ok none =>
    let err ← classifyCollectionTransitionFailure key expectedValue
    return .error err

def collectionMarkPending (key : CollectionKey) (expectedValue : Int) (txHash : String)
    (updatedAt : Time) : Program (Except DbError CollectionRecord) :=
  execCollectionTransition "collection/mark pending.sql" key expectedValue (.pending txHash)
    updatedAt

def collectionMarkCollected (key : CollectionKey) (expectedValue : Int) (txHash : String)
    (collectedAmount : Option Int) (updatedAt : Time) :
    Program (Except DbError CollectionRecord) :=
  execCollectionTransition "collection/mark collected.sql" key expectedValue
    (.collected txHash collectedAmount) updatedAt

def collectionMarkFailedRetryable (key : CollectionKey) (expectedValue : Int) (txHash : String)
    (lastError : String) (updatedAt : Time) : Program (Except DbError CollectionRecord) :=
  execCollectionTransition "collection/mark failed retryable.sql" key expectedValue
    (.failedRetryable txHash lastError) updatedAt

/-- `execOne` of a statement that answers with the session's ID. -/
def execSession (statement : String) (sessionID : String) (update : RowUpdate) :
    Program (Except DbError Unit) := do
  match ← run (.updateSession statement sessionID update) with
  | .error err => return .error err
  | .ok false => return .error .notFound
  | .ok true => return .ok ()

def sessionTouch (sessionID : String) (lastKeepAlive : Time) : Program (Except DbError Unit) :=
  execSession "session/touch.sql" sessionID (.touch lastKeepAlive)

def sessionUpdateRuntimeState (sessionID : String) (status : SessionStatus)
    (metadata : Metadata) (endedAt : Option Time) (endReason : EndReason) :
    Program (Except DbError Unit) :=
  execSession "session/update runtime state.sql" sessionID
    (.runtimeState status metadata endedAt endReason)

/-- The statements between `BeginTxx` and `Commit`. -/
def updateInTx (sessionID : String) (currentRAV : Option SignedRAV) (baseline : Baseline) :
    Program (Except DbError Unit) := do
  let updatedAt ← run .now
  match ← run (.updateRavBaseline sessionID updatedAt baseline) with
  | .error err => return .error err
  | .ok false => return .error .notFound
  | .ok true =>
    match currentRAV with
    | none => return .ok ()
    | some rav =>
      let createdAt ← run .now
      match ← run (.upsertRav sessionID (fromRAV rav createdAt)) with
      | .error err => return .error err
      | .ok () =>
        match ← collectionCreateOrUpdateCollectibleTx sessionID rav with
        | .error err => return .error err
        | .ok _ => return .ok ()

/-- The deferred `Rollback` of a method that returns an error. -/
def rollbackWith (err : DbError) : Program (Except DbError Unit) := do
  run .rollback
  return .error err

def sessionUpdateRAVAndBaseline (sessionID : String) (currentRAV : Option SignedRAV)
    (baseline : Baseline) : Program (Except DbError Unit) := do
  match ← run .beginTx with
  | .error err => return .error err
  | .ok () =>
    match ← updateInTx sessionID currentRAV baseline with
    | .error err => rollbackWith err
    | .ok () =>
      match ← run .commit with
      | .error err => rollbackWith err
      | .ok () => return .ok ()

/-- The statements of `sessionCreateWithRAVTx` between `BeginTxx` and `Commit`. -/
def createInTx (row : SessionRow) (rav : SignedRAV) : Program (Except DbError Unit) := do
  match ← run (.createSessionTx row) with
  | .error err => return .error err
  | .ok () =>
    let createdAt ← run .now
    match ← run (.upsertRav row.id (fromRAV rav createdAt)) with
    | .error err => return .error err
    | .ok () =>
      match ← collectionCreateOrUpdateCollectibleTx row.id rav with
      | .error err => return .error err
      | .ok _ => return .ok ()

def sessionCreate (session : Session) : Program (Except DbError Unit) :=
  match session.currentRAV with
  | none => run (.createSession (fromSession session))
  | some rav => do
    match ← run .beginTx with
    | .error err => return .error err
    | .ok () =>
      match ← createInTx (fromSession session) rav with
      | .error err => rollbackWith err
      | .ok () =>
        match ← run .commit with
        | .error err => rollbackWith err
        | .ok () => return .ok ()

/-- The filter of `SessionList`. -/
def passes (filter : SessionFilter) (row : SessionRow) : Bool :=
  filter.payer.all (· = row.payer) && filter.status.all (· = row.status) &&
    filter.createdAfter.all (¬ row.createdAt < ·)

/-- The sessions of the rows that pass, each with its RAV. -/
def collectRows (filter : SessionFilter) : List SessionRow → Program (Except DbError (List Session))
  | [] => return .ok []
  | row :: rest =>
    if passes filter row then do
      match ← run (.getRav row.id) with
      | .error .notFound => do
        match ← collectRows filter rest with
        | .error err => return .error err
        | .ok others => return .ok (row.toRepository none :: others)
      | .error err => return .error err
      | .ok ravRow => do
        match ← collectRows filter rest with
        | .error err => return .error err
        | .ok others => return .ok (row.toRepository (some ravRow.toRepository) :: others)
    else collectRows filter rest

def sessionList (filter : SessionFilter) : Program (Except DbError (List Session)) := do
  match ← run .listSessions with
  | .error err => return .error err
  | .ok rows => collectRows filter rows

/-- The statements of `SessionApplyUsage` between `BeginTxx` and `Commit`. -/
def applyUsageInTx (sessionID : String) (usage : UsageEvent) (cost : Int) :
    Program (Except DbError Unit) := do
  let (blocks, bytes, requests) := usage.sanitizedTotals
  match ← run (.applyUsage sessionID blocks bytes requests cost) with
  | .error err => return .error err
  | .ok false => return .error .notFound
  | .ok true => run (.addUsage sessionID usage)

def sessionApplyUsage (sessionID : String) (usage : UsageEvent) (cost : Int) :
    Program (Except DbError Unit) := do
  match ← run .beginTx with
  | .error err => return .error (err.within "begin usage transaction")
  | .ok () =>
    match ← applyUsageInTx sessionID usage cost with
    | .error err => rollbackWith err
    | .ok () =>
      match ← run .commit with
      | .error err => rollbackWith (err.within "commit usage transaction")
      | .ok () => return .ok ()

/-! ## Concurrent calls -/

inductive Op where
  | sessionGet (sessionID : String)
  | sessionUpdateRAVAndBaseline (sessionID : String) (currentRAV : Option SignedRAV)
      (baseline : Baseline)

inductive Reply where
  | session (result : Except DbError Session)
  | updated (result : Except DbError Unit)

def Op.program : Op → Program Reply
  | sessionGet sessionID => (Psql.sessionGet sessionID).bind fun r => .ret (.session r)
  | sessionUpdateRAVAndBaseline sessionID currentRAV baseline =>
    (Psql.sessionUpdateRAVAndBaseline sessionID currentRAV baseline).bind fun r =>
      .ret (.updated r)

/-- A call of one of the methods on sessions. -/
inductive SessionCall where
  | get (sessionID : String)
  | touch (sessionID : String) (lastKeepAlive : Time)
  | updateRuntimeState (sessionID : String) (status : SessionStatus) (metadata : Metadata)
      (endedAt : Option Time) (endReason : EndReason)
  | updateRAVAndBaseline (sessionID : String) (currentRAV : Option SignedRAV)
      (baseline : Baseline)
  | applyUsage (sessionID : String) (usage : UsageEvent) (cost : Int)

/-- The call, with its result put aside. -/
def SessionCall.program : SessionCall → Program Unit
  | get sessionID => do
    let _ ← Psql.sessionGet sessionID
    return ()
  | touch sessionID lastKeepAlive => do
    let _ ← Psql.sessionTouch sessionID lastKeepAlive
    return ()
  | updateRuntimeState sessionID status metadata endedAt endReason => do
    let _ ← Psql.sessionUpdateRuntimeState sessionID status metadata endedAt endReason
    return ()
  | updateRAVAndBaseline sessionID currentRAV baseline => do
    let _ ← Psql.sessionUpdateRAVAndBaseline sessionID currentRAV baseline
    return ()
  | applyUsage sessionID usage cost => do
    let _ ← Psql.sessionApplyUsage sessionID usage cost
    return ()

/-- Goroutines that each make their calls one after the other. -/
def serve (tables : Tables) (calls : ThreadId → List SessionCall) :
    Config DbAct ThreadId Db Unit :=
  ⟨{ tables }, fun i => .forEach SessionCall.program (calls i)⟩

/-- Any number of concurrent calls on a database. -/
def start (tables : Tables) (ops : ThreadId → Op) : Config DbAct ThreadId Db Reply :=
  ⟨{ tables }, fun i => (ops i).program⟩

end Sdsce.Source.Psql
