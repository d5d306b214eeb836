import Sdsce.Guarantees.Quotas.WorkerQuota
import Sdsce.Source.PsqlWorkers
import Sdsce.Theory.RelyGuarantee
import Sdsce.Theory.Trace

/-!
# Reservations of workers

A call of `WorkerCreateAndReserveQuota` takes effect at one moment or not at all: in memory while it
holds the mutex, in PostgreSQL when its transaction is committed. Until then it holds the row of its
payer and the key of its worker, so that what it has read is still so.
-/
namespace Sdsce.Guarantees.Reservations

open Sdsce.Theory Sdsce.Source Sdsce.Source.Workers Function

/-! ## What a reservation does -/

/-- The workers and the counters of all payers. -/
@[ext] structure Books (κ : Type) where
  workers : String → Option Worker
  activeSessions : κ → Int
  activeWorkers : κ → Int

/-- A call: the worker as it is stored, its payer and the limit passed to it. -/
structure Reservation (κ : Type) where
  worker : Worker
  payer : κ
  limit : Int

/-- A reservation has added its worker and one to the counter of its payer, within its limit. -/
structure Takes {κ : Type} [DecidableEq κ] (r : Reservation κ) (before after : Books κ) : Prop where
  absent : before.workers r.worker.key = none
  within : before.activeWorkers r.payer + 1 ≤ r.limit
  workers : after.workers = Function.update before.workers r.worker.key (some r.worker)
  activeSessions : after.activeSessions = before.activeSessions
  activeWorkers : after.activeWorkers =
    Function.update before.activeWorkers r.payer (before.activeWorkers r.payer + 1)

/-- The calls that were granted have taken effect, each once and in some order, and nothing else
has; no counter is above the limit of the call that last raised it. -/
def Atomic {κ : Type} [DecidableEq κ] (calls : ThreadId → Reservation κ)
    (granted : ThreadId → Option Bool) (before after : Books κ) : Prop :=
  ∃ log : List ThreadId, log.Nodup ∧ Applied (fun i => Takes (calls i)) before log after ∧
    (∀ i, granted i = some true → i ∈ log) ∧ (∀ i, granted i = some false → i ∉ log) ∧
    ∀ i early late, log = early ++ i :: late → (∀ j ∈ late, (calls j).payer ≠ (calls i).payer) →
      after.activeWorkers (calls i).payer ≤ (calls i).limit

variable {κ : Type} {calls : ThreadId → Reservation κ}

theorem applied_within [DecidableEq κ] {before after : Books κ} {log early late : List ThreadId}
    {i : ThreadId} (applied : Applied (fun i => Takes (calls i)) before log after)
    (last : log = early ++ i :: late) (others : ∀ j ∈ late, (calls j).payer ≠ (calls i).payer) :
    after.activeWorkers (calls i).payer ≤ (calls i).limit := by
  induction applied generalizing late with
  | nil => simp at last
  | @append log mid after k _ taken ih =>
    rw [taken.activeWorkers]
    rcases List.eq_nil_or_concat late with rfl | ⟨late, k', rfl⟩
    · obtain ⟨_, same⟩ := List.append_inj' last rfl
      cases same
      rw [update_self]
      exact taken.within
    · have split : log ++ [k] = (early ++ i :: late) ++ [k'] := by
        rw [last]
        simp
      obtain ⟨rfl, same⟩ := List.append_inj' split rfl
      cases same
      rw [update_of_ne (others k (by simp)).symm]
      exact ih rfl fun j member => others j (by simp [member])

theorem atomic_of_applied [DecidableEq κ] {granted : ThreadId → Option Bool}
    {before after : Books κ} {log : List ThreadId} (once : log.Nodup)
    (applied : Applied (fun i => Takes (calls i)) before log after)
    (took : ∀ i, granted i = some true → i ∈ log) (left : ∀ i, granted i = some false → i ∉ log) :
    Atomic calls granted before after :=
  ⟨log, once, applied, took, left, fun _ _ _ last others => applied_within applied last others⟩

/-- The books that two tables keep. -/
def booksOf {κ : Type} [DecidableEq κ] (workers : AList fun _ : String => Worker)
    (quotas : AList fun _ : κ => QuotaUsage) : Books κ where
  workers key := workers.lookup key
  activeSessions payer := ((quotas.lookup payer).map QuotaUsage.activeSessions).getD 0
  activeWorkers payer := ((quotas.lookup payer).map QuotaUsage.activeWorkers).getD 0

/-- The worker is written, and counters of its payer that are one worker ahead of the old ones. -/
theorem booksOf_takes [DecidableEq κ] {workers workers' : AList fun _ : String => Worker}
    {quotas quotas' : AList fun _ : κ => QuotaUsage} {r : Reservation κ} {quota : QuotaUsage}
    (absent : workers.lookup r.worker.key = none) (within : quota.activeWorkers ≤ r.limit)
    (sessions : quota.activeSessions = (booksOf workers quotas).activeSessions r.payer)
    (counted : quota.activeWorkers = (booksOf workers quotas).activeWorkers r.payer + 1)
    (added : ∀ key, workers'.lookup key =
      if key = r.worker.key then some r.worker else workers.lookup key)
    (raised : ∀ payer, quotas'.lookup payer =
      if payer = r.payer then some quota else quotas.lookup payer) :
    Takes r (booksOf workers quotas) (booksOf workers' quotas') := by
  refine ⟨absent, counted ▸ within, funext fun key => ?_, funext fun payer => ?_,
    funext fun payer => ?_⟩
  · rw [update_apply]
    exact added key
  · by_cases same : payer = r.payer
    · rw [same, ← sessions]
      simp only [booksOf, raised, if_true, Option.map_some, Option.getD_some]
    · simp only [booksOf, raised, if_neg same]
  · rw [update_apply, ← counted]
    split_ifs with same
    · simp only [booksOf, raised, if_pos same, Option.map_some, Option.getD_some]
    · simp only [booksOf, raised, if_neg same]

/-- Whether a call has been granted, once it has returned. -/
def granted {Act : Type → Type} {σ ε α : Type} (c : Config Act ThreadId σ (Except ε α))
    (i : ThreadId) : Option Bool :=
  (c.threads i).result.map Except.isOk

/-! ## In memory -/

namespace InMemory

def books (s : Rows) : Books (List Char) := booksOf s.workers s.quotas

/-- One call on each thread. -/
def start (s : Rows) (calls : ThreadId → Worker × Int) :
    Config ServiceAct ThreadId Rows (Except ReserveError QuotaUsage) :=
  ⟨s, fun i => perform (.workerCreateAndReserveQuota (calls i).1 (calls i).2)⟩

def reservation (call : Worker × Int) : Reservation (List Char) :=
  ⟨call.1, call.1.payer.pretty, call.2⟩

theorem reserve_takes {s s' : Rows} {worker : Worker} {maxWorkers : Int} {now : Time}
    {quota : QuotaUsage}
    (reserved : s.workerCreateAndReserveQuota worker maxWorkers now = .ok (s', quota)) :
    Takes (reservation (worker, maxWorkers)) (books s) (books s') := by
  unfold Rows.workerCreateAndReserveQuota at reserved
  repeat' split at reserved
  all_goals cases reserved
  · next absent _ missing within =>
      refine booksOf_takes absent ?_ ?_ ?_ (Table.lookup_insert _ _ _) (Table.lookup_insert _ _ _)
      · exact not_lt.mp within
      · simp only [reservation, booksOf, missing, Option.map_none, Option.getD_none]
      · simp only [reservation, booksOf, missing, Option.map_none, Option.getD_none]
        rfl
  · next absent _ current found within =>
      refine booksOf_takes absent ?_ ?_ ?_ (Table.lookup_insert _ _ _) (Table.lookup_insert _ _ _)
      · exact not_lt.mp within
      · simp only [reservation, booksOf, found, Option.map_some, Option.getD_some]
      · simp only [reservation, booksOf, found, Option.map_some, Option.getD_some]

/-- How far the calls have come when those of `log` have taken effect. -/
structure Progress (calls : ThreadId → Worker × Int) (first : Rows)
    (c : Config ServiceAct ThreadId Rows (Except ReserveError QuotaUsage)) (log : List ThreadId) :
    Prop where
  once : log.Nodup
  applied : Applied (fun i => Takes (reservation (calls i))) (books first) log (books c.shared)
  threads : ∀ i, i ∉ log ∧ c.threads i = (start first calls).threads i ∨
    (∃ quota, i ∈ log ∧ c.threads i = .ret (.ok quota)) ∨
    ∃ err, i ∉ log ∧ c.threads i = .ret (.error err)

variable {calls : ThreadId → Worker × Int} {first : Rows}
  {c : Config ServiceAct ThreadId Rows (Except ReserveError QuotaUsage)}

theorem Progress.step {c' : Config ServiceAct ThreadId Rows (Except ReserveError QuotaUsage)}
    {log : List ThreadId} (here : Progress calls first c log) {i : ThreadId} {e : ServiceOracle}
    (stepped : Workers.machine.stepAt c i e = some c') : ∃ log', Progress calls first c' log' := by
  obtain ⟨fresh, waiting⟩ | ⟨quota, _, ended⟩ | ⟨err, _, ended⟩ := here.threads i
  · have waiting : c.threads i =
        .act (.workerCreateAndReserveQuota (calls i).1 (calls i).2) .ret := waiting
    -- The call is one action: it ends with it, and the others do not notice.
    have others (log' : List ThreadId) (same : ∀ j, j ≠ i → (j ∈ log' ↔ j ∈ log))
        (r : Except ReserveError QuotaUsage) (j : ThreadId) (other : j ≠ i) :
        j ∉ log' ∧ Function.update c.threads i (.ret r) j = (start first calls).threads j ∨
          (∃ quota, j ∈ log' ∧ Function.update c.threads i (.ret r) j = .ret (.ok quota)) ∨
          ∃ err, j ∉ log' ∧ Function.update c.threads i (.ret r) j = .ret (.error err) := by
      rw [update_of_ne other, same j other]
      exact here.threads j
    simp only [Machine.stepAt, waiting, Workers.machine, Rows.exec] at stepped
    split at stepped
    · next err refused =>
        cases stepped
        refine ⟨log, here.once, here.applied, fun j => ?_⟩
        by_cases same : j = i
        · subst same
          exact .inr (.inr ⟨err, fresh, update_self _ _ _⟩)
        · exact others log (fun _ _ => Iff.rfl) _ j same
    · next shared quota reserved =>
        cases stepped
        refine ⟨log ++ [i], ?_, here.applied.append (reserve_takes reserved), fun j => ?_⟩
        · rw [List.nodup_append_comm]
          exact List.nodup_cons.mpr ⟨fresh, here.once⟩
        by_cases same : j = i
        · subst same
          exact .inr (.inl ⟨quota, by simp, update_self _ _ _⟩)
        · exact others (log ++ [i]) (fun j other => by simp [other]) _ j same
  · simp only [Machine.stepAt, ended] at stepped
    cases stepped
  · simp only [Machine.stepAt, ended] at stepped
    cases stepped

theorem atomic (run : Workers.machine.Reach (start first calls) c) :
    Atomic (fun i => reservation (calls i)) (granted c) (books first) (books c.shared) := by
  have progress : ∃ log, Progress calls first c log := by
    induction run with
    | refl =>
      refine ⟨[], List.nodup_nil, .nil, fun i => .inl ⟨List.not_mem_nil, rfl⟩⟩
    | tail _ last ih =>
      obtain ⟨log, here⟩ := ih
      obtain ⟨i, e, stepped⟩ := last
      exact here.step stepped
  obtain ⟨log, here⟩ := progress
  refine atomic_of_applied here.once here.applied (fun i yes => ?_) fun i no => ?_
  · obtain ⟨_, waiting⟩ | ⟨quota, taken, _⟩ | ⟨err, _, ended⟩ := here.threads i
    · rw [granted, waiting] at yes
      cases yes
    · exact taken
    · rw [granted, ended] at yes
      cases yes
  · obtain ⟨fresh, _⟩ | ⟨quota, _, ended⟩ | ⟨err, fresh, _⟩ := here.threads i
    · exact fresh
    · rw [granted, ended] at no
      cases no
    · exact fresh

end InMemory

/-! ## In PostgreSQL -/

namespace Postgres

open Sdsce.Source.PsqlWorkers

def books (t : Tables) : Books Address := booksOf t.workers t.quotas

def reservation (call : Worker × Int) : Reservation Address :=
  ⟨fromWorker call.1, Psql.newAddress call.1.payer, call.2⟩

/-- What thread `i` may count on while the others move: its writes, its locks and what it has read
under them. -/
structure Keeps (i : ThreadId) (db db' : Db) : Prop where
  txs : db'.txs i = db.txs i
  quotaLocks : ∀ payer, db.quotaLocks payer = some i → db'.quotaLocks payer = some i ∧
    db'.tables.quotas.lookup payer = db.tables.quotas.lookup payer
  keyLocks : ∀ key, db.keyLocks key = some i → db'.keyLocks key = some i ∧
    db'.tables.workers.lookup key = db.tables.workers.lookup key
  rows : ∀ payer, (db.tables.quotas.lookup payer).isSome → (db'.tables.quotas.lookup payer).isSome
  committed : i ∈ db'.committed ↔ i ∈ db.committed

theorem Keeps.refl (i : ThreadId) (db : Db) : Keeps i db db :=
  ⟨rfl, fun _ held => ⟨held, rfl⟩, fun _ held => ⟨held, rfl⟩, fun _ row => row, Iff.rfl⟩

variable {i : ThreadId}

theorem Keeps.trans {db db' db'' : Db} (first : Keeps i db db') (second : Keeps i db' db'') :
    Keeps i db db'' := by
  refine ⟨second.txs.trans first.txs, fun payer held => ?_, fun key held => ?_,
    fun payer row => second.rows payer (first.rows payer row),
    second.committed.trans first.committed⟩
  · obtain ⟨held, same⟩ := first.quotaLocks payer held
    obtain ⟨held, same'⟩ := second.quotaLocks payer held
    exact ⟨held, same'.trans same⟩
  · obtain ⟨held, same⟩ := first.keyLocks key held
    obtain ⟨held, same'⟩ := second.keyLocks key held
    exact ⟨held, same'.trans same⟩

/-- The transaction of thread `i` holds the row of the payer, has read `current` there and has
written `more` since. A row that was missing is its own first write. -/
structure Holds (i : ThreadId) (payer : Address) (current : QuotaUsage) (more : List Write)
    (db : Db) : Prop where
  lock : db.quotaLocks payer = some i
  row : db.tables.quotas.lookup payer = some current ∧ db.txs i = more ∨
    db.tables.quotas.lookup payer = none ∧ current.activeSessions = 0 ∧
      current.activeWorkers = 0 ∧ db.txs i = .quota payer current :: more

/-- What the transaction sees: the row of its payer and the committed rows of the others. -/
theorem Holds.view {payer : Address} {current : QuotaUsage} {more : List Write} {db : Db}
    (holds : Holds i payer current more db) : ∃ base : Tables,
      db.view i = more.foldl Tables.write base ∧ base.workers = db.tables.workers ∧
      base.quotas.lookup payer = some current ∧
      ∀ other, other ≠ payer → base.quotas.lookup other = db.tables.quotas.lookup other := by
  rcases holds.row with ⟨found, written⟩ | ⟨_, _, _, written⟩
  · exact ⟨db.tables, congrArg _ written, rfl, found, fun _ _ => rfl⟩
  · exact ⟨db.tables.write (.quota payer current), congrArg _ written, rfl,
      AList.lookup_insert _, fun _ other => AList.lookup_insert_ne other⟩

/-- The transaction is ready to be committed. -/
structure Ready (call : Worker × Int) (i : ThreadId) (current : QuotaUsage) (now : Time) (db : Db) :
    Prop where
  within : current.activeWorkers + 1 ≤ call.2
  holds : Holds i (reservation call).payer current [.worker (fromWorker call.1),
    .quota (reservation call).payer
      (Db.incremented (reservation call).payer 0 1 now (some current))] db
  keyLock : db.keyLocks (fromWorker call.1).key = some i
  absent : db.tables.workers.lookup (fromWorker call.1).key = none

section Commit

variable {call : Worker × Int} {i j : ThreadId} {current : QuotaUsage} {now : Time} {db : Db}

theorem Ready.view_workers (ready : Ready call i current now db) (key : String) :
    (db.view i).workers.lookup key = if key = (fromWorker call.1).key then some (fromWorker call.1)
      else db.tables.workers.lookup key := by
  obtain ⟨base, view, workers, _, _⟩ := ready.holds.view
  rw [view]
  change (base.workers.insert (fromWorker call.1).key (fromWorker call.1)).lookup key = _
  rw [workers]
  split_ifs with same
  · rw [same, AList.lookup_insert]
  · exact AList.lookup_insert_ne same

theorem Ready.view_quotas (ready : Ready call i current now db) (payer : Address) :
    (db.view i).quotas.lookup payer = if payer = (reservation call).payer then
        some (Db.incremented (reservation call).payer 0 1 now (some current))
      else db.tables.quotas.lookup payer := by
  obtain ⟨base, view, _, _, others⟩ := ready.holds.view
  rw [view]
  change (base.quotas.insert (reservation call).payer _).lookup payer = _
  split_ifs with same
  · rw [same, AList.lookup_insert]
  · rw [AList.lookup_insert_ne same, others payer same]

/-- A commit takes its reservation. -/
theorem Ready.takes (ready : Ready call i current now db) :
    Takes (reservation call) (books db.tables) (books (db.view i)) := by
  have read : (books db.tables).activeSessions (reservation call).payer = current.activeSessions ∧
      (books db.tables).activeWorkers (reservation call).payer = current.activeWorkers := by
    rcases ready.holds.row with ⟨found, _⟩ | ⟨missing, sessions, workers, _⟩
    · simp only [books, booksOf, found, Option.map_some, Option.getD_some, and_self]
    · simp only [books, booksOf, missing, Option.map_none, Option.getD_none, sessions, workers,
        and_self]
  refine booksOf_takes ready.absent ready.within ?_ ?_ ready.view_workers ready.view_quotas
  · exact (Int.add_zero _).trans read.1.symm
  · exact congrArg (· + 1) read.2.symm

theorem released_other (other : j ≠ i) {lock : Option ThreadId} (held : lock = some j) :
    (if lock = some i then none else lock) = some j := by
  rw [if_neg (by rw [held]; exact fun same => other (Option.some.inj same)), held]

theorem Ready.keeps (ready : Ready call i current now db) (other : j ≠ i) :
    Keeps j db ((db.applyCommit i).closeTx i) := by
  refine ⟨update_of_ne other _ _, fun payer held => ⟨released_other other held, ?_⟩,
    fun key held => ⟨released_other other held, ?_⟩, fun payer row => ?_, ?_⟩
  · refine (ready.view_quotas payer).trans (if_neg ?_)
    rintro rfl
    exact other (Option.some.inj (held.symm.trans ready.holds.lock))
  · refine (ready.view_workers key).trans (if_neg ?_)
    rintro rfl
    exact other (Option.some.inj (held.symm.trans ready.keyLock))
  · change ((db.view i).quotas.lookup payer).isSome
    rw [ready.view_quotas]
    split_ifs
    · rfl
    · exact row
  · change j ∈ db.committed ++ [i] ↔ _
    simp [other]

end Commit

/-- What every call promises: a transaction is committed once, when it is ready. -/
def may (calls : ThreadId → Worker × Int) (i : ThreadId) {β : Type} (a : DbAct β) (db : Db) :
    Prop :=
  match β, a with
  | _, .commit => i ∉ db.committed ∧ ∃ current now, Ready (calls i) i current now db
  | _, _ => True

/-- A statement that commits nothing and leaves what the others hold alone. -/
structure Quiet (i : ThreadId) (db db' : Db) : Prop where
  tables : db'.tables = db.tables
  committed : db'.committed = db.committed
  keeps : ∀ j, j ≠ i → Keeps j db db'

section Statements

variable {i : ThreadId} {db db' : Db}

theorem Quiet.refl (i : ThreadId) (db : Db) : Quiet i db db := ⟨rfl, rfl, fun j _ => .refl j db⟩

theorem Quiet.trans {db'' : Db} (first : Quiet i db db') (second : Quiet i db' db'') :
    Quiet i db db'' :=
  ⟨second.tables.trans first.tables, second.committed.trans first.committed,
    fun j other => (first.keeps j other).trans (second.keeps j other)⟩

theorem quiet_addWrite (i : ThreadId) (w : Write) (db : Db) : Quiet i db (db.addWrite i w) :=
  ⟨rfl, rfl, fun _ other => ⟨update_of_ne other _ _, fun _ held => ⟨held, rfl⟩,
    fun _ held => ⟨held, rfl⟩, fun _ row => row, Iff.rfl⟩⟩

theorem not_heldByOther {lock : Option ThreadId} (free : ¬ Db.heldByOther i lock = true)
    {j : ThreadId} (held : lock = some j) : j = i := by
  subst held
  simpa [Db.heldByOther] using free

theorem quiet_lockQuota {payer : Address}
    (free : ¬ Db.heldByOther i (db.quotaLocks payer) = true) :
    Quiet i db (db.lockQuota i payer) := by
  refine ⟨rfl, rfl, fun j other => ⟨rfl, fun payer' held => ⟨?_, rfl⟩, fun _ held => ⟨held, rfl⟩,
    fun _ row => row, Iff.rfl⟩⟩
  refine (update_of_ne ?_ _ _).trans held
  rintro rfl
  exact other (not_heldByOther free held)

theorem quiet_lockKey {key : String} (free : ¬ Db.heldByOther i (db.keyLocks key) = true) :
    Quiet i db (db.lockKey i key) := by
  refine ⟨rfl, rfl, fun j other => ⟨rfl, fun _ held => ⟨held, rfl⟩, fun key' held => ⟨?_, rfl⟩,
    fun _ row => row, Iff.rfl⟩⟩
  refine (update_of_ne ?_ _ _).trans held
  rintro rfl
  exact other (not_heldByOther free held)

theorem quiet_closeTx (i : ThreadId) (db : Db) : Quiet i db (db.closeTx i) :=
  ⟨rfl, rfl, fun _ other => ⟨update_of_ne other _ _,
    fun _ held => ⟨released_other other held, rfl⟩, fun _ held => ⟨released_other other held, rfl⟩,
    fun _ row => row, Iff.rfl⟩⟩

theorem exec_cases {calls : ThreadId → Worker × Int} {β : Type} {a : DbAct β} {e : DbOracle} {b : β}
    (allowed : may calls i a db) (ran : PsqlWorkers.machine.exec i a e db = some (db', b)) :
    Quiet i db db' ∨ i ∉ db.committed ∧ (∃ current now, Ready (calls i) i current now db) ∧
      db' = (db.applyCommit i).closeTx i := by
  have idle : Quiet i db db := .refl i db
  cases a with
  | beginTx =>
    simp only [PsqlWorkers.machine, Db.exec] at ran
    split at ran <;> cases ran <;> exact .inl idle
  | ensureQuota payer =>
    simp only [PsqlWorkers.machine, Db.exec] at ran
    repeat' split at ran
    all_goals cases ran
    · exact .inl idle
    · exact .inl idle
    · next free => exact .inl ((quiet_lockQuota free).trans (quiet_addWrite i _ _))
  | getForUpdate payer =>
    simp only [PsqlWorkers.machine, Db.exec] at ran
    repeat' split at ran
    all_goals cases ran
    · exact .inl idle
    · exact .inl idle
    · next free _ _ _ => exact .inl (quiet_lockQuota free)
  | createWorker row =>
    simp only [PsqlWorkers.machine, Db.exec] at ran
    repeat' split at ran
    all_goals cases ran
    · exact .inl idle
    · exact .inl idle
    · next free => exact .inl ((quiet_lockKey free).trans (quiet_addWrite i _ _))
  | incrementQuota payer sessions workers =>
    simp only [PsqlWorkers.machine, Db.exec] at ran
    repeat' split at ran
    all_goals cases ran
    · exact .inl idle
    · next free => exact .inl ((quiet_lockQuota free).trans (quiet_addWrite i _ _))
  | commit =>
    simp only [PsqlWorkers.machine, Db.exec] at ran
    split at ran <;> cases ran
    · exact .inl idle
    · exact .inr ⟨allowed.1, allowed.2, rfl⟩
  | rollback =>
    cases ran
    exact .inl (quiet_closeTx i db)

end Statements

/-- Transactions take effect one after another. -/
def discipline (calls : ThreadId → Worker × Int) (tables : Tables) :
    Discipline PsqlWorkers.machine where
  inv db := db.committed.Nodup ∧
    Applied (fun i => Takes (reservation (calls i))) (books tables) db.committed (books db.tables)
  rely := Keeps
  may i _ a := may calls i a
  rely_refl := Keeps.refl
  rely_trans := Keeps.trans
  preserves := by
    intro i β db db' e a b inv allowed ran
    rcases exec_cases allowed ran with quiet | ⟨fresh, ⟨current, now, ready⟩, rfl⟩
    · rw [quiet.tables, quiet.committed]
      exact inv
    refine ⟨?_, inv.2.append ready.takes⟩
    change (db.committed ++ [i]).Nodup
    rw [List.nodup_append_comm]
    exact List.nodup_cons.mpr ⟨fresh, inv.1⟩
  respects := by
    intro i j β db db' e a b other inv allowed ran
    rcases exec_cases allowed ran with quiet | ⟨_, ⟨current, now, ready⟩, rfl⟩
    · exact quiet.keeps j other
    · exact ready.keeps other

/-! ### One call -/

section Call

variable {calls : ThreadId → Worker × Int} {tables : Tables} {i : ThreadId} {payer : Address}
  {current : QuotaUsage} {more : List Write}

/-- The call has not taken effect. -/
def Pending (i : ThreadId) (db : Db) : Prop := i ∉ db.committed

/-- The row of the payer is committed, or it is the first write of the transaction. -/
def Ensured (i : ThreadId) (payer : Address) (db : Db) : Prop :=
  ((db.tables.quotas.lookup payer).isSome ∧ db.txs i = []) ∨
    ∃ now, Holds i payer (Db.zeroQuota payer now) [] db

/-- The key of the worker is held too. -/
structure Created (i : ThreadId) (row : Worker) (payer : Address) (current : QuotaUsage) (db : Db) :
    Prop where
  holds : Holds i payer current [.worker row] db
  keyLock : db.keyLocks row.key = some i
  absent : db.tables.workers.lookup row.key = none

variable {db db' : Db} {row : Worker} {α ε : Type} {P : Db → Prop} {err : ε}

theorem Holds.later (holds : Holds i payer current more db) (keeps : Keeps i db db') :
    Holds i payer current more db' := by
  obtain ⟨held, same⟩ := keeps.quotaLocks payer holds.lock
  refine ⟨held, ?_⟩
  rw [same, keeps.txs]
  exact holds.row

theorem Holds.write {w : Write} (holds : Holds i payer current more db)
    (lock : db'.quotaLocks payer = some i) (tables : db'.tables = db.tables)
    (written : db'.txs i = db.txs i ++ [w]) : Holds i payer current (more ++ [w]) db' := by
  refine ⟨lock, ?_⟩
  rw [tables, written]
  rcases holds.row with ⟨found, queued⟩ | ⟨missing, sessions, workers, queued⟩
  · rw [queued]
    exact .inl ⟨found, rfl⟩
  · rw [queued]
    exact .inr ⟨missing, sessions, workers, rfl⟩

theorem pending_stable : (discipline calls tables).Stable i (Pending i) :=
  fun _ _ _ _ keeps fresh taken => fresh (keeps.committed.mp taken)

theorem idle_stable : (discipline calls tables).Stable i fun db => Pending i db ∧ db.txs i = [] :=
  pending_stable.and fun _ _ _ _ keeps idle => keeps.txs.trans idle

theorem ensured_stable :
    (discipline calls tables).Stable i fun db => Pending i db ∧ Ensured i payer db := by
  refine pending_stable.and fun db db' _ _ keeps ensured => ?_
  rcases ensured with ⟨row, idle⟩ | ⟨now, holds⟩
  · exact .inl ⟨keeps.rows payer row, keeps.txs.trans idle⟩
  · exact .inr ⟨now, holds.later keeps⟩

theorem holds_stable :
    (discipline calls tables).Stable i fun db => Pending i db ∧ Holds i payer current more db :=
  pending_stable.and fun _ _ _ _ keeps holds => holds.later keeps

theorem created_stable :
    (discipline calls tables).Stable i fun db => Pending i db ∧ Created i row payer current db := by
  refine pending_stable.and fun db db' _ _ keeps created => ?_
  obtain ⟨held, same⟩ := keeps.keyLocks row.key created.keyLock
  exact ⟨created.holds.later keeps, held, same.trans created.absent⟩

theorem ready_stable : (discipline calls tables).Stable i fun db =>
    Pending i db ∧ ∃ current now, Ready (calls i) i current now db := by
  refine pending_stable.and fun db db' _ _ keeps ready => ?_
  obtain ⟨current, now, ready⟩ := ready
  obtain ⟨held, same⟩ := keeps.keyLocks _ ready.keyLock
  exact ⟨current, now, ready.within, ready.holds.later keeps, held, same.trans ready.absent⟩

/-- What is known after a statement, by its answer. -/
def Answers (i : ThreadId) {α : Type} (R : α → Db → Prop) (r : Except String α) (db : Db) : Prop :=
  match r with
  | .error _ => Pending i db
  | .ok value => Pending i db ∧ R value db

theorem statement {a : DbAct (Except String α)} {R : α → Db → Prop}
    (stable : (discipline calls tables).Stable i P)
    (stop : ∀ value, (discipline calls tables).Stable i fun db => Pending i db ∧ R value db)
    (allowed : ∀ db, P db → may calls i a db)
    (effect : ∀ e db db' r, P db → Db.exec i a e db = some (db', r) → Answers i R r db') :
    (discipline calls tables).Triple i P (run a) (Answers i R) := by
  refine .perform stable (fun r => ?_) (fun db _ here => allowed db here)
    fun e db db' r _ here ran => effect e db db' r here ran
  cases r with
  | error err => exact pending_stable
  | ok value => exact stop value

theorem ensureQuota_triple :
    (discipline calls tables).Triple i (fun db => Pending i db ∧ db.txs i = [])
      (run (.ensureQuota payer)) (Answers i fun _ => Ensured i payer) := by
  refine statement idle_stable (fun _ => ensured_stable) (fun _ _ => trivial) ?_
  rintro e db db' r ⟨fresh, idle⟩ ran
  have view : db.view i = db.tables := congrArg (List.foldl Tables.write db.tables) idle
  simp only [Db.exec, view] at ran
  repeat' split at ran
  all_goals cases ran
  · exact fresh
  · next found => exact ⟨fresh, .inl ⟨by rw [found]; rfl, idle⟩⟩
  rename_i missing _
  refine ⟨fresh, .inr ⟨e.time, update_self _ _ _, .inr ⟨missing, rfl, rfl, ?_⟩⟩⟩
  refine (update_self _ _ _).trans ?_
  change db.txs i ++ _ = _
  rw [idle]
  rfl

theorem getForUpdate_triple :
    (discipline calls tables).Triple i (fun db => Pending i db ∧ Ensured i payer db)
      (run (.getForUpdate payer))
      (Answers i fun rows db => ∀ row, rows.row = some row → Holds i payer row [] db) := by
  refine statement ensured_stable (fun rows => ?_) (fun _ _ => trivial) ?_
  · refine pending_stable.and fun db db' _ _ keeps held row found => ?_
    exact (held row found).later keeps
  rintro e db db' r ⟨fresh, ensured⟩ ran
  simp only [Db.exec] at ran
  repeat' split at ran
  all_goals cases ran
  · exact fresh
  · refine ⟨fresh, fun row found => ?_⟩
    cases found
  rename_i row seen
  refine ⟨fresh, ?_⟩
  rintro _ ⟨⟩
  rcases ensured with ⟨_, idle⟩ | ⟨now, holds⟩
  · have view : db.view i = db.tables := congrArg (List.foldl Tables.write db.tables) idle
    rw [view] at seen
    exact ⟨update_self _ _ _, .inl ⟨seen, idle⟩⟩
  · obtain ⟨base, view, _, own, _⟩ := holds.view
    rw [view] at seen
    cases own.symm.trans seen
    exact ⟨update_self _ _ _, holds.row⟩

theorem createWorker_triple :
    (discipline calls tables).Triple i (fun db => Pending i db ∧ Holds i payer current [] db)
      (run (.createWorker row)) (Answers i fun _ => Created i row payer current) := by
  refine statement holds_stable (fun _ => created_stable) (fun _ _ => trivial) ?_
  rintro e db db' r ⟨fresh, holds⟩ ran
  obtain ⟨base, view, workers, _, _⟩ := holds.view
  simp only [Db.exec, view, List.foldl_nil, workers] at ran
  repeat' split at ran
  all_goals cases ran
  · exact fresh
  · exact fresh
  · next absent _ =>
      exact ⟨fresh, holds.write holds.lock rfl (update_self _ _ _), update_self _ _ _, absent⟩

theorem incrementQuota_triple (within : current.activeWorkers + 1 ≤ (calls i).2) :
    (discipline calls tables).Triple i (fun db => Pending i db ∧
        Created i (fromWorker (calls i).1) (reservation (calls i)).payer current db)
      (run (.incrementQuota (reservation (calls i)).payer 0 1))
      (Answers i fun _ db => ∃ current now, Ready (calls i) i current now db) := by
  refine statement created_stable (fun _ => ready_stable) (fun _ _ => trivial) ?_
  rintro e db db' r ⟨fresh, created⟩ ran
  obtain ⟨base, view, _, own, _⟩ := created.holds.view
  have seen : (db.view i).quotas.lookup (reservation (calls i)).payer = some current := by
    rw [view]
    exact own
  simp only [Db.exec, seen] at ran
  repeat' split at ran
  all_goals cases ran
  · exact fresh
  · exact ⟨fresh, current, e.time, within, created.holds.write (update_self _ _ _) rfl
      (update_self _ _ _), created.keyLock, created.absent⟩

/-- What the answer of the call says: it has taken effect exactly when it was granted. -/
def Outcome (i : ThreadId) {α ε : Type} (r : Except ε α) (db : Db) : Prop :=
  i ∈ db.committed ↔ r.isOk = true

theorem outcome_stable (r : Except ε α) : (discipline calls tables).Stable i (Outcome i r) :=
  fun _ _ _ _ keeps outcome => keeps.committed.trans outcome

theorem Pending.outcome (fresh : Pending i db) : Outcome i (.error err : Except ε α) db :=
  ⟨fun taken => absurd taken fresh, fun no => absurd no Bool.false_ne_true⟩

theorem refused :
    (discipline calls tables).Triple i (Pending i) (.ret (.error err : Except ε α)) (Outcome i) :=
  .ret pending_stable fun _ _ fresh => fresh.outcome

theorem refused_late : (discipline calls tables).Triple i
    (fun db => Pending i db ∧ P db) (.ret (.error err : Except ε α)) (Outcome i) :=
  refused.conseq (fun _ _ here => here.1) fun _ _ _ done => done

theorem commit_triple : (discipline calls tables).Triple i
    (fun db => Pending i db ∧ ∃ current now, Ready (calls i) i current now db) (run .commit)
    (Outcome i) := by
  refine .perform ready_stable outcome_stable (fun db _ here => here) ?_
  rintro e db db' r _ ⟨fresh, _⟩ ran
  simp only [PsqlWorkers.machine, Db.exec] at ran
  split at ran
  · cases ran
    exact fresh.outcome
  · cases ran
    exact ⟨fun _ => rfl, fun _ => List.mem_append_right _ List.mem_cons_self⟩

theorem read_eq_ok {scanning closing missing : String} {rows : QueryRows α} {row : α}
    (read : rows.read scanning closing missing = .ok row) : rows.row = some row := by
  unfold QueryRows.read at read
  split at read
  · cases read
  · cases read
  · cases read
  · cases read
  · next found =>
      cases read
      exact found

theorem countAndCommit_triple (within : current.activeWorkers + 1 ≤ (calls i).2) :
    (discipline calls tables).Triple i (fun db => Pending i db ∧
        Created i (fromWorker (calls i).1) (reservation (calls i)).payer current db)
      (countAndCommit (reservation (calls i)).payer) (Outcome i) := by
  refine (incrementQuota_triple within).bind fun r => ?_
  cases r with
  | error err => exact refused
  | ok rows =>
    dsimp only
    split
    · exact refused_late
    refine commit_triple.bind fun r => ?_
    cases r with
    | error | ok => exact .ret (outcome_stable _) fun _ _ done => done

theorem reserveInTx_triple :
    (discipline calls tables).Triple i (fun db => Pending i db ∧ db.txs i = [])
      (reserveInTx (calls i).1 (calls i).2) (Outcome i) := by
  refine ensureQuota_triple.bind fun r => ?_
  cases r with
  | error err => exact refused
  | ok _ =>
    refine getForUpdate_triple.bind fun r => ?_
    cases r with
    | error err => exact refused
    | ok rows =>
      dsimp only
      split
      · exact refused_late
      rename_i current read
      split
      · exact refused_late
      rename_i within
      refine .conseq
        (P := fun db => Pending i db ∧ Holds i (reservation (calls i)).payer current [] db)
        ?_ (fun _ _ here => ⟨here.1, here.2 current (read_eq_ok read)⟩)
        fun _ _ _ done => done
      refine createWorker_triple.bind fun r => ?_
      cases r with
      | error err => exact refused
      | ok rows =>
        dsimp only
        split
        · exact refused_late
        · exact countAndCommit_triple (not_lt.mp within)

theorem call_triple : (discipline calls tables).Triple i (fun db => Pending i db ∧ db.txs i = [])
    (workerCreateAndReserveQuota (calls i).1 (calls i).2) (Outcome i) := by
  unfold workerCreateAndReserveQuota
  split_ifs
  · exact refused_late
  · exact refused_late
  have begins : (discipline calls tables).Triple i (fun db => Pending i db ∧ db.txs i = [])
      (run .beginTx) (Answers i fun _ db => db.txs i = []) := by
    refine statement idle_stable (fun _ => idle_stable) (fun _ _ => trivial) ?_
    rintro e db db' r ⟨fresh, idle⟩ ran
    simp only [Db.exec] at ran
    split at ran
    · cases ran
      exact fresh
    · cases ran
      exact ⟨fresh, idle⟩
  refine begins.bind fun r => ?_
  cases r with
  | error err => exact refused
  | ok _ =>
    refine reserveInTx_triple.bind fun r => ?_
    cases r with
    | ok quota => exact .ret (outcome_stable _) fun _ _ done => done
    | error err =>
      refine .act (R := fun _ => Outcome i (.error err)) (outcome_stable _)
        (fun _ _ _ => trivial) ?_ fun _ => .ret (outcome_stable _) fun _ _ done => done
      intro e db db' _ _ done ran
      cases ran
      exact done

end Call

theorem atomic {calls : ThreadId → Worker × Int} {tables : Tables}
    {c : Config DbAct ThreadId Db (Except ReserveFailure QuotaUsage)}
    (run : PsqlWorkers.machine.Reach (PsqlWorkers.start tables calls) c) :
    Atomic (fun i => reservation (calls i)) (granted c) (books tables) (books c.shared.tables) := by
  have verified : (discipline calls tables).Verified (fun i r => Outcome i r)
      (PsqlWorkers.start tables calls) := by
    have first : (discipline calls tables).inv { tables } := ⟨List.nodup_nil, .nil⟩
    exact ⟨first, fun i => call_triple _ first ⟨List.not_mem_nil, rfl⟩⟩
  have reached := verified.reach run
  have outcome {i : ThreadId} {yes : Bool} (answered : granted c i = some yes) :
      i ∈ c.shared.committed ↔ yes = true := by
    obtain ⟨r, ended, rfl⟩ := Option.map_eq_some_iff.mp answered
    exact reached.returned (Prog.result_eq_some ended)
  refine atomic_of_applied reached.inv.1 reached.inv.2 (fun i yes => (outcome yes).mpr rfl) ?_
  exact fun i no taken => absurd ((outcome no).mp taken) Bool.false_ne_true

end Postgres

/-- In both backends and under every interleaving, a call of `WorkerCreateAndReserveQuota` that
returns an error has changed nothing, and one that is granted has added its worker and one to the
counter of its payer, within its limit. -/
theorem reservations_atomic (calls : ThreadId → Worker × Int) :
    (∀ s c, Workers.machine.Reach (InMemory.start s calls) c →
      Atomic (fun i => InMemory.reservation (calls i)) (granted c) (InMemory.books s)
        (InMemory.books c.shared)) ∧
    ∀ tables c, PsqlWorkers.machine.Reach (PsqlWorkers.start tables calls) c →
      Atomic (fun i => Postgres.reservation (calls i)) (granted c) (Postgres.books tables)
        (Postgres.books c.shared.tables) :=
  ⟨fun _ _ run => InMemory.atomic run, fun _ _ run => Postgres.atomic run⟩

/-- Two workers of one payer, each with a limit of one, on the first two threads. -/
def rivals (i : ThreadId) : Worker × Int :=
  let key := if i = 0 then "a" else if i = 1 then "b" else ""
  (⟨key, "s", List.replicate 20 1, 0, ""⟩, 1)

/-- One call after the other, in memory. -/
def rivalsInMemory : Config ServiceAct ThreadId Rows (Except ReserveError QuotaUsage) :=
  Workers.machine.play [(0, {}, 1), (1, {}, 1)] (InMemory.start {} rivals)

/-- The statements of both calls interleaved as far as the lock lets them; the second call waits for
the first one to commit. -/
def rivalsInPostgres :
    Config PsqlWorkers.DbAct ThreadId PsqlWorkers.Db
      (Except PsqlWorkers.ReserveFailure QuotaUsage) :=
  PsqlWorkers.machine.play [(0, {}, 2), (1, {}, 2), (0, {}, 9), (1, {}, 9)]
    (PsqlWorkers.start {} rivals)

theorem rivals_atomic :
    (granted rivalsInMemory 0 = some true ∧ granted rivalsInMemory 1 = some false ∧
      Atomic (fun i => InMemory.reservation (rivals i)) (granted rivalsInMemory)
        (InMemory.books {}) (InMemory.books rivalsInMemory.shared)) ∧
    granted rivalsInPostgres 0 = some true ∧ granted rivalsInPostgres 1 = some false ∧
      Atomic (fun i => Postgres.reservation (rivals i)) (granted rivalsInPostgres)
        (Postgres.books {}) (Postgres.books rivalsInPostgres.shared.tables) :=
  ⟨⟨by decide +kernel, by decide +kernel,
      (reservations_atomic rivals).1 _ _ (Machine.play_reach _ _)⟩,
    by decide +kernel, by decide +kernel,
      (reservations_atomic rivals).2 _ _ (Machine.play_reach _ _)⟩

end Sdsce.Guarantees.Reservations
