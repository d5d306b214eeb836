import Sdsce.Guarantees.ReadConsistency
import Sdsce.Source.System

/-!
# Termination is final

What says that a session has ended, and how, is written by `SessionUpdateRuntimeState` alone, and
both repositories refuse that write once the session is terminated: the in-memory one when it
applies the update, PostgreSQL in the `WHERE` of the statement. So an evaluation that has read
the session before it ended cannot bring it back.
-/
namespace Sdsce.Guarantees.Termination

open Sdsce.Theory Sdsce.Source Function
open Sdsce.Source.Psql hiding ThreadId machine Program run Reply start
open Sdsce.Guarantees.Statements

/-- What `SessionUpdateRuntimeState` sets, its time apart. -/
structure Lifecycle where
  status : SessionStatus
  metadata : Metadata
  endedAt : Option Time
  endReason : EndReason
deriving DecidableEq

/-- No run changes the lifecycle of a session that is found terminated. -/
def Final {Act : Type → Type} {ι ε σ ρ : Type} [DecidableEq ι] (M : Machine Act ι ε σ)
    (start : Config Act ι σ ρ) (lifecycle : σ → String → Option Lifecycle) : Prop :=
  ∀ c c' id ended, M.Reach start c → M.Reach c c' → lifecycle c.shared id = some ended →
    ended.status = .terminated → lifecycle c'.shared id = some ended

/-! ## In memory -/

def sessionLifecycle (s : Session) : Lifecycle := ⟨s.status, s.metadata, s.endedAt, s.endReason⟩

def lifecycleInMemory (w : World) (id : String) : Option Lifecycle :=
  (w.store.sessions.lookup id).map sessionLifecycle

theorem SessionUpdate.apply_terminated (update : SessionUpdate) {s : Session}
    (ended : s.status = .terminated) : sessionLifecycle (update.apply s) = sessionLifecycle s := by
  cases update with
  | runtimeState =>
    simp only [SessionUpdate.apply, ended, ne_eq, not_true_eq_false, if_false]
  | touch | ravAndBaseline | applyUsage => rfl

variable {β : Type} {e : Oracle} {id : String} {ended : Lifecycle} {t : Tables} {db db' : Db}
  {i : Psql.ThreadId} {a : DbAct β}

theorem store_keeps {i : ThreadId} {a : StoreAct β} {s s' : Store} {b : β} {kind : Option EventKind}
    (ran : s.exec i a e = some (s', b, kind)) (terminated : ended.status = .terminated)
    (here : (s.sessions.lookup id).map sessionLifecycle = some ended) :
    (s'.sessions.lookup id).map sessionLifecycle = some ended := by
  cases a with
  | sessionsGetOrSet session =>
    simp only [Store.exec] at ran
    split at ran
    · cases ran
      exact here
    rename_i absent
    cases ran
    -- the session that is created is another one
    have other : id ≠ session.id := by
      rintro rfl
      rw [absent] at here
      cases here
    rw [AList.lookup_insert_ne other]
    exact here
  | sessionsCompareAndSwap id' session update =>
    simp only [Store.exec] at ran
    split at ran
    · next read =>
        cases ran
        by_cases same : id = id'
        · subst same
          rw [read.1, Option.map_some, Option.some.injEq] at here
          subst here
          rw [AList.lookup_insert, Option.map_some,
            SessionUpdate.apply_terminated update terminated]
        · rw [AList.lookup_insert_ne same]
          exact here
    · cases ran
      exact here
  | lockCollection =>
    simp only [Store.exec] at ran
    split at ran
    · cases ran
    · cases ran
      exact here
  | sessionsGet | sessionsKeys | usageAdd | unlockCollection | recordsGet | recordsSet
  | recordsKeys =>
    cases ran
    exact here

theorem world_keeps {i : ThreadId} {a : Act β} {w w' : World} {b : β}
    (ran : machine.exec i a e w = some (w', b)) (terminated : ended.status = .terminated)
    (here : lifecycleInMemory w id = some ended) : lifecycleInMemory w' id = some ended := by
  change w.exec i a e = _ at ran
  cases a with
  | store a =>
    simp only [World.exec] at ran
    split at ran
    · cases ran
    · next stored =>
        cases ran
        exact store_keeps stored terminated here
  | runtime a | rpc a =>
    simp only [World.exec] at ran
    split at ran
    · cases ran
    · cases ran
      exact here
  | outside a =>
    cases ran
    exact here
  | gateway a =>
    simp only [World.exec, Option.some.injEq] at ran
    have stays : w'.store = w.store := by
      cases a <;> (cases ran; rfl)
    rw [lifecycleInMemory, stays]
    exact here

/-! ## In PostgreSQL -/

def rowLifecycle (row : SessionRow) : Lifecycle :=
  ⟨row.status, row.metadata, row.endedAt, row.endReason⟩

def lifecycleInTables (t : Tables) (id : String) : Option Lifecycle :=
  (t.sessions.lookup id).map rowLifecycle

theorem RowUpdate.apply_terminated {update : RowUpdate} {row : SessionRow} (now : Time)
    (ended : row.status = .terminated) (applies : update.applies row = true) :
    rowLifecycle (update.apply now row) = rowLifecycle row := by
  cases update with
  | touch | usage => rfl
  | runtimeState => simp [RowUpdate.applies, ended] at applies

/-- A write that the terminated row lets through leaves its lifecycle alone. -/
theorem write_keeps {w : Write} (terminated : ended.status = .terminated)
    (through : ∀ id' now update row, w = .session id' now update →
      t.sessions.lookup id' = some row → update.applies row = true)
    (here : lifecycleInTables t id = some ended) :
    lifecycleInTables (t.write w) id = some ended := by
  cases w with
  | create row =>
    simp only [Tables.write]
    split
    · exact here
    rename_i absent
    by_cases same : id = row.id
    · subst same
      rw [lifecycleInTables, absent] at here
      cases here
    · rw [lifecycleInTables, AList.lookup_insert_ne same]
      exact here
  | baseline id' updatedAt baseline =>
    simp only [Tables.write]
    split
    · exact here
    rename_i row found
    by_cases same : id = id'
    · subst same
      rw [lifecycleInTables, found] at here
      rw [lifecycleInTables, AList.lookup_insert]
      exact here
    · rw [lifecycleInTables, AList.lookup_insert_ne same]
      exact here
  | session id' updatedAt update =>
    simp only [Tables.write]
    split
    · exact here
    rename_i row found
    by_cases same : id = id'
    · subst same
      rw [lifecycleInTables, found, Option.map_some, Option.some.injEq] at here
      subst here
      rw [lifecycleInTables, AList.lookup_insert, Option.map_some,
        RowUpdate.apply_terminated updatedAt terminated
          (through id updatedAt update row rfl found)]
    · rw [lifecycleInTables, AList.lookup_insert_ne same]
      exact here
  | rav | record => exact here

theorem writes_keep {writes : List Write} (terminated : ended.status = .terminated)
    (free : ∀ w ∈ writes, Unconditional w) (here : lifecycleInTables t id = some ended) :
    lifecycleInTables (writes.foldl Tables.write t) id = some ended := by
  induction writes generalizing t with
  | nil => exact here
  | cons w rest ih =>
    refine ih (fun w' member => free w' (List.mem_cons_of_mem w member))
      (write_keeps terminated ?_ here)
    rintro id' now update row rfl _
    exact free _ List.mem_cons_self row

/-- What a transaction keeps back will be let through by any row. -/
def Queued (db : Db) : Prop := ∀ i, ∀ w ∈ db.txs i, Unconditional w

theorem statement_queued (statement : Statement i db a db') (queued : Queued db) : Queued db' :=
  statement.kept_back (fun _ _ unconditional => unconditional) queued

theorem statement_keeps (statement : Statement i db a db') (queued : Queued db)
    (terminated : ended.status = .terminated) (here : lifecycleInTables db.tables id = some ended) :
    lifecycleInTables db'.tables id = some ended := by
  cases statement with
  | silent tables _ _ _ | queued _ _ _ tables _ _ _ =>
    rw [tables]
    exact here
  | started | stopped | rolledBack => exact here
  | wrote w _ through =>
    refine write_keeps terminated ?_ here
    rintro id' now update row rfl found
    obtain ⟨row', found', applies⟩ := through
    cases found.symm.trans found'
    exact applies
  | committed => exact writes_keep terminated (queued i) here

/-! ## Both repositories -/

/-- Whatever the gateway's handlers, the metering reports and the collectors do on the in-memory
repository, and whatever calls are interleaved on PostgreSQL, a session that is stored as
terminated keeps its status, its end reason, its end and its metadata. -/
theorem termination_final (g : Gateway) (pool : Pool) (tables : Tables)
    (calls : Psql.ThreadId → List SessionCall) :
    Final machine (boot g pool) lifecycleInMemory ∧
      Final Psql.machine (Psql.serve tables calls) fun db => lifecycleInTables db.tables := by
  constructor
  · intro c c' id ended _ run here terminated
    exact run.invariant (J := fun w => lifecycleInMemory w id = some ended) here
      fun i β a e w w' b ran now => world_keeps ran terminated now
  intro c c' id ended before run here terminated
  have queued : Queued c.shared := before.invariant (J := Queued)
    (fun _ _ member => absurd member List.not_mem_nil)
    fun i β a e db db' b ran => statement_queued (exec_statement ran)
  exact (run.invariant (J := fun db => Queued db ∧ lifecycleInTables db.tables id = some ended)
    ⟨queued, here⟩ fun i β a e db db' b ran now =>
      ⟨statement_queued (exec_statement ran) now.1,
        statement_keeps (exec_statement ran) now.1 terminated now.2⟩).2

/-- Thread 0 evaluates the session while thread 1 ends it. -/
def evaluatedAndEnded : Psql.ThreadId → List SessionCall
  | 0 => [.get "s", .updateRuntimeState "s" .active ∅ none .unspecified]
  | 1 => [.updateRuntimeState "s" .terminated ∅ (some 5) .paymentIssue]
  | _ => []

/-- The evaluation has read the active session and the session has ended since. -/
def endedMeanwhile : Config DbAct Psql.ThreadId Db Unit :=
  Psql.machine.play [(0, {}, 2), (1, {}, 1)]
    (Psql.serve ReadConsistency.owingTables evaluatedAndEnded)

/-- The evaluation goes on and writes back what it has read. -/
def writtenBack : Config DbAct Psql.ThreadId Db Unit :=
  Psql.machine.play [(0, {}, 1)] endedMeanwhile

theorem termination_final_stale_write :
    (writtenBack.threads 0).result = some () ∧
      lifecycleInTables writtenBack.shared.tables "s" =
        some ⟨.terminated, ∅, some 5, .paymentIssue⟩ := by
  have before : Psql.machine.Reach (Psql.serve ReadConsistency.owingTables evaluatedAndEnded)
      endedMeanwhile := Machine.play_reach _ _
  have after : Psql.machine.Reach endedMeanwhile writtenBack := Machine.play_reach _ _
  have ended : lifecycleInTables endedMeanwhile.shared.tables "s" =
      some ⟨.terminated, ∅, some 5, .paymentIssue⟩ := by
    decide +kernel
  exact ⟨by decide +kernel, (termination_final Sample.gateway (Sample.pool [])
    ReadConsistency.owingTables evaluatedAndEnded).2 _ _ "s" _ before after ended rfl⟩

end Sdsce.Guarantees.Termination
