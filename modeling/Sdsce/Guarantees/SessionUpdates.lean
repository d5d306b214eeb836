import Mathlib.Data.UInt
import Sdsce.Guarantees.ReadConsistency
import Sdsce.Source.InMemory
import Sdsce.Theory.Trace

/-!
# No lost session updates

Any number of goroutines, each inside one of the four methods of the in-memory repository that
update a session, on one session. A method that succeeds has made exactly one swap, with its own
arguments; the session is what the swaps make of the initial one, in the order of their commits.
-/
namespace Sdsce.Guarantees.SessionUpdates

open Sdsce.Theory Sdsce.Source Sdsce.Source.InMemory Sdsce.Theory.Discipline
open Sdsce.Guarantees.ReadConsistency (Accounting accounting)

inductive SessionOp where
  | applyUsage (usage : UsageEvent) (cost : Int)
  | touch (lastKeepAlive : Time)
  | updateRuntimeState (status : SessionStatus) (metadata : Metadata) (endedAt : Option Time)
      (endReason : EndReason) (updatedAt : Time)
  | updateRAVAndBaseline (currentRAV : Option SignedRAV)
      (baselineBlocks baselineBytes baselineReqs : UInt64) (baselineCost : Int)

namespace SessionOp

def program (id : String) : SessionOp → Program (Except RepoError Unit)
  | applyUsage usage cost => sessionApplyUsage id usage cost
  | touch lastKeepAlive => sessionTouch id lastKeepAlive
  | updateRuntimeState status metadata endedAt endReason updatedAt =>
    sessionUpdateRuntimeState id status metadata endedAt endReason updatedAt
  | updateRAVAndBaseline currentRAV blocks bytes reqs cost =>
    sessionUpdateRAVAndBaseline id currentRAV blocks bytes reqs cost

/-- The swap of the method, at a time. -/
def update (now : Time) : SessionOp → SessionUpdate
  | applyUsage usage cost => .applyUsage usage.sanitizedTotals.1 usage.sanitizedTotals.2.1
      usage.sanitizedTotals.2.2 cost now
  | touch lastKeepAlive => .touch lastKeepAlive
  | updateRuntimeState status metadata endedAt endReason updatedAt =>
    .runtimeState status metadata endedAt endReason updatedAt
  | updateRAVAndBaseline currentRAV blocks bytes reqs cost =>
    .ravAndBaseline currentRAV blocks bytes reqs cost now

/-- Blocks, bytes, requests and cost that the call adds. -/
def usage : SessionOp → UInt64 × UInt64 × UInt64 × Int
  | applyUsage usage cost => (usage.sanitizedTotals.1, usage.sanitizedTotals.2.1,
      usage.sanitizedTotals.2.2, cost)
  | _ => 0

def touched : SessionOp → Option Time
  | touch lastKeepAlive => some lastKeepAlive
  | _ => none

/-- The RAV and the baseline that the call sets. -/
def sets : SessionOp → Option Accounting
  | updateRAVAndBaseline currentRAV blocks bytes reqs cost =>
    some ⟨currentRAV, ⟨blocks, bytes, reqs, cost⟩⟩
  | _ => none

/-- `s` with the fields that belong to the call, and the time of the update, taken from `s'`. -/
def graft (s s' : Session) : SessionOp → Session
  | applyUsage _ _ => { s with
      blocksProcessed := s'.blocksProcessed
      bytesTransferred := s'.bytesTransferred
      requests := s'.requests
      totalCost := s'.totalCost
      updatedAt := s'.updatedAt }
  | touch _ => { s with lastKeepAlive := s'.lastKeepAlive, updatedAt := s'.updatedAt }
  | updateRuntimeState .. => { s with
      status := s'.status
      metadata := s'.metadata
      endedAt := s'.endedAt
      endReason := s'.endReason
      updatedAt := s'.updatedAt }
  | updateRAVAndBaseline .. => { s with
      currentRAV := s'.currentRAV
      baselineBlocks := s'.baselineBlocks
      baselineBytes := s'.baselineBytes
      baselineReqs := s'.baselineReqs
      baselineCost := s'.baselineCost
      updatedAt := s'.updatedAt }

/-- A swap touches the fields of its method only. -/
theorem update_graft (op : SessionOp) (now : Time) (s : Session) :
    (op.update now).apply s = op.graft s ((op.update now).apply s) := by
  cases op with
  | updateRuntimeState =>
    simp only [update, SessionUpdate.apply]
    split <;> rfl
  | applyUsage | touch | updateRAVAndBaseline => rfl

theorem graft_self (op : SessionOp) (s : Session) : s = op.graft s s := by
  cases op <;> rfl

end SessionOp

/-! ## What swaps make of a session -/

def totals (s : Session) : UInt64 × UInt64 × UInt64 × Int :=
  (s.blocksProcessed, s.bytesTransferred, s.requests, s.totalCost)

namespace SessionUpdate

def usage : SessionUpdate → UInt64 × UInt64 × UInt64 × Int
  | .applyUsage blocks bytes requests cost _ => (blocks, bytes, requests, cost)
  | _ => 0

def touched : SessionUpdate → Option Time
  | .touch lastKeepAlive => some lastKeepAlive
  | _ => none

def sets : SessionUpdate → Option Accounting
  | .ravAndBaseline currentRAV blocks bytes reqs cost _ =>
    some ⟨currentRAV, ⟨blocks, bytes, reqs, cost⟩⟩
  | _ => none

theorem apply_totals (u : SessionUpdate) (s : Session) :
    totals (u.apply s) = totals s + usage u := by
  cases u with
  | runtimeState =>
    simp only [SessionUpdate.apply, usage, add_zero]
    split <;> rfl
  | applyUsage => rfl
  | touch | ravAndBaseline => exact (add_zero _).symm

theorem apply_lastKeepAlive (u : SessionUpdate) (s : Session) :
    (u.apply s).lastKeepAlive = (touched u).toList.foldl max s.lastKeepAlive := by
  cases u with
  | runtimeState =>
    simp only [SessionUpdate.apply]
    split <;> rfl
  | touch | applyUsage | ravAndBaseline => rfl

theorem apply_accounting (u : SessionUpdate) (s : Session) :
    accounting (u.apply s) = (sets u).getD (accounting s) := by
  cases u with
  | runtimeState =>
    simp only [SessionUpdate.apply]
    split <;> rfl
  | touch | applyUsage | ravAndBaseline => rfl

end SessionUpdate

/-- A session after a sequence of swaps. -/
def replay (s : Session) (updates : List SessionUpdate) : Session :=
  updates.foldl (fun s u => u.apply s) s

theorem replay_totals (s : Session) (updates : List SessionUpdate) :
    totals (replay s updates) = totals s + (updates.map SessionUpdate.usage).sum := by
  induction updates generalizing s with
  | nil => exact (add_zero _).symm
  | cons u rest ih =>
    refine (ih (u.apply s)).trans ?_
    rw [SessionUpdate.apply_totals, List.map_cons, List.sum_cons, add_assoc]

theorem replay_lastKeepAlive (s : Session) (updates : List SessionUpdate) :
    (replay s updates).lastKeepAlive =
      (updates.filterMap SessionUpdate.touched).foldl max s.lastKeepAlive := by
  induction updates generalizing s with
  | nil => rfl
  | cons u rest ih =>
    refine (ih (u.apply s)).trans ?_
    rw [SessionUpdate.apply_lastKeepAlive, List.filterMap_cons]
    cases SessionUpdate.touched u <;> rfl

theorem replay_accounting (s : Session) (updates : List SessionUpdate) :
    accounting (replay s updates) =
      (updates.filterMap SessionUpdate.sets).getLast?.getD (accounting s) := by
  induction updates generalizing s with
  | nil => rfl
  | cons u rest ih =>
    refine (ih (u.apply s)).trans ?_
    rw [SessionUpdate.apply_accounting, List.filterMap_cons]
    cases SessionUpdate.sets u with
    | none => rfl
    | some args =>
      simp only [Option.getD_some, List.getLast?_cons]

/-! ## Commits -/

/-- The swap that an entry of the history reports. -/
def swapOf : EventKind → Option SessionUpdate
  | .swapped _ _ update => some update
  | _ => none

/-- The swaps of a history, with the threads that made them, in the order of their commits. -/
def commits (h : History) : List (ThreadId × SessionUpdate) :=
  h.filterMap fun e => (swapOf e.kind).map (e.thread, ·)

theorem commits_append (h : History) (i : ThreadId) (kind : EventKind) :
    commits (h ++ [⟨i, kind⟩]) = commits h ++ ((swapOf kind).map (i, ·)).toList := by
  rw [commits, List.filterMap_append]
  cases kind <;> rfl

/-- The action is the swap of this session. -/
def Swaps {β : Type} (a : Act β) (id : String) (session : Session) (u : SessionUpdate) : Prop :=
  match β, a with
  | _, .store (.sessionsCompareAndSwap id' session' u') => id' = id ∧ session' = session ∧ u' = u
  | _, _ => False

def isSwap {β : Type} (a : Act β) : Bool :=
  match β, a with
  | _, .store (.sessionsCompareAndSwap ..) => true
  | _, _ => false

variable {β : Type} {id : String} {initial : Session} {a : Act β}

theorem not_swaps (plain : isSwap a = false) (id : String) (session : Session) (u : SessionUpdate) :
    ¬ Swaps a id session u := by
  intro swap
  unfold Swaps at swap
  split at swap
  · cases plain
  · exact swap

/-- What an action of thread `i` does to the sessions and to the history. -/
inductive Moved (i : ThreadId) (w : World) {β : Type} (a : Act β) : World → Prop
  | quiet {w' : World} (sessions : ∀ id session, w.store.sessions.lookup id = some session →
        w'.store.sessions.lookup id = some session)
      (kind : Option EventKind) (silent : kind.bind swapOf = none)
      (history : w'.history = w.log i kind) : Moved i w a w'
  | swapped (id : String) (session : Session) (u : SessionUpdate) (swaps : Swaps a id session u)
      (present : w.store.sessions.lookup id = some session) :
      Moved i w a { w with
        store := { w.store with sessions := w.store.sessions.insert id (u.apply session) }
        history := w.history ++ [⟨i, .swapped id session u⟩] }

theorem exec_moved {i : ThreadId} {e : Oracle} {w w' : World} {b : β}
    (ran : machine.exec i a e w = some (w', b)) : Moved i w a w' := by
  change w.exec i a e = _ at ran
  have same (id : String) (session : Session)
      (found : w.store.sessions.lookup id = some session) := found
  cases a with
  | store a =>
    cases a with
    | sessionsGetOrSet session =>
      simp only [World.exec, Store.exec] at ran
      cases absent : w.store.sessions.lookup session.id with
      | some old =>
        rw [absent] at ran
        cases ran
        exact .quiet same none rfl rfl
      | none =>
        rw [absent] at ran
        cases ran
        refine .quiet (fun id s found => ?_) (some (.created session)) rfl rfl
        rw [AList.lookup_insert_ne]
        · exact found
        · rintro rfl
          rw [absent] at found
          cases found
    | sessionsCompareAndSwap id session u =>
      simp only [World.exec, Store.exec] at ran
      by_cases read : w.store.sessions.lookup id = some session ∧ e.yes = true
      · rw [if_pos read] at ran
        cases ran
        exact .swapped id session u ⟨rfl, rfl, rfl⟩ read.1
      · rw [if_neg read] at ran
        cases ran
        exact .quiet same none rfl rfl
    | lockCollection =>
      simp only [World.exec, Store.exec] at ran
      cases mu : w.store.collectionMu with
      | some owner =>
        rw [mu] at ran
        cases ran
      | none =>
        rw [mu] at ran
        cases ran
        exact .quiet same none rfl rfl
    | recordsSet key record =>
      cases ran
      exact .quiet same (some (.recordStored key record)) rfl rfl
    | sessionsGet | sessionsKeys | usageAdd | unlockCollection | recordsGet | recordsKeys =>
      cases ran
      exact .quiet same none rfl rfl
  | runtime a | rpc a =>
    simp only [World.exec] at ran
    split at ran
    · cases ran
    · cases ran
      exact .quiet same none rfl rfl
  | outside a =>
    cases ran
    refine .quiet same _ ?_ rfl
    cases a with
    | transactionReceipt call hash =>
      simp only [OutsideAct.exec]
      split <;> rfl
    | now | generateID | streamSend | escrowBalance | isAuthorized | chainQuery
    | sendTransaction | contextDone => rfl
  | gateway a =>
    cases a with
    | note note =>
      cases ran
      exact .quiet same (some (.note note)) rfl rfl
    | authCacheGet | authCacheSet =>
      cases ran
      exact .quiet same none rfl rfl

/-! ## The discipline of the calls -/

section Calls

variable (id : String) (initial : Session) (ops : List SessionOp)

/-- The session is what the commits so far make of the initial one. -/
structure Replayed (w : World) : Prop where
  session : w.store.sessions.lookup id = some (replay initial ((commits w.history).map Prod.snd))
  within : ∀ e ∈ w.history, e.thread < ops.length

/-- A call swaps its own session, with its own arguments. -/
def OwnSwap (i : ThreadId) {β : Type} (a : Act β) : Prop :=
  i < ops.length ∧ ∀ id' session u, Swaps a id' session u →
    id' = id ∧ ∃ op now, ops[i]? = some op ∧ u = op.update now

variable {id initial ops}

variable {w w' : World} {β : Type} {a : Act β}

theorem log_within {i : ThreadId} (within : ∀ e ∈ w.history, e.thread < ops.length)
    (call : i < ops.length) (kind : Option EventKind) :
    ∀ e ∈ w.log i kind, e.thread < ops.length := by
  cases kind with
  | none => exact within
  | some kind =>
    intro e member
    rcases List.mem_append.mp member with old | new
    · exact within e old
    · rw [List.mem_singleton.mp new]
      exact call

theorem commits_log {i : ThreadId} {kind : Option EventKind} (silent : kind.bind swapOf = none) :
    commits (w.log i kind) = commits w.history := by
  cases kind with
  | none => rfl
  | some kind =>
    rw [World.log, commits_append, show swapOf kind = none from silent]
    exact List.append_nil _

theorem Moved.replayed {i : ThreadId} (moved : Moved i w a w') (may : OwnSwap id ops i a)
    (here : Replayed id initial ops w) : Replayed id initial ops w' := by
  cases moved with
  | quiet sessions kind silent history =>
    refine ⟨?_, history ▸ log_within here.within may.1 kind⟩
    rw [history, commits_log silent]
    exact sessions _ _ here.session
  | swapped id' session u swaps present =>
    obtain ⟨rfl, -⟩ := may.2 id' session u swaps
    refine ⟨?_, log_within here.within may.1 (some _)⟩
    cases here.session.symm.trans present
    rw [AList.lookup_insert, commits_append, List.map_append, replay, replay, List.foldl_append]
    rfl

variable {op : SessionOp}

/-- An action of a call changes only the fields of its method. -/
theorem Moved.graft {i : ThreadId} {session session' : Session} (moved : Moved i w a w')
    (may : OwnSwap id ops i a) (called : ops[i]? = some op)
    (before : w.store.sessions.lookup id = some session)
    (after : w'.store.sessions.lookup id = some session') :
    session' = op.graft session session' := by
  cases moved with
  | quiet sessions =>
    cases (sessions id session before).symm.trans after
    exact op.graft_self session
  | swapped id' read u swaps present =>
    obtain ⟨rfl, op', now, called', rfl⟩ := may.2 id' read u swaps
    cases called.symm.trans called'
    cases before.symm.trans present
    cases (AList.lookup_insert _).symm.trans after
    exact op.update_graft now session

theorem Moved.grows {i j : ThreadId} (moved : Moved i w a w') (different : j ≠ i) :
    GrowsFor j w.history w'.history := by
  cases moved with
  | quiet _ kind _ history =>
    rw [history]
    cases kind with
    | none => exact GrowsFor.refl j _
    | some kind => exact growsFor_append different _ _
  | swapped => exact growsFor_append different _ _

variable (id initial ops) in
def discipline : Discipline machine where
  inv := Replayed id initial ops
  rely i w w' := GrowsFor i w.history w'.history
  may i _ a _ := OwnSwap id ops i a
  rely_refl i w := GrowsFor.refl i w.history
  rely_trans := GrowsFor.trans
  preserves here may ran := (exec_moved ran).replayed may here
  respects different _ _ ran := (exec_moved ran).grows different

/-- The swaps that thread `i` has made. -/
def Committed (i : ThreadId) (swaps : List (ThreadId × SessionUpdate)) (w : World) : Prop :=
  commits (own i w.history) = swaps

variable {i : ThreadId}

theorem committed_stable (swaps : List (ThreadId × SessionUpdate)) :
    (discipline id initial ops).Stable i (Committed i swaps) :=
  fun _ _ _ _ grows here => (congrArg commits grows.same).trans here

theorem quiet_triple (call : i < ops.length) (plain : isSwap a = false)
    (swaps : List (ThreadId × SessionUpdate)) :
    (discipline id initial ops).Triple i (Committed i swaps) (.perform a)
      fun _ => Committed i swaps := by
  refine .perform (committed_stable swaps) (fun _ => committed_stable swaps)
    (fun _ _ _ => ⟨call, fun id' session u swap => absurd swap (not_swaps plain id' session u)⟩) ?_
  intro e w w' b _ here ran
  cases exec_moved ran with
  | quiet _ kind silent history =>
    rw [Committed, history]
    cases kind with
    | none => exact here
    | some kind =>
      rw [World.log, own_append_self, commits_append, show swapOf kind = none from silent]
      exact (List.append_nil _).trans here
  | swapped id' session u swap _ => exact absurd swap (not_swaps plain id' session u)

/-- A loop ends with one swap: the session is there, and a swap that is lost leaves no trace. -/
theorem swapSession_triple (called : ops[i]? = some op) :
    (discipline id initial ops).Triple i (Committed i []) (swapSession id (op.update ·))
      fun r w => r = .ok () ∧ ∃ now, Committed i [(i, op.update now)] w := by
  have call : i < ops.length := (List.getElem?_eq_some_iff.mp called).1
  have done (r : Except RepoError Unit) : (discipline id initial ops).Stable i
      fun w => r = .ok () ∧ ∃ now, Committed i [(i, op.update now)] w := by
    rintro w w' inv inv' grows ⟨ok, now, here⟩
    exact ⟨ok, now, committed_stable _ w w' inv inv' grows here⟩
  refine .retry (committed_stable []) done ?_
  refine .bind (R := fun found w => found.isSome = true ∧ Committed i [] w) ?_ ?_
  · refine .perform (committed_stable [])
      (fun _ => (Discipline.Stable.const _).and (committed_stable []))
      (fun _ _ _ => ⟨call, fun _ _ _ swap => swap.elim⟩) ?_
    intro e w w' found here mine ran
    cases ran
    exact ⟨by rw [here.session]; rfl, mine⟩
  · rintro (_ | session)
    · exact .assume nofun
    refine .assume fun _ => ?_
    refine .bind (quiet_triple (a := .outside .now) call rfl [])
      fun now => ?_
    refine .bind (R := fun swapped w =>
      Committed i (if swapped then [(i, op.update now)] else []) w) ?_ ?_
    · refine .perform (committed_stable []) (fun _ => committed_stable _) ?_ ?_
      · rintro w here mine
        refine ⟨call, ?_⟩
        rintro _ _ _ ⟨rfl, rfl, rfl⟩
        exact ⟨rfl, op, now, called, rfl⟩
      intro e w w' swapped _ mine ran
      simp only [machine, World.exec, Store.exec] at ran
      by_cases read : w.store.sessions.lookup id = some session ∧ e.yes = true
      · rw [if_pos read] at ran
        cases ran
        rw [Committed, World.log, own_append_self, commits_append]
        exact congrArg (· ++ _) mine
      · rw [if_neg read] at ran
        cases ran
        exact mine
    · rintro (_ | _)
      · exact .ret (committed_stable _) fun _ _ here => here
      · exact .ret (committed_stable _) fun _ _ here => ⟨rfl, now, here⟩

/-- What a call has done when it returns: one swap, or nothing because the settlement of its RAV
is in conflict. -/
def Outcome (op : SessionOp) (i : ThreadId) (r : Except RepoError Unit) (w : World) : Prop :=
  (r = .ok () ∧ ∃ now, Committed i [(i, op.update now)] w) ∨
    (∃ err, r = .error err) ∧ op.sets.isSome = true ∧ Committed i [] w

theorem outcome_stable (op : SessionOp) (r : Except RepoError Unit) :
    (discipline id initial ops).Stable i (Outcome op i r) := by
  rintro w w' inv inv' grows (⟨ok, now, here⟩ | ⟨err, sets, here⟩)
  · exact .inl ⟨ok, now, committed_stable _ w w' inv inv' grows here⟩
  · exact .inr ⟨err, sets, committed_stable _ w w' inv inv' grows here⟩

theorem quiet_outcome (call : i < ops.length) (plain : isSwap a = false) (op : SessionOp)
    (r : Except RepoError Unit) :
    (discipline id initial ops).Triple i (Outcome op i r) (.perform a) fun _ => Outcome op i r := by
  have swaps (l : List (ThreadId × SessionUpdate)) :
      (discipline id initial ops).Triple i (Committed i l) (.perform a) fun _ => Committed i l :=
    quiet_triple call plain l
  intro w inv here
  rcases here with ⟨ok, now, mine⟩ | ⟨err, sets, mine⟩
  · exact (swaps _ w inv mine).mono fun _ _ _ after => .inl ⟨ok, now, after⟩
  · exact (swaps _ w inv mine).mono fun _ _ _ after => .inr ⟨err, sets, after⟩

theorem swapSession_outcome (called : ops[i]? = some op) :
    (discipline id initial ops).Triple i (Committed i []) (swapSession id (op.update ·))
      (Outcome op i) :=
  (swapSession_triple called).conseq (fun _ _ here => here) fun _ _ _ done => .inl done

theorem collectionNextCollectibleLocked_triple (call : i < ops.length) (sessionID : String)
    (rav : SignedRAV) :
    (discipline id initial ops).Triple i (Committed i [])
      (collectionNextCollectibleLocked sessionID rav) fun _ => Committed i [] := by
  refine .bind (quiet_triple (a := .outside .now) call rfl [])
    fun now => ?_
  cases newCollectionRecordFromRAV sessionID rav now with
  | error err => exact .ret (committed_stable []) fun _ _ here => here
  | ok record =>
    refine .bind (quiet_triple (a := .store (.recordsGet _)) call
      rfl []) fun current => ?_
    exact .ret (committed_stable []) fun _ _ here => here

theorem program_triple (called : ops[i]? = some op) :
    (discipline id initial ops).Triple i (Committed i []) (op.program id) (Outcome op i) := by
  have call : i < ops.length := (List.getElem?_eq_some_iff.mp called).1
  have swap : (discipline id initial ops).Triple i (Committed i []) (swapSession id (op.update ·))
      (Outcome op i) :=
    swapSession_outcome called
  have refused (err : RepoError) (sets : op.sets.isSome = true) :
      (discipline id initial ops).Triple i (Committed i []) (.ret (.error err)) (Outcome op i) :=
    Triple.ret (committed_stable []) fun _ _ here => .inr ⟨⟨err, rfl⟩, sets, here⟩
  have answer (r : Except RepoError Unit) :
      (discipline id initial ops).Triple i (Outcome op i r) (.ret r) (Outcome op i) :=
    Triple.ret (outcome_stable op r) fun _ _ here => here
  cases op with
  | touch | updateRuntimeState => exact swap
  | applyUsage usage cost =>
    refine .bind swap fun r => ?_
    cases r with
    | error err => exact answer _
    | ok _ => exact .bind (quiet_outcome (a := .store (.usageAdd _ _)) call
        rfl _ (.ok ())) fun _ => answer _
  | updateRAVAndBaseline currentRAV blocks bytes reqs cost =>
    cases currentRAV with
    | none => exact swap
    | some rav =>
      refine .bind (quiet_triple (a := .store .lockCollection) call
        rfl []) fun _ => ?_
      refine .bind
        (R := Outcome (.updateRAVAndBaseline (some rav) blocks bytes reqs cost) i) ?_ fun r => ?_
      · refine .bind
          (collectionNextCollectibleLocked_triple call id rav) fun next => ?_
        cases next with
        | error err => exact refused err rfl
        | ok next =>
          refine .bind swap fun r => ?_
          cases r with
          | error err => exact answer _
          | ok _ => exact .bind (quiet_outcome
              (a := .store (.recordsSet _ _)) call rfl _ (.ok ())) fun _ =>
                answer _
      · exact .bind (quiet_outcome (a := .store .unlockCollection) call
          rfl _ r) fun _ => answer r

end Calls

/-! ## When all calls have returned -/

/-- The calls are about to be made; further threads have nothing to do. -/
def start (w : World) (id : String) (ops : List SessionOp) :
    Config Act ThreadId World (Except RepoError Unit) :=
  ⟨w, fun i => (ops[i]?).elim (.ret (.ok ())) (SessionOp.program id)⟩

def post (ops : List SessionOp) (i : ThreadId) (r : Except RepoError Unit) (w : World) : Prop :=
  ∀ op, ops[i]? = some op → Outcome op i r w

theorem start_verified {w : World} (ops : List SessionOp)
    (found : w.store.sessions.lookup id = some initial) (fresh : w.history = []) :
    (discipline id initial ops).Verified (post ops) (start w id ops) := by
  have inv : Replayed id initial ops w :=
    ⟨by rw [fresh]; exact found, fun e member => absurd (fresh ▸ member) List.not_mem_nil⟩
  have uncommitted (i : ThreadId) : Committed i [] w := by
    rw [Committed, fresh]
    rfl
  refine ⟨inv, fun i => ?_⟩
  simp only [start]
  cases called : ops[i]? with
  | none =>
    refine (Triple.ret_of_post fun _ _ op called' => ?_ :
      (discipline id initial ops).Triple i (fun _ => True) _ _) w inv trivial
    rw [called] at called'
    cases called'
  | some op =>
    refine (program_triple called w inv (uncommitted i)).mono fun r w' _ outcome op' called' => ?_
    cases called.symm.trans called'
    exact outcome

/-- All calls have returned. -/
def Returned (ops : List SessionOp) (c : Config Act ThreadId World (Except RepoError Unit)) :
    Prop :=
  ∀ i < ops.length, ∃ r, c.threads i = .ret r

/-- The acceptances of a history with the threads that made them, in the order of their
commits. -/
def acceptances (h : History) : List (ThreadId × Accounting) :=
  (commits h).filterMap fun (i, u) => (SessionUpdate.sets u).map (i, ·)

theorem commits_perm {h : History} {n : Nat} (within : ∀ e ∈ h, e.thread < n) :
    (commits h).Perm ((List.range n).flatMap fun i => commits (own i h)) := by
  have parts := (perm_own within).filterMap fun e => (swapOf e.kind).map (e.thread, ·)
  rw [List.filterMap_flatMap] at parts
  exact parts

theorem acceptances_args (h : History) :
    ((commits h).map Prod.snd).filterMap SessionUpdate.sets = (acceptances h).map Prod.snd := by
  rw [acceptances, List.map_filterMap, List.filterMap_map]
  refine List.filterMap_congr fun commit _ => ?_
  rw [Option.map_map]
  exact (Option.map_id' ..).symm

/-- One swap for each call that has succeeded, none for one that was refused. -/
theorem returned_commits {ops : List SessionOp}
    {c : Config Act ThreadId World (Except RepoError Unit)}
    (verified : (discipline id initial ops).Verified (post ops) c) (returned : Returned ops c)
    {i : Nat} (call : i < ops.length) :
    (c.threads i = .ret (.ok ()) ∧
      ∃ now, commits (own i c.shared.history) = [(i, ops[i].update now)]) ∨
    (c.threads i ≠ .ret (.ok ()) ∧ ops[i].sets.isSome = true ∧
      commits (own i c.shared.history) = []) := by
  obtain ⟨r, ended⟩ := returned i call
  rcases verified.returned ended ops[i] (List.getElem?_eq_getElem call) with
    ⟨rfl, done⟩ | ⟨⟨err, rfl⟩, sets, done⟩
  · exact .inl ⟨ended, done⟩
  · exact .inr ⟨by rw [ended]; nofun, sets, done⟩

theorem map_range_eq {α : Type} {xs : List α} {f : α → β} {g : Nat → β}
    (each : ∀ i (bound : i < xs.length), g i = f xs[i]) :
    (List.range xs.length).map g = xs.map f := by
  refine List.ext_getElem (by simp) fun i bound _ => ?_
  rw [List.length_map, List.length_range] at bound
  simpa using each i bound

section Settled

variable {id : String} {initial : Session} {ops : List SessionOp}
  {c : Config Act ThreadId World (Except RepoError Unit)}
  (verified : (discipline id initial ops).Verified (post ops) c) (returned : Returned ops c)

include verified

theorem acceptances_perm : (acceptances c.shared.history).Perm
      ((List.range ops.length).flatMap fun i => acceptances (own i c.shared.history)) := by
  have parts := (commits_perm verified.inv.within).filterMap
    fun (i, u) => (SessionUpdate.sets u).map (i, ·)
  rw [List.filterMap_flatMap] at parts
  exact parts

include returned

theorem commits_usage :
    ((commits c.shared.history).map fun commit => SessionUpdate.usage commit.2).sum =
      (ops.map SessionOp.usage).sum := by
  rw [((commits_perm verified.inv.within).map _).sum_eq, List.map_flatMap,
    List.flatMap_def, List.sum_flatten, List.map_map]
  refine congrArg List.sum (map_range_eq fun i call => ?_)
  rcases returned_commits verified returned call with ⟨_, now, done⟩ | ⟨_, sets, done⟩
  · rw [Function.comp_apply, done]
    cases ops[i] with
    | applyUsage | touch | updateRuntimeState | updateRAVAndBaseline => exact add_zero _
  rw [Function.comp_apply, done]
  cases op : ops[i] with
  | updateRAVAndBaseline => rfl
  | applyUsage | touch | updateRuntimeState =>
    rw [op] at sets
    cases sets

theorem commits_touched :
    ((commits c.shared.history).filterMap fun commit => SessionUpdate.touched commit.2).Perm
      (ops.filterMap SessionOp.touched) := by
  refine ((commits_perm verified.inv.within).filterMap _).trans (.of_eq ?_)
  rw [List.filterMap_flatMap, List.filterMap_eq_flatMap_toList, List.flatMap_def, List.flatMap_def]
  refine congrArg List.flatten (map_range_eq fun i call => ?_)
  rcases returned_commits verified returned call with ⟨_, now, done⟩ | ⟨_, sets, done⟩
  · rw [done]
    cases ops[i] <;> rfl
  rw [done]
  cases op : ops[i] with
  | updateRAVAndBaseline => rfl
  | applyUsage | touch | updateRuntimeState =>
    rw [op] at sets
    cases sets

/-- The acceptances of thread `i`: the one of its call, if it has succeeded. -/
theorem acceptances_own {i : Nat} (call : i < ops.length) (args : ThreadId × Accounting) :
    args ∈ acceptances (own i c.shared.history) ↔
      args.1 = i ∧ ops[i].sets = some args.2 ∧ c.threads i = .ret (.ok ()) := by
  rcases returned_commits verified returned call with ⟨ok, now, done⟩ | ⟨refused, _, done⟩
  · rw [acceptances, done]
    obtain ⟨j, args⟩ := args
    cases ops[i] <;>
      simp [SessionOp.update, SessionUpdate.sets, SessionOp.sets, ok, eq_comm]
  · rw [acceptances, done]
    simp [refused]

theorem mem_acceptances (i : ThreadId) (args : Accounting) :
    (i, args) ∈ acceptances c.shared.history ↔
      (∃ op, ops[i]? = some op ∧ op.sets = some args) ∧ c.threads i = .ret (.ok ()) := by
  rw [(acceptances_perm verified).mem_iff, List.mem_flatMap]
  constructor
  · rintro ⟨j, within, member⟩
    have call := List.mem_range.mp within
    obtain ⟨rfl, sets, ok⟩ := (acceptances_own verified returned call _).mp member
    exact ⟨⟨ops[i], List.getElem?_eq_getElem call, sets⟩, ok⟩
  · rintro ⟨⟨op, called, sets⟩, ok⟩
    obtain ⟨call, rfl⟩ := List.getElem?_eq_some_iff.mp called
    exact ⟨i, List.mem_range.mpr call,
      (acceptances_own verified returned call _).mpr ⟨rfl, sets, ok⟩⟩

theorem acceptances_nodup : ((acceptances c.shared.history).map Prod.fst).Nodup := by
  rw [((acceptances_perm verified).map Prod.fst).nodup_iff, List.map_flatMap]
  refine List.nodup_flatMap.mpr ⟨fun i within => ?_, ?_⟩
  · -- a call makes at most one swap
    have call := List.mem_range.mp within
    rcases returned_commits verified returned call with ⟨_, now, done⟩ | ⟨_, _, done⟩
    · rw [acceptances, done]
      cases kind : SessionUpdate.sets (ops[i].update now) <;> simp [kind]
    · rw [acceptances, done]
      exact List.nodup_nil
  · refine List.nodup_range.imp_of_mem fun {i j} iIn jIn different => ?_
    intro k ofI ofJ
    obtain ⟨args, member, rfl⟩ := List.mem_map.mp ofI
    obtain ⟨args', member', same⟩ := List.mem_map.mp ofJ
    have first := ((acceptances_own verified returned (List.mem_range.mp iIn) args).mp member).1
    have second := ((acceptances_own verified returned (List.mem_range.mp jIn) args').mp member').1
    exact different (first.symm.trans (same.symm.trans second))

end Settled

/-- The session after all calls have returned: nothing that a call has added is lost, the latest
touch counts, and the RAV and baseline are those of the last acceptance. -/
structure NothingLost (initial : Session) (ops : List SessionOp)
    (c : Config Act ThreadId World (Except RepoError Unit)) (final : Session) : Prop where
  totals : totals final = totals initial + (ops.map SessionOp.usage).sum
  lastKeepAlive : final.lastKeepAlive =
    (ops.filterMap SessionOp.touched).foldl max initial.lastKeepAlive
  accounting : accounting final =
    ((acceptances c.shared.history).getLast?.map Prod.snd).getD (accounting initial)
  accepted : ∀ i args, (i, args) ∈ acceptances c.shared.history ↔
    (∃ op, ops[i]? = some op ∧ op.sets = some args) ∧ c.threads i = .ret (.ok ())
  once : ((acceptances c.shared.history).map Prod.fst).Nodup

/-- However the calls are interleaved: when all have returned, nothing is lost; and no step of a
call changes a field of the session that belongs to another method. -/
theorem no_lost_updates {w : World} {id : String} {initial : Session} (ops : List SessionOp)
    (found : w.store.sessions.lookup id = some initial) (fresh : w.history = []) :
    (∀ c, machine.Reach (start w id ops) c → Returned ops c →
      ∃ final, c.shared.store.sessions.lookup id = some final ∧ NothingLost initial ops c final) ∧
    (∀ c c' i e op session session', machine.Reach (start w id ops) c →
      machine.stepAt c i e = some c' → ops[i]? = some op →
      c.shared.store.sessions.lookup id = some session →
      c'.shared.store.sessions.lookup id = some session' →
      session' = op.graft session session') := by
  have verified := start_verified ops found fresh
  constructor
  · intro c run returned
    have here := verified.reach run
    refine ⟨_, here.inv.session, ?_, ?_, ?_, mem_acceptances here returned,
      acceptances_nodup here returned⟩
    · rw [replay_totals, List.map_map, ← commits_usage here returned]
      rfl
    · rw [replay_lastKeepAlive, List.filterMap_map]
      exact (commits_touched here returned).foldl_eq _
    · rw [replay_accounting, ← List.getLast?_map, acceptances_args]
  · intro c c' i e op session session' run stepped called before after
    obtain ⟨_, same | ⟨β, a, b, may, ran⟩⟩ := (verified.reach run).step stepped
    · rw [same, before] at after
      cases after
      exact op.graft_self session
    · exact (exec_moved ran).graft may called before after

/-- A session that owes for two blocks. -/
def owing : Session := ReadConsistency.owingRow.toRepository none

def owingWorld : World :=
  { store := { sessions := (∅ : AList fun _ : String => Session).insert "s" owing } }

/-- Two reports, a keep-alive and a payment. -/
def racingOps : List SessionOp :=
  [.applyUsage ⟨0, 3, 0, 0⟩ 3, .applyUsage ⟨0, 4, 0, 0⟩ 4, .touch 9,
    .updateRAVAndBaseline (some (ReadConsistency.voucher 2)) 2 0 0 2]

/-- The first report has read the session when the other calls overtake it, and its swap is lost
once. -/
def raced : Config Act ThreadId World (Except RepoError Unit) :=
  machine.play [(0, {}, 3), (1, {}, 20), (3, {}, 20), (2, {}, 20), (0, {}, 20)]
    (start owingWorld "s" racingOps)

theorem raced_returned : Returned racingOps raced := by
  have ended : ∀ i < 4, (raced.threads i).result.isSome = true := by
    decide +kernel
  intro i call
  obtain ⟨r, result⟩ := Option.isSome_iff_exists.mp (ended i call)
  exact ⟨r, Prog.result_eq_some result⟩

theorem no_lost_updates_raced : ∃ final,
    raced.shared.store.sessions.lookup "s" = some final ∧ totals final = (9, 0, 0, 9) ∧
      final.lastKeepAlive = 9 ∧
      accounting final = ⟨some (ReadConsistency.voucher 2), ⟨2, 0, 0, 2⟩⟩ := by
  have run : machine.Reach (start owingWorld "s" racingOps) raced := Machine.play_reach _ _
  have stored : owingWorld.store.sessions.lookup "s" = some owing := AList.lookup_insert _
  obtain ⟨final, found, kept⟩ := (no_lost_updates racingOps stored rfl).1 raced run raced_returned
  have last : (acceptances raced.shared.history).getLast?.map Prod.snd =
      some ⟨some (ReadConsistency.voucher 2), ⟨2, 0, 0, 2⟩⟩ := by
    decide +kernel
  refine ⟨final, found, kept.totals.trans (by decide), kept.lastKeepAlive.trans (by decide), ?_⟩
  rw [kept.accounting, last]
  rfl

end Sdsce.Guarantees.SessionUpdates
