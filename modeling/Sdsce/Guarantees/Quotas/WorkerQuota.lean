import Sdsce.Source.Workers
import Sdsce.Theory.Protocol
import Sdsce.Theory.Table

/-!
# Counters and rows of workers

A borrow adds a row and counts it in one step. A return looks the row up, deletes it and then
counts down, so that the counter of a payer is ahead of the rows by the returns that are between
the last two steps, as long as every return deletes a row.
-/
namespace Sdsce.Guarantees.Quotas

open Sdsce.Theory Sdsce.Source Sdsce.Source.Workers Function

/-- `ActiveWorkers` of a payer. -/
def active (s : Rows) (payer : List Char) : Int :=
  match s.quotas.lookup payer with
  | some quota => quota.activeWorkers
  | none => 0

/-- The worker rows of a payer. -/
def live (s : Rows) (payer : List Char) : Nat :=
  Table.count (fun worker => worker.payer.pretty = payer) s.workers

/-! ## Effects of the repository -/

section Repository

variable {s s' : Rows} {worker : Worker} {maxWorkers : Int} {now : Time} {quota : QuotaUsage}

theorem active_addWorker (s : Rows) (worker : Worker) (quota : QuotaUsage) (payer : List Char) :
    active (s.addWorker worker quota) payer =
      if worker.payer.pretty = payer then quota.activeWorkers else active s payer := by
  unfold active Rows.addWorker
  split_ifs with same
  · rw [← same, AList.lookup_insert]
  · rw [AList.lookup_insert_ne (Ne.symm same)]

/-- What a reservation that succeeds has found and done. -/
structure Reserves (s : Rows) (worker : Worker) (maxWorkers : Int) (s' : Rows) : Prop where
  absent : s.workers.lookup worker.key = none
  within : active s worker.payer.pretty + 1 ≤ maxWorkers
  sessions : s'.sessions = s.sessions
  workers : s'.workers = s.workers.insert worker.key worker
  active : ∀ payer, active s' payer = active s payer + if worker.payer.pretty = payer then 1 else 0

theorem reserve_ok
    (reserved : s.workerCreateAndReserveQuota worker maxWorkers now = .ok (s', quota)) :
    Reserves s worker maxWorkers s' := by
  unfold Rows.workerCreateAndReserveQuota at reserved
  split at reserved
  · cases reserved
  split at reserved
  · cases reserved
  split at reserved
  · cases reserved
  rename_i absent
  split at reserved
  · next missing =>
      have uncounted : active s worker.payer.pretty = 0 := by
        unfold active
        rw [missing]
      split at reserved
      · cases reserved
      cases reserved
      refine ⟨absent, by omega, rfl, rfl, fun payer => ?_⟩
      rw [active_addWorker]
      split_ifs with same
      · rw [← same, uncounted]
        rfl
      · exact (Int.add_zero _).symm
  · next current found =>
      have counted : active s worker.payer.pretty = current.activeWorkers := by
        unfold active
        rw [found]
      split at reserved
      · cases reserved
      cases reserved
      refine ⟨absent, by omega, rfl, rfl, fun payer => ?_⟩
      rw [active_addWorker]
      split_ifs with same
      · rw [← same, counted]
      · exact (Int.add_zero _).symm

theorem Reserves.live (reserved : Reserves s worker maxWorkers s') (payer : List Char) :
    live s' payer = live s payer + if worker.payer.pretty = payer then 1 else 0 := by
  unfold Quotas.live
  rw [reserved.workers, Table.count_insert _ reserved.absent]
  simp only [decide_eq_true_eq]

theorem active_quotaDecrement (s : Rows) (payer : Address) (now : Time) (other : List Char) :
    active (s.quotaDecrement payer 0 1 now) other =
      if payer.pretty = other then max (active s other - 1) 0 else active s other := by
  unfold Rows.quotaDecrement
  split
  · next missing =>
      split_ifs with same
      · subst same
        unfold active
        rw [missing]
        rfl
      · rfl
  · next current found =>
      unfold active
      split_ifs with same
      · subst same
        rw [AList.lookup_insert, found]
        simp only
        split_ifs with negative <;> omega
      · rw [AList.lookup_insert_ne (Ne.symm same)]

theorem quotaDecrement_rows (s : Rows) (payer : Address) (now : Time) :
    (s.quotaDecrement payer 0 1 now).workers = s.workers ∧
      (s.quotaDecrement payer 0 1 now).sessions = s.sessions := by
  unfold Rows.quotaDecrement
  split <;> exact ⟨rfl, rfl⟩

theorem live_erase {key : String} (found : s.workers.lookup key = some worker)
    (payer : List Char) : live s payer = live { s with workers := s.workers.erase key } payer +
      if worker.payer.pretty = payer then 1 else 0 := by
  unfold live
  rw [Table.count_erase _ found]
  simp only [decide_eq_true_eq]

end Repository

/-! ## Keys -/

/-- The key of a worker that was borrowed for the payer. -/
def KeyOf (svc : SessionService) (key : String) (payer : Address) : Prop :=
  ∃ organizationId sessionId now, svc.newAddress organizationId = .ok payer ∧
    key = buildWorkerKey organizationId sessionId now

variable {payer : Address}

/-- A key tells the payer: the text of an address holds no bar. -/
theorem KeyOf.unique {svc : SessionService} {key : String} {other : Address}
    (mine : KeyOf svc key payer) (theirs : KeyOf svc key other) : payer = other := by
  obtain ⟨text, session, now, parsed, rfl⟩ := mine
  obtain ⟨text', session', now', parsed', same⟩ := theirs
  have plain := svc.newAddress_plain parsed
  have plain' := svc.newAddress_plain parsed'
  have texts := (Bytes.separator_append_inj plain plain' (String.ofList_injective same)).1
  rw [String.toList_injective texts] at parsed
  exact Except.ok.inj (parsed.symm.trans parsed')

/-! ## What a call does to workers -/

/-- How far a call has come: a return has found the worker, has deleted it or has missed it, and
must then count down; a borrow has been granted. -/
inductive Phase where
  | idle
  | found (key : String) (payer : Address)
  | deleted (payer : Address)
  | missed (payer : Address)
  | granted

/-- The payer for which a return has still to count down. -/
def Phase.owes : Phase → Option Address
  | deleted payer | missed payer => some payer
  | _ => none

theorem Phase.owes_some {phase : Phase} (owes : phase.owes = some payer) :
    phase = .deleted payer ∨ phase = .missed payer := by
  cases phase with
  | deleted _ =>
    cases owes
    exact .inl rfl
  | missed _ =>
    cases owes
    exact .inr rfl
  | idle | found _ _ | granted => cases owes

structure Local where
  call : Call
  phase : Phase := .idle

/-- The worker is the one that the call asks for, under the limit of its organization. -/
def Requested (svc : SessionService) (call : Call) (worker : Worker) (maxWorkers : Int) : Prop :=
  ∃ req payer now, call = .borrowWorker req ∧ svc.newAddress req.organizationId = .ok payer ∧
    worker = newWorker req payer now ∧ maxWorkers = svc.maxWorkers req.organizationId

def Local.allows (svc : SessionService) (l : Local) {β : Type} : ServiceAct β → Prop
  | .sessionCreate _ | .sessionUpdate _ _ | .sessionGet _ | .workerGet _ => l.phase = .idle
  | .workerCreateAndReserveQuota worker maxWorkers =>
    l.phase = .idle ∧ Requested svc l.call worker maxWorkers
  | .workerDelete key => ∃ payer, l.phase = .found key payer
  | .quotaDecrement payer sessions workers =>
    l.phase.owes = some payer ∧ sessions = 0 ∧ workers = 1
  | .now | .wait => l.phase ≠ .granted

/-- The phase after a delete, which may have found no row. -/
def Phase.delete (hit : Bool) : Phase → Phase
  | found _ payer => if hit then .deleted payer else .missed payer
  | phase => phase

def Local.next (l : Local) {β : Type} : ServiceAct β → β → Local
  | .workerCreateAndReserveQuota _ _, .ok _ => { l with phase := .granted }
  | .workerGet key, some worker => { l with phase := .found key worker.payer }
  | .workerDelete _, hit => { l with phase := l.phase.delete hit }
  | .quotaDecrement _ _ _, _ => { l with phase := .idle }
  | _, _ => l

def protocol (svc : SessionService) : Protocol ServiceAct Local where
  allows l _ a := l.allows svc a
  next l _ a b := l.next a b

/-- A borrow that has got a worker. -/
def Grants (r : Reply) : Prop :=
  ∃ response, r = .borrowWorker (.ok response) ∧ response.status = .borrowed

/-- A call returns when it has counted down what it has deleted, and after a grant it answers so. -/
def Settled (r : Reply) (l : Local) : Prop := l.phase.owes = none ∧ (l.phase = .granted → Grants r)

section Follows

variable {svc : SessionService} {l : Local}

theorem settled_of_idle {r : Reply} (idle : l.phase = .idle) : Settled r l := by
  unfold Settled
  rw [idle]
  exact ⟨rfl, nofun⟩

theorem authorizeSession_keeps (idle : l.phase = .idle) (id : String) (payer : Address) :
    (protocol svc).Keeps l (authorizeSession id payer) := by
  refine ⟨idle, ?_⟩
  rintro (_ | session)
  · rfl
  · rfl

theorem borrowWorker_follows (req : BorrowWorkerRequest) :
    (protocol svc).Follows (svc.borrowWorker req) ⟨.borrowWorker req, .idle⟩
      fun response l => Settled (.borrowWorker response) l := by
  unfold SessionService.borrowWorker
  split
  · exact settled_of_idle rfl
  split
  · exact settled_of_idle rfl
  rename_i payer parsed
  split
  · exact settled_of_idle rfl
  refine (authorizeSession_keeps rfl _ _).bind ?_
  rintro (err | session)
  · exact settled_of_idle rfl
  refine ⟨nofun, fun now => ⟨⟨rfl, req, payer, now, rfl, parsed, rfl, rfl⟩, ?_⟩⟩
  rintro (err | quota)
  · cases err <;> exact settled_of_idle rfl
  · exact ⟨rfl, fun _ => ⟨_, rfl, rfl⟩⟩

theorem awaitMinimalLife_keeps (waiting : l.phase ≠ .granted) (worker : Worker)
    (minDuration : Option Int) : (protocol svc).Keeps l (awaitMinimalLife worker minDuration) := by
  unfold awaitMinimalLife
  split
  · rfl
  refine ⟨waiting, fun now => ?_⟩
  change (protocol svc).Follows (if _ then _ else _) _ _
  split
  · exact ⟨waiting, fun _ => rfl⟩
  · rfl

theorem returnWorker_follows (req : ReturnWorkerRequest) :
    (protocol svc).Follows (returnWorker req) ⟨.returnWorker req, .idle⟩
      fun response l => Settled (.returnWorker response) l := by
  unfold returnWorker
  split
  · exact settled_of_idle rfl
  refine ⟨rfl, ?_⟩
  rintro (_ | worker)
  · exact settled_of_idle rfl
  refine (awaitMinimalLife_keeps Phase.noConfusion worker _).bind ?_
  rintro (_ | err)
  · refine ⟨⟨worker.payer, rfl⟩, ?_⟩
    rintro (_ | _)
    · exact ⟨⟨rfl, rfl, rfl⟩, fun _ => settled_of_idle rfl⟩
    · exact ⟨⟨rfl, rfl, rfl⟩, fun _ => settled_of_idle rfl⟩
  · exact ⟨rfl, nofun⟩

theorem program_follows (call : Call) :
    (protocol svc).Follows (call.program svc) ⟨call, .idle⟩ Settled := by
  cases call with
  | borrowWorker req => exact (borrowWorker_follows req).bind fun _ _ settled => settled
  | returnWorker req => exact (returnWorker_follows req).bind fun _ _ settled => settled
  | sessionCreate | sessionUpdate => exact ⟨rfl, fun _ => settled_of_idle rfl⟩

theorem unstarted_settled {call : Call}
    (follows : (protocol svc).Follows (call.program svc) l Settled) : l.phase.owes = none := by
  have settled {phase : Phase} (idle : phase = .idle) : phase.owes = none := by
    rw [idle]
    rfl
  cases call with
  | borrowWorker req =>
    simp only [Call.program, SessionService.borrowWorker] at follows
    split at follows
    · exact follows.1
    split at follows
    · exact follows.1
    · split at follows
      · exact follows.1
      · exact settled follows.1
  | returnWorker req =>
    simp only [Call.program, Workers.returnWorker] at follows
    split at follows
    · exact follows.1
    · exact settled follows.1
  | sessionCreate | sessionUpdate => exact settled follows.1

theorem borrowWorker_loopFree (req : BorrowWorkerRequest) : (svc.borrowWorker req).LoopFree := by
  unfold SessionService.borrowWorker
  split
  · trivial
  split
  · trivial
  split
  · trivial
  refine Prog.LoopFree.bind ?_ ?_
  · rintro (_ | session) <;> trivial
  rintro (err | session)
  · trivial
  intro now
  rintro (err | quota)
  · cases err <;> trivial
  · trivial

theorem awaitMinimalLife_loopFree (worker : Worker) (minDuration : Option Int) :
    (awaitMinimalLife worker minDuration).LoopFree := by
  unfold awaitMinimalLife
  split
  · trivial
  intro now
  change (if _ then _ else _ : Program (Option String)).LoopFree
  split
  · exact fun _ => trivial
  · trivial

theorem returnWorker_loopFree (req : ReturnWorkerRequest) : (returnWorker req).LoopFree := by
  unfold returnWorker
  split
  · trivial
  rintro (_ | worker)
  · trivial
  refine (awaitMinimalLife_loopFree worker _).bind ?_
  rintro (_ | err)
  · exact fun _ _ => trivial
  · trivial

theorem program_loopFree (call : Call) : (call.program svc).LoopFree := by
  cases call with
  | borrowWorker req => exact (borrowWorker_loopFree req).bind fun _ => trivial
  | returnWorker req => exact (returnWorker_loopFree req).bind fun _ => trivial
  | sessionCreate | sessionUpdate => exact fun _ => trivial

/-- A thread that has been granted a worker has nothing left to do but to answer so. -/
theorem granted_returned {p : Program Reply} (loopFree : p.LoopFree)
    (follows : (protocol svc).Follows p l Settled) (granted : l.phase = .granted) :
    ∃ r, p = .ret r ∧ Grants r := by
  cases p with
  | ret r => exact ⟨r, rfl, follows.2 granted⟩
  | act a k =>
    have allowed : l.allows svc a := follows.1
    unfold Local.allows at allowed
    rw [granted] at allowed
    cases a <;> simp [Phase.owes] at allowed
  | loop body start k => exact loopFree.elim

end Follows

/-! ## The accounting invariant -/

/-- The thread has deleted a worker of the payer and has not counted down. -/
def Owing (loc : ThreadId → Local) (payer : List Char) (i : ThreadId) : Prop :=
  ∃ address, (loc i).phase = .deleted address ∧ address.pretty = payer

/-- As many workers are within the limit of a borrow of the payer that was granted. -/
def Within (svc : SessionService) (loc : ThreadId → Local) (payer : List Char) (workers : Int) :
    Prop :=
  ∃ i req address, (loc i).call = .borrowWorker req ∧ (loc i).phase = .granted ∧
    svc.newAddress req.organizationId = .ok address ∧ address.pretty = payer ∧
    workers ≤ svc.maxWorkers req.organizationId

/-- A local state of a call whose deletes have all found a row. -/
structure Sound (svc : SessionService) (call : Call) (l : Local) : Prop where
  call : l.call = call
  looked : ∀ key payer, l.phase = .found key payer → KeyOf svc key payer
  hits : ∀ payer, l.phase ≠ .missed payer

structure Accounted (svc : SessionService) (calls : ThreadId → Call) (s : Rows)
    (loc : ThreadId → Local) : Prop where
  sound : ∀ i, Sound svc (calls i) (loc i)
  keyed : ∀ key worker, s.workers.lookup key = some worker → KeyOf svc key worker.payer
  counted : ∀ payer, ∃ owing, Tally (Owing loc payer) owing ∧ active s payer = live s payer + owing
  within : ∀ payer, 0 < active s payer → Within svc loc payer (active s payer)

section Steps

variable {svc : SessionService} {calls : ThreadId → Call} {s s' : Rows} {loc : ThreadId → Local}
  {i : ThreadId} {l : Local} {payer : List Char}

theorem owing_update_other (j : ThreadId) (other : j ≠ i) :
    Owing (Function.update loc i l) payer j ↔ Owing loc payer j := by
  unfold Owing
  rw [update_of_ne other]

theorem owing_update_self : Owing (Function.update loc i l) payer i ↔
    ∃ address, l.phase = .deleted address ∧ address.pretty = payer := by
  unfold Owing
  rw [update_self]

theorem Within.update {workers fewer : Int} (h : Within svc loc payer workers)
    (ungranted : (loc i).phase ≠ .granted) (le : fewer ≤ workers) :
    Within svc (Function.update loc i l) payer fewer := by
  obtain ⟨j, req, address, call, granted, parsed, pretty, limit⟩ := h
  have other : j ≠ i := by
    rintro rfl
    exact ungranted granted
  refine ⟨j, req, address, ?_, ?_, parsed, pretty, le.trans limit⟩
  · rw [update_of_ne other]
    exact call
  · rw [update_of_ne other]
    exact granted

namespace Accounted

variable (here : Accounted svc calls s loc)

include here

theorem live_le (payer : List Char) :
    (live s payer : Int) ≤ active s payer := by
  obtain ⟨owing, _, counted⟩ := here.counted payer
  omega

theorem frame (workers : s'.workers = s.workers)
    (quotas : s'.quotas = s.quotas) : Accounted svc calls s' loc := by
  have rows : s' = { s with sessions := s'.sessions } := by
    rw [← workers, ← quotas]
  rw [rows]
  exact ⟨here.sound, here.keyed, here.counted, here.within⟩

theorem moved (mine : Sound svc (calls i) l) (j : ThreadId) :
    Sound svc (calls j) (Function.update loc i l j) :=
  (forall_update_iff loc fun j l => Sound svc (calls j) l).mpr
    ⟨mine, fun j _ => here.sound j⟩ j

variable {key : String} {worker : Worker} {address : Address}

theorem find (idle : (loc i).phase = .idle)
    (found : s.workers.lookup key = some worker) :
    Accounted svc calls s
      (Function.update loc i { loc i with phase := .found key worker.payer }) := by
  refine ⟨here.moved ⟨(here.sound i).call, ?_, nofun⟩, here.keyed, fun payer => ?_,
    fun payer positive => ?_⟩
  · rintro _ _ ⟨⟩
    exact here.keyed key worker found
  · obtain ⟨owing, tally, counted⟩ := here.counted payer
    refine ⟨owing, tally.same fun j => ?_, counted⟩
    by_cases same : j = i
    · subst same
      rw [owing_update_self]
      unfold Owing
      simp only [idle, reduceCtorEq, false_and]
    · exact owing_update_other j same
  · exact (here.within payer positive).update (by rw [idle]; nofun) le_rfl

theorem grant {maxWorkers : Int} (idle : (loc i).phase = .idle)
    (requested : Requested svc (loc i).call worker maxWorkers)
    (reserved : Reserves s worker maxWorkers s') :
    Accounted svc calls s' (Function.update loc i { loc i with phase := .granted }) := by
  obtain ⟨req, address, now, call, parsed, rfl, rfl⟩ := requested
  refine ⟨here.moved ⟨(here.sound i).call, nofun, nofun⟩, fun key row found => ?_, fun payer => ?_,
    fun payer positive => ?_⟩
  · rw [reserved.workers] at found
    exact Table.forall_lookup_insert ⟨req.organizationId, req.sessionId, now, parsed, rfl⟩
      here.keyed key row found
  · obtain ⟨owing, tally, counted⟩ := here.counted payer
    refine ⟨owing, tally.same fun j => ?_, ?_⟩
    · by_cases same : j = i
      · subst same
        rw [owing_update_self]
        unfold Owing
        simp only [idle, reduceCtorEq, false_and]
      · exact owing_update_other j same
    · rw [reserved.active, reserved.live, counted]
      split_ifs <;> omega
  · by_cases same : (newWorker req address now).payer.pretty = payer
    · refine ⟨i, req, address, ?_, ?_, parsed, same, ?_⟩
      · rw [update_self]
        exact call
      · rw [update_self]
      have limit := reserved.within
      rw [reserved.active, if_pos same]
      rw [← same]
      exact limit
    · have unchanged : active s' payer = active s payer := by
        rw [reserved.active, if_neg same, Int.add_zero]
      rw [unchanged] at positive ⊢
      exact (here.within payer positive).update (by rw [idle]; nofun) le_rfl

theorem delete (phase : (loc i).phase = .found key address)
    (found : s.workers.lookup key = some worker) :
    Accounted svc calls { s with workers := s.workers.erase key }
      (Function.update loc i { loc i with phase := .deleted address }) := by
  have mine : worker.payer = address :=
    (here.keyed key worker found).unique ((here.sound i).looked key address phase)
  refine ⟨here.moved ⟨(here.sound i).call, nofun, nofun⟩, fun other row stored => ?_,
    fun payer => ?_, fun payer positive => ?_⟩
  · by_cases same : other = key
    · subst same
      rw [AList.lookup_erase] at stored
      cases stored
    · rw [AList.lookup_erase_ne same] at stored
      exact here.keyed other row stored
  · obtain ⟨owing, tally, counted⟩ := here.counted payer
    have gone := live_erase found payer
    rw [mine] at gone
    have before : ¬ Owing loc payer i := by
      unfold Owing
      simp only [phase, reduceCtorEq, false_and, exists_false, not_false_eq_true]
    split_ifs at gone with same
    · have after : Owing (Function.update loc i { loc i with phase := .deleted address }) payer i :=
        owing_update_self.mpr ⟨address, rfl, same⟩
      refine ⟨owing + 1, tally.enter before after owing_update_other, ?_⟩
      change active s payer = _
      push_cast
      omega
    · refine ⟨owing, tally.same fun j => ?_, ?_⟩
      · by_cases self : j = i
        · subst self
          refine iff_of_false ?_ before
          rw [owing_update_self]
          rintro ⟨_, ⟨⟩, pretty⟩
          exact same pretty
        · exact owing_update_other j self
      · change active s payer = _
        omega
  · exact (here.within payer positive).update (by rw [phase]; nofun) le_rfl

theorem countDown (phase : (loc i).phase = .deleted address)
    (now : Time) :
    Accounted svc calls (s.quotaDecrement address 0 1 now)
      (Function.update loc i { loc i with phase := .idle }) := by
  obtain ⟨workers, _⟩ := quotaDecrement_rows s address now
  have sameLive (payer : List Char) : live (s.quotaDecrement address 0 1 now) payer =
      live s payer := by
    unfold live
    rw [workers]
  have ungranted : (loc i).phase ≠ .granted := by
    rw [phase]
    nofun
  have after (payer : List Char) :
      ¬ Owing (Function.update loc i { loc i with phase := .idle }) payer i := by
    rw [owing_update_self]
    rintro ⟨_, ⟨⟩, _⟩
  refine ⟨here.moved ⟨(here.sound i).call, nofun, nofun⟩, workers ▸ here.keyed, fun payer => ?_,
    fun payer positive => ?_⟩
  · obtain ⟨owing, tally, counted⟩ := here.counted payer
    have counter := active_quotaDecrement s address now payer
    rw [sameLive]
    split_ifs at counter with same
    · obtain ⟨positive, fewer⟩ :=
        tally.leave ⟨address, phase, same⟩ (after payer) owing_update_other
      exact ⟨owing - 1, fewer, by omega⟩
    refine ⟨owing, tally.same fun j => ?_, counter.trans counted⟩
    by_cases self : j = i
    · subst self
      refine iff_of_false (after payer) ?_
      rintro ⟨other, mine, pretty⟩
      rw [phase] at mine
      cases mine
      exact same pretty
    · exact owing_update_other j self
  · have counter := active_quotaDecrement s address now payer
    have nonneg := here.live_le payer
    refine (here.within payer ?_).update ungranted ?_
    · split_ifs at counter <;> omega
    · split_ifs at counter <;> omega

end Accounted

/-- Deletes of workers find their row. -/
def deleteFinds (_ : ThreadId) {β : Type} : ServiceAct β → Rows → Bool
  | .workerDelete key, s => (s.workers.lookup key).isSome
  | _, _ => true

/-- The service, in runs all of whose deletes find their row. -/
abbrev findingService : Machine ServiceAct ThreadId ServiceOracle Rows :=
  Workers.machine.restrict deleteFinds

theorem exec_accounted {β : Type} {a : ServiceAct β} {e : ServiceOracle}
    (here : Accounted svc calls s loc) (allowed : (loc i).allows svc a)
    (finds : deleteFinds i a s = true) :
    Accounted svc calls (s.exec a e).1 (Function.update loc i ((loc i).next a (s.exec a e).2)) := by
  have rest {s' : Rows} (workers : s'.workers = s.workers) (quotas : s'.quotas = s.quotas) :
      Accounted svc calls s' (Function.update loc i (loc i)) := by
    rw [update_eq_self]
    exact here.frame workers quotas
  cases a with
  | sessionCreate | sessionUpdate =>
    simp only [Rows.exec]
    split
    · exact rest rfl rfl
    · exact rest rfl rfl
  | sessionGet | now | wait => exact rest rfl rfl
  | workerCreateAndReserveQuota worker maxWorkers =>
    simp only [Rows.exec]
    split
    · exact rest rfl rfl
    · next reserved => exact here.grant allowed.1 allowed.2 (reserve_ok reserved)
  | workerGet key =>
    simp only [Rows.exec]
    cases found : s.workers.lookup key with
    | none => exact rest rfl rfl
    | some worker => exact here.find allowed found
  | workerDelete key =>
    obtain ⟨address, phase⟩ := allowed
    obtain ⟨worker, found⟩ := Option.isSome_iff_exists.mp finds
    simp only [Rows.exec, found, Local.next, phase, Phase.delete]
    exact here.delete phase found
  | quotaDecrement address sessions workers =>
    obtain ⟨owes, rfl, rfl⟩ := allowed
    rcases Phase.owes_some owes with phase | phase
    · exact here.countDown phase e.time
    · exact absurd phase ((here.sound i).hits address)

end Steps

/-- No call is in progress: each has returned or has not started. -/
def Quiescent (svc : SessionService) (calls : ThreadId → Call)
    (c : Config ServiceAct ThreadId Rows Reply) : Prop :=
  ∀ i, (∃ r, c.threads i = .ret r) ∨ c.threads i = (calls i).program svc

section Runs

variable {svc : SessionService} {calls : ThreadId → Call}
  {c : Config ServiceAct ThreadId Rows Reply}

theorem run_accounted (run : findingService.Reach (start svc calls) c) :
    ∃ loc, (∀ i, (protocol svc).Follows (c.threads i) (loc i) Settled) ∧
      Accounted svc calls c.shared loc := by
  obtain ⟨loc, observed⟩ := run.observed (protocol svc) fun i => ⟨calls i, .idle⟩
  have first : Accounted svc calls {} fun i => ⟨calls i, .idle⟩ := by
    refine ⟨fun i => ⟨rfl, nofun, nofun⟩, nofun, fun payer => ⟨0, .zero ?_, rfl⟩, nofun⟩
    rintro i ⟨_, ⟨⟩, _⟩
  refine ⟨loc, Protocol.Followed.invariant (J := fun s => Accounted svc calls s.1 s.2)
    (fun i => program_follows (calls i)) observed first ?_⟩
  intro i β a e s s' b loc allowed executed here
  simp only [Machine.restrict] at executed
  split at executed
  · next finds =>
      have ran : s.exec a e = (s', b) := Option.some.inj executed
      have kept := exec_accounted (e := e) here allowed finds
      rw [ran] at kept
      exact kept
  · cases executed

theorem quiescent_settled {loc : ThreadId → Local} (quiescent : Quiescent svc calls c)
    (follows : ∀ i, (protocol svc).Follows (c.threads i) (loc i) Settled) (i : ThreadId) :
    (loc i).phase.owes = none := by
  have mine := follows i
  rcases quiescent i with ⟨r, returned⟩ | unstarted
  · rw [returned] at mine
    exact mine.1
  · rw [unstarted] at mine
    exact unstarted_settled mine

/-- In every run in which the deletes of returns find their row: whenever no call is in progress,
the counter of each payer is the number of its workers, and at all times these are within the
limit of a borrow that was granted to the payer. -/
theorem workers_accounted (run : findingService.Reach (start svc calls) c) :
    (Quiescent svc calls c → ∀ payer, active c.shared payer = live c.shared payer) ∧
      ∀ payer, 0 < live c.shared payer → ∃ i req address r, calls i = .borrowWorker req ∧
        c.threads i = .ret r ∧ Grants r ∧ svc.newAddress req.organizationId = .ok address ∧
        address.pretty = payer ∧ live c.shared payer ≤ svc.maxWorkers req.organizationId := by
  obtain ⟨loc, follows, here⟩ := run_accounted run
  constructor
  · intro quiescent payer
    obtain ⟨owing, tally, counted⟩ := here.counted payer
    have nobody : owing = 0 := by
      refine tally.eq_zero fun i => ?_
      rintro ⟨address, phase, _⟩
      have settled := quiescent_settled quiescent follows i
      rw [phase] at settled
      cases settled
    rw [counted, nobody]
    exact Int.add_zero _
  · intro payer positive
    have le := here.live_le payer
    obtain ⟨i, req, address, call, granted, parsed, pretty, limit⟩ := here.within payer (by omega)
    have loopFree := run.loopFree (fun i => program_loopFree (calls i)) i
    obtain ⟨r, returned, grants⟩ := granted_returned loopFree (follows i) granted
    exact ⟨i, req, address, r, (here.sound i).call.symm.trans call, returned, grants, parsed,
      pretty, le.trans limit⟩

end Runs

/-! ## A payer with one session -/

def payerAddress : Address := List.replicate 20 1

def payerText : String := "0x0101010101010101010101010101010101010101"

def service : SessionService where
  quotas := defaultQuotaConfig
  newAddress text := if text = payerText then .ok payerAddress else .error "invalid address"
  newAddress_plain := by
    intro text address parsed
    split at parsed
    · next same =>
        subst same
        decide
    · cases parsed

def session : Session where
  id := "s"
  createdAt := 0
  updatedAt := 0
  lastKeepAlive := 0
  status := .active
  metadata := ∅
  endedAt := none
  endReason := .unspecified
  payer := payerAddress
  receiver := List.replicate 20 2
  dataService := List.replicate 20 3
  currentRAV := none
  blocksProcessed := 0
  bytesTransferred := 0
  requests := 0
  totalCost := 0
  baselineBlocks := 0
  baselineBytes := 0
  baselineReqs := 0
  baselineCost := 0
  pricingConfig := ⟨⟨1⟩, ⟨0⟩⟩

/-- Two borrows, at times 1 and 2, and two returns of the first worker. -/
def twoReturns : ThreadId → Call
  | 0 => .sessionCreate session
  | 1 | 2 => .borrowWorker ⟨payerText, "s", 0⟩
  | 3 | 4 => .returnWorker ⟨payerText ++ "|s|1", none⟩
  | _ => .returnWorker ⟨"", none⟩

theorem twoReturns_quiescent {M : Machine ServiceAct ThreadId ServiceOracle Rows}
    {c : Config ServiceAct ThreadId Rows Reply} (run : M.Reach (start service twoReturns) c)
    (returned : ∀ i < 5, (c.threads i).result.isSome = true) :
    Quiescent service twoReturns c := by
  intro i
  by_cases used : i < 5
  · obtain ⟨r, result⟩ := Option.isSome_iff_exists.mp (returned i used)
    exact .inl ⟨r, Prog.result_eq_some result⟩
  have empty : (start service twoReturns).threads i = .ret (.returnWorker (.error
      ⟨.invalidArgument, "worker_key is required"⟩)) := by
    match i, used with
    | i + 5, _ => rfl
  exact .inl ⟨_, run.returned empty⟩

/-- The returns come one after the other. -/
def returnedInTurn : Config ServiceAct ThreadId Rows Reply :=
  findingService.play [(0, {}, 9), (1, { time := 1 }, 9), (2, { time := 2 }, 9), (3, {}, 9),
    (4, {}, 9)] (start service twoReturns)

theorem workers_accounted_in_turn : Quiescent service twoReturns returnedInTurn ∧
    active returnedInTurn.shared payerAddress.pretty = 1 ∧
    live returnedInTurn.shared payerAddress.pretty = 1 ∧
    active returnedInTurn.shared payerAddress.pretty =
      live returnedInTurn.shared payerAddress.pretty := by
  have run : findingService.Reach (start service twoReturns) returnedInTurn :=
    Machine.play_reach _ _
  have quiescent := twoReturns_quiescent run (by decide +kernel)
  exact ⟨quiescent, by decide +kernel, by decide +kernel, (workers_accounted run).1 quiescent _⟩

/-- Both returns have found the worker before the first of them deletes it. -/
def returnedTwice : Config ServiceAct ThreadId Rows Reply :=
  Workers.machine.play [(0, {}, 9), (1, { time := 1 }, 9), (2, { time := 2 }, 9), (3, {}, 1),
    (4, {}, 9), (3, {}, 9)] (start service twoReturns)

/-- The second return counts down a worker that it has not deleted. -/
theorem workers_miscounted : ∃ c, Workers.machine.Reach (start service twoReturns) c ∧
    Quiescent service twoReturns c ∧
    ∃ payer, active c.shared payer = 0 ∧ live c.shared payer = 1 := by
  have run : Workers.machine.Reach (start service twoReturns) returnedTwice :=
    Machine.play_reach _ _
  exact ⟨returnedTwice, run, twoReturns_quiescent run (by decide +kernel), payerAddress.pretty,
    by decide +kernel, by decide +kernel⟩

end Sdsce.Guarantees.Quotas
