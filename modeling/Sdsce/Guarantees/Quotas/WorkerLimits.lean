import Sdsce.Guarantees.Quotas.WorkerQuota
import Sdsce.Theory.Sequential

/-!
# The limits of the configuration

`BorrowWorker` enforces the product of the two limits of a payer, whatever the sessions of its
workers and whatever limit the request carries. Here the calls come one at a time.
-/
namespace Sdsce.Guarantees.Quotas

open Sdsce.Theory Sdsce.Source Sdsce.Source.Workers

/-- Rows of the repository after calls that were issued one at a time. -/
inductive Reached (svc : SessionService) : Rows → Prop
  | fresh : Reached svc {}
  | call {s s' : Rows} {r : Reply} (before : Reached svc s) (call : Call)
      (ran : Workers.machine.Runs 0 (call.program svc) s r s') : Reached svc s'

/-- The workers of a session. -/
def workersOf (s : Rows) (id : String) : Nat :=
  Table.count (fun worker => worker.sessionID = id) s.workers

/-- The sessions in which a payer has workers. -/
def sessionsOf (s : Rows) (payer : List Char) : Finset String :=
  (((Table.rows s.workers).filter fun worker => worker.payer.pretty = payer).map
    Worker.sessionID).toFinset

/-! ## What calls do -/

section Calls

variable {svc : SessionService} {req : BorrowWorkerRequest} {s s' : Rows} {i : ThreadId}

theorem runs_act {α β : Type} {a : ServiceAct β} {k : β → Program α} {r : α}
    (ran : Workers.machine.Runs i (.act a k) s r s') :
    ∃ e, Workers.machine.Runs i (k (s.exec a e).2) (s.exec a e).1 r s' := by
  obtain ⟨e, b, mid, executed, rest⟩ := ran.act_inv
  have ran : s.exec a e = (mid, b) := Option.some.inj executed
  refine ⟨e, ?_⟩
  rw [ran]
  exact rest

theorem authorizeSession_runs {id : String} {payer : Address} {r : Except ConnectError Session}
    (ran : Workers.machine.Runs i (authorizeSession id payer) s r s') :
    s' = s ∧ ∀ session, r = .ok session →
      s.sessions.lookup id = some session ∧ session.payer = payer := by
  obtain ⟨e, rest⟩ := runs_act ran
  simp only [Rows.exec] at rest
  cases stored : s.sessions.lookup id with
  | none =>
    rw [stored] at rest
    obtain ⟨rfl, rfl⟩ := rest.ret_inv
    refine ⟨rfl, fun other answer => ?_⟩
    cases answer
  | some session =>
    rw [stored] at rest
    obtain ⟨rfl, rfl⟩ := rest.ret_inv
    refine ⟨rfl, fun other answer => ?_⟩
    split_ifs at answer with mismatch live
    cases answer
    exact ⟨rfl, Address.pretty_injective (not_not.mp mismatch)⟩

/-- A borrow that is granted has found its session and has reserved a worker. -/
def Lends (svc : SessionService) (req : BorrowWorkerRequest) (s s' : Rows) : Prop :=
  ∃ payer session now, req.organizationId ≠ "" ∧ svc.newAddress req.organizationId = .ok payer ∧
    s.sessions.lookup req.sessionId = some session ∧ session.payer = payer ∧
    Reserves s (newWorker req payer now) (svc.maxWorkers req.organizationId) s'

theorem borrowWorker_runs {r : Except ConnectError BorrowWorkerResponse}
    (ran : Workers.machine.Runs i (svc.borrowWorker req) s r s') :
    Lends svc req s s' ∨ s' = s ∧ ∀ response, r = .ok response → response.status ≠ .borrowed := by
  unfold SessionService.borrowWorker at ran
  split at ran
  · obtain ⟨rfl, rfl⟩ := ran.ret_inv
    exact .inr ⟨rfl, fun response answer => by cases answer⟩
  rename_i named
  split at ran
  · obtain ⟨rfl, rfl⟩ := ran.ret_inv
    exact .inr ⟨rfl, fun response answer => by cases answer⟩
  rename_i payer parsed
  split at ran
  · obtain ⟨rfl, rfl⟩ := ran.ret_inv
    exact .inr ⟨rfl, fun response answer => by cases answer⟩
  obtain ⟨answer, mid, authorized, rest⟩ := ran.bind_inv
  obtain ⟨rfl, found⟩ := authorizeSession_runs authorized
  cases answer with
  | error err =>
    obtain ⟨rfl, rfl⟩ := rest.ret_inv
    exact .inr ⟨rfl, fun response answer => by cases answer⟩
  | ok session =>
    obtain ⟨stored, same⟩ := found session rfl
    obtain ⟨e, rest⟩ := runs_act rest
    obtain ⟨e', rest⟩ := runs_act rest
    simp only [Rows.exec] at rest
    split at rest
    · next err _ =>
        cases err with
        | quotaExceeded quota =>
          obtain ⟨rfl, rfl⟩ := rest.ret_inv
          refine .inr ⟨rfl, ?_⟩
          rintro _ ⟨⟩
          exact BorrowStatus.noConfusion
        | workerKeyEmpty | maxWorkersNegative | alreadyExists _ =>
          obtain ⟨rfl, rfl⟩ := rest.ret_inv
          exact .inr ⟨rfl, fun response answer => by cases answer⟩
    · next reserved =>
        obtain ⟨rfl, rfl⟩ := rest.ret_inv
        exact .inl ⟨payer, session, e.time, named, parsed, stored, same, reserve_ok reserved⟩

theorem awaitMinimalLife_runs {worker : Worker} {minDuration : Option Int} {r : Option String}
    (ran : Workers.machine.Runs i (awaitMinimalLife worker minDuration) s r s') : s' = s := by
  unfold awaitMinimalLife at ran
  split at ran
  · exact ran.ret_inv.2
  obtain ⟨e, rest⟩ := runs_act ran
  change Workers.machine.Runs i (if _ then _ else _) _ _ _ at rest
  split at rest
  · obtain ⟨e', rest⟩ := runs_act rest
    exact rest.ret_inv.2
  · exact rest.ret_inv.2

/-- A return that deletes a worker counts it down. -/
def TakesBack (s s' : Rows) : Prop :=
  ∃ key worker now, s.workers.lookup key = some worker ∧
    s' = ({ s with workers := s.workers.erase key } : Rows).quotaDecrement worker.payer 0 1 now

theorem returnWorker_runs {req : ReturnWorkerRequest} {r : Except ConnectError Unit}
    (ran : Workers.machine.Runs i (returnWorker req) s r s') : TakesBack s s' ∨ s' = s := by
  unfold returnWorker at ran
  split at ran
  · exact .inr ran.ret_inv.2
  obtain ⟨e, rest⟩ := runs_act ran
  simp only [Rows.exec] at rest
  cases found : s.workers.lookup req.workerKey with
  | none =>
    rw [found] at rest
    exact .inr rest.ret_inv.2
  | some worker =>
    rw [found] at rest
    have rest : Workers.machine.Runs i
        ((awaitMinimalLife worker req.minimalWorkerLifeDuration).bind _) s r s' := rest
    obtain ⟨waited, mid, awaited, rest⟩ := rest.bind_inv
    cases awaitMinimalLife_runs awaited
    cases waited with
    | some err => exact .inr rest.ret_inv.2
    | none =>
      obtain ⟨e', rest⟩ := runs_act rest
      simp only [Rows.exec, found] at rest
      obtain ⟨e'', rest⟩ := runs_act rest
      exact .inl ⟨req.workerKey, worker, e''.time, found, rest.ret_inv.2⟩

/-- The rest of the provider opens sessions and updates them. -/
def Touches (s s' : Rows) : Prop :=
  s'.workers = s.workers ∧ s'.quotas = s.quotas ∧
    ∀ id session, s.sessions.lookup id = some session →
      ∃ session', s'.sessions.lookup id = some session' ∧ session'.payer = session.payer

theorem touches_refl (s : Rows) : Touches s s :=
  ⟨rfl, rfl, fun _ session stored => ⟨session, stored, rfl⟩⟩

theorem sessionCreate_runs {session : Session} {r : Reply}
    (ran : Workers.machine.Runs i ((Call.sessionCreate session).program svc) s r s') :
    Touches s s' := by
  obtain ⟨e, rest⟩ := runs_act ran
  cases rest.ret_inv.2
  simp only [Rows.exec]
  split
  · exact touches_refl s
  rename_i absent
  refine ⟨rfl, rfl, fun id old stored => ⟨old, ?_, rfl⟩⟩
  have other : id ≠ session.id := by
    rintro rfl
    rw [absent] at stored
    cases stored
  rw [AList.lookup_insert_ne other]
  exact stored

theorem sessionUpdate_runs {id : String} {update : SessionUpdate} {r : Reply}
    (ran : Workers.machine.Runs i ((Call.sessionUpdate id update).program svc) s r s') :
    Touches s s' := by
  obtain ⟨e, rest⟩ := runs_act ran
  cases rest.ret_inv.2
  simp only [Rows.exec]
  split
  · exact touches_refl s
  rename_i session found
  refine ⟨rfl, rfl, fun other old stored => ?_⟩
  by_cases same : other = id
  · subst same
    cases found.symm.trans stored
    exact ⟨update.apply session, AList.lookup_insert _, (update.apply_parties session).1⟩
  · refine ⟨old, ?_, rfl⟩
    rw [AList.lookup_insert_ne same]
    exact stored

theorem program_runs {call : Call} {r : Reply}
    (ran : Workers.machine.Runs i (call.program svc) s r s') :
    (∃ req, Lends svc req s s') ∨ TakesBack s s' ∨ Touches s s' := by
  cases call with
  | borrowWorker req =>
    obtain ⟨response, mid, borrowed, rest⟩ := ran.bind_inv
    cases rest.ret_inv.2
    rcases borrowWorker_runs borrowed with lends | ⟨rfl, _⟩
    · exact .inl ⟨req, lends⟩
    · exact .inr (.inr (touches_refl _))
  | returnWorker req =>
    obtain ⟨response, mid, returned, rest⟩ := ran.bind_inv
    cases rest.ret_inv.2
    rcases returnWorker_runs returned with back | rfl
    · exact .inr (.inl back)
    · exact .inr (.inr (touches_refl _))
  | sessionCreate session => exact .inr (.inr (sessionCreate_runs ran))
  | sessionUpdate id update => exact .inr (.inr (sessionUpdate_runs ran))

end Calls

/-! ## The state between calls -/

/-- Between calls the counters are exact, a worker belongs to the payer of its session, and the
workers of a payer are within the product of limits of some text that names it. -/
structure Exact (svc : SessionService) (s : Rows) : Prop where
  counted : ∀ payer, active s payer = live s payer
  owned : ∀ key worker, s.workers.lookup key = some worker →
    ∃ session, s.sessions.lookup worker.sessionID = some session ∧ session.payer = worker.payer
  limited : ∀ payer, 0 < live s payer → ∃ text address, text ≠ "" ∧
    svc.newAddress text = .ok address ∧ address.pretty = payer ∧ live s payer ≤ svc.maxWorkers text

section Between

variable {svc : SessionService} {s s' : Rows}

theorem Exact.lend {req : BorrowWorkerRequest} (here : Exact svc s)
    (lends : Lends svc req s s') : Exact svc s' := by
  obtain ⟨payer, session, now, named, parsed, stored, same, reserved⟩ := lends
  refine ⟨fun other => ?_, fun key worker found => ?_, fun other positive => ?_⟩
  · rw [reserved.active, reserved.live, here.counted]
    push_cast
    rfl
  · rw [reserved.sessions]
    rw [reserved.workers] at found
    exact Table.forall_lookup_insert ⟨session, stored, same⟩ here.owned key worker found
  · have grown := reserved.live other
    split_ifs at grown with own
    · refine ⟨req.organizationId, payer, named, parsed, own, ?_⟩
      have limit := reserved.within
      rw [own, here.counted] at limit
      omega
    · rw [grown] at positive ⊢
      exact here.limited other positive

theorem Exact.takeBack (here : Exact svc s) (back : TakesBack s s') : Exact svc s' := by
  obtain ⟨key, worker, now, found, rfl⟩ := back
  obtain ⟨workers, sessions⟩ :=
    quotaDecrement_rows { s with workers := s.workers.erase key } worker.payer now
  have liveAfter (payer : List Char) : live s payer = live (({ s with
      workers := s.workers.erase key } : Rows).quotaDecrement worker.payer 0 1 now) payer +
      if worker.payer.pretty = payer then 1 else 0 := by
    rw [live_erase found payer]
    unfold live
    rw [workers]
  refine ⟨fun payer => ?_, fun other row stored => ?_, fun payer positive => ?_⟩
  · have gone := liveAfter payer
    have counted := here.counted payer
    have counter := active_quotaDecrement { s with workers := s.workers.erase key } worker.payer
      now payer
    have unchanged : active { s with workers := s.workers.erase key } payer = active s payer := rfl
    split_ifs at gone counter <;> omega
  · rw [workers] at stored
    rw [sessions]
    by_cases same : other = key
    · subst same
      rw [AList.lookup_erase] at stored
      cases stored
    · rw [AList.lookup_erase_ne same] at stored
      exact here.owned other row stored
  · have fewer := liveAfter payer
    obtain ⟨text, address, named, parsed, pretty, limit⟩ := here.limited payer (by omega)
    exact ⟨text, address, named, parsed, pretty, by split_ifs at fewer <;> omega⟩

theorem Exact.touch (here : Exact svc s) (touches : Touches s s') : Exact svc s' := by
  obtain ⟨workers, quotas, sessions⟩ := touches
  have sameActive (payer : List Char) : active s' payer = active s payer := by
    unfold active
    rw [quotas]
  have sameLive (payer : List Char) : live s' payer = live s payer := by
    unfold live
    rw [workers]
  refine ⟨fun payer => ?_, fun key worker found => ?_, fun payer positive => ?_⟩
  · rw [sameActive, sameLive, here.counted]
  · rw [workers] at found
    obtain ⟨session, stored, payer⟩ := here.owned key worker found
    obtain ⟨session', stored', same⟩ := sessions _ _ stored
    exact ⟨session', stored', same.trans payer⟩
  · rw [sameLive] at positive ⊢
    exact here.limited payer positive

theorem Reached.exact (reached : Reached svc s) : Exact svc s := by
  induction reached with
  | fresh => exact ⟨fun _ => rfl, nofun, nofun⟩
  | call _ call ran ih =>
    rcases program_runs ran with ⟨req, lends⟩ | back | touches
    · exact ih.lend lends
    · exact ih.takeBack back
    · exact ih.touch touches

theorem Exact.workersOf_le (here : Exact svc s) {id : String} {session : Session}
    (stored : s.sessions.lookup id = some session) :
    workersOf s id ≤ live s session.payer.pretty := by
  unfold workersOf live Table.count
  refine List.countP_mono_left fun worker row own => ?_
  obtain ⟨key, found⟩ := Table.mem_rows.mp row
  obtain ⟨session', stored', payer⟩ := here.owned key worker found
  rw [decide_eq_true_eq] at own ⊢
  subst own
  cases stored.symm.trans stored'
  rw [payer]

/-- Limits that no product exceeds hold for all workers of a payer together. -/
theorem Exact.live_le (here : Exact svc s) {payer : Address} {bound : Int} (nonneg : 0 ≤ bound)
    (product : ∀ text, text ≠ "" → svc.newAddress text = .ok payer → svc.maxWorkers text ≤ bound) :
    live s payer.pretty ≤ bound := by
  rcases Nat.eq_zero_or_pos (live s payer.pretty) with idle | positive
  · omega
  · obtain ⟨text, address, named, parsed, pretty, within⟩ := here.limited _ positive
    rw [Address.pretty_injective pretty] at parsed
    exact within.trans (product text named parsed)

theorem sessionsOf_card_le (s : Rows) (payer : List Char) :
    (sessionsOf s payer).card ≤ live s payer := by
  unfold sessionsOf live Table.count
  rw [List.countP_eq_length_filter]
  calc _ ≤ _ := List.toFinset_card_le _
    _ = _ := List.length_map _

end Between

/-! ## Runs that use up the product -/

section Lending

variable {svc : SessionService} {s : Rows} {payer : Address}

theorem reserve_succeeds {worker : Worker} {maxWorkers : Int} (now : Time) (key : worker.key ≠ "")
    (absent : s.workers.lookup worker.key = none) (nonneg : 0 ≤ active s worker.payer.pretty)
    (within : active s worker.payer.pretty + 1 ≤ maxWorkers) :
    ∃ next quota, s.workerCreateAndReserveQuota worker maxWorkers now = .ok (next, quota) := by
  unfold Rows.workerCreateAndReserveQuota
  unfold active at nonneg within
  rw [if_neg key, if_neg (by omega), absent]
  dsimp only
  split
  · next missing =>
      rw [if_neg (by omega)]
      exact ⟨_, _, rfl⟩
  · next current found =>
      simp only [found] at within
      rw [if_neg (by omega)]
      exact ⟨_, _, rfl⟩

theorem newWorker_key_ne_empty (req : BorrowWorkerRequest) (payer : Address) (now : Time) :
    (newWorker req payer now).key ≠ "" := by
  intro empty
  have chars := congrArg String.toList empty
  unfold newWorker buildWorkerKey at chars
  rw [String.toList_ofList] at chars
  exact List.append_ne_nil_of_right_ne_nil _ (List.cons_ne_nil _ _) chars

theorem borrowWorker_granted (req : BorrowWorkerRequest) {session : Session} (now : Time)
    (named : req.organizationId ≠ "") (parsed : svc.newAddress req.organizationId = .ok payer)
    (sessionNamed : req.sessionId ≠ "") (stored : s.sessions.lookup req.sessionId = some session)
    (mine : session.payer = payer) (running : session.isActive = true)
    (absent : s.workers.lookup (newWorker req payer now).key = none)
    (nonneg : 0 ≤ active s payer.pretty)
    (within : active s payer.pretty + 1 ≤ svc.maxWorkers req.organizationId) :
    ∃ response s', Workers.machine.Runs 0 (svc.borrowWorker req) s (.ok response) s' ∧
      response.status = .borrowed ∧
      Reserves s (newWorker req payer now) (svc.maxWorkers req.organizationId) s' := by
  obtain ⟨next, quota, reserved⟩ := reserve_succeeds now (newWorker_key_ne_empty req payer now)
    absent nonneg within
  have authorized : Workers.machine.Runs 0 (authorizeSession req.sessionId payer) s
      (.ok session) s := by
    refine .act (e := {}) rfl ?_
    simp only [stored, mine, running, Prog.ret_bind, ne_eq, not_true_eq_false, if_false, if_true]
    exact .ret
  have ran : Workers.machine.exec 0 (.workerCreateAndReserveQuota (newWorker req payer now)
      (svc.maxWorkers req.organizationId)) { time := now } s = some (next, .ok quota) := by
    simp only [Workers.machine, Rows.exec, reserved]
  have lent : Workers.machine.Runs 0 (svc.reserve req payer) s (.ok {
      workerKey := (newWorker req payer now).key
      status := .borrowed
      maxWorkers := svc.maxWorkers req.organizationId
      activeWorkers := quota.activeWorkers }) next := by
    refine authorized.bind (.act (e := { time := now }) rfl ?_)
    change Workers.machine.Runs 0 ((perform _).bind _) s _ next
    exact .bind (.act ran .ret) .ret
  unfold SessionService.borrowWorker
  rw [if_neg named, parsed]
  dsimp only
  rw [if_neg sessionNamed]
  exact ⟨_, next, lent, rfl, reserve_ok reserved⟩

/-- An open session of the payer. -/
def opened (payer : Address) (id : String) : Session := { session with id, payer }

/-- The `k`-th borrow, with a limit of one worker for its session. -/
def request (text : String) (ids : Nat → String) (k : Nat) : BorrowWorkerRequest := ⟨text, ids k, 1⟩

/-- The worker of the `k`-th borrow, at time `k`. -/
def lentWorker (text : String) (payer : Address) (ids : Nat → String) (k : Nat) : Worker :=
  newWorker (request text ids k) payer k

/-- The payer has `n` workers, for the sessions `ids 0` to `ids (n - 1)`. -/
structure Lent (svc : SessionService) (text : String) (payer : Address) (ids : Nat → String)
    (n : Nat) (s : Rows) : Prop where
  reached : Reached svc s
  sessions : ∀ id session, s.sessions.lookup id = some session → session = opened payer id
  rows : Table.rows s.workers = ((List.range n).map (lentWorker text payer ids)).reverse
  keys : ∀ key worker, s.workers.lookup key = some worker →
    ∃ k < n, key = (lentWorker text payer ids k).key

variable {text : String} {ids : Nat → String} {n : Nat}

theorem lent_zero : Lent svc text payer ids 0 {} := by
  refine ⟨.fresh, fun id session found => ?_, rfl, fun key worker found => ?_⟩
  · cases found
  · cases found

theorem Lent.live (lent : Lent svc text payer ids n s) : live s payer.pretty = n := by
  unfold Quotas.live Table.count
  have all : ∀ k ∈ List.range n, ((fun worker => decide (worker.payer.pretty = payer.pretty)) ∘
      lentWorker text payer ids) k = true := fun k _ => decide_eq_true rfl
  rw [lent.rows, List.countP_reverse, List.countP_map, List.countP_eq_length.mpr all,
    List.length_range]

theorem lentWorker_key_inj (plain : '|' ∉ text.toList) (bars : ∀ k, '|' ∉ (ids k).toList)
    {j k : Nat} (same : (lentWorker text payer ids j).key = (lentWorker text payer ids k).key) :
    j = k := by
  have chars := (Bytes.separator_append_inj plain plain (String.ofList_injective same)).2
  have times := String.toList_injective (Bytes.separator_append_inj (bars j) (bars k) chars).2
  have digits : Nat.toDigits 10 j = Nat.toDigits 10 k := by
    change Nat.repr j = Nat.repr k at times
    rw [Nat.repr_eq_ofList_toDigits, Nat.repr_eq_ofList_toDigits] at times
    exact String.ofList_injective times
  rw [← Nat.ofDigitChars_ten_toDigits (n := j), digits, Nat.ofDigitChars_ten_toDigits]

theorem Lent.opening (lent : Lent svc text payer ids n s) (id : String) :
    ∃ mid, Lent svc text payer ids n mid ∧
      mid.sessions.lookup id = some (opened payer id) := by
  cases stored : s.sessions.lookup id with
  | some session =>
    refine ⟨s, lent, ?_⟩
    rw [stored, lent.sessions id session stored]
  | none =>
    refine ⟨{ s with sessions := s.sessions.insert id (opened payer id) }, ⟨?_, ?_, lent.rows,
      lent.keys⟩, AList.lookup_insert _⟩
    · have absent : s.sessions.lookup (opened payer id).id = none := stored
      refine lent.reached.call (.sessionCreate (opened payer id)) (.bind
        (.act (e := {}) (b := false) ?_ .ret) .ret)
      simp only [Workers.machine, Rows.exec, absent]
      rfl
    · exact Table.forall_lookup_insert rfl lent.sessions

theorem Lent.next (lent : Lent svc text payer ids n s) (named : text ≠ "")
    (parsed : svc.newAddress text = .ok payer) (sessionNamed : ∀ k, ids k ≠ "")
    (bars : ∀ k, '|' ∉ (ids k).toList) (below : (n : Int) + 1 ≤ svc.maxWorkers text) :
    ∃ mid response s', Reached svc mid ∧
      Workers.machine.Runs 0 (svc.borrowWorker (request text ids n)) mid (.ok response) s' ∧
      response.status = .borrowed ∧ Lent svc text payer ids (n + 1) s' := by
  obtain ⟨mid, lent, stored⟩ := lent.opening (ids n)
  have absent : mid.workers.lookup (lentWorker text payer ids n).key = none := by
    cases found : mid.workers.lookup (lentWorker text payer ids n).key with
    | none => rfl
    | some worker =>
      obtain ⟨k, earlier, same⟩ := lent.keys _ _ found
      have := lentWorker_key_inj (svc.newAddress_plain parsed) bars same
      omega
  have count : active mid payer.pretty = n := by
    rw [lent.reached.exact.counted, lent.live]
  obtain ⟨response, s', ran, borrowed, reserved⟩ :=
    borrowWorker_granted (request text ids n) n named parsed (sessionNamed n) stored rfl rfl absent
      (by omega) (by rw [count]; exact below)
  refine ⟨mid, response, s', lent.reached, ran, borrowed, ?_, ?_, ?_, ?_⟩
  · exact lent.reached.call (.borrowWorker (request text ids n)) (ran.bind .ret)
  · rw [reserved.sessions]
    exact lent.sessions
  · rw [reserved.workers]
    refine (Table.rows_insert absent).trans ?_
    rw [lent.rows, List.range_succ, List.map_append, List.reverse_append]
    rfl
  · intro key worker found
    rw [reserved.workers] at found
    by_cases same : key = (lentWorker text payer ids n).key
    · exact ⟨n, by omega, same⟩
    · obtain ⟨k, earlier, key⟩ :=
        lent.keys key worker ((AList.lookup_insert_ne same).symm.trans found)
      exact ⟨k, by omega, key⟩

theorem exists_lent (named : text ≠ "") (parsed : svc.newAddress text = .ok payer)
    (sessionNamed : ∀ k, ids k ≠ "") (bars : ∀ k, '|' ∉ (ids k).toList)
    (below : (n : Int) ≤ svc.maxWorkers text ∨ n = 0) : ∃ s, Lent svc text payer ids n s := by
  induction n with
  | zero => exact ⟨{}, lent_zero⟩
  | succ n ih =>
    obtain ⟨s, lent⟩ := ih (by omega)
    obtain ⟨_, _, s', _, _, _, next⟩ := lent.next named parsed sessionNamed bars (by omega)
    exact ⟨s', next⟩

end Lending

/-! ## The three limits -/

/-- No session has more workers than `MaxWorkersPerSession` of its payer. -/
def SessionLimit (svc : SessionService) : Prop :=
  ∀ s, Reached svc s → ∀ id session text, s.sessions.lookup id = some session →
    svc.newAddress text = .ok session.payer →
    (workersOf s id : Int) ≤ (svc.quotas.maxWorkersPerSession text).toInt

/-- No payer has workers in more sessions than its `MaxConcurrentSessions`. -/
def PayerLimit (svc : SessionService) : Prop :=
  ∀ s, Reached svc s → ∀ payer text, svc.newAddress text = .ok payer →
    ((sessionsOf s payer.pretty).card : Int) ≤ (svc.quotas.maxConcurrentSessions text).toInt

/-- When a worker is granted under a positive limit of the request, its session has no more
workers than that. -/
def RequestLimit (svc : SessionService) : Prop :=
  ∀ s, Reached svc s → ∀ req response s',
    Workers.machine.Runs 0 (svc.borrowWorker req) s (.ok response) s' →
    response.status = .borrowed → 0 < req.maxWorkersPerSession →
    (workersOf s' req.sessionId : Int) ≤ req.maxWorkersPerSession.toInt

section Limits

variable {svc : SessionService} {s : Rows} {payer : Address} {text : String} {n : Nat}

/-- All borrows for one session. -/
def oneSession (_ : Nat) : String := "s"

theorem oneSession_named (k : Nat) : oneSession k ≠ "" := by
  unfold oneSession
  decide

theorem oneSession_plain (k : Nat) : '|' ∉ (oneSession k).toList := by
  unfold oneSession
  decide

/-- Every borrow for another session. -/
def otherSession (k : Nat) : String := String.ofList (List.replicate (k + 1) 's')

theorem otherSession_injective : Function.Injective otherSession := by
  intro j k same
  have lengths := congrArg List.length (String.ofList_injective same)
  simpa only [List.length_replicate, Nat.add_right_cancel_iff] using lengths

theorem exists_lent_oneSession (named : text ≠ "") (parsed : svc.newAddress text = .ok payer)
    (below : (n : Int) ≤ svc.maxWorkers text ∨ n = 0) :
    ∃ s, Lent svc text payer oneSession n s :=
  exists_lent named parsed oneSession_named oneSession_plain below

theorem exists_lent_otherSession (named : text ≠ "") (parsed : svc.newAddress text = .ok payer)
    (below : (n : Int) ≤ svc.maxWorkers text ∨ n = 0) :
    ∃ s, Lent svc text payer otherSession n s := by
  refine exists_lent named parsed (fun k empty => ?_) (fun k bar => ?_) below
  · have chars := congrArg String.toList empty
    rw [otherSession, String.toList_ofList] at chars
    cases chars
  · rw [otherSession, String.toList_ofList] at bar
    exact absurd (List.eq_of_mem_replicate bar) (by decide)

theorem Lent.workersOf (lent : Lent svc text payer oneSession n s) : workersOf s "s" = n := by
  have all : ∀ k ∈ List.range n, ((fun worker => decide (worker.sessionID = "s")) ∘
      lentWorker text payer oneSession) k = true := fun k _ => rfl
  unfold Quotas.workersOf Table.count
  rw [lent.rows, List.countP_reverse, List.countP_map, List.countP_eq_length.mpr all,
    List.length_range]

theorem Lent.sessionsOf (lent : Lent svc text payer otherSession n s) :
    (sessionsOf s payer.pretty).card = n := by
  have all : ∀ worker ∈ ((List.range n).map (lentWorker text payer otherSession)).reverse,
      decide (worker.payer.pretty = payer.pretty) = true := by
    intro worker member
    obtain ⟨k, _, rfl⟩ := List.mem_map.mp (List.mem_reverse.mp member)
    exact decide_eq_true rfl
  have nodup : (((List.range n).map (lentWorker text payer otherSession)).reverse.map
      Worker.sessionID).Nodup := by
    rw [List.map_reverse, List.nodup_reverse, List.map_map]
    exact List.nodup_range.map otherSession_injective
  unfold Quotas.sessionsOf
  rw [lent.rows, List.filter_eq_self.mpr all, List.toFinset_card_of_nodup nodup, List.length_map,
    List.length_reverse, List.length_map, List.length_range]

theorem sessionLimit_iff : SessionLimit svc ↔ ∀ payer text, svc.newAddress text = .ok payer →
    0 ≤ (svc.quotas.maxWorkersPerSession text).toInt ∧
    ∀ other, other ≠ "" → svc.newAddress other = .ok payer →
      svc.maxWorkers other ≤ (svc.quotas.maxWorkersPerSession text).toInt := by
  constructor
  · intro limit payer text parsed
    have nothing : Lent svc text payer oneSession 0 {} := lent_zero
    obtain ⟨mid, lent, stored⟩ := nothing.opening "s"
    have nonneg := limit mid lent.reached "s" _ text stored parsed
    refine ⟨by omega, fun other named parsed' => ?_⟩
    by_contra exceeds
    obtain ⟨s, lent⟩ := exists_lent_oneSession
      (n := (svc.quotas.maxWorkersPerSession text).toInt.toNat + 1) named parsed' (by omega)
    obtain ⟨mid, lent, stored⟩ := lent.opening "s"
    have broken := limit mid lent.reached "s" _ text stored parsed
    rw [lent.workersOf] at broken
    omega
  · intro limits s reached id session text stored parsed
    have le := reached.exact.workersOf_le stored
    obtain ⟨nonneg, product⟩ := limits session.payer text parsed
    have within := reached.exact.live_le nonneg product
    omega

theorem payerLimit_iff : PayerLimit svc ↔ ∀ payer text, svc.newAddress text = .ok payer →
    0 ≤ (svc.quotas.maxConcurrentSessions text).toInt ∧
    ∀ other, other ≠ "" → svc.newAddress other = .ok payer →
      svc.maxWorkers other ≤ (svc.quotas.maxConcurrentSessions text).toInt := by
  constructor
  · intro limit payer text parsed
    have nonneg := limit {} .fresh payer text parsed
    refine ⟨by omega, fun other named parsed' => ?_⟩
    by_contra exceeds
    obtain ⟨s, lent⟩ := exists_lent_otherSession
      (n := (svc.quotas.maxConcurrentSessions text).toInt.toNat + 1) named parsed' (by omega)
    have broken := limit s lent.reached payer text parsed
    rw [lent.sessionsOf] at broken
    omega
  · intro limits s reached payer text parsed
    have le := sessionsOf_card_le s payer.pretty
    obtain ⟨nonneg, product⟩ := limits payer text parsed
    have within := reached.exact.live_le nonneg product
    omega

theorem requestLimit_iff : RequestLimit svc ↔ ∀ payer text, text ≠ "" →
    svc.newAddress text = .ok payer → svc.maxWorkers text ≤ 1 := by
  constructor
  · intro limit payer text named parsed
    by_contra exceeds
    obtain ⟨s, lent⟩ := exists_lent_oneSession (n := 1) named parsed (by omega)
    obtain ⟨mid, response, s', reached, ran, borrowed, lent'⟩ :=
      lent.next named parsed oneSession_named oneSession_plain (by omega)
    have broken := limit mid reached _ response s' ran borrowed
      (by decide : (0 : Int64) < 1)
    change (Quotas.workersOf s' "s" : Int) ≤ 1 at broken
    rw [lent'.workersOf] at broken
    omega
  · intro limits s reached req response s' ran borrowed positive
    rcases borrowWorker_runs ran with lends | ⟨_, refused⟩
    · have after := reached.exact.lend lends
      obtain ⟨payer, session, now, named, parsed, stored, mine, reserved⟩ := lends
      have product := limits payer req.organizationId named parsed
      have within := reserved.within
      have counted := reached.exact.counted payer.pretty
      have grown : live s' payer.pretty = live s payer.pretty + 1 := by
        rw [reserved.live]
        exact congrArg _ (if_pos rfl)
      rw [← reserved.sessions] at stored
      have le := after.workersOf_le stored
      rw [mine] at le
      have fits : 1 ≤ req.maxWorkersPerSession.toInt := Int64.lt_iff_toInt_lt.mp positive
      change active s payer.pretty + 1 ≤ _ at within
      omega
    · exact absurd borrowed (refused response rfl)

/-- The limits hold at all times exactly when no payer can have a second worker, nor a first one
against either limit. -/
theorem limits_hold_iff (svc : SessionService) :
    SessionLimit svc ∧ PayerLimit svc ∧ RequestLimit svc ↔
      ∀ payer text, svc.newAddress text = .ok payer →
        0 ≤ (svc.quotas.maxWorkersPerSession text).toInt ∧
        0 ≤ (svc.quotas.maxConcurrentSessions text).toInt ∧
        ∀ other, other ≠ "" → svc.newAddress other = .ok payer → svc.maxWorkers other ≤ 1 ∧
          svc.maxWorkers other ≤ (svc.quotas.maxWorkersPerSession text).toInt ∧
          svc.maxWorkers other ≤ (svc.quotas.maxConcurrentSessions text).toInt := by
  rw [sessionLimit_iff, payerLimit_iff, requestLimit_iff]
  constructor
  · rintro ⟨sessions, payers, requests⟩ payer text parsed
    obtain ⟨sessionNonneg, sessionProduct⟩ := sessions payer text parsed
    obtain ⟨payerNonneg, payerProduct⟩ := payers payer text parsed
    exact ⟨sessionNonneg, payerNonneg, fun other named parsed' =>
      ⟨requests payer other named parsed', sessionProduct other named parsed',
        payerProduct other named parsed'⟩⟩
  · intro limits
    refine ⟨fun payer text parsed => ?_, fun payer text parsed => ?_,
      fun payer text named parsed => ?_⟩
    · obtain ⟨nonneg, _, product⟩ := limits payer text parsed
      exact ⟨nonneg, fun other named parsed' => (product other named parsed').2.1⟩
    · obtain ⟨_, nonneg, product⟩ := limits payer text parsed
      exact ⟨nonneg, fun other named parsed' => (product other named parsed').2.2⟩
    · exact ((limits payer text parsed).2.2 text named parsed).1

end Limits

/-- With the default limits, five workers a session in ten sessions, a session gets six workers. -/
theorem default_limit_exceeded : ∃ s session, Reached service s ∧
    s.sessions.lookup "s" = some session ∧ service.newAddress payerText = .ok session.payer ∧
    service.quotas.maxWorkersPerSession payerText = 5 ∧ workersOf s "s" = 6 := by
  have parsed : service.newAddress payerText = .ok payerAddress := rfl
  have product : service.maxWorkers payerText = 50 := by decide
  obtain ⟨s, lent⟩ := exists_lent_oneSession (n := 6) (by decide) parsed (by omega)
  obtain ⟨mid, lent, stored⟩ := lent.opening "s"
  exact ⟨mid, _, lent.reached, stored, parsed, rfl, lent.workersOf⟩

end Sdsce.Guarantees.Quotas
