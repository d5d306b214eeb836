import Sdsce.Guarantees.Streams.Binding

/-!
# Entries that nobody uses

An entry of the runtime manager is in use while it holds a channel, a request or a response.
Unbinding a stream and acknowledging funds delete what falls out of use. `ensureSessionState` makes
an entry that is not in use, and nothing deletes it unless a stream binds the session later. As
long as evaluations find the entry that they ask for, an entry is out of use only while its session
is evaluated.
-/
namespace Sdsce.Guarantees.Entries

open Sdsce.Theory Sdsce.Source Sdsce.Source.Gateway Sdsce.Guarantees.Streams Function

/-- A bound stream, a pending request or a queued response. -/
def inUse (state : RuntimeSessionState) : Bool :=
  state.events.isSome || state.pendingRAV.isSome || state.queuedResponse.isSome

variable {state : RuntimeSessionState} {other : String} {β : Type} {a : RuntimeAct β}

theorem inUse_of_events (bound : state.events.isSome = true) : inUse state = true := by
  simp [inUse, bound]

/-! ## What falls out of use -/

variable {r r' : Runtime} {i : ThreadId} {e : Oracle} {id : String} {p q : StatePtr}

/-- The entry whose fields an operation clears outside `runtimeManager.mu`. -/
def drops {β : Type} : RuntimeAct β → Option StatePtr
  | .dropPendingRAV p | .dropQueuedResponse p => some p
  | _ => none

/-- The session whose request an operation takes out. -/
def clears {β : Type} : RuntimeAct β → Option String
  | .clearPendingRAV id => some id
  | _ => none

/-- The session for which an operation queues a response. -/
def queues {β : Type} : RuntimeAct β → Option String
  | .dispatchLocked id _ _ => some id
  | _ => none

/-- `ensureSessionState` finds an entry. -/
def finds (r : Runtime) {β : Type} : RuntimeAct β → Bool
  | .ensureSessionState id => (r.find id).isSome
  | _ => true

theorem idle_of_write (idle : inUse ((r.write q state).heap p) = false)
    (kept : inUse state = false → inUse (r.heap q) = false) : inUse (r.heap p) = false := by
  by_cases same : p = q
  · subst same
    rw [r.write_self] at idle
    exact kept idle
  · rwa [r.write_of_ne state same] at idle

/-- The entry of a session is written and put to use, or it is deleted. -/
theorem idle_of_deleteWhen (condition : Bool) (entry : r.find other = some q)
    (used : condition = false → inUse state = true)
    (found : ((r.write q state).deleteWhen other condition).find id = some p)
    (idle : inUse (((r.write q state).deleteWhen other condition).heap p) = false) :
    r.find id = some p ∧ inUse (r.heap p) = false ∧ id ≠ other := by
  rw [Runtime.deleteWhen_heap] at idle
  have different : id ≠ other ∧ r.find id = some p := by
    unfold Runtime.deleteWhen at found
    split at found
    · have different : id ≠ other := by
        rintro rfl
        unfold Runtime.find at found
        rw [AList.lookup_erase] at found
        cases found
      unfold Runtime.find at found ⊢
      rw [AList.lookup_erase_ne different] at found
      exact ⟨different, found⟩
    · next kept =>
        refine ⟨?_, found⟩
        rintro rfl
        obtain rfl : q = p := Option.some.inj (entry.symm.trans found)
        rw [r.write_self, used (by simpa using kept)] at idle
        cases idle
  have elsewhere : p ≠ q := by
    rintro rfl
    exact different.1 ((Runtime.find_sessionID different.2).symm.trans
      (Runtime.find_sessionID entry))
  rw [r.write_of_ne state elsewhere] at idle
  exact ⟨different.2, idle, different.1⟩

theorem ensure_other (different : id ≠ other) :
    (r.ensure other).1.find id = r.find id ∧
      ∀ p : StatePtr, p.sessionID = id → (r.ensure other).1.heap p = r.heap p := by
  unfold Runtime.ensure
  split
  · exact ⟨rfl, fun _ _ => rfl⟩
  refine ⟨?_, fun p name => update_of_ne ?_ _ _⟩
  · unfold Runtime.find
    rw [AList.lookup_insert_ne different]
  · rintro rfl
    exact different name.symm

/-- The entry of a session is made or found, and put to use. -/
theorem idle_of_ensure (used : inUse state = true)
    (found : ((r.ensure other).1.write (r.ensure other).2 state).find id = some p)
    (idle : inUse (((r.ensure other).1.write (r.ensure other).2 state).heap p) = false) :
    r.find id = some p ∧ inUse (r.heap p) = false ∧ id ≠ other := by
  have kept : (r.ensure other).1.find id = some p ∧
      inUse ((r.ensure other).1.heap p) = false ∧ id ≠ other :=
    idle_of_deleteWhen false (find_ensure r other) (fun _ => used) found idle
  obtain ⟨found, idle, different⟩ := kept
  obtain ⟨find, heap⟩ := ensure_other (r := r) different
  rw [find] at found
  rw [heap p (Runtime.find_sessionID found)] at idle
  exact ⟨found, idle, different⟩

theorem ensure_of_finds (found : (r.find other).isSome = true) : (r.ensure other).1 = r := by
  unfold Runtime.ensure
  split
  · rfl
  rename_i missing
  unfold Runtime.find at found
  rw [missing] at found
  cases found

/-- An entry that is not in use after an operation was there before and was not in use, unless its
request was taken out just now. -/
theorem exec_idle {b : β} (ran : r.exec i a e = some (r', b)) (known : finds r a = true)
    (bound : ∀ q, drops a = some q → (r.heap q).events.isSome = true) (found : r'.find id = some p)
    (idle : inUse (r'.heap p) = false) :
    (r.find id = some p ∧ inUse (r.heap p) = false ∧ queues a ≠ some id) ∨ clears a = some id := by
  have unqueued : (none : Option String) ≠ some id := (Option.some_ne_none id).symm
  cases a with
  | ensureSessionState other =>
    obtain rfl : (r.ensure other).1 = r' := congrArg Prod.fst (Option.some.inj ran)
    rw [ensure_of_finds known] at found idle
    exact .inl ⟨found, idle, unqueued⟩
  | lockEval q =>
    obtain ⟨_, rfl⟩ := exec_lockEval ran
    exact .inl ⟨found, idle_of_write idle fun unused => unused, unqueued⟩
  | unlockEval q =>
    cases ran
    exact .inl ⟨found, idle_of_write idle fun unused => unused, unqueued⟩
  | dropPendingRAV q =>
    cases ran
    have used : inUse { r.heap q with pendingRAV := none } = true := inUse_of_events (bound q rfl)
    have unused := idle_of_write idle fun unused => (Bool.eq_false_iff.mp unused used).elim
    exact .inl ⟨found, unused, unqueued⟩
  | dropQueuedResponse q =>
    cases ran
    have used : inUse { r.heap q with queuedResponse := none } = true :=
      inUse_of_events (bound q rfl)
    have unused := idle_of_write idle fun unused => (Bool.eq_false_iff.mp unused used).elim
    exact .inl ⟨found, unused, unqueued⟩
  | bindLocked other events =>
    rcases exec_bindLocked ran with ⟨rfl, rfl⟩ | ⟨_, _, pending, rfl⟩
    · exact .inl ⟨found, idle, unqueued⟩
    · obtain ⟨before, unused, _⟩ := idle_of_ensure (inUse_of_events rfl) found idle
      exact .inl ⟨before, unused, unqueued⟩
  | dispatchLocked other response pending =>
    simp only [Runtime.exec, Option.some.injEq, Prod.mk.injEq] at ran
    obtain ⟨rfl, -⟩ := ran
    have queued : inUse { (r.ensure other).1.heap (r.ensure other).2 with
        queuedResponse := some ⟨(r.ensure other).1.next, response⟩,
        pendingRAV := pending } = true := Bool.or_true _
    obtain ⟨before, unused, different⟩ := idle_of_ensure queued found idle
    exact .inl ⟨before, unused, fun same => different (Option.some.inj same).symm⟩
  | clearQueuedResponse other events queued pending =>
    simp only [Runtime.exec] at ran
    split at ran
    · cases ran
      exact .inl ⟨found, idle, unqueued⟩
    rename_i q entry
    split at ran
    · cases ran
      exact .inl ⟨found, idle, unqueued⟩
    rename_i mine
    cases ran
    have registered : (r.heap q).events = some events := not_not.mp (not_or.mp mine).1
    obtain ⟨before, unused, _⟩ := idle_of_deleteWhen false entry
      (fun _ => inUse_of_events (by simp [registered])) found idle
    exact .inl ⟨before, unused, unqueued⟩
  | cleanupSessionState other events =>
    rcases exec_cleanupSessionState ran with rfl | ⟨q, entry, held, rfl⟩
    · exact .inl ⟨found, idle, unqueued⟩
    have used (kept : ((r.heap q).pendingRAV.isNone && (r.heap q).queuedResponse.isNone) = false) :
        inUse { r.heap q with events := none } = true := by
      cases pending : (r.heap q).pendingRAV with
      | some _ => simp [inUse, pending]
      | none =>
        cases queued : (r.heap q).queuedResponse with
        | some _ => simp [inUse, queued]
        | none => simp [pending, queued] at kept
    obtain ⟨before, unused, _⟩ := idle_of_deleteWhen _ entry used found idle
    exact .inl ⟨before, unused, unqueued⟩
  | clearPendingRAV other =>
    simp only [Runtime.exec] at ran
    split at ran
    · cases ran
      exact .inl ⟨found, idle, unqueued⟩
    rename_i q entry
    cases ran
    by_cases same : id = other
    · exact .inr (congrArg some same.symm)
    have elsewhere : p ≠ q := by
      rintro rfl
      exact same ((Runtime.find_sessionID found).symm.trans (Runtime.find_sessionID entry))
    rw [r.write_of_ne _ elsewhere] at idle
    exact .inl ⟨found, idle, unqueued⟩
  | clearQueuedControl other =>
    simp only [Runtime.exec] at ran
    split at ran
    · cases ran
      exact .inl ⟨found, idle, unqueued⟩
    rename_i q entry
    cases ran
    obtain ⟨before, unused, _⟩ := idle_of_deleteWhen _ entry
      (fun kept => inUse_of_events (by simpa using kept)) found idle
    exact .inl ⟨before, unused, unqueued⟩
  | readPendingRAV | makeEvents =>
    cases ran
    exact .inl ⟨found, idle, unqueued⟩
  | runtimeState | hasPendingRAV | hasPendingPaymentControl | trySend =>
    simp only [Runtime.exec] at ran
    split at ran <;> (cases ran; exact .inl ⟨found, idle, unqueued⟩)
  | select events requests =>
    obtain ⟨channels, rfl⟩ := exec_select ran
    exact .inl ⟨found, idle, unqueued⟩

/-! ## Pointers and mutexes -/

/-- The entry whose mutex an operation takes or releases. -/
def locks {β : Type} : RuntimeAct β → Option StatePtr
  | .lockEval p | .unlockEval p => some p
  | _ => none

/-- What is made is made afresh, and the mutex of an old entry is taken and released only by
`lockEval` and `unlockEval`. -/
structure Ages (r : Runtime) (locked : Option StatePtr) (r' : Runtime) : Prop where
  next : r.next ≤ r'.next
  old : ∀ id p, r'.find id = some p → r.find id = some p ∨ p.gen < r'.next
  evalMu : ∀ p : StatePtr, p.gen < r.next → locked ≠ some p → (r'.heap p).evalMu = (r.heap p).evalMu

namespace Ages

variable {locked : Option StatePtr}

theorem of_same (h : SameEntries r r') : Ages r locked r' :=
  ⟨h.next, fun id _ found => .inl ((h.find id).symm.trans found),
    fun p _ _ => congrArg Prod.fst (h.view p)⟩

theorem of_created (h : Created r id r') : Ages r locked r' := by
  refine ⟨h.next.le, fun other p found => ?_, fun p old _ => ?_⟩
  · by_cases same : other = id
    · subst same
      cases h.found.symm.trans found
      exact .inr h.next
    · exact .inl ((h.find other same).symm.trans found)
  · refine congrArg Prod.fst (h.view p ?_)
    rintro rfl
    exact absurd old (lt_irrefl _)

theorem of_dropped (h : Dropped r id r') : Ages r locked r' := by
  refine ⟨h.next, fun other p found => .inl ?_, fun p _ _ => congrArg Prod.fst (h.view p)⟩
  have different : other ≠ id := by
    rintro rfl
    cases h.gone.symm.trans found
  exact (h.find other different).symm.trans found

theorem trans {r₁ : Runtime} (h : Ages r locked r₁) (h' : Ages r₁ locked r') :
    Ages r locked r' := by
  refine ⟨h.next.trans h'.next, fun id p found => ?_, fun p old other => ?_⟩
  · rcases h'.old id p found with before | made
    · exact (h.old id p before).imp_right fun made => made.trans_le h'.next
    · exact .inr made
  · exact (h'.evalMu p (old.trans_le h.next) other).trans (h.evalMu p old other)

theorem write {state : RuntimeSessionState}
    (kept : locked = some p ∨ state.evalMu = (r.heap p).evalMu) :
    Ages r locked (r.write p state) := by
  refine ⟨le_rfl, fun _ _ found => .inl found, fun q _ other => ?_⟩
  by_cases same : q = p
  · subst same
    rw [r.write_self]
    exact kept.resolve_left other
  · rw [r.write_of_ne state same]

theorem of_ensure (r : Runtime) (id : String) : Ages r locked (r.ensure id).1 :=
  (ensure_entries r id).elim of_same of_created

end Ages

theorem exec_ages {b : β} (ran : r.exec i a e = some (r', b)) : Ages r (locks a) r' := by
  by_cases serene : Serene a
  · cases exec_calm serene ran with
    | same h => exact .of_same h
    | created id h => exact .of_created h
    | dropped id p found unbound h => exact .of_dropped h
  cases a with
  | makeEvents =>
    cases ran
    exact .of_same ⟨fun _ => rfl, fun _ => rfl, Nat.le_succ _⟩
  | bindLocked id events =>
    rcases exec_bindLocked ran with ⟨rfl, rfl⟩ | ⟨_, _, pending, rfl⟩
    · exact .of_same (.refl _)
    · exact (Ages.of_ensure r id).trans (.write (.inr rfl))
  | cleanupSessionState id events =>
    rcases exec_cleanupSessionState ran with rfl | ⟨p, found, held, rfl⟩
    · exact .of_same (.refl _)
    have unbound : Ages r none (r.write p { r.heap p with events := none }) := .write (.inr rfl)
    unfold Runtime.deleteWhen
    split
    · exact unbound.trans (.of_dropped (SameEntries.drop (.refl _) id))
    · exact unbound
  | lockEval p =>
    obtain ⟨_, rfl⟩ := exec_lockEval ran
    exact .write (.inl rfl)
  | unlockEval p =>
    cases ran
    exact .write (.inl rfl)
  | _ => exact absurd trivial serene

/-! ## What a thread owes -/

/-- What a thread has registered, the session that it evaluates and the entry that was found for
it, whether it holds the entry's mutex, and whether it has taken a request out and not yet queued
its answer. -/
structure Part where
  attached : Option (String × Chan) := none
  entry : Option (String × StatePtr) := none
  locked : Bool := false
  clearing : Bool := false
deriving DecidableEq

namespace Part

def allowsRuntime (l : Part) {β : Type} : RuntimeAct β → Prop
  | .ensureSessionState _ => l.entry = none
  | .lockEval p => ∃ id, l.entry = some (id, p)
  | .unlockEval p => (∃ id, l.entry = some (id, p)) ∧ l.locked = true ∧ l.clearing = false
  | .dropPendingRAV p | .dropQueuedResponse p =>
    ∃ id events, l.entry = some (id, p) ∧ l.attached = some (id, events)
  | .clearPendingRAV id => (∃ p, l.entry = some (id, p)) ∧ l.locked = true
  | .dispatchLocked id _ _ => ∃ p, l.entry = some (id, p)
  | .bindLocked _ _ => l.entry = none
  | .cleanupSessionState id events => l.attached = none ∨ l.attached = some (id, events)
  | _ => True

def nextRuntime (l : Part) {β : Type} : RuntimeAct β → β → Part
  | .ensureSessionState id, p => { l with entry := some (id, p) }
  | .lockEval _, _ => { l with locked := true }
  | .unlockEval _, _ => { l with entry := none, locked := false }
  | .clearPendingRAV _, _ => { l with clearing := true }
  | .dispatchLocked _ _ _, _ => { l with clearing := false }
  | .bindLocked id events, some _ => { l with attached := some (id, events) }
  | .cleanupSessionState _ _, _ => { l with attached := none }
  | _, _ => l

def allows (l : Part) {β : Type} : Act β → Prop
  | .runtime a => l.allowsRuntime a
  | _ => True

def next (l : Part) {β : Type} : Act β → β → Part
  | .runtime a, b => l.nextRuntime a b
  | _, _ => l

end Part

def upkeep : Protocol Act Part where
  allows l _ a := l.allows a
  next l _ a b := l.next a b

def TameRuntime {β : Type} : RuntimeAct β → Prop
  | .ensureSessionState _ | .lockEval _ | .unlockEval _ | .dropPendingRAV _
  | .dropQueuedResponse _ | .clearPendingRAV _ | .dispatchLocked _ _ _ | .bindLocked _ _
  | .cleanupSessionState _ _ => False
  | _ => True

/-- Actions that every thread may perform at any time. -/
def Tame {β : Type} : Act β → Prop
  | .runtime a => TameRuntime a
  | _ => True

theorem tame_stays (l : Part) (a : Act β) (tame : Tame a) :
    upkeep.allows l a ∧ ∀ b, upkeep.next l a b = l := by
  cases a with
  | runtime a =>
    cases a with
    | ensureSessionState | lockEval | unlockEval | dropPendingRAV | dropQueuedResponse
    | clearPendingRAV | dispatchLocked | bindLocked | cleanupSessionState => exact tame.elim
    | _ => exact ⟨trivial, fun _ => rfl⟩
  | _ => exact ⟨trivial, fun _ => rfl⟩

theorem keeps_of_tame {α : Type} {p : Program α} (tame : p.Only Tame) (l : Part) :
    upkeep.Keeps l p :=
  .of_only (tame_stays l) tame

theorem upkeep_confined : Confined upkeep := by
  intro l β a apart
  refine tame_stays l a ?_
  cases a with
  | runtime _ => exact apart.elim
  | _ => trivial

/-! ### Evaluations -/

section Evaluations

variable (attached : Option (String × Chan)) (id : String) (p : StatePtr)

theorem deliver_tame (events : Chan) (queued : Queued) (pending : Option PendingRAVRequest) :
    (deliver id events queued pending).Only Tame := by
  refine .bind (.perform trivial) ?_
  rintro (_ | _)
  · exact .ret _
  · exact .perform trivial

theorem dispatch_follows (clearing : Bool) (response : PaymentSessionResponse)
    (pending : Option PendingRAVRequest) :
    upkeep.Follows (dispatch id response pending) ⟨attached, some (id, p), true, clearing⟩
      fun _ l => l = ⟨attached, some (id, p), true, false⟩ := by
  refine ⟨⟨p, rfl⟩, ?_⟩
  rintro ⟨_ | events, queued⟩
  · exact rfl
  · exact keeps_of_tame (deliver_tame id events queued pending) _

theorem requestRAV_keeps (g : Gateway) (session : Session) :
    upkeep.Keeps ⟨attached, some (id, p), true, false⟩ (g.requestRAV id session) := by
  unfold requestRAV
  split
  · have looked : (runtime (.runtimeState id)).Only Tame := .perform trivial
    refine (keeps_of_tame looked _).bind ?_
    rintro ⟨events, pending⟩
    dsimp only
    split
    · exact rfl
    · split
      · exact rfl
      · exact ⟨trivial, fun _ => ⟨trivial, fun _ => dispatch_follows attached id p false _ _⟩⟩
  · exact rfl

theorem evaluateMeteredUsage_keeps (g : Gateway) :
    upkeep.Keeps ⟨attached, some (id, p), true, false⟩ (g.evaluateMeteredUsage id) := by
  refine (upkeep_confined.keeps (sessionGet_apart id) _).bind ?_
  rintro (_ | session)
  · exact rfl
  dsimp only
  split
  · refine (upkeep_confined.keeps (assessSessionFunds_apart g session) _).bind fun assessment => ?_
    dsimp only
    split
    · refine ⟨trivial, fun now => ?_⟩
      refine (upkeep_confined.keeps ((swapSession_onRepository _ _).mono OnRepository.apart)
        _).bind ?_
      rintro (_ | _)
      · exact rfl
      · refine ⟨⟨⟨p, rfl⟩, rfl⟩, fun _ => ?_⟩
        refine (dispatch_follows attached id p true _ none).bind fun _ _ same => ?_
        exact same
    · refine (upkeep_confined.keeps ((swapSession_onRepository _ _).mono OnRepository.apart)
        _).bind ?_
      rintro (_ | _)
      · exact rfl
      · exact (requestRAV_keeps attached id p g _).bind fun _ => rfl
  · exact rfl

variable {p}

theorem withSessionEval_keeps {α : Type} {fn : StatePtr → Program α}
    (body : ∀ p, upkeep.Keeps ⟨attached, some (id, p), true, false⟩ (fn p)) :
    upkeep.Keeps { attached } (withSessionEval id fn) := by
  refine ⟨rfl, fun p => ⟨⟨id, rfl⟩, fun _ => ?_⟩⟩
  exact (body p).bind fun _ => ⟨⟨⟨id, rfl⟩, rfl, rfl⟩, fun _ => rfl⟩

theorem onMeteredUsage_keeps (g : Gateway) : upkeep.Keeps { attached } (g.onMeteredUsage id) :=
  withSessionEval_keeps attached id fun p => evaluateMeteredUsage_keeps attached id p g

end Evaluations

/-! ### Streams -/

section Streams

variable (id : String) (events : Chan)

/-- Only a stream clears the fields of an entry directly, and it has bound the session. -/
theorem acceptSubmission_keeps (g : Gateway) (p : StatePtr) (rav : SignedRAV)
    (pending : PendingRAVRequest) :
    upkeep.Keeps ⟨some (id, events), some (id, p), true, false⟩
      (g.acceptSubmission p id rav pending) := by
  refine ⟨trivial, fun _ => ?_⟩
  refine (upkeep_confined.keeps ((sessionUpdateRAVAndBaseline_onRepository _ _ _ _ _ _).mono
    OnRepository.apart) _).bind ?_
  rintro (_ | _)
  · exact rfl
  have mine : ∃ other events', some (id, p) = some (other, p) ∧
      some (id, events) = some (other, events') := ⟨id, events, rfl, rfl⟩
  refine ⟨mine, fun _ => ⟨mine, fun _ => ?_⟩⟩
  exact (evaluateMeteredUsage_keeps _ id p g).bind fun _ => rfl

theorem answerInFlight_keeps (g : Gateway) (p : StatePtr) (session : Session)
    (signedRav : Proto.SignedRAV) (usage : Option Proto.Usage) (pending : PendingRAVRequest) :
    upkeep.Keeps ⟨some (id, events), some (id, p), true, false⟩
      (g.answerInFlight p id session signedRav usage pending) := by
  unfold answerInFlight
  split
  · exact rfl
  refine (upkeep_confined.keeps (isSignerAuthorized_apart g _ _) _).bind ?_
  rintro (_ | _ | _)
  · exact rfl
  · exact rfl
  dsimp only
  split
  · exact rfl
  · exact acceptSubmission_keeps id events g p _ _

theorem handleRAVSubmission_keeps (g : Gateway) (session : Session)
    (submission : Option SignedRAVSubmission) :
    upkeep.Keeps { attached := some (id, events) }
      (g.handleRAVSubmission id session submission) := by
  unfold handleRAVSubmission
  split
  · exact rfl
  split
  · exact rfl
  refine withSessionEval_keeps _ id fun p => ⟨trivial, ?_⟩
  rintro (_ | pending)
  · exact upkeep_confined.keeps (answerUnexpected_apart id) _
  · exact ⟨trivial, fun _ => (answerInFlight_keeps id events g p _ _ _ _).bind fun _ =>
      ⟨trivial, fun _ => rfl⟩⟩

theorem handleFundsAcknowledgment_tame (willDeposit : Option Bool) :
    (handleFundsAcknowledgment id willDeposit).Only Tame := by
  cases willDeposit with
  | none => exact .ret _
  | some willDeposit => exact .bind (.perform trivial) fun _ => .ret _

/-- Between two turns: nothing is bound yet, or the stream is attached to its session. -/
def Between (s : StreamState) (l : Part) : Prop :=
  (s.sessionID = "" ∧ l = {}) ∨
    s.sessionID ≠ "" ∧ ∃ events, s.events = some events ∧
      l = { attached := some (s.sessionID, events) }

/-- At the end of the loop. -/
def Leaving (s : StreamState) (l : Part) : Prop :=
  l.attached = none ∨ ∃ events, s.events = some events ∧ l.attached = some (s.sessionID, events)

variable {s : StreamState} {l : Part}

theorem Between.leaving (here : Between s l) : Leaving s l := by
  obtain ⟨_, rfl⟩ | ⟨_, events, mine, rfl⟩ := here
  · exact .inl rfl
  · exact .inr ⟨events, mine, rfl⟩

theorem Between.message (here : Between s l) (named : s.sessionID ≠ "") (g : Gateway)
    (message : Option PaymentSessionMessage) :
    upkeep.Follows (g.handleMessage s message) l (SameTurn s l) := by
  obtain ⟨unbound, _⟩ | ⟨_, events, _, rfl⟩ := here
  · exact absurd unbound named
  · exact handleMessage_same upkeep_confined (handleRAVSubmission_keeps s.sessionID events g)
      (fun _ => keeps_of_tame (handleFundsAcknowledgment_tame s.sessionID _) _) message

variable {id}

theorem bindSession_follows (g : Gateway) (named : id ≠ "") :
    upkeep.Follows (g.bindSession id events) {} fun r l =>
      l = { attached := some (id, events) } ∧ r = .ok () ∨ l = {} ∧ ∃ err, r = .error err := by
  unfold bindSession
  rw [if_neg named]
  refine ⟨rfl, ?_⟩
  rintro (_ | ⟨queued, pending⟩)
  · exact .inr ⟨rfl, _, rfl⟩
  have delivered : (tryDeliverQueuedResponse id events queued pending).Only Tame := by
    cases queued with
    | none => exact .ret _
    | some queued => exact deliver_tame id events queued pending
  refine (keeps_of_tame delivered { attached := some (id, events) }).bind fun _ => ?_
  refine (onMeteredUsage_keeps _ id g).bind ?_
  rintro (_ | _)
  · exact ⟨.inr rfl, fun _ => .inr ⟨rfl, _, rfl⟩⟩
  · exact .inl ⟨rfl, rfl⟩

theorem bindStream_follows (here : Between s l) (unbound : s.sessionID = "") (g : Gateway)
    (id : String) (message : Option PaymentSessionMessage) :
    upkeep.Follows (g.bindStream s id message) l (Sum.elim Between fun r => Leaving r.1) := by
  have stop (s : StreamState) (response : PaymentSessionResponse) :
      upkeep.Follows (sendAndReturn s response) {} (Sum.elim Between fun r => Leaving r.1) := by
    refine (sendAndReturn_follows upkeep_confined s {} response).mono ?_
    rintro _ _ ⟨rfl, result, rfl⟩
    exact .inl rfl
  obtain ⟨_, rfl⟩ | ⟨named, _⟩ := here
  · unfold bindStream
    split
    · exact stop s _
    rename_i named
    refine (upkeep_confined.keeps (sessionGet_apart id) _).bind ?_
    rintro (_ | session)
    · exact stop s _
    dsimp only
    split
    · refine ⟨trivial, fun events => (bindSession_follows events g named).bind ?_⟩
      rintro (err | _) l (⟨rfl, bound⟩ | ⟨rfl, _, failed⟩)
      · cases bound
      · exact stop _ _
      · have here : Between { s with sessionID := id, events := some events }
            { attached := some (id, events) } := .inr ⟨named, events, rfl, rfl⟩
        cases message with
        | none => exact here
        | some message =>
          exact (here.message named g _).mono fun _ _ same => same.elim here here.leaving
      · cases failed
    · exact stop s _
  · exact absurd unbound named

theorem streamRule (g : Gateway) : StreamRule upkeep g Between Leaving where
  confined := upkeep_confined
  inputs _ here := here
  leaving := Between.leaving
  select events requests _ :=
    have waits : (runtime (.select events requests)).Only Tame := .perform trivial
    keeps_of_tame waits _
  message message here named := here.message named g message
  bind id message here unbound := bindStream_follows here unbound g id message

theorem paymentSession_follows (g : Gateway) (inputs : List StreamInput) :
    upkeep.Follows (g.paymentSession inputs) {} fun _ _ => True := by
  have start : Between { inputs } {} := .inl ⟨rfl, rfl⟩
  refine ((streamRule g).loop start).bind ?_
  rintro ⟨s, result⟩ l leaving
  dsimp only [unbindSession]
  split
  · trivial
  rename_i events held
  split
  · trivial
  refine ⟨leaving.imp_right ?_, fun _ => trivial⟩
  rintro ⟨events', mine, attached⟩
  cases mine.symm.trans held
  exact attached

end Streams

theorem program_follows (g : Gateway) (handler : Handler) :
    upkeep.Follows (handler.program g) {} fun _ _ => True := by
  refine program_follows_of upkeep_confined (fun a asking => tame_stays {} a ?_)
    (paymentSession_follows g) (fun id => onMeteredUsage_keeps none id g) handler
  cases a with
  | runtime op =>
    cases op with
    | hasPendingRAV | hasPendingPaymentControl => trivial
    | _ => exact asking.elim
  | _ => trivial

/-! ## The invariant -/

/-- What holds between the runtime manager and the parts of the threads. An attached thread finds
its channel in the entry of its session, which is the one that it evaluates; an entry that is not
in use waits for the response of a thread that has taken the request out. -/
structure Kept (r : Runtime) (streams : ThreadId → Stream) (parts : ThreadId → Part) : Prop where
  exclusive : Exclusive r streams
  attached : ∀ i id events, (parts i).attached = some (id, events) → streams i = .bound events ∧
    ∃ p, r.find id = some p ∧ (r.heap p).events = some events ∧
      ∀ q, (parts i).entry = some (id, q) → q = p
  entry : ∀ i id p, (parts i).entry = some (id, p) → p.sessionID = id ∧ p.gen < r.next ∧
    ((parts i).locked = true → (r.heap p).evalMu = some i)
  nested : ∀ i, ((parts i).clearing = true → (parts i).locked = true) ∧
    ((parts i).locked = true → (parts i).entry.isSome = true)
  old : ∀ id p, r.find id = some p → p.gen < r.next
  used : ∀ id p, r.find id = some p → inUse (r.heap p) = false →
    ∃ i q, (parts i).clearing = true ∧ (parts i).entry = some (id, q)

namespace Kept

variable {streams : ThreadId → Stream} {parts : ThreadId → Part} {s : Local} {l : Part}
  {β : Type} {a : RuntimeAct β} {b : β}

variable {j : ThreadId}

section

variable (here : Kept r streams parts)

include here

/-- A thread stays attached until it unbinds itself. -/
theorem stays_attached (mine : streams i = s.stream)
    (allowed : s.allowsRuntime a) (ran : r.exec i a e = some (r', b)) {events : Chan}
    (attached : (parts j).attached = some (id, events)) (stays : j = i → unbinds a = false) :
    ∃ p, r'.find id = some p ∧ (r'.heap p).events = some events ∧
      ∀ q, (parts j).entry = some (id, q) → q = p := by
  obtain ⟨bound, p, found, held, entry⟩ := here.attached j id events attached
  obtain ⟨exclusive, _, registered⟩ := exec_exclusive here.exclusive mine allowed ran
  have held' : (r'.heap p).events = some events := by
    rcases registered p events held with held' | ⟨leaves, bound'⟩
    · exact held'
    obtain rfl : j = i := here.exclusive.apart j i events (by rw [bound]; rfl)
      (by rw [bound']; rfl)
    rw [stays rfl] at leaves
    cases leaves
  refine ⟨p, ?_, held', entry⟩
  rw [← Runtime.find_sessionID found]
  exact exclusive.found p events held'

theorem locks_ne (part : parts i = l) (permitted : l.allowsRuntime a)
    (ran : r.exec i a e = some (r', b)) (held : (r.heap p).evalMu = some j) (different : j ≠ i) :
    locks a ≠ some p := by
  subst part
  cases a with
  | lockEval q =>
    rintro same
    cases same
    cases (exec_lockEval ran).1.symm.trans held
  | unlockEval q =>
    rintro same
    cases same
    obtain ⟨⟨id, entry⟩, locked, _⟩ := permitted
    have own := (here.entry i id p entry).2.2 locked
    exact different (Option.some.inj (held.symm.trans own))
  | _ => nofun

theorem attached_step (mine : streams i = s.stream)
    (part : parts i = l) (allowed : s.allowsRuntime a) (permitted : l.allowsRuntime a)
    (ran : r.exec i a e = some (r', b)) (events : Chan)
    (attached : (l.nextRuntime a b).attached = some (id, events)) :
    (s.nextRuntime a b).stream = .bound events ∧ ∃ p, r'.find id = some p ∧
      (r'.heap p).events = some events ∧
      ∀ q, (l.nextRuntime a b).entry = some (id, q) → q = p := by
  subst part
  have before (attached : (parts i).attached = some (id, events)) : s.stream = .bound events :=
    mine.symm.trans (here.attached i id events attached).1
  have stays (attached : (parts i).attached = some (id, events)) (keeps : unbinds a = false) :=
    here.stays_attached mine allowed ran attached fun _ => keeps
  cases a with
  | bindLocked other events' =>
    rcases exec_bindLocked ran with ⟨rfl, rfl⟩ | ⟨accepted, _, pending, rfl⟩
    · cases allowed.symm.trans (before attached)
    obtain ⟨reply, rfl⟩ := Option.isSome_iff_exists.mp accepted
    cases attached
    refine ⟨rfl, (r.ensure id).2, find_ensure r id, ?_, fun q entry => ?_⟩
    · rw [Runtime.write_self]
    · cases permitted.symm.trans entry
  | cleanupSessionState other events' => cases attached
  | ensureSessionState other =>
    obtain ⟨p, found, held, _⟩ := stays attached rfl
    refine ⟨before attached, p, found, held, fun q entry => ?_⟩
    cases entry
    obtain ⟨rfl, rfl⟩ := Prod.mk.inj (Option.some.inj ran)
    exact Option.some.inj ((find_ensure r id).symm.trans found)
  | unlockEval q =>
    obtain ⟨p, found, held, _⟩ := stays attached rfl
    exact ⟨before attached, p, found, held, nofun⟩
  | makeEvents => cases allowed.symm.trans (before attached)
  | _ => exact ⟨before attached, stays attached rfl⟩

theorem entry_step (part : parts i = l)
    (permitted : l.allowsRuntime a) (ran : r.exec i a e = some (r', b))
    (entry : (l.nextRuntime a b).entry = some (id, p)) :
    p.sessionID = id ∧ p.gen < r'.next ∧
      ((l.nextRuntime a b).locked = true → (r'.heap p).evalMu = some i) := by
  subst part
  have ages := exec_ages ran
  have before (entry : (parts i).entry = some (id, p)) :
      p.sessionID = id ∧ p.gen < r'.next ∧ ((parts i).locked = true → locks a ≠ some p →
        (r'.heap p).evalMu = some i) := by
    obtain ⟨name, old, held⟩ := here.entry i id p entry
    exact ⟨name, old.trans_le ages.next, fun locked other =>
      (ages.evalMu p old other).trans (held locked)⟩
  cases a with
  | ensureSessionState other =>
    cases entry
    obtain ⟨rfl, rfl⟩ := Prod.mk.inj (Option.some.inj ran)
    refine ⟨r.ensure_sessionID id, ?_, fun locked => ?_⟩
    · exact (ages.old id _ (find_ensure r id)).elim
        (fun found => (here.old id _ found).trans_le ages.next) fun made => made
    · have none := (here.nested i).2 locked
      rw [permitted] at none
      cases none
  | lockEval q =>
    obtain ⟨other, mine⟩ := permitted
    obtain ⟨name, old, _⟩ := before entry
    refine ⟨name, old, fun _ => ?_⟩
    cases mine.symm.trans entry
    obtain ⟨_, rfl⟩ := exec_lockEval ran
    rw [Runtime.write_self]
  | unlockEval q => cases entry
  | bindLocked other events =>
    have same : ((parts i).nextRuntime (.bindLocked other events) b).entry = (parts i).entry ∧
        ((parts i).nextRuntime (.bindLocked other events) b).locked = (parts i).locked := by
      cases b <;> exact ⟨rfl, rfl⟩
    rw [same.1] at entry
    rw [same.2]
    obtain ⟨name, old, held⟩ := before entry
    exact ⟨name, old, fun locked => held locked nofun⟩
  | _ =>
    obtain ⟨name, old, held⟩ := before entry
    exact ⟨name, old, fun locked => held locked nofun⟩

theorem nested_step (part : parts i = l)
    (permitted : l.allowsRuntime a) (b : β) :
    ((l.nextRuntime a b).clearing = true → (l.nextRuntime a b).locked = true) ∧
      ((l.nextRuntime a b).locked = true → (l.nextRuntime a b).entry.isSome = true) := by
  subst part
  obtain ⟨locked, entry⟩ := here.nested i
  cases a with
  | ensureSessionState other => exact ⟨locked, fun _ => rfl⟩
  | lockEval q =>
    obtain ⟨id, found⟩ := permitted
    exact ⟨fun _ => rfl, fun _ => Option.isSome_iff_exists.mpr ⟨_, found⟩⟩
  | unlockEval q =>
    refine ⟨fun clearing => ?_, nofun⟩
    cases permitted.2.2.symm.trans clearing
  | clearPendingRAV other => exact ⟨fun _ => permitted.2, entry⟩
  | dispatchLocked other response pending => exact ⟨nofun, entry⟩
  | bindLocked other events => cases b <;> exact ⟨locked, entry⟩
  | _ => exact ⟨locked, entry⟩

end

/-- A thread that owes a response goes on owing it until it is queued. -/
theorem clearing_step (permitted : l.allowsRuntime a) (clearing : l.clearing = true)
    (entry : l.entry = some (id, q)) (unqueued : queues a ≠ some id) (b : β) :
    (l.nextRuntime a b).clearing = true ∧ (l.nextRuntime a b).entry = some (id, q) := by
  cases a with
  | ensureSessionState other => cases permitted.symm.trans entry
  | unlockEval p => cases permitted.2.2.symm.trans clearing
  | clearPendingRAV other => exact ⟨rfl, entry⟩
  | dispatchLocked other response pending =>
    obtain ⟨p, found⟩ := permitted
    cases found.symm.trans entry
    exact absurd rfl unqueued
  | bindLocked other events => cases b <;> exact ⟨clearing, entry⟩
  | _ => exact ⟨clearing, entry⟩

section

variable (here : Kept r streams parts) (part : parts i = l) (permitted : l.allowsRuntime a)

include here part permitted

/-- What an operation clears outside `runtimeManager.mu` is the entry of a bound stream. -/
theorem drops_bound
 (dropped : drops a = some q) :
    (r.heap q).events.isSome = true := by
  subst part
  have own (mine : ∃ id events, (parts i).entry = some (id, q) ∧
      (parts i).attached = some (id, events)) : (r.heap q).events.isSome = true := by
    obtain ⟨id, events, entry, attached⟩ := mine
    obtain ⟨_, p, _, held, same⟩ := here.attached i id events attached
    rw [same q entry, held]
    rfl
  cases a with
  | dropPendingRAV | dropQueuedResponse =>
    cases dropped
    exact own permitted
  | _ => cases dropped

theorem used_step
 (known : finds r a = true)
    (ran : r.exec i a e = some (r', b)) (found : r'.find id = some p)
    (idle : inUse (r'.heap p) = false) :
    ∃ j q, (Function.update parts i (l.nextRuntime a b) j).clearing = true ∧
      (Function.update parts i (l.nextRuntime a b) j).entry = some (id, q) := by
  have bound (q : StatePtr) (dropped : drops a = some q) := here.drops_bound part permitted dropped
  rcases exec_idle ran known bound found idle with ⟨before, unused, unqueued⟩ | cleared
  · obtain ⟨j, q, clearing, entry⟩ := here.used id p before unused
    by_cases same : j = i
    · subst same
      rw [part] at clearing entry
      refine ⟨j, q, ?_⟩
      rw [update_self]
      exact clearing_step permitted clearing entry unqueued b
    · refine ⟨j, q, ?_⟩
      rw [update_of_ne same]
      exact ⟨clearing, entry⟩
  · cases a with
    | clearPendingRAV other =>
      cases cleared
      obtain ⟨⟨q, entry⟩, _⟩ := permitted
      refine ⟨i, q, ?_⟩
      rw [update_self]
      exact ⟨rfl, entry⟩
    | _ => cases cleared

end

theorem step (here : Kept r streams parts) (mine : streams i = s.stream) (part : parts i = l)
    (allowed : s.allowsRuntime a) (permitted : l.allowsRuntime a) (known : finds r a = true)
    (ran : r.exec i a e = some (r', b)) :
    Kept r' (Function.update streams i (s.nextRuntime a b).stream)
      (Function.update parts i (l.nextRuntime a b)) := by
  have ages := exec_ages ran
  refine ⟨(exec_exclusive here.exclusive mine allowed ran).1, fun j id events attached => ?_,
    fun j id p entry => ?_, fun j => ?_, fun id p found => ?_,
    fun id p found idle => here.used_step part permitted known ran found idle⟩
  · by_cases same : j = i
    · subst same
      rw [update_self] at attached ⊢
      rw [update_self]
      exact here.attached_step mine part allowed permitted ran events attached
    · rw [update_of_ne same] at attached ⊢
      rw [update_of_ne same]
      exact ⟨(here.attached j id events attached).1,
        here.stays_attached mine allowed ran attached fun own => absurd own same⟩
  · by_cases same : j = i
    · subst same
      rw [update_self] at entry ⊢
      exact here.entry_step part permitted ran entry
    · rw [update_of_ne same] at entry ⊢
      obtain ⟨name, old, held⟩ := here.entry j id p entry
      refine ⟨name, old.trans_le ages.next, fun locked => ?_⟩
      have other := here.locks_ne part permitted ran (held locked) same
      exact (ages.evalMu p old other).trans (held locked)
  · by_cases same : j = i
    · subst same
      rw [update_self]
      exact here.nested_step part permitted b
    · rw [update_of_ne same]
      exact here.nested j
  · exact (ages.old id p found).elim (fun before => (here.old id p before).trans_le ages.next)
      fun made => made

end Kept

/-! ## Runs of the provider -/

/-- Every evaluation finds an entry of its session. -/
def known (_ : ThreadId) {β : Type} (a : Act β) (w : World) : Bool :=
  match a with
  | .runtime a => finds w.runtime a
  | _ => true

/-- The mutex of an entry of the session is held, be it the entry it has or an earlier one. -/
def Evaluated (r : Runtime) (id : String) : Prop :=
  ∃ gen < r.next, (r.heap ⟨id, gen⟩).evalMu.isSome = true

instance (r : Runtime) (id : String) : Decidable (Evaluated r id) :=
  inferInstanceAs (Decidable (∃ gen < r.next, (r.heap ⟨id, gen⟩).evalMu.isSome = true))

/-- The provider with its streams and the parts of its threads. -/
abbrev tended : Machine Act ThreadId Oracle (World × (ThreadId → Local × Part)) :=
  (machine.restrict known).observe (Streams.protocol.prod upkeep)

theorem tended_kept {g : Gateway} {pool : Pool}
    {c : Config Act ThreadId (World × (ThreadId → Local × Part)) Reply}
    (run : tended.Reach ((boot g pool).observe fun _ => ({}, {})) c) :
    Kept c.shared.1.runtime ((·.1.stream) ∘ c.shared.2) (Prod.snd ∘ c.shared.2) := by
  have followed : (Streams.protocol.prod upkeep).Followed (fun _ _ => True ∧ True)
      ((boot g pool).observe fun _ => ({}, {})) := fun i =>
    (Streams.program_follows g (pool i)).prod (program_follows g (pool i))
  refine (followed.invariant (J := fun s => Kept s.1.runtime ((·.1.stream) ∘ s.2)
    (Prod.snd ∘ s.2)) run ?_ ?_).2
  · exact ⟨⟨nofun, nofun, nofun, nofun⟩, nofun, nofun, fun _ => ⟨nofun, nofun⟩, nofun, nofun⟩
  intro i β a e w w' b loc allowed executed here
  simp only [Machine.restrict] at executed
  split at executed
  · next meets =>
      rcases exec_runtime executed with ⟨op, rfl, ran⟩ | ⟨apart, same⟩
      · rw [comp_update, comp_update]
        exact here.step rfl rfl allowed.1 allowed.2 meets ran
      have stays : (Streams.protocol.prod upkeep).next (loc i) a b = loc i :=
        Prod.ext ((protocol_confined (loc i).1 a apart).2 b)
          ((upkeep_confined (loc i).2 a apart).2 b)
      rw [stays, update_eq_self, same]
      exact here
  · cases executed

/-- In every run in which each evaluation finds an entry of its session: while a session is not
evaluated, its entry has a bound stream, a pending request or a queued response. -/
theorem entries_in_use {g : Gateway} {pool : Pool} {c : Config Act ThreadId World Reply}
    (run : (machine.restrict known).Reach (boot g pool) c) {id : String} {p : StatePtr}
    (found : c.shared.runtime.find id = some p) (quiet : ¬Evaluated c.shared.runtime id) :
    inUse (c.shared.runtime.heap p) = true := by
  obtain ⟨loc, observed⟩ := run.observed (Streams.protocol.prod upkeep) fun _ => ({}, {})
  have kept := tended_kept observed
  by_contra idle
  obtain ⟨i, q, clearing, entry⟩ := kept.used id p found (by simpa using idle)
  obtain ⟨name, old, held⟩ := kept.entry i id q entry
  have locked := held ((kept.nested i).1 clearing)
  obtain rfl : q.sessionID = id := name
  exact quiet ⟨q.gen, old, by rw [locked]; rfl⟩

/-- A stream is bound, and usage is reported. -/
def served : Config Act ThreadId World Reply :=
  (machine.restrict known).play [Sample.whole 0, Sample.whole 1, Sample.whole 2]
    (boot Sample.gateway (Sample.pool [Sample.start 1, listen, Sample.report 1]))

theorem entries_in_use_served :
    served.shared.runtime.find "s" = some ⟨"s", 1⟩ ∧ ¬Evaluated served.shared.runtime "s" ∧
      inUse (served.shared.runtime.heap ⟨"s", 1⟩) = true := by
  have found : served.shared.runtime.find "s" = some ⟨"s", 1⟩ := by decide +kernel
  have quiet : ¬Evaluated served.shared.runtime "s" := by decide +kernel
  exact ⟨found, quiet, entries_in_use (Machine.play_reach _ _) found quiet⟩

/-- Usage is reported for a session that no stream has bound. -/
def unserved : Config Act ThreadId World Reply :=
  machine.play [Sample.whole 0, Sample.whole 1]
    (boot Sample.gateway (Sample.pool [Sample.start 1, Sample.report 1]))

/-- Both calls have returned, and an entry stays that nothing uses. -/
theorem idle_entry_left :
    machine.Reach (boot Sample.gateway (Sample.pool [Sample.start 1, Sample.report 1])) unserved ∧
      (unserved.threads 0).result.isSome = true ∧ (unserved.threads 1).result.isSome = true ∧
      ¬Evaluated unserved.shared.runtime "s" ∧ unserved.shared.runtime.find "s" = some ⟨"s", 0⟩ ∧
      inUse (unserved.shared.runtime.heap ⟨"s", 0⟩) = false := by
  refine ⟨Machine.play_reach _ _, ?_⟩
  decide +kernel

end Sdsce.Guarantees.Entries
