import Sdsce.Guarantees.Streams.Protocol

/-!
# Entries of the runtime manager

What the operations of the runtime manager do to its entries: which entry a session has, who
holds the mutex of an entry and which channel is registered in it.
-/
namespace Sdsce.Guarantees.Streams

open Sdsce.Theory Sdsce.Source

/-- The owner of `evalMu` and the registered channel. -/
def view (r : Runtime) (p : StatePtr) : Option ThreadId × Option Chan :=
  ((r.heap p).evalMu, (r.heap p).events)

theorem view_write_self (r : Runtime) (p : StatePtr) (state : RuntimeSessionState) :
    view (r.write p state) p = (state.evalMu, state.events) := by
  unfold view
  rw [r.write_self]

variable {p : StatePtr} {r r₁ r₂ r' : Runtime} {id : String} {β : Type} {i : ThreadId} {e : Oracle}
  {events : Chan} {a : RuntimeAct β}

theorem view_write_of_ne (r : Runtime) {q : StatePtr} (state : RuntimeSessionState)
    (different : q ≠ p) : view (r.write p state) q = view r q := by
  unfold view
  rw [r.write_of_ne state different]

theorem find_self (found : r.find id = some p) : r.find p.sessionID = some p := by
  obtain ⟨gen, _, rfl⟩ := Option.map_eq_some_iff.mp found
  exact found

/-- Nothing happens to any entry. -/
structure SameEntries (r r' : Runtime) : Prop where
  find : ∀ id, r'.find id = r.find id
  view : ∀ p, view r' p = view r p
  next : r.next ≤ r'.next

/-- A session gets an entry, and had none. -/
structure Created (r : Runtime) (id : String) (r' : Runtime) : Prop where
  missing : r.find id = none
  found : r'.find id = some ⟨id, r.next⟩
  find : ∀ other, other ≠ id → r'.find other = r.find other
  empty : view r' ⟨id, r.next⟩ = (none, none)
  view : ∀ p, p ≠ ⟨id, r.next⟩ → view r' p = view r p
  next : r.next < r'.next

/-- The entry of a session is deleted. -/
structure Dropped (r : Runtime) (id : String) (r' : Runtime) : Prop where
  gone : r'.find id = none
  find : ∀ other, other ≠ id → r'.find other = r.find other
  view : ∀ p, view r' p = view r p
  next : r.next ≤ r'.next

theorem SameEntries.refl (r : Runtime) : SameEntries r r := ⟨fun _ => rfl, fun _ => rfl, le_rfl⟩

theorem SameEntries.trans (h : SameEntries r r₁) (h' : SameEntries r₁ r₂) : SameEntries r r₂ :=
  ⟨fun id => (h'.find id).trans (h.find id), fun p => (h'.view p).trans (h.view p),
    h.next.trans h'.next⟩

theorem SameEntries.write {state : RuntimeSessionState}
    (same : (state.evalMu, state.events) = Streams.view r p) : SameEntries r (r.write p state) := by
  refine ⟨fun _ => rfl, fun q => ?_, le_rfl⟩
  by_cases here : q = p
  · subst here
    rw [view_write_self, same]
  · exact view_write_of_ne r state here

theorem Created.same (h : Created r id r₁) (h' : SameEntries r₁ r₂) : Created r id r₂ where
  missing := h.missing
  found := (h'.find id).trans h.found
  find other different := (h'.find other).trans (h.find other different)
  empty := (h'.view _).trans h.empty
  view p different := (h'.view p).trans (h.view p different)
  next := h.next.trans_le h'.next

theorem SameEntries.drop (h : SameEntries r r₁) (id : String) :
    Dropped r id { r₁ with live := r₁.live.erase id } where
  gone := by
    unfold Runtime.find
    rw [AList.lookup_erase]
    rfl
  find other different := by
    rw [← h.find other]
    unfold Runtime.find
    rw [AList.lookup_erase_ne different]
  view p := h.view p
  next := h.next

theorem find_ensure (r : Runtime) (id : String) :
    (r.ensure id).1.find id = some (r.ensure id).2 := by
  unfold Runtime.ensure
  split
  · next gen found =>
      unfold Runtime.find
      rw [found]
      rfl
  · unfold Runtime.find
    rw [AList.lookup_insert]
    rfl

theorem ensure_entries (r : Runtime) (id : String) :
    SameEntries r (r.ensure id).1 ∨ Created r id (r.ensure id).1 := by
  unfold Runtime.ensure
  split
  · exact .inl (.refl r)
  rename_i missing
  refine .inr ⟨?_, ?_, fun other different => ?_, ?_, fun p different => ?_, Nat.lt_succ_self _⟩
  · unfold Runtime.find
    rw [missing]
    rfl
  · unfold Runtime.find
    rw [AList.lookup_insert]
    rfl
  · unfold Runtime.find
    rw [AList.lookup_insert_ne different]
  · unfold view
    simp only [Function.update_self]
  · unfold view
    simp only [Function.update_of_ne different]

/-- The operation that takes a channel out of an entry. -/
def unbinds {β : Type} : RuntimeAct β → Bool
  | .cleanupSessionState _ _ => true
  | _ => false

/-- An operation that neither locks, nor binds, nor unbinds. -/
def Serene {β : Type} : RuntimeAct β → Prop
  | .makeEvents | .bindLocked _ _ | .cleanupSessionState _ _ | .lockEval _ | .unlockEval _ => False
  | _ => True

/-- It leaves the local state alone, and only a stream that was not refused performs it. -/
theorem Serene.stays {l : Local} (serene : Serene a) (allowed : l.allowsRuntime a) (b : β) :
    l.stream.isRefused = false ∧ l.nextRuntime a b = l := by
  cases a with
  | makeEvents | bindLocked | cleanupSessionState | lockEval | unlockEval => exact serene.elim
  | readPendingRAV | dropPendingRAV | dropQueuedResponse => exact ⟨allowed.2, rfl⟩
  | _ => exact ⟨allowed, rfl⟩

/-- What an operation does that neither locks, nor binds, nor unbinds. -/
inductive Calm (r : Runtime) : {β : Type} → RuntimeAct β → Runtime → Prop
  | same {β : Type} {a : RuntimeAct β} {r' : Runtime} (h : SameEntries r r') : Calm r a r'
  | created {β : Type} {a : RuntimeAct β} {r' : Runtime} (id : String) (h : Created r id r') :
      Calm r a r'
  | dropped {r' : Runtime} (id : String) (p : StatePtr) (found : r.find id = some p)
      (unbound : (r.heap p).events = none) (h : Dropped r id r') :
      Calm r (.clearQueuedControl id) r'

/-- A turn of the `select` of a stream takes at most an event out of a channel. -/
theorem exec_select {events : Option Chan} {requests : Bool} {b : Selected}
    (ran : r.exec i (.select events requests) e = some (r', b)) :
    ∃ channels, r' = { r with channels } := by
  simp only [Runtime.exec] at ran
  split at ran
  · cases ran
    exact ⟨_, rfl⟩
  · split at ran
    · cases ran
      exact ⟨_, rfl⟩
    · cases ran
  · split at ran
    · cases ran
    split at ran
    · cases ran
    · cases ran
      exact ⟨_, rfl⟩

theorem exec_calm {b : β} (serene : Serene a) (ran : r.exec i a e = some (r', b)) :
    Calm r a r' := by
  cases a with
  | makeEvents | bindLocked | cleanupSessionState | lockEval | unlockEval => exact serene.elim
  | ensureSessionState id =>
    obtain rfl : (r.ensure id).1 = r' := congrArg Prod.fst (Option.some.inj ran)
    exact (ensure_entries r id).elim .same (.created id)
  | readPendingRAV p =>
    cases ran
    exact .same (.refl r)
  | dropPendingRAV | dropQueuedResponse =>
    cases ran
    exact .same (.write rfl)
  | runtimeState | hasPendingRAV | hasPendingPaymentControl =>
    simp only [Runtime.exec] at ran
    split at ran <;> (cases ran; exact .same (.refl r))
  | dispatchLocked id response pending =>
    simp only [Runtime.exec, Option.some.injEq, Prod.mk.injEq] at ran
    obtain ⟨rfl, -⟩ := ran
    have queued (state : RuntimeSessionState)
        (same : (state.evalMu, state.events) = view (r.ensure id).1 (r.ensure id).2) :
        SameEntries (r.ensure id).1 { (r.ensure id).1.write (r.ensure id).2 state with
          next := (r.ensure id).1.next + 1 } :=
      (SameEntries.write same).trans ⟨fun _ => rfl, fun _ => rfl, Nat.le_succ _⟩
    rcases ensure_entries r id with same | new
    · exact .same (same.trans (queued _ rfl))
    · exact .created id (new.same (queued _ rfl))
  | clearQueuedResponse id events queued pending =>
    simp only [Runtime.exec] at ran
    split at ran
    · cases ran
      exact .same (.refl r)
    split at ran
    · cases ran
      exact .same (.refl r)
    · cases ran
      exact .same (.write rfl)
  | clearPendingRAV id =>
    simp only [Runtime.exec] at ran
    split at ran
    · cases ran
      exact .same (.refl r)
    · cases ran
      exact .same (.write rfl)
  | clearQueuedControl id =>
    simp only [Runtime.exec] at ran
    split at ran
    · cases ran
      exact .same (.refl r)
    rename_i p found
    cases ran
    have cleared : SameEntries r (r.write p
        { r.heap p with pendingRAV := none, queuedResponse := none }) := .write rfl
    unfold Runtime.deleteWhen
    split
    · next unbound =>
        exact .dropped id p found (Option.isNone_iff_eq_none.mp unbound) (cleared.drop id)
    · exact .same cleared
  | trySend events response =>
    simp only [Runtime.exec] at ran
    split at ran
    · cases ran
      exact .same ⟨fun _ => rfl, fun _ => rfl, le_rfl⟩
    · cases ran
      exact .same (.refl r)
  | select events requests =>
    obtain ⟨channels, rfl⟩ := exec_select ran
    exact .same ⟨fun _ => rfl, fun _ => rfl, le_rfl⟩

theorem exec_lockEval {b : Unit} (ran : r.exec i (.lockEval p) e = some (r', b)) :
    (r.heap p).evalMu = none ∧ r' = r.write p { r.heap p with evalMu := some i } := by
  simp only [Runtime.exec] at ran
  split at ran
  · cases ran
  · next free =>
      cases ran
      exact ⟨free, rfl⟩

/-- A bind is refused and changes nothing, or it registers the channel in an entry that had
none. -/
theorem exec_bindLocked {b : Option (Option Queued × Option PendingRAVRequest)}
    (ran : r.exec i (.bindLocked id events) e = some (r', b)) :
    (b = none ∧ r' = r) ∨ b.isSome = true ∧ ((r.ensure id).1.heap (r.ensure id).2).events = none ∧
      ∃ pending, r' = (r.ensure id).1.write (r.ensure id).2
        { (r.ensure id).1.heap (r.ensure id).2 with
          pendingRAV := pending, events := some events } := by
  simp only [Runtime.exec] at ran
  split at ran
  · next taken =>
      cases ran
      refine .inl ⟨rfl, ?_⟩
      -- an entry that was made just now holds no channel
      unfold Runtime.ensure at taken ⊢
      split at taken
      · rfl
      · simp at taken
  · next free =>
      cases ran
      exact .inr ⟨rfl, by simpa using free, _, rfl⟩

/-- An unbind changes nothing, or it takes its own channel out of the entry of the session, which
may be deleted. -/
theorem exec_cleanupSessionState {b : Unit}
    (ran : r.exec i (.cleanupSessionState id events) e = some (r', b)) :
    r' = r ∨ ∃ p, r.find id = some p ∧ (r.heap p).events = some events ∧
      r' = (r.write p { r.heap p with events := none }).deleteWhen id
        ((r.heap p).pendingRAV.isNone && (r.heap p).queuedResponse.isNone) := by
  simp only [Runtime.exec] at ran
  split at ran
  · cases ran
    exact .inl rfl
  rename_i p found
  split at ran
  · cases ran
    exact .inl rfl
  · next mine =>
      cases ran
      exact .inr ⟨p, found, not_not.mp mine, rfl⟩

/-- An action of the provider is an operation of the runtime manager, or does not touch it. -/
theorem exec_runtime {a : Act β} {w w' : World} {b : β}
    (executed : machine.exec i a e w = some (w', b)) :
    (∃ op, a = .runtime op ∧ w.runtime.exec i op e = some (w'.runtime, b)) ∨
      Apart a ∧ w'.runtime = w.runtime := by
  cases a with
  | runtime op =>
    simp only [machine, World.exec] at executed
    split at executed
    · cases executed
    · next r b' ran =>
        cases executed
        exact .inl ⟨op, rfl, ran⟩
  | store | rpc =>
    simp only [machine, World.exec] at executed
    split at executed
    · cases executed
    · cases executed
      exact .inr ⟨trivial, rfl⟩
  | outside a =>
    cases executed
    exact .inr ⟨trivial, rfl⟩
  | gateway a =>
    cases a with
    | authCacheGet | authCacheSet | note =>
      cases executed
      exact .inr ⟨trivial, rfl⟩

end Sdsce.Guarantees.Streams
