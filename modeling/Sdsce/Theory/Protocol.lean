import Sdsce.Theory.Program

/-!
# Protocols of single threads

A protocol gives a thread a local state: which actions it may perform there and where each of
them leads. Whether a program follows a protocol depends neither on the shared state nor on the
other threads. A machine can be run together with the local states of its threads; no run is lost
that way, and an assertion about both that permitted actions keep holds in every state reached.
-/
namespace Sdsce.Theory

variable {Act : Type → Type} {L L' ι ε σ ρ α β S : Type}

namespace Prog

/-- A program without loops. -/
def LoopFree {α : Type} : Prog Act α → Prop
  | ret _ => True
  | act _ k => ∀ b, (k b).LoopFree
  | loop _ _ _ => False

theorem LoopFree.bind {p : Prog Act α} {f : α → Prog Act β} (first : p.LoopFree)
    (next : ∀ a, (f a).LoopFree) : (p.bind f).LoopFree := by
  induction p with
  | ret a => exact next a
  | act a k ih => exact fun b => ih b (first b) next
  | loop body start k _ _ => exact first.elim

end Prog

/-- The actions a thread may perform in each local state, and where they lead. -/
structure Protocol (Act : Type → Type) (L : Type) where
  allows : L → {β : Type} → Act β → Prop
  next : L → {β : Type} → Act β → β → L

namespace Protocol

variable (P : Protocol Act L)

/-- From the local state `l` the program performs only actions that its protocol allows, and it
ends only in local states that satisfy `Q`. -/
def Follows {α : Type} : Prog Act α → L → (α → L → Prop) → Prop
  | .ret a, l, Q => Q a l
  | .act a k, l, Q => P.allows l a ∧ ∀ b, Follows (k b) (P.next l a b) Q
  | .loop (β := β) (S := S) body start k, l, Q =>
    ∃ (Inv : S → L → Prop) (Done : β → L → Prop), Inv start l ∧
      (∀ x l', Inv x l' → Follows (body x) l' (fun r => Sum.elim Inv Done r)) ∧
      ∀ b l', Done b l' → Follows (k b) l' Q

/-- A program that ends where it has started. -/
def Keeps (l : L) (p : Prog Act α) : Prop := P.Follows p l fun _ l' => l' = l

variable {P}

namespace Follows

variable {l : L} {Q Q' : α → L → Prop}

variable {p : Prog Act α} {start : S}

theorem mono (h : P.Follows p l Q) (weaker : ∀ a l', Q a l' → Q' a l') : P.Follows p l Q' := by
  induction p generalizing l with
  | ret a => exact weaker a l h
  | act a k ih => exact ⟨h.1, fun b => ih b (h.2 b) weaker⟩
  | loop body start k _ ih =>
    obtain ⟨Inv, Done, first, step, last⟩ := h
    exact ⟨Inv, Done, first, step, fun b l' done => ih b (last b l' done) weaker⟩

theorem bind {p : Prog Act β} {f : β → Prog Act α} {R : β → L → Prop} (h : P.Follows p l R)
    (next : ∀ b l', R b l' → P.Follows (f b) l' Q) : P.Follows (p.bind f) l Q := by
  induction p generalizing l with
  | ret a => exact next a l h
  | act a k ih => exact ⟨h.1, fun b => ih b (h.2 b) next⟩
  | loop body start k _ ih =>
    obtain ⟨Inv, Done, first, step, last⟩ := h
    exact ⟨Inv, Done, first, step, fun b l' done => ih b (last b l' done) next⟩

theorem iterate {body : S → Prog Act (S ⊕ α)} (Inv : S → L → Prop) (first : Inv start l)
    (step : ∀ x l', Inv x l' → P.Follows (body x) l' (fun r => Sum.elim Inv Q r)) :
    P.Follows (.iterate body start) l Q :=
  ⟨Inv, Q, first, step, fun _ _ done => done⟩

/-- A body that is retried until it answers. -/
theorem retry {body : Prog Act (Option α)} (Again : L → Prop) (first : Again l)
    (step : ∀ l', Again l' → P.Follows body l' fun r l'' => r.elim (Again l'') fun a => Q a l'') :
    P.Follows (.retry body) l Q := by
  refine iterate (fun _ => Again) first fun _ l' again => (step l' again).bind ?_
  rintro (_ | a) l'' here
  · exact here
  · exact here

/-- Unfolding a loop. -/
theorem unroll {body : S → Prog Act (S ⊕ β)} {k : β → Prog Act α}
    (h : P.Follows (.loop body start k) l Q) : P.Follows (.unroll body start k) l Q := by
  obtain ⟨Inv, Done, first, step, last⟩ := h
  refine (step start l first).bind ?_
  rintro (next | b) l' here
  · exact ⟨Inv, Done, here, step, last⟩
  · exact last b l' here

/-- Where every action is allowed, a program need not be looked at. -/
theorem of_allowed (all : ∀ (l : L) {β : Type} (a : Act β), P.allows l a) (p : Prog Act α)
    (l : L) : P.Follows p l fun _ _ => True := by
  induction p generalizing l with
  | ret a => trivial
  | act a k ih => exact ⟨all l a, fun b => ih b _⟩
  | loop body start k ihb ihk =>
    refine ⟨fun _ _ => True, fun _ _ => True, trivial, fun x l' _ => ?_, fun b l' _ => ihk b l'⟩
    refine (ihb x l').mono ?_
    rintro (_ | _) _ _
    · trivial
    · trivial

/-- Actions that are allowed in some local states and do not lead out of them. -/
theorem of_only {ok : {β : Type} → Act β → Prop} {J : L → Prop}
    (step : ∀ {l : L} {β : Type} (a : Act β), J l → ok a → P.allows l a ∧ ∀ b, J (P.next l a b))
    (only : p.Only ok) (here : J l) : P.Follows p l fun _ => J := by
  induction p generalizing l with
  | ret a => exact here
  | act a k ih =>
    obtain ⟨allowed, stays⟩ := step a here only.1
    exact ⟨allowed, fun b => ih b (only.2 b) (stays b)⟩
  | loop body start k ihb ihk =>
    refine ⟨fun _ => J, fun _ => J, here, fun x l' inside => ?_, fun b l' inside => ?_⟩
    · refine (ihb x (only.1 x) inside).mono ?_
      rintro (_ | _) l' stays
      · exact stays
      · exact stays
    · exact ihk b (only.2 b) inside

end Follows

namespace Keeps

variable {l : L}

theorem ret (a : α) : P.Keeps l (.ret a) := rfl

variable {p : Prog Act α}

theorem bind {f : α → Prog Act β} {Q : β → L → Prop} (first : P.Keeps l p)
    (next : ∀ a, P.Follows (f a) l Q) : P.Follows (p.bind f) l Q :=
  Follows.bind first fun a _ same => same ▸ next a

/-- Actions that are allowed in a local state and do not leave it. -/
theorem of_only {ok : {β : Type} → Act β → Prop}
    (steady : ∀ {β : Type} (a : Act β), ok a → P.allows l a ∧ ∀ b, P.next l a b = l)
    (only : p.Only ok) : P.Keeps l p := by
  refine Follows.of_only (J := (· = l)) ?_ only rfl
  rintro _ β a rfl here
  exact steady a here

theorem forEach {f : α → Prog Act Unit} (step : ∀ x, P.Keeps l (f x)) (xs : List α) :
    P.Keeps l (.forEach f xs) := by
  induction xs with
  | nil => exact ret ()
  | cons x rest ih => exact bind (step x) fun _ => ih

end Keeps

/-- Two protocols at once. -/
def prod (P : Protocol Act L) (P' : Protocol Act L') : Protocol Act (L × L') where
  allows l _ a := P.allows l.1 a ∧ P'.allows l.2 a
  next l _ a b := (P.next l.1 a b, P'.next l.2 a b)

theorem Follows.prod {P' : Protocol Act L'} {p : Prog Act α} {l : L} {l' : L'}
    {Q : α → L → Prop} {Q' : α → L' → Prop} (first : P.Follows p l Q)
    (second : P'.Follows p l' Q') :
    (P.prod P').Follows p (l, l') fun a both => Q a both.1 ∧ Q' a both.2 := by
  induction p generalizing l l' with
  | ret a => exact ⟨first, second⟩
  | act a k ih => exact ⟨⟨first.1, second.1⟩, fun b => ih b (first.2 b) (second.2 b)⟩
  | loop body start k ihb ihk =>
    obtain ⟨Inv, Done, here, step, last⟩ := first
    obtain ⟨Inv', Done', here', step', last'⟩ := second
    refine ⟨fun x both => Inv x both.1 ∧ Inv' x both.2, fun b both => Done b both.1 ∧
      Done' b both.2, ⟨here, here'⟩, fun x both inv => ?_, fun b both done => ?_⟩
    · refine (ihb x (step x _ inv.1) (step' x _ inv.2)).mono ?_
      rintro (_ | _) _ both
      · exact both
      · exact both
    · exact ihk b (last b _ done.1) (last' b _ done.2)

end Protocol

variable {c c' : Config Act ι σ ρ} {a : Act β}

/-- Threads without loops stay so. -/
theorem Machine.Reach.loopFree [DecidableEq ι] {M : Machine Act ι ε σ} (run : M.Reach c c')
    (start : ∀ i, (c.threads i).LoopFree) (i : ι) : (c'.threads i).LoopFree := by
  induction run generalizing i with
  | refl => exact start i
  | tail _ last ih =>
    obtain ⟨j, e, stepped⟩ := last
    have mine := ih j
    rcases Machine.stepAt_cases stepped with
      ⟨β, a, k, shared, b, thread, _, rfl⟩ | ⟨β, S, body, first, k, thread, _⟩
    · rw [thread] at mine
      exact (Function.forall_update_iff _ fun _ => Prog.LoopFree).mpr ⟨mine b, fun i _ => ih i⟩ i
    · rw [thread] at mine
      exact mine.elim

/-! ## Machines run together with local states -/

variable [DecidableEq ι]

/-- The machine that keeps the local state of every thread beside the shared state. -/
def Machine.observe (M : Machine Act ι ε σ) (P : Protocol Act L) :
    Machine Act ι ε (σ × (ι → L)) where
  exec i _ a e s :=
    match M.exec i a e s.1 with
    | none => none
    | some (shared, b) => some ((shared, Function.update s.2 i (P.next (s.2 i) a b)), b)

/-- A configuration with the local states that its threads start in. -/
def Config.observe (c : Config Act ι σ ρ) (start : ι → L) : Config Act ι (σ × (ι → L)) ρ :=
  ⟨(c.shared, start), c.threads⟩

variable {M : Machine Act ι ε σ} {P : Protocol Act L}

theorem Machine.observe_exec {i : ι} {e : ε} {s s' : σ} {b : β} (loc : ι → L)
    (ran : M.exec i a e s = some (s', b)) : (M.observe P).exec i a e (s, loc) =
      some ((s', Function.update loc i (P.next (loc i) a b)), b) := by
  unfold Machine.observe
  simp only [ran]

theorem Machine.observe_exec_some {i : ι} {e : ε} {s s' : σ × (ι → L)} {b : β}
    (ran : (M.observe P).exec i a e s = some (s', b)) :
    M.exec i a e s.1 = some (s'.1, b) ∧ s'.2 = Function.update s.2 i (P.next (s.2 i) a b) := by
  unfold Machine.observe at ran
  dsimp only at ran
  split at ran
  · cases ran
  · next shared b' found =>
      cases ran
      exact ⟨found, rfl⟩

/-- Keeping local states loses no run. -/
theorem Machine.Reach.observed (run : M.Reach c c') (P : Protocol Act L) (loc : ι → L) :
    ∃ loc', (M.observe P).Reach ⟨(c.shared, loc), c.threads⟩ ⟨(c'.shared, loc'), c'.threads⟩ := by
  induction run with
  | refl => exact ⟨loc, .refl⟩
  | @tail mid next _ last ih =>
    obtain ⟨here, before⟩ := ih
    obtain ⟨i, e, stepped⟩ := last
    rcases Machine.stepAt_cases stepped with
      ⟨β, a, k, shared, b, thread, ran, rfl⟩ | ⟨β, S, body, start, k, thread, rfl⟩
    · refine ⟨Function.update here i (P.next (here i) a b), before.tail ⟨i, e, ?_⟩⟩
      simp only [Machine.stepAt, thread, Machine.observe_exec here ran]
    · refine ⟨here, before.tail ⟨i, e, ?_⟩⟩
      simp only [Machine.stepAt, thread]

/-- Every thread follows the protocol from its local state on. -/
def Protocol.Followed (P : Protocol Act L) (post : ρ → L → Prop)
    (c : Config Act ι (σ × (ι → L)) ρ) : Prop :=
  ∀ i, P.Follows (c.threads i) (c.shared.2 i) post

namespace Protocol.Followed

variable {post : ρ → L → Prop} {c c' : Config Act ι (σ × (ι → L)) ρ}

/-- A step leads to threads that follow the protocol, and either leaves all states alone or is an
allowed action of the machine. -/
theorem step {i : ι} {e : ε} (h : P.Followed post c)
    (stepped : (M.observe P).stepAt c i e = some c') :
    P.Followed post c' ∧ (c'.shared = c.shared ∨
      ∃ (β : Type) (a : Act β) (b : β), P.allows (c.shared.2 i) a ∧
        M.exec i a e c.shared.1 = some (c'.shared.1, b) ∧
        c'.shared.2 = Function.update c.shared.2 i (P.next (c.shared.2 i) a b)) := by
  rcases Machine.stepAt_cases stepped with
    ⟨β, a, k, shared, b, thread, ran, rfl⟩ | ⟨β, S, body, start, k, thread, rfl⟩
  · obtain ⟨ran, moved⟩ := Machine.observe_exec_some ran
    have mine := h i
    rw [thread] at mine
    refine ⟨fun j => ?_, .inr ⟨β, a, b, mine.1, ran, moved⟩⟩
    dsimp only
    rw [moved]
    by_cases same : j = i
    · subst same
      simpa only [Function.update_self] using mine.2 b
    · simpa only [Function.update_of_ne same] using h j
  · refine ⟨fun j => ?_, .inl rfl⟩
    by_cases same : j = i
    · subst same
      have mine := h j
      rw [thread] at mine
      simpa only [Function.update_self] using mine.unroll
    · simpa only [Function.update_of_ne same] using h j

variable {J : σ × (ι → L) → Prop}

/-- What allowed actions keep that meet a condition on all states before them holds in every state
that is reached by such actions. -/
theorem invariant_restrict {ok : ι → {β : Type} → Act β → σ × (ι → L) → Bool}
    (h : P.Followed post c) (run : ((M.observe P).restrict ok).Reach c c') (start : J c.shared)
    (keep : ∀ i (β : Type) (a : Act β) e s s' b loc, P.allows (loc i) a → ok i a (s, loc) →
      M.exec i a e s = some (s', b) → J (s, loc) →
      J (s', Function.update loc i (P.next (loc i) a b))) : P.Followed post c' ∧ J c'.shared := by
  induction run with
  | refl => exact ⟨h, start⟩
  | @tail mid next _ last ih =>
    obtain ⟨i, e, stepped⟩ := last
    rcases Machine.stepAt_cases stepped with
      ⟨β, a, k, shared, b, thread, ran, rfl⟩ | ⟨β, S, body, first, k, thread, rfl⟩
    · unfold Machine.restrict at ran
      dsimp only at ran
      split at ran
      · next meets =>
          have mine := ih.1 i
          rw [thread] at mine
          have stepped : (M.observe P).stepAt mid i e =
              some ⟨shared, Function.update mid.threads i (k b)⟩ := by
            simp only [Machine.stepAt, thread, ran]
          obtain ⟨ran, moved⟩ := Machine.observe_exec_some ran
          have kept := keep i β a e _ _ b _ mine.1 meets ran ih.2
          rw [← moved] at kept
          exact ⟨(ih.1.step stepped).1, kept⟩
      · cases ran
    · have stepped : (M.observe P).stepAt mid i e =
          some ⟨mid.shared, Function.update mid.threads i (.unroll body first k)⟩ := by
        simp only [Machine.stepAt, thread]
      exact ⟨(ih.1.step stepped).1, ih.2⟩

/-- What allowed actions keep holds in every state that is reached. -/
theorem invariant (h : P.Followed post c) (run : (M.observe P).Reach c c') (start : J c.shared)
    (keep : ∀ i (β : Type) (a : Act β) e s s' b loc, P.allows (loc i) a →
      M.exec i a e s = some (s', b) → J (s, loc) →
      J (s', Function.update loc i (P.next (loc i) a b))) : P.Followed post c' ∧ J c'.shared := by
  have run : ((M.observe P).restrict fun _ _ _ _ => true).Reach c c' := run
  exact invariant_restrict h run start
    fun i β a e s s' b loc allowed _ => keep i β a e s s' b loc allowed

end Protocol.Followed

end Sdsce.Theory
