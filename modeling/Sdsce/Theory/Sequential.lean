import Sdsce.Theory.Program

/-!
# Programs that run alone

What one thread can do to the shared state, and answer, when no other thread moves. A program
that runs alone is one interleaving of the machine.
-/
namespace Sdsce.Theory

variable {Act : Type → Type} {ι ε σ ρ α β : Type}

/-- Thread `i` runs the program to its end, from one shared state to another. -/
inductive Machine.Runs (M : Machine Act ι ε σ) (i : ι) {α : Type} :
    Prog Act α → σ → α → σ → Prop
  | ret {a : α} {s : σ} : M.Runs i (.ret a) s a s
  | act {β : Type} {a : Act β} {k : β → Prog Act α} {e : ε} {b : β} {r : α} {s mid s' : σ}
      (ran : M.exec i a e s = some (mid, b)) (rest : M.Runs i (k b) mid r s') :
      M.Runs i (.act a k) s r s'
  | loop {β S : Type} {body : S → Prog Act (S ⊕ β)} {start : S} {k : β → Prog Act α} {r : α}
      {s s' : σ} (rest : M.Runs i (.unroll body start k) s r s') :
      M.Runs i (.loop body start k) s r s'

namespace Machine.Runs

variable {M : Machine Act ι ε σ} {i : ι} {s s' : σ}

variable {r : α} {a : Act β} {p : Prog Act β} {f : β → Prog Act α} {Q : α → σ → Prop} {J : σ → Prop}

theorem ret_inv {a : α} (ran : M.Runs i (.ret a) s r s') : r = a ∧ s' = s := by
  cases ran
  exact ⟨rfl, rfl⟩

theorem act_inv {k : β → Prog Act α} (ran : M.Runs i (.act a k) s r s') :
    ∃ e b mid, M.exec i a e s = some (mid, b) ∧ M.Runs i (k b) mid r s' := by
  cases ran with
  | act executed rest => exact ⟨_, _, _, executed, rest⟩

/-- A program in sequence runs its first part to the end. -/
theorem bind_inv (ran : M.Runs i (p.bind f) s r s') :
    ∃ b mid, M.Runs i p s b mid ∧ M.Runs i (f b) mid r s' := by
  generalize whole : p.bind f = q at ran
  induction ran generalizing p with
  | ret =>
    cases p with
    | ret b =>
      rw [Prog.ret_bind] at whole
      exact ⟨b, _, .ret, whole ▸ .ret⟩
    | act | loop => cases whole
  | act executed rest ih =>
    cases p with
    | ret b =>
      rw [Prog.ret_bind] at whole
      exact ⟨b, _, .ret, whole ▸ .act executed rest⟩
    | act _ _ =>
      cases whole
      obtain ⟨b, mid, first, second⟩ := ih rfl
      exact ⟨b, mid, .act executed first, second⟩
    | loop _ _ _ => cases whole
  | loop rest ih =>
    cases p with
    | ret b =>
      rw [Prog.ret_bind] at whole
      exact ⟨b, _, .ret, whole ▸ .loop rest⟩
    | act _ _ => cases whole
    | loop body' start' k' =>
      cases whole
      obtain ⟨b, mid, first, second⟩ := ih (Prog.unroll_bind _ _ k' f)
      exact ⟨b, mid, .loop first, second⟩

theorem bind {b : β} {mid : σ} (first : M.Runs i p s b mid) (second : M.Runs i (f b) mid r s') :
    M.Runs i (p.bind f) s r s' := by
  induction first with
  | ret => exact second
  | act ran _ ih => exact .act ran (ih second)
  | loop _ ih =>
    refine .loop ?_
    rw [← Prog.unroll_bind]
    exact ih second

theorem perform_inv {b : β} (ran : M.Runs i (.perform a) s b s') :
    ∃ e, M.exec i a e s = some (s', b) := by
  obtain ⟨e, b', mid, executed, rest⟩ := ran.act_inv
  obtain ⟨rfl, rfl⟩ := rest.ret_inv
  exact ⟨e, executed⟩

/-- What every turn of a loop keeps until the loop ends. -/
theorem iterate_inv {S : Type} {body : S → Prog Act (S ⊕ α)} {start : S} {J : S → σ → Prop}
    (ran : M.Runs i (.iterate body start) s r s') (first : J start s)
    (turn : ∀ x s b s', J x s → M.Runs i (body x) s b s' →
      Sum.elim (fun next => J next s') (fun a => Q a s') b) : Q r s' := by
  let again : S ⊕ α → Prog Act α := Sum.elim (fun next => .loop body next .ret) .ret
  -- the run is in the middle of a turn: `p` is what the turn has left to do
  suffices midway : ∀ q s, M.Runs i q s r s' → ∀ p, q = p.bind again →
      (∀ b mid, M.Runs i p s b mid → Sum.elim (fun x => J x mid) (fun a => Q a mid) b) →
      Q r s' by
    refine midway _ s ran (.ret (.inl start)) rfl ?_
    intro b mid done
    obtain ⟨rfl, rfl⟩ := done.ret_inv
    exact first
  clear ran first
  intro q s run
  induction run with
  | ret =>
    intro p split turnEnds
    cases p with
    | ret b =>
      cases b with
      | inl next => cases split
      | inr a =>
        cases split
        exact turnEnds _ _ .ret
    | act | loop => cases split
  | act executed _ ih =>
    intro p split turnEnds
    cases p with
    | ret b =>
      cases b with
      | inl | inr => cases split
    | act a k =>
      cases split
      exact ih _ rfl fun b mid rest => turnEnds b mid (.act executed rest)
    | loop _ _ _ => cases split
  | loop _ ih =>
    intro p split turnEnds
    cases p with
    | ret b =>
      cases b with
      | inl next =>
        cases split
        refine ih (body next) (congrArg (Prog.bind (body next)) (funext ?_)) ?_
        · rintro (_ | _) <;> rfl
        · exact fun b mid rest => turn next _ b mid (turnEnds _ _ .ret) rest
      | inr a => cases split
    | act _ _ => cases split
    | loop _ _ k =>
      cases split
      exact ih _ (Prog.unroll_bind _ _ k again).symm
        fun b mid rest => turnEnds b mid (.loop rest)

theorem retry_inv {body : Prog Act (Option α)} (ran : M.Runs i (.retry body) s r s') (first : J s)
    (again : ∀ s s', J s → M.Runs i body s none s' → J s')
    (done : ∀ s a s', J s → M.Runs i body s (some a) s' → Q a s') : Q r s' := by
  refine iterate_inv (J := fun _ => J) ran first ?_
  intro _ s b s' here turned
  obtain ⟨answer, mid, once, rest⟩ := turned.bind_inv
  cases answer with
  | none =>
    obtain ⟨rfl, rfl⟩ := rest.ret_inv
    exact again _ _ here once
  | some a =>
    obtain ⟨rfl, rfl⟩ := rest.ret_inv
    exact done _ _ _ here once

/-- A fact that no action of the program breaks. -/
theorem keeps {ok : {β : Type} → Act β → Prop} {p : Prog Act α} (ran : M.Runs i p s r s')
    (step : ∀ (β : Type) (a : Act β) e s s' b, ok a → J s → M.exec i a e s = some (s', b) → J s')
    (only : p.Only ok) (here : J s) : J s' := by
  induction ran with
  | ret => exact here
  | act executed _ ih => exact ih (only.2 _) (step _ _ _ _ _ _ only.1 here executed)
  | loop _ ih =>
    refine ih ((only.1 _).bind ?_) here
    rintro (next | b)
    · exact ⟨only.1, only.2⟩
    · exact only.2 b

/-- A program over other actions runs as the program itself, seen through `view`. -/
theorem lift_inv {Act' : Type → Type} {ε' σ' : Type} {M' : Machine Act' ι ε' σ'} {s s' : σ'}
    {f : {β : Type} → Act β → Act' β} {view : σ' → σ} {J : σ' → Prop} {p : Prog Act α}
    (step : ∀ (β : Type) (a : Act β) e s s' b, J s → M'.exec i (f a) e s = some (s', b) →
      J s' ∧ ∃ e', M.exec i a e' (view s) = some (view s', b)) (ran : M'.Runs i (p.lift f) s r s')
    (here : J s) : J s' ∧ M.Runs i p (view s) r (view s') := by
  generalize lifted : p.lift f = q at ran
  induction ran generalizing p with
  | ret =>
    cases p with
    | ret a =>
      cases lifted
      exact ⟨here, .ret⟩
    | act | loop => cases lifted
  | act executed _ ih =>
    cases p with
    | ret | loop => cases lifted
    | act a k =>
      cases lifted
      obtain ⟨there, e', done⟩ := step _ _ _ _ _ _ here executed
      obtain ⟨last, rest⟩ := ih there rfl
      exact ⟨last, .act done rest⟩
  | loop _ ih =>
    cases p with
    | ret | act => cases lifted
    | loop _ _ _ =>
      cases lifted
      obtain ⟨last, rest⟩ := ih here (Prog.lift_unroll f _ _ _)
      exact ⟨last, .loop rest⟩

end Machine.Runs

/-- Run a program alone against an outside that always answers the same. -/
def Machine.runAlone (M : Machine Act ι ε σ) (i : ι) (e : ε) : Nat → Prog Act α → σ → Option (α × σ)
  | _, .ret a, s => some (a, s)
  | 0, _, _ => none
  | n + 1, .act a k, s =>
    match M.exec i a e s with
    | none => none
    | some (s', b) => M.runAlone i e n (k b) s'
  | n + 1, .loop body start k, s => M.runAlone i e n (.unroll body start k) s

theorem Machine.runAlone_runs {M : Machine Act ι ε σ} {i : ι} {e : ε} {n : Nat}
    {p : Prog Act α} {s s' : σ} {r : α} (ended : M.runAlone i e n p s = some (r, s')) :
    M.Runs i p s r s' := by
  induction n generalizing p s with
  | zero =>
    cases p with
    | ret a =>
      cases ended
      exact .ret
    | act | loop => cases ended
  | succ n ih =>
    cases p with
    | ret a =>
      cases ended
      exact .ret
    | act a k =>
      simp only [Machine.runAlone] at ended
      split at ended
      · cases ended
      · next ran => exact .act ran (ih ended)
    | loop body start k => exact .loop (ih ended)

end Sdsce.Theory
