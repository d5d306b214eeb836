import Sdsce.Theory.Sequential

/-!
# Programs that run in an environment

One thread runs to its end while others may move between its actions, and only runs are looked at in
which its actions get answers of a certain kind. A program that waits for something makes progress
because the environment provides it.
-/
namespace Sdsce.Theory

/-- A thread of a machine, what may happen between its actions, and the answers it gets. -/
structure Setting (Act : Type → Type) (ι ε σ : Type) where
  machine : Machine Act ι ε σ
  thread : ι
  moves : σ → σ → Prop
  answers : {β : Type} → Act β → β → Bool

namespace Setting

variable {Act : Type → Type} {ι ε σ α β : Type}

/-- The program runs to its end in the setting, from one shared state to another. -/
inductive Runs (S : Setting Act ι ε σ) {α : Type} : Prog Act α → σ → α → σ → Prop
  | ret {a : α} {s : σ} : S.Runs (.ret a) s a s
  | act {β : Type} {a : Act β} {k : β → Prog Act α} {e : ε} {b : β} {r : α} {s mid s' : σ}
      (ran : S.machine.exec S.thread a e s = some (mid, b)) (met : S.answers a b)
      (rest : S.Runs (k b) mid r s') : S.Runs (.act a k) s r s'
  | loop {β T : Type} {body : T → Prog Act (T ⊕ β)} {start : T} {k : β → Prog Act α} {r : α}
      {s s' : σ} (rest : S.Runs (.unroll body start k) s r s') : S.Runs (.loop body start k) s r s'
  | move {p : Prog Act α} {r : α} {s mid s' : σ} (moved : S.moves s mid)
      (rest : S.Runs p mid r s') : S.Runs p s r s'

variable {S : Setting Act ι ε σ}

/-- What the environment does before the next action. -/
abbrev Waits (S : Setting Act ι ε σ) : σ → σ → Prop := Relation.ReflTransGen S.moves

namespace Runs

variable {s s' : σ}

variable {r : α} {p : Prog Act β} {f : β → Prog Act α}

theorem ret_inv {a : α} (ran : S.Runs (.ret a) s r s') : r = a ∧ S.Waits s s' := by
  generalize whole : Prog.ret a = p at ran
  induction ran with
  | ret =>
    cases whole
    exact ⟨rfl, .refl⟩
  | act | loop => cases whole
  | move moved _ ih =>
    obtain ⟨same, waits⟩ := ih whole
    exact ⟨same, .head moved waits⟩

theorem act_inv {a : Act β} {k : β → Prog Act α} (ran : S.Runs (.act a k) s r s') :
    ∃ before e b mid, S.Waits s before ∧ S.machine.exec S.thread a e before = some (mid, b) ∧
      S.answers a b ∧ S.Runs (k b) mid r s' := by
  generalize whole : Prog.act a k = p at ran
  induction ran with
  | ret | loop => cases whole
  | act executed met rest _ =>
    cases whole
    exact ⟨_, _, _, _, .refl, executed, met, rest⟩
  | move moved _ ih =>
    obtain ⟨before, e, b, mid, waits, executed⟩ := ih whole
    exact ⟨before, e, b, mid, .head moved waits, executed⟩

/-- A program in sequence runs its first part to the end. -/
theorem bind_inv (ran : S.Runs (p.bind f) s r s') :
    ∃ b mid, S.Runs p s b mid ∧ S.Runs (f b) mid r s' := by
  generalize whole : p.bind f = q at ran
  induction ran generalizing p with
  | ret =>
    cases p with
    | ret b =>
      rw [Prog.ret_bind] at whole
      exact ⟨b, _, .ret, whole ▸ .ret⟩
    | act | loop => cases whole
  | act executed met rest ih =>
    cases p with
    | ret b =>
      rw [Prog.ret_bind] at whole
      exact ⟨b, _, .ret, whole ▸ .act executed met rest⟩
    | act _ _ =>
      cases whole
      obtain ⟨b, mid, first, second⟩ := ih rfl
      exact ⟨b, mid, .act executed met first, second⟩
    | loop _ _ _ => cases whole
  | loop rest ih =>
    cases p with
    | ret b =>
      rw [Prog.ret_bind] at whole
      exact ⟨b, _, .ret, whole ▸ .loop rest⟩
    | act _ _ => cases whole
    | loop _ _ k' =>
      cases whole
      obtain ⟨b, mid, first, second⟩ := ih (Prog.unroll_bind _ _ k' f)
      exact ⟨b, mid, .loop first, second⟩
  | move moved _ ih =>
    obtain ⟨b, mid, first, second⟩ := ih whole
    exact ⟨b, mid, .move moved first, second⟩

theorem bind {b : β} {mid : σ} (first : S.Runs p s b mid) (second : S.Runs (f b) mid r s') :
    S.Runs (p.bind f) s r s' := by
  induction first with
  | ret => exact second
  | act ran met _ ih => exact .act ran met (ih second)
  | loop _ ih =>
    refine .loop ?_
    rw [← Prog.unroll_bind]
    exact ih second
  | move moved _ ih => exact .move moved (ih second)

/-- A fact that neither the environment nor an action of the program breaks. -/
theorem keeps {ok : {β : Type} → Act β → Prop} {J : σ → Prop} {p : Prog Act α}
    (ran : S.Runs p s r s') (others : ∀ s s', S.moves s s' → J s → J s')
    (step : ∀ (β : Type) (a : Act β) e s s' b, ok a → J s →
      S.machine.exec S.thread a e s = some (s', b) → J s') (only : p.Only ok) (here : J s) :
    J s' := by
  induction ran with
  | ret => exact here
  | act executed _ _ ih => exact ih (only.2 _) (step _ _ _ _ _ _ only.1 here executed)
  | loop _ ih =>
    refine ih ((only.1 _).bind ?_) here
    rintro (next | b)
    · exact ⟨only.1, only.2⟩
    · exact only.2 b
  | move moved _ ih => exact ih only (others _ _ moved here)

end Runs

/-- Run a program in the setting against an outside that always answers the same; where an action
is not enabled, `help` says how the environment moves. -/
def run (S : Setting Act ι ε σ) (e : ε) (help : σ → Option σ) :
    Nat → Prog Act α → σ → Option (α × σ)
  | _, .ret a, s => some (a, s)
  | 0, _, _ => none
  | n + 1, .act a k, s =>
    match S.machine.exec S.thread a e s with
    | some (mid, b) => if S.answers a b then S.run e help n (k b) mid else none
    | none =>
      match help s with
      | some mid => S.run e help n (.act a k) mid
      | none => none
  | n + 1, .loop body start k, s => S.run e help n (.unroll body start k) s

theorem run_runs {e : ε} {help : σ → Option σ} (helps : ∀ s s', help s = some s' → S.moves s s')
    {n : Nat} {p : Prog Act α} {s s' : σ} {r : α} (ended : S.run e help n p s = some (r, s')) :
    S.Runs p s r s' := by
  induction n generalizing p s with
  | zero =>
    cases p with
    | ret a =>
      cases ended
      exact .ret
    | act | loop => cases ended
  | succ n ih =>
    cases p with
    | ret a =>
      cases ended
      exact .ret
    | act a k =>
      simp only [run] at ended
      split at ended
      · next ran =>
          split at ended
          · next met => exact .act ran met (ih ended)
          · cases ended
      · split at ended
        · next moved => exact .move (helps _ _ moved) (ih ended)
        · cases ended
    | loop body start k => exact .loop (ih ended)

end Setting

end Sdsce.Theory
