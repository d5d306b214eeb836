import Sdsce.Theory.Sequential

/-!
# Completion of an uncontended thread

`Finishes` is total correctness of a thread that moves alone: whatever a fair outside answers,
each of its actions is enabled and it returns after finitely many steps.
-/
namespace Sdsce.Theory

namespace Machine

variable {Act : Type → Type} {ι ε σ : Type}

/-- Thread `i` alone runs the program to its end and then `Q` holds, whatever the fair outside
answers. -/
inductive Finishes (M : Machine Act ι ε σ) (i : ι) (fair : ε → Prop) {α : Type}
    (Q : α → σ → Prop) : Prog Act α → σ → Prop where
  | ret {a : α} {s : σ} (done : Q a s) : Finishes M i fair Q (.ret a) s
  | act {β : Type} {a : Act β} {k : β → Prog Act α} {s : σ}
      (enabled : ∀ e, fair e → (M.exec i a e s).isSome)
      (next : ∀ e s' b, fair e → M.exec i a e s = some (s', b) → Finishes M i fair Q (k b) s') :
      Finishes M i fair Q (.act a k) s
  | loop {β S : Type} {body : S → Prog Act (S ⊕ β)} {start : S} {k : β → Prog Act α} {s : σ}
      (unrolled : Finishes M i fair Q (.unroll body start k) s) :
      Finishes M i fair Q (.loop body start k) s

namespace Finishes

variable {M : Machine Act ι ε σ} {i : ι} {fair : ε → Prop} {α β : Type}

variable {p : Prog Act α} {f : α → Prog Act β} {s s' : σ} {Q Q' : α → σ → Prop} {a : Act α}

theorem bind {R : α → σ → Prop} {Q : β → σ → Prop} (first : M.Finishes i fair R p s)
    (rest : ∀ a s', R a s' → M.Finishes i fair Q (f a) s') : M.Finishes i fair Q (p.bind f) s := by
  induction first with
  | ret done => exact rest _ _ done
  | act enabled _ ih => exact .act enabled fun e s' b here ran => ih e s' b here ran
  | loop _ ih => exact .loop (Prog.unroll_bind _ _ _ _ ▸ ih)

theorem perform (enabled : ∀ e, fair e → (M.exec i a e s).isSome)
    (next : ∀ e s' b, fair e → M.exec i a e s = some (s', b) → Q b s') :
    M.Finishes i fair Q (.perform a) s :=
  .act enabled fun e s' b here ran => .ret (next e s' b here ran)

theorem mono (h : M.Finishes i fair Q p s) (weaker : ∀ a s', Q a s' → Q' a s') :
    M.Finishes i fair Q' p s := by
  induction h with
  | ret done => exact .ret (weaker _ _ done)
  | act enabled _ ih => exact .act enabled ih
  | loop _ ih => exact .loop ih

/-- An action whose effect the outside has no say in. -/
theorem step {Q : β → σ → Prop} {b : α} (executes : ∀ e, fair e → M.exec i a e s = some (s', b))
    (rest : M.Finishes i fair Q (f b) s') : M.Finishes i fair Q ((Prog.perform a).bind f) s := by
  refine .act (fun e here => ?_) fun e s₁ b₁ here ran => ?_
  · rw [executes e here]
    rfl
  · rw [executes e here] at ran
    cases ran
    exact rest

theorem answers {b : α} (executes : ∀ e, fair e → M.exec i a e s = some (s', b)) (done : Q b s') :
    M.Finishes i fair Q (.perform a) s :=
  step (f := Prog.ret) executes (.ret done)

/-- Two facts about the end of a program meet in one of its ends. -/
theorem meet {e : ε} (here : fair e) (h : M.Finishes i fair Q p s) (h' : M.Finishes i fair Q' p s) :
    ∃ a s', Q a s' ∧ Q' a s' := by
  induction h with
  | ret done =>
    cases h' with
    | ret done' => exact ⟨_, _, done, done'⟩
  | act enabled _ ih =>
    cases h' with
    | act _ next' =>
      obtain ⟨⟨s₁, b⟩, ran⟩ := Option.isSome_iff_exists.mp (enabled e here)
      exact ih e s₁ b here ran (next' e s₁ b here ran)
  | loop _ ih =>
    cases h' with
    | loop unrolled => exact ih unrolled

/-- A retried body that succeeds at once. -/
theorem retry {body : Prog Act (Option α)}
    (once : M.Finishes i fair (fun r s' => ∃ a, r = some a ∧ Q a s') body s) :
    M.Finishes i fair Q (.retry body) s := by
  refine .loop ?_
  change M.Finishes i fair Q ((body.bind _).bind _) s
  rw [Prog.bind_assoc]
  refine once.bind ?_
  rintro _ s' ⟨a, rfl, done⟩
  exact .ret done

theorem runs {e : ε} (here : fair e) (h : M.Finishes i fair Q p s) :
    ∃ a s', M.Runs i p s a s' ∧ Q a s' := by
  induction h with
  | ret done => exact ⟨_, _, .ret, done⟩
  | act enabled _ ih =>
    obtain ⟨⟨s₁, b⟩, ran⟩ := Option.isSome_iff_exists.mp (enabled e here)
    obtain ⟨a, s', rest, done⟩ := ih e s₁ b here ran
    exact ⟨a, s', .act ran rest, done⟩
  | loop _ ih =>
    obtain ⟨a, s', rest, done⟩ := ih
    exact ⟨a, s', .loop rest, done⟩

/-- In a configuration, a thread that finishes and moves alone gets there. -/
theorem letRun [DecidableEq ι] {ρ : Type} {e : ε} (here : fair e)
    (finishes : M.Finishes i fair Q p s) (k : α → Prog Act ρ) {c : Config Act ι σ ρ}
    (shared : c.shared = s) (thread : c.threads i = p.bind k) :
    ∃ n a, (M.letRun i e n c).threads i = k a ∧ Q a (M.letRun i e n c).shared := by
  induction finishes generalizing c with
  | ret done => exact ⟨0, _, thread, shared ▸ done⟩
  | @act β a k' s enabled _ ih =>
    obtain ⟨⟨s', b⟩, ran⟩ := Option.isSome_iff_exists.mp (enabled e here)
    have stepped : M.stepAt c i e = some ⟨s', Function.update c.threads i ((k' b).bind k)⟩ := by
      simp only [stepAt, thread, Prog.act_bind, shared, ran]
    obtain ⟨n, r, ended⟩ := ih e s' b here ran
      (c := ⟨s', Function.update c.threads i ((k' b).bind k)⟩) rfl (Function.update_self ..)
    refine ⟨n + 1, r, ?_⟩
    rw [Machine.letRun, stepped]
    exact ended
  | @loop β S body start k' s _ ih =>
    have stepped : M.stepAt c i e = some ⟨c.shared, Function.update c.threads i
        (.unroll body start fun b => (k' b).bind k)⟩ := by
      simp only [stepAt, thread, Prog.bind]
    obtain ⟨n, r, ended⟩ := ih (c := ⟨c.shared, Function.update c.threads i
      (.unroll body start fun b => (k' b).bind k)⟩) shared
      ((Function.update_self ..).trans (Prog.unroll_bind ..).symm)
    refine ⟨n + 1, r, ?_⟩
    rw [Machine.letRun, stepped]
    exact ended

end Finishes

end Machine

end Sdsce.Theory
