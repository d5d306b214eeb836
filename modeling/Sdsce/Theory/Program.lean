import Mathlib.Logic.Function.Basic
import Mathlib.Logic.Relation

/-!
# Programs over atomic actions and their interleavings

A thread is a tree of atomic actions. A machine says what one action of one thread does
to the shared state; an external choice is passed to it as an oracle value. Threads
interleave at action granularity: a configuration holds the shared state and what every
thread has left to run.
-/
namespace Sdsce.Theory

/-- A sequential program: return, perform one atomic action, or iterate a body until it
answers `inr`. -/
inductive Prog (Act : Type → Type) : Type → Type 1
  | ret {α : Type} (a : α) : Prog Act α
  | act {α β : Type} (a : Act β) (k : β → Prog Act α) : Prog Act α
  | loop {α β S : Type} (body : S → Prog Act (S ⊕ β)) (start : S) (k : β → Prog Act α) :
      Prog Act α

namespace Prog

variable {Act : Type → Type} {α β γ S : Type}

/-- Sequential composition. -/
def bind : Prog Act α → (α → Prog Act β) → Prog Act β
  | ret a, f => f a
  | act a k, f => act a (fun b => (k b).bind f)
  | loop body start k, f => loop body start (fun b => (k b).bind f)

instance : Monad (Prog Act) where
  pure := ret
  bind := bind

/-- A single atomic action as a program. -/
def perform (a : Act α) : Prog Act α := act a ret

/-- Iterate `body` from `start` until it answers `inr`. -/
def iterate (body : S → Prog Act (S ⊕ α)) (start : S) : Prog Act α := loop body start ret

/-- Iterate a body that carries no state. -/
def retry (body : Prog Act (Option α)) : Prog Act α :=
  iterate (fun _ : Unit => body.bind fun
    | none => ret (Sum.inl ())
    | some a => ret (Sum.inr a)) ()

/-- Run `f` on every element in order. -/
def forEach (f : α → Prog Act Unit) : List α → Prog Act Unit
  | [] => ret ()
  | a :: rest => (f a).bind fun _ => forEach f rest

/-- Run `f` on every element in order and keep the answers. -/
def mapEach (f : α → Prog Act β) : List α → Prog Act (List β)
  | [] => ret []
  | a :: rest => (f a).bind fun b => (mapEach f rest).bind fun answers => ret (b :: answers)

/-- The same program over other actions. -/
def lift {Act' : Type → Type} (f : {β : Type} → Act β → Act' β) {α : Type} :
    Prog Act α → Prog Act' α
  | ret a => ret a
  | act a k => act (f a) (fun b => (k b).lift f)
  | loop body start k => loop (fun x => (body x).lift f) start (fun b => (k b).lift f)

/-- One unfolding of a loop, followed by `k`. -/
def unroll (body : S → Prog Act (S ⊕ β)) (start : S) (k : β → Prog Act α) : Prog Act α :=
  (body start).bind fun
    | Sum.inl next => loop body next k
    | Sum.inr b => k b

@[simp] theorem pure_eq (a : α) : (pure a : Prog Act α) = ret a := rfl

@[simp] theorem bind_eq (p : Prog Act α) (f : α → Prog Act β) : p >>= f = p.bind f := rfl

@[simp] theorem ret_bind (a : α) (f : α → Prog Act β) : (ret a).bind f = f a := rfl

@[simp] theorem act_bind (a : Act γ) (k : γ → Prog Act α) (f : α → Prog Act β) :
    (act a k).bind f = act a (fun b => (k b).bind f) := rfl

theorem bind_assoc (p : Prog Act α) (f : α → Prog Act β) (g : β → Prog Act γ) :
    (p.bind f).bind g = p.bind fun a => (f a).bind g := by
  induction p with
  | ret a => rfl
  | act a k ih => exact congrArg (Prog.act a) (funext fun b => ih b f)
  | loop body start k _ ih => exact congrArg (Prog.loop body start) (funext fun b => ih b f)

theorem unroll_bind (body : S → Prog Act (S ⊕ γ)) (start : S) (k : γ → Prog Act α)
    (f : α → Prog Act β) :
    (unroll body start k).bind f = unroll body start fun b => (k b).bind f := by
  rw [unroll, bind_assoc]
  refine congrArg (Prog.bind _) (funext fun next => ?_)
  cases next with
  | inl | inr => rfl

variable {Act' : Type → Type}

theorem lift_bind (f : {β : Type} → Act β → Act' β) (p : Prog Act α) (g : α → Prog Act β) :
    (p.bind g).lift f = (p.lift f).bind fun a => (g a).lift f := by
  induction p with
  | ret a => rfl
  | act a k ih => exact congrArg (Prog.act (f a)) (funext fun b => ih b g)
  | loop body start k _ ih =>
    exact congrArg (Prog.loop (fun x => (body x).lift f) start) (funext fun b => ih b g)

theorem lift_unroll (f : {β : Type} → Act β → Act' β) (body : S → Prog Act (S ⊕ β)) (start : S)
    (k : β → Prog Act α) :
    (unroll body start k).lift f =
      unroll (fun x => (body x).lift f) start fun b => (k b).lift f := by
  rw [unroll, lift_bind]
  refine congrArg (Prog.bind _) (funext fun next => ?_)
  cases next with
  | inl | inr => rfl

/-- The value of a finished program. -/
def result : Prog Act α → Option α
  | ret a => some a
  | act _ _ => none
  | loop _ _ _ => none

@[simp] theorem result_ret (a : α) : (ret a : Prog Act α).result = some a := rfl

theorem result_eq_some {p : Prog Act α} {a : α} (h : p.result = some a) : p = ret a := by
  cases p with
  | ret b =>
    rw [result_ret, Option.some.injEq] at h
    rw [h]
  | act | loop => cases h

/-- Every action of the program satisfies `ok`. -/
def Only (ok : {β : Type} → Act β → Prop) {α : Type} : Prog Act α → Prop
  | ret _ => True
  | act a k => ok a ∧ ∀ b, (k b).Only ok
  | loop body _ k => (∀ x, (body x).Only ok) ∧ ∀ b, (k b).Only ok

namespace Only

variable {ok : {β : Type} → Act β → Prop}

theorem ret (a : α) : (Prog.ret a : Prog Act α).Only ok := trivial

theorem perform {a : Act α} (here : ok a) : (Prog.perform a).Only ok := ⟨here, fun _ => trivial⟩

variable {p : Prog Act α}

theorem bind {f : α → Prog Act β} (first : p.Only ok) (next : ∀ a, (f a).Only ok) :
    (p.bind f).Only ok := by
  induction p with
  | ret a => exact next a
  | act a k ih | loop body start k _ ih => exact ⟨first.1, fun b => ih b (first.2 b) next⟩

theorem iterate {body : S → Prog Act (S ⊕ α)} {start : S} (step : ∀ x, (body x).Only ok) :
    (Prog.iterate body start).Only ok :=
  ⟨step, fun _ => trivial⟩

theorem retry {body : Prog Act (Option α)} (step : body.Only ok) :
    (Prog.retry body).Only ok := by
  refine iterate fun _ => step.bind ?_
  rintro (_ | _)
  · exact trivial
  · exact trivial

theorem mono {ok' : {β : Type} → Act β → Prop} (only : p.Only ok)
    (weaker : ∀ {β : Type} (a : Act β), ok a → ok' a) : p.Only ok' := by
  induction p with
  | ret a => trivial
  | act a k ih => exact ⟨weaker a only.1, fun b => ih b (only.2 b)⟩
  | loop body start k ihb ihk =>
    exact ⟨fun x => ihb x (only.1 x), fun b => ihk b (only.2 b)⟩

theorem forEach {f : α → Prog Act Unit} (step : ∀ x, (f x).Only ok) (xs : List α) :
    (Prog.forEach f xs).Only ok := by
  induction xs with
  | nil => exact ret ()
  | cons x rest ih => exact bind (step x) fun _ => ih

/-- Where every action does, a program need not be looked at. -/
theorem of_forall (all : ∀ (β : Type) (a : Act β), ok a) (p : Prog Act α) : p.Only ok := by
  induction p with
  | ret a => trivial
  | act a k ih => exact ⟨all _ a, ih⟩
  | loop body start k ihb ihk => exact ⟨ihb, ihk⟩

end Only

end Prog

/-- What one atomic action of a thread does. `none` means that the action is not enabled:
the thread waits. -/
structure Machine (Act : Type → Type) (ι ε σ : Type) where
  exec : ι → {β : Type} → Act β → ε → σ → Option (σ × β)

/-- The shared state and the rest of every thread. -/
structure Config (Act : Type → Type) (ι σ ρ : Type) where
  shared : σ
  threads : ι → Prog Act ρ

namespace Machine

/-- The machine all of whose actions meet a condition on the state before them. -/
def restrict {Act : Type → Type} {ι ε σ : Type} (M : Machine Act ι ε σ)
    (ok : ι → {β : Type} → Act β → σ → Bool) : Machine Act ι ε σ where
  exec i _ a e s := if ok i a s then M.exec i a e s else none

variable {Act : Type → Type} {ι ε σ ρ : Type} [DecidableEq ι] (M : Machine Act ι ε σ)

/-- One step of thread `i` under the external choice `e`. Unfolding a loop does not touch
the shared state. -/
def stepAt (c : Config Act ι σ ρ) (i : ι) (e : ε) : Option (Config Act ι σ ρ) :=
  match c.threads i with
  | .ret _ => none
  | .act a k =>
    match M.exec i a e c.shared with
    | none => none
    | some (shared, b) => some ⟨shared, Function.update c.threads i (k b)⟩
  | .loop body start k => some ⟨c.shared, Function.update c.threads i (.unroll body start k)⟩

/-- Thread `i` moves alone, at most `n` steps, and stops early when it cannot move. -/
def letRun (i : ι) (e : ε) : Nat → Config Act ι σ ρ → Config Act ι σ ρ
  | 0, c => c
  | n + 1, c =>
    match M.stepAt c i e with
    | none => c
    | some next => letRun i e n next

/-- Play a script: who moves, the external choice it meets, and for how many steps. -/
def play (script : List (ι × ε × Nat)) (c : Config Act ι σ ρ) : Config Act ι σ ρ :=
  script.foldl (fun c (i, e, n) => M.letRun i e n c) c

/-- One step of some thread. -/
def Step (c c' : Config Act ι σ ρ) : Prop := ∃ i e, M.stepAt c i e = some c'

/-- Everything that interleaving the threads can lead to. -/
def Reach : Config Act ι σ ρ → Config Act ι σ ρ → Prop := Relation.ReflTransGen M.Step

variable {M}

variable {c c' : Config Act ι σ ρ}

/-- What a step can be: an enabled atomic action, or the unfolding of a loop. -/
theorem stepAt_cases {i : ι} {e : ε} (h : M.stepAt c i e = some c') :
    (∃ (β : Type) (a : Act β) (k : β → Prog Act ρ) (shared : σ) (b : β),
      c.threads i = .act a k ∧ M.exec i a e c.shared = some (shared, b) ∧
      c' = ⟨shared, Function.update c.threads i (k b)⟩) ∨
    (∃ (β S : Type) (body : S → Prog Act (S ⊕ β)) (start : S) (k : β → Prog Act ρ),
      c.threads i = .loop body start k ∧
      c' = ⟨c.shared, Function.update c.threads i (.unroll body start k)⟩) := by
  unfold stepAt at h
  split at h
  · cases h
  · next a k thread =>
      split at h
      · cases h
      · next shared b ran =>
          cases h
          exact .inl ⟨_, a, k, shared, b, thread, ran, rfl⟩
  · next body start k thread =>
      cases h
      exact .inr ⟨_, _, body, start, k, thread, rfl⟩

/-- What every action keeps holds in every state that is reached. -/
theorem Reach.invariant {J : σ → Prop} (run : M.Reach c c') (start : J c.shared)
    (keep : ∀ i (β : Type) (a : Act β) e s s' b, M.exec i a e s = some (s', b) → J s → J s') :
    J c'.shared := by
  induction run with
  | refl => exact start
  | tail _ last ih =>
    obtain ⟨i, e, stepped⟩ := last
    rcases stepAt_cases stepped with
      ⟨β, a, k, shared, b, _, ran, rfl⟩ | ⟨β, S, body, first, k, _, rfl⟩
    · exact keep i β a e _ shared b ran ih
    · exact ih

/-- A thread that has returned stays so. -/
theorem Reach.returned {i : ι} {r : ρ} (run : M.Reach c c') (done : c.threads i = .ret r) :
    c'.threads i = .ret r := by
  induction run with
  | refl => exact done
  | tail _ last ih =>
    obtain ⟨j, e, stepped⟩ := last
    have other (running : ∀ r, _ ≠ Prog.ret r) : i ≠ j := fun same => running r (same ▸ ih)
    rcases stepAt_cases stepped with
      ⟨β, a, k, shared, b, thread, _, rfl⟩ | ⟨β, S, body, first, k, thread, rfl⟩
    · exact (Function.update_of_ne (other (by rw [thread]; nofun)) _ _).trans ih
    · exact (Function.update_of_ne (other (by rw [thread]; nofun)) _ _).trans ih

theorem letRun_reach (i : ι) (e : ε) (n : Nat) (c : Config Act ι σ ρ) :
    M.Reach c (M.letRun i e n c) := by
  induction n generalizing c with
  | zero => exact .refl
  | succ n ih =>
    unfold letRun
    split
    · exact .refl
    · next c' stepped => exact .head ⟨i, e, stepped⟩ (ih c')

/-- A script plays an interleaving. -/
theorem play_reach (script : List (ι × ε × Nat)) (c : Config Act ι σ ρ) :
    M.Reach c (M.play script c) := by
  induction script generalizing c with
  | nil => exact .refl
  | cons turn rest ih =>
    obtain ⟨i, e, n⟩ := turn
    exact (letRun_reach i e n c).trans (ih _)

end Machine

end Sdsce.Theory
