import Sdsce.Theory.Program

/-!
# Two machines that exchange messages

Each machine takes what the other one says from its own oracle. A link relates the two shared
states: what one side has taken in, the other one has put out. A linked run interleaves runs of
both sides such that the link holds after every step.
-/
namespace Sdsce.Theory

variable {Act₁ Act₂ : Type → Type} {ι₁ ι₂ ε₁ ε₂ σ₁ σ₂ ρ₁ ρ₂ : Type} [DecidableEq ι₁]
  [DecidableEq ι₂]

/-- Two machines and what their states have to agree on. -/
structure Link (Act₁ Act₂ : Type → Type) (ι₁ ι₂ ε₁ ε₂ σ₁ σ₂ : Type) where
  first : Machine Act₁ ι₁ ε₁ σ₁
  second : Machine Act₂ ι₂ ε₂ σ₂
  agrees : σ₁ → σ₂ → Bool

/-- A configuration of each machine. -/
structure Both (Act₁ Act₂ : Type → Type) (ι₁ ι₂ σ₁ σ₂ ρ₁ ρ₂ : Type) where
  first : Config Act₁ ι₁ σ₁ ρ₁
  second : Config Act₂ ι₂ σ₂ ρ₂

namespace Link

variable (L : Link Act₁ Act₂ ι₁ ι₂ ε₁ ε₂ σ₁ σ₂)

/-- One side moves and the link holds afterwards. -/
inductive Step (c : Both Act₁ Act₂ ι₁ ι₂ σ₁ σ₂ ρ₁ ρ₂) :
    Both Act₁ Act₂ ι₁ ι₂ σ₁ σ₂ ρ₁ ρ₂ → Prop
  | first {next : Config Act₁ ι₁ σ₁ ρ₁} (step : L.first.Step c.first next)
      (agrees : L.agrees next.shared c.second.shared = true) : Step c ⟨next, c.second⟩
  | second {next : Config Act₂ ι₂ σ₂ ρ₂} (step : L.second.Step c.second next)
      (agrees : L.agrees c.first.shared next.shared = true) : Step c ⟨c.first, next⟩

def Reach : Both Act₁ Act₂ ι₁ ι₂ σ₁ σ₂ ρ₁ ρ₂ → Both Act₁ Act₂ ι₁ ι₂ σ₁ σ₂ ρ₁ ρ₂ → Prop :=
  Relation.ReflTransGen L.Step

/-- The first machine moves as in `letRun`, and stops where the link would break. -/
def letRunFirst (i : ι₁) (e : ε₁) : Nat → Both Act₁ Act₂ ι₁ ι₂ σ₁ σ₂ ρ₁ ρ₂ →
    Both Act₁ Act₂ ι₁ ι₂ σ₁ σ₂ ρ₁ ρ₂
  | 0, c => c
  | n + 1, c =>
    match L.first.stepAt c.first i e with
    | none => c
    | some next =>
      if L.agrees next.shared c.second.shared then letRunFirst i e n ⟨next, c.second⟩ else c

def letRunSecond (i : ι₂) (e : ε₂) : Nat → Both Act₁ Act₂ ι₁ ι₂ σ₁ σ₂ ρ₁ ρ₂ →
    Both Act₁ Act₂ ι₁ ι₂ σ₁ σ₂ ρ₁ ρ₂
  | 0, c => c
  | n + 1, c =>
    match L.second.stepAt c.second i e with
    | none => c
    | some next =>
      if L.agrees c.first.shared next.shared then letRunSecond i e n ⟨c.first, next⟩ else c

/-- A turn of a joint script. -/
def turn : (ι₁ × ε₁ × Nat) ⊕ (ι₂ × ε₂ × Nat) → Both Act₁ Act₂ ι₁ ι₂ σ₁ σ₂ ρ₁ ρ₂ →
    Both Act₁ Act₂ ι₁ ι₂ σ₁ σ₂ ρ₁ ρ₂
  | .inl (i, e, n) => L.letRunFirst i e n
  | .inr (i, e, n) => L.letRunSecond i e n

def play (script : List ((ι₁ × ε₁ × Nat) ⊕ (ι₂ × ε₂ × Nat)))
    (c : Both Act₁ Act₂ ι₁ ι₂ σ₁ σ₂ ρ₁ ρ₂) : Both Act₁ Act₂ ι₁ ι₂ σ₁ σ₂ ρ₁ ρ₂ :=
  script.foldl (fun c turn => L.turn turn c) c

variable {L} {c c' : Both Act₁ Act₂ ι₁ ι₂ σ₁ σ₂ ρ₁ ρ₂}

/-- Each side of a linked run is a run of its machine. -/
theorem Reach.first (run : L.Reach c c') : L.first.Reach c.first c'.first := by
  induction run with
  | refl => exact .refl
  | tail _ last ih =>
    cases last with
    | first step agrees => exact ih.tail step
    | second step agrees => exact ih

theorem Reach.second (run : L.Reach c c') : L.second.Reach c.second c'.second := by
  induction run with
  | refl => exact .refl
  | tail _ last ih =>
    cases last with
    | first step agrees => exact ih
    | second step agrees => exact ih.tail step

theorem letRunFirst_reach (i : ι₁) (e : ε₁) (n : Nat) (c : Both Act₁ Act₂ ι₁ ι₂ σ₁ σ₂ ρ₁ ρ₂) :
    L.Reach c (L.letRunFirst i e n c) := by
  induction n generalizing c with
  | zero => exact .refl
  | succ n ih =>
    unfold letRunFirst
    split
    · exact .refl
    rename_i next stepped
    split
    · next agrees => exact .head (.first ⟨i, e, stepped⟩ agrees) (ih _)
    · exact .refl

theorem letRunSecond_reach (i : ι₂) (e : ε₂) (n : Nat) (c : Both Act₁ Act₂ ι₁ ι₂ σ₁ σ₂ ρ₁ ρ₂) :
    L.Reach c (L.letRunSecond i e n c) := by
  induction n generalizing c with
  | zero => exact .refl
  | succ n ih =>
    unfold letRunSecond
    split
    · exact .refl
    rename_i next stepped
    split
    · next agrees => exact .head (.second ⟨i, e, stepped⟩ agrees) (ih _)
    · exact .refl

/-- A joint script plays a linked run. -/
theorem play_reach (script : List ((ι₁ × ε₁ × Nat) ⊕ (ι₂ × ε₂ × Nat)))
    (c : Both Act₁ Act₂ ι₁ ι₂ σ₁ σ₂ ρ₁ ρ₂) : L.Reach c (L.play script c) := by
  induction script generalizing c with
  | nil => exact .refl
  | cons turn rest ih =>
    refine Relation.ReflTransGen.trans ?_ (ih (L.turn turn c))
    rcases turn with ⟨i, e, n⟩ | ⟨i, e, n⟩
    · exact letRunFirst_reach i e n c
    · exact letRunSecond_reach i e n c

end Link

end Sdsce.Theory
