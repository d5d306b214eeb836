import Mathlib.Tactic.Basic
import Mathlib.Tactic.ByCases

/-!
# Custody

Every item is at exactly one place, and steps move items from one place to another.
-/
namespace Sdsce.Theory

variable {κ ο : Type}

/-- The items are at exactly one place each, and nothing else is anywhere. -/
structure Custody (At : κ → ο → Prop) (items : κ → Prop) : Prop where
  unique : ∀ {k p q}, At k p → At k q → p = q
  placed : ∀ k, items k ↔ ∃ p, At k p

namespace Custody

variable {At At' : κ → ο → Prop} {items items' : κ → Prop} {a b : ο}

theorem frame (h : Custody At items) (same : ∀ k p, At' k p ↔ At k p) : Custody At' items := by
  have eq : At' = At := funext fun k => funext fun p => propext (same k p)
  exact eq ▸ h

/-- Some items go from `a` to `b`. -/
theorem move (h : Custody At items) (moved : κ → Prop) (here : ∀ k, moved k → At k a)
    (lose : ∀ k, At' k a ↔ At k a ∧ ¬ moved k) (gain : ∀ k, At' k b ↔ At k b ∨ moved k)
    (same : ∀ k p, p ≠ a → p ≠ b → (At' k p ↔ At k p)) : Custody At' items := by
  have at_iff (k : κ) (p : ο) : At' k p ↔ moved k ∧ p = b ∨ ¬ moved k ∧ At k p := by
    by_cases left : moved k
    · by_cases target : p = b
      · subst target
        simp only [gain, left, or_true, true_and, true_or]
      simp only [left, target, and_false, not_true_eq_false, false_and, or_false, iff_false]
      by_cases source : p = a
      · subst source
        exact fun there => ((lose k).mp there).2 left
      · intro there
        exact source (h.unique ((same k p source target).mp there) (here k left))
    · simp only [left, false_and, not_false_eq_true, true_and, false_or]
      by_cases source : p = a
      · subst source
        simp only [lose, left, not_false_eq_true, and_true]
      by_cases target : p = b
      · subst target
        simp only [gain, left, or_false]
      · exact same k p source target
  constructor
  · intro k p q first second
    rw [at_iff] at first second
    rcases first with ⟨left, rfl⟩ | ⟨stays, first⟩
    · rcases second with ⟨_, rfl⟩ | ⟨stays, _⟩
      · rfl
      · exact absurd left stays
    · rcases second with ⟨left, _⟩ | ⟨_, second⟩
      · exact absurd left stays
      · exact h.unique first second
  · intro k
    rw [h.placed]
    constructor
    · rintro ⟨p, there⟩
      by_cases left : moved k
      · exact ⟨b, (at_iff k b).mpr (.inl ⟨left, rfl⟩)⟩
      · exact ⟨p, (at_iff k p).mpr (.inr ⟨left, there⟩)⟩
    · rintro ⟨p, there⟩
      rcases (at_iff k p).mp there with ⟨left, _⟩ | ⟨_, there⟩
      · exact ⟨a, here k left⟩
      · exact ⟨p, there⟩

/-- A new item comes in. -/
theorem enter (h : Custody At items) (new : κ) (fresh : ¬ items new)
    (gain : ∀ k, At' k b ↔ At k b ∨ k = new) (same : ∀ k p, p ≠ b → (At' k p ↔ At k p))
    (grown : ∀ k, items' k ↔ k = new ∨ items k) : Custody At' items' := by
  have nowhere (p : ο) : ¬ At new p := fun there => fresh ((h.placed new).mpr ⟨p, there⟩)
  have at_iff (k : κ) (p : ο) : At' k p ↔ k = new ∧ p = b ∨ At k p := by
    by_cases target : p = b
    · subst target
      simp only [gain, and_true, or_comm]
    · simp only [same k p target, target, and_false, false_or]
  constructor
  · intro k p q first second
    rw [at_iff] at first second
    rcases first with ⟨rfl, rfl⟩ | first
    · rcases second with ⟨_, rfl⟩ | second
      · rfl
      · exact absurd second (nowhere q)
    · rcases second with ⟨rfl, _⟩ | second
      · exact absurd first (nowhere p)
      · exact h.unique first second
  · intro k
    rw [grown, h.placed]
    constructor
    · rintro (rfl | ⟨p, there⟩)
      · exact ⟨b, (at_iff k b).mpr (.inl ⟨rfl, rfl⟩)⟩
      · exact ⟨p, (at_iff k p).mpr (.inr there)⟩
    · rintro ⟨p, there⟩
      rcases (at_iff k p).mp there with ⟨rfl, _⟩ | there
      · exact .inl rfl
      · exact .inr ⟨p, there⟩

end Custody

end Sdsce.Theory
