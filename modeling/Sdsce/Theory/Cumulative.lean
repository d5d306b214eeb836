import Mathlib.Algebra.Order.BigOperators.Group.List
import Mathlib.Algebra.Order.Group.MinMax
import Mathlib.Logic.Function.Basic

/-!
# Cumulative settlement

Every claim names an account and the total that is due on it. A claim pays what its total
exceeds the amount already paid on the account by.
-/
namespace Sdsce.Theory

variable {K α : Type} [DecidableEq K] [AddCommGroup α] [LinearOrder α] [IsOrderedAddMonoid α]

/-- What a claim of `value` pays when `paid` has been paid before. -/
def owed (paid value : α) : α := max 0 (value - paid)

/-- The total that a list of claims pays, settled in this order. -/
def settle (paid : K → α) : List (K × α) → α
  | [] => 0
  | (account, value) :: rest =>
    let amount := owed (paid account) value
    amount + settle (Function.update paid account (paid account + amount)) rest

theorem add_owed (paid value : α) : paid + owed paid value = max paid value := by
  rw [owed, ← max_add_add_left, add_zero, add_sub_cancel]

/-- Claims on one account pay the largest of them. -/
theorem add_settle {account : K} {claims : List (K × α)} (paid : K → α)
    (one : ∀ claim ∈ claims, claim.1 = account) :
    paid account + settle paid claims = (claims.map Prod.snd).foldl max (paid account) := by
  induction claims generalizing paid with
  | nil => exact add_zero _
  | cons claim rest ih =>
    obtain ⟨key, value⟩ := claim
    obtain rfl : key = account := one _ List.mem_cons_self
    have next := ih (Function.update paid key (max (paid key) value))
      fun claim member => one claim (List.mem_cons_of_mem _ member)
    rw [Function.update_self] at next
    rw [settle, ← add_assoc, add_owed, next, List.map_cons, List.foldl_cons]

omit [IsOrderedAddMonoid α] in
theorem foldl_max_cons (a : α) (l : List α) : (a :: l).foldl max 0 = max a (l.foldl max 0) := by
  rw [List.foldl_cons, max_comm, List.foldl_assoc]

omit [IsOrderedAddMonoid α] in
theorem foldl_max_nonneg (l : List α) : 0 ≤ l.foldl max 0 := by
  have again := foldl_max_cons 0 l
  rw [List.foldl_cons, max_self] at again
  exact max_eq_right_iff.mp again.symm

theorem foldl_max_le_sum {l : List α} (nonneg : ∀ a ∈ l, 0 ≤ a) : l.foldl max 0 ≤ l.sum := by
  induction l with
  | nil => exact le_refl 0
  | cons a rest ih =>
    obtain ⟨first, others⟩ := List.forall_mem_cons.mp nonneg
    rw [foldl_max_cons, List.sum_cons]
    refine max_le (le_add_of_nonneg_right (List.sum_nonneg others)) ?_
    exact (ih others).trans (le_add_of_nonneg_left first)

/-- The largest of some amounts is their sum exactly when no two of them are positive. -/
theorem foldl_max_eq_sum_iff {l : List α} (nonneg : ∀ a ∈ l, 0 ≤ a) :
    l.foldl max 0 = l.sum ↔ l.Pairwise fun a b => a = 0 ∨ b = 0 := by
  induction l with
  | nil => simp
  | cons a rest ih =>
    obtain ⟨first, others⟩ := List.forall_mem_cons.mp nonneg
    have bound := foldl_max_le_sum others
    have positive := foldl_max_nonneg rest
    rw [foldl_max_cons, List.sum_cons, List.pairwise_cons, ← ih others]
    constructor
    · intro total
      by_cases zero : a = 0
      · rw [zero, zero_add, max_eq_right positive] at total
        exact ⟨fun b _ => .inl zero, total⟩
      have none : rest.sum = 0 := by
        rcases le_total (rest.foldl max 0) a with small | large
        · rw [max_eq_left small] at total
          exact left_eq_add.mp total
        · rw [max_eq_right large] at total
          have le : a + rest.sum ≤ 0 + rest.sum := by rwa [← total, zero_add]
          exact absurd (le_antisymm (le_of_add_le_add_right le) first) zero
      refine ⟨fun b member => .inr ?_, ?_⟩
      · exact List.all_zero_of_le_zero_le_of_sum_eq_zero others none member
      · exact le_antisymm bound (none.trans_le positive)
    · rintro ⟨apart, same⟩
      rw [same]
      by_cases zero : a = 0
      · rw [zero, zero_add, max_eq_right (List.sum_nonneg others)]
      · have none : rest.sum = 0 :=
          List.sum_eq_zero fun b member => (apart b member).resolve_left zero
        rw [none, add_zero, max_eq_left first]

end Sdsce.Theory
