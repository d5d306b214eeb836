import Mathlib.Algebra.Order.Floor.Semifield
import Mathlib.Data.List.Induction
import Mathlib.Data.List.TakeWhile
import Mathlib.Data.Rat.Floor
import Mathlib.Tactic.FieldSimp
import Mathlib.Tactic.Ring

/-!
# Decimal numerals as bytes

Digit strings with their values, the text of a number, and numerals with a fraction that is cut
after a number of places.
-/
namespace Sdsce.Theory.Decimal

def isDigit (b : UInt8) : Bool := 48 ≤ b && b ≤ 57

/-- The digit 0. -/
def zeroDigit : UInt8 := 48

/-- The decimal point. -/
def point : UInt8 := 46

/-- The number a string of digits stands for. -/
def value (digits : List UInt8) : Nat := digits.foldl (fun acc b => acc * 10 + (b.toNat - 48)) 0

/-- The digits of a number, without leading zeros. -/
def text (n : Nat) : List UInt8 := (Nat.toDigits 10 n).map fun c => UInt8.ofNat c.toNat

/-- A string of digits cut to some length, or padded with zeros to it. -/
def fixed (places : Nat) (digits : List UInt8) : List UInt8 :=
  if places < digits.length then digits.take places
  else digits ++ List.replicate (places - digits.length) zeroDigit

/-- The number that a numeral with this fraction stands for. -/
def amount (whole frac : List UInt8) : ℚ := value whole + value frac / 10 ^ frac.length

/-! ## Values -/

theorem value_append (a b : List UInt8) : value (a ++ b) = value a * 10 ^ b.length + value b := by
  induction b using List.reverseRecOn with
  | nil => simp [value]
  | append_singleton b x ih =>
    have snoc (c : List UInt8) : value (c ++ [x]) = value c * 10 + (x.toNat - 48) := by
      simp [value, List.foldl_append]
    rw [← List.append_assoc, snoc, snoc, ih, List.length_append, List.length_singleton,
      Nat.pow_succ]
    ring

theorem value_zeros (n : Nat) : value (List.replicate n zeroDigit) = 0 := by
  induction n with
  | zero => rfl
  | succ n ih =>
    rw [List.replicate_succ', value_append, ih]
    rfl

theorem toNat_of_isDigit {b : UInt8} (digit : isDigit b) : 48 ≤ b.toNat ∧ b.toNat ≤ 57 := by
  rw [isDigit, Bool.and_eq_true, decide_eq_true_eq, decide_eq_true_eq] at digit
  exact ⟨UInt8.le_iff_toNat_le.mp digit.1, UInt8.le_iff_toNat_le.mp digit.2⟩

theorem value_lt {digits : List UInt8} (all : ∀ b ∈ digits, isDigit b) :
    value digits < 10 ^ digits.length := by
  induction digits using List.reverseRecOn with
  | nil => exact Nat.one_pos
  | append_singleton rest b ih =>
    have bound := ih fun c member => all c (List.mem_append_left _ member)
    have digit := toNat_of_isDigit (all b (by simp))
    have last : value [b] = b.toNat - 48 := by
      simp [value]
    rw [value_append, last, List.length_append, List.length_singleton, Nat.pow_one, Nat.pow_succ]
    omega

/-! ## The text of a number -/

theorem toNat_of_mem_toDigits {n : Nat} {c : Char} (member : c ∈ Nat.toDigits 10 n) :
    48 ≤ c.toNat ∧ c.toNat ≤ 57 := by
  have digit := Nat.isDigit_of_mem_toDigits (by decide) (by decide) member
  rw [Char.isDigit, Bool.and_eq_true, decide_eq_true_eq, decide_eq_true_eq] at digit
  exact ⟨UInt32.le_iff_toNat_le.mp digit.1, UInt32.le_iff_toNat_le.mp digit.2⟩

theorem isDigit_ofNat {n : Nat} (digit : 48 ≤ n ∧ n ≤ 57) : isDigit (UInt8.ofNat n) := by
  have small : (UInt8.ofNat n).toNat = n := by
    rw [UInt8.toNat_ofNat']
    omega
  rw [isDigit, Bool.and_eq_true, decide_eq_true_eq, decide_eq_true_eq, UInt8.le_iff_toNat_le,
    UInt8.le_iff_toNat_le, small]
  exact digit

theorem text_digits {n : Nat} : ∀ b ∈ text n, isDigit b := by
  intro b member
  obtain ⟨c, digit, rfl⟩ := List.mem_map.mp member
  exact isDigit_ofNat (toNat_of_mem_toDigits digit)

theorem text_ne_nil (n : Nat) : text n ≠ [] := by
  simp [text]

theorem value_text (n : Nat) : value (text n) = n := by
  have fold (cs : List Char) (small : ∀ c ∈ cs, c.toNat ≤ 57) (acc : Nat) :
      (cs.map fun c => UInt8.ofNat c.toNat).foldl (fun acc b => acc * 10 + (b.toNat - 48)) acc =
        Nat.ofDigitChars 10 cs acc := by
    induction cs generalizing acc with
    | nil => rfl
    | cons c cs ih =>
      have bound := small c List.mem_cons_self
      have byte : (UInt8.ofNat c.toNat).toNat = c.toNat := by
        rw [UInt8.toNat_ofNat']
        omega
      rw [List.map_cons, List.foldl_cons, byte,
        ih fun d member => small d (List.mem_cons_of_mem _ member)]
      rw [Nat.ofDigitChars_cons, Nat.mul_comm]
      rfl
  rw [value, text, fold _ fun c member => (toNat_of_mem_toDigits member).2]
  exact Nat.ofDigitChars_ten_toDigits

/-! ## Fractions -/

theorem length_fixed (places : Nat) (digits : List UInt8) :
    (fixed places digits).length = places := by
  unfold fixed
  split
  · rw [List.length_take]
    omega
  · rw [List.length_append, List.length_replicate]
    omega

theorem value_fixed {places : Nat} {digits : List UInt8} (all : ∀ b ∈ digits, isDigit b) :
    value (fixed places digits) = value digits * 10 ^ places / 10 ^ digits.length := by
  unfold fixed
  split
  · next long =>
      have parts : value digits =
          value (digits.take places) * 10 ^ (digits.length - places) +
            value (digits.drop places) := by
        conv_lhs => rw [← List.take_append_drop places digits]
        rw [value_append, List.length_drop]
      have rest : value (digits.drop places) < 10 ^ (digits.length - places) := by
        rw [← List.length_drop]
        exact value_lt fun b member => all b (List.mem_of_mem_drop member)
      have power : 10 ^ digits.length = 10 ^ (digits.length - places) * 10 ^ places := by
        rw [← Nat.pow_add, Nat.sub_add_cancel long.le]
      rw [power, Nat.mul_div_mul_right _ _ (by positivity), parts, Nat.mul_comm,
        Nat.mul_add_div (by positivity), Nat.div_eq_of_lt rest, Nat.add_zero]
  · next short =>
      have power : 10 ^ places = 10 ^ (places - digits.length) * 10 ^ digits.length := by
        rw [← Nat.pow_add, Nat.sub_add_cancel (not_lt.mp short)]
      rw [value_append, value_zeros, List.length_replicate, Nat.add_zero, power, ← Nat.mul_assoc,
        Nat.mul_div_cancel _ (by positivity)]

/-- A list ends in the copies of an element that a trim takes off. -/
theorem eq_append_replicate {α : Type} [DecidableEq α] (a : α) (l : List α) :
    ∃ n, l = (l.reverse.dropWhile (· = a)).reverse ++ List.replicate n a := by
  have copies : ∀ b ∈ (l.reverse.takeWhile (· = a)).reverse, b = a := by
    intro b member
    have taken := List.mem_takeWhile_imp (List.mem_reverse.mp member)
    exact of_decide_eq_true taken
  refine ⟨(l.reverse.takeWhile (· = a)).reverse.length, ?_⟩
  rw [← List.eq_replicate_of_mem copies, ← List.reverse_append, List.takeWhile_append_dropWhile,
    List.reverse_reverse]

/-- Cutting the fraction is rounding down. -/
theorem floor_amount {whole frac : List UInt8} (places : Nat) (all : ∀ b ∈ frac, isDigit b) :
    ⌊amount whole frac * 10 ^ places⌋₊ = value whole * 10 ^ places + value (fixed places frac) := by
  have ratio : amount whole frac * 10 ^ places =
      ((value whole * 10 ^ places * 10 ^ frac.length + value frac * 10 ^ places : Nat) : ℚ) /
        ((10 ^ frac.length : Nat) : ℚ) := by
    push_cast
    unfold amount
    field_simp
  rw [ratio, Nat.floor_div_eq_div, value_fixed all, Nat.mul_comm _ (10 ^ frac.length),
    Nat.mul_add_div (by positivity)]

end Sdsce.Theory.Decimal
