import Mathlib.Data.Nat.Digits.Lemmas
import Mathlib.Tactic.Ring

/-!
# Byte strings

Big-endian numbers, hexadecimal text and fields joined by a separator.
-/
namespace Sdsce.Theory.Bytes

/-- Unsigned big-endian value of a byte string. -/
def toNat (bytes : List UInt8) : Nat := bytes.foldl (fun acc b => acc * 256 + b.toNat) 0

/-- Shortest big-endian byte string of a number; zero is the empty string. -/
def ofNat (n : Nat) : List UInt8 := (Nat.digits 256 n).reverse.map UInt8.ofNat

theorem toNat_reverse (bytes : List UInt8) :
    toNat bytes.reverse = Nat.ofDigits 256 (bytes.map UInt8.toNat) := by
  rw [toNat, List.foldl_reverse]
  induction bytes with
  | nil => rfl
  | cons b rest ih =>
    rw [List.foldr_cons, ih, List.map_cons, Nat.ofDigits_cons]
    omega

theorem toNat_ofNat (n : Nat) : toNat (ofNat n) = n := by
  rw [ofNat, List.map_reverse, toNat_reverse, List.map_map]
  have bytes : (Nat.digits 256 n).map (UInt8.toNat ∘ UInt8.ofNat) = Nat.digits 256 n := by
    refine (List.map_congr_left fun d member => ?_).trans (List.map_id _)
    exact Nat.mod_eq_of_lt (Nat.digits_lt_base (by decide) member)
  rw [bytes, Nat.ofDigits_digits]

theorem toNat_nil : toNat [] = 0 := rfl

theorem length_ofNat_le_iff {n k : Nat} : (ofNat n).length ≤ k ↔ n < 256 ^ k := by
  rw [ofNat, List.length_map, List.length_reverse]
  exact Nat.digits_length_le_iff (by decide) n

theorem toNat_append (a b : List UInt8) :
    toNat (a ++ b) = toNat a * 256 ^ b.length + toNat b := by
  induction b using List.reverseRecOn with
  | nil => simp [toNat_nil]
  | append_singleton b x ih =>
    have snoc (c : List UInt8) : toNat (c ++ [x]) = toNat c * 256 + x.toNat := by
      simp [toNat, List.foldl_append]
    rw [← List.append_assoc, snoc, snoc, ih, List.length_append, List.length_singleton,
      Nat.pow_succ]
    ring

theorem toNat_zeros (n : Nat) : toNat (List.replicate n 0) = 0 := by
  induction n with
  | zero => rfl
  | succ n ih =>
    rw [List.replicate_succ', toNat_append, ih]
    rfl

theorem toNat_lt (bytes : List UInt8) : toNat bytes < 256 ^ bytes.length := by
  induction bytes using List.reverseRecOn with
  | nil => exact Nat.one_pos
  | append_singleton rest b ih =>
    rw [toNat_append, List.length_append, List.length_singleton, Nat.pow_one, Nat.pow_succ]
    have byte : toNat [b] < 256 := by
      simpa [toNat] using b.toNat_lt
    omega

/-- Byte strings of one length are told apart by their values. -/
theorem toNat_inj {a b : List UInt8} (size : a.length = b.length) (same : toNat a = toNat b) :
    a = b := by
  have reversed (c : List UInt8) : toNat c = Nat.ofDigits 256 (c.reverse.map UInt8.toNat) := by
    rw [← toNat_reverse, List.reverse_reverse]
  have small (c : List UInt8) (d : Nat) (member : d ∈ c.reverse.map UInt8.toNat) : d < 256 := by
    obtain ⟨x, _, rfl⟩ := List.mem_map.mp member
    exact x.toNat_lt
  rw [reversed, reversed] at same
  have digits := Nat.ofDigits_inj_of_len_eq (by decide) (by simp [size]) (small a) (small b) same
  have injective : Function.Injective UInt8.toNat := fun _ _ => UInt8.toNat_inj.mp
  exact List.reverse_injective (injective.list_map digits)

/-- One hexadecimal digit, lower case. -/
def hexDigit (n : Nat) : Char := if n < 10 then Char.ofNat (48 + n) else Char.ofNat (87 + n)

/-- Hexadecimal text, two digits a byte. -/
def hex : List UInt8 → List Char
  | [] => []
  | b :: rest => hexDigit (b.toNat / 16) :: hexDigit (b.toNat % 16) :: hex rest

private theorem hexDigit_injective :
    ∀ m < 16, ∀ n < 16, hexDigit m = hexDigit n → m = n := by
  decide

private theorem hexDigit_ne_bar : ∀ n < 16, hexDigit n ≠ '|' := by
  decide

theorem hex_injective {a b : List UInt8} (h : hex a = hex b) : a = b := by
  induction a generalizing b with
  | nil =>
    cases b with
    | nil => rfl
    | cons _ _ => cases h
  | cons x rest ih =>
    cases b with
    | nil => cases h
    | cons y tail =>
      simp only [hex, List.cons.injEq] at h
      have hx := x.toNat_lt
      have hy := y.toNat_lt
      have high := hexDigit_injective _ (by omega) _ (by omega) h.1
      have low := hexDigit_injective _ (by omega) _ (by omega) h.2.1
      have same : x = y := UInt8.toNat_inj.mp (by omega)
      rw [same, ih h.2.2]

theorem bar_not_mem_hex (bytes : List UInt8) : '|' ∉ hex bytes := by
  induction bytes with
  | nil => exact List.not_mem_nil
  | cons b rest ih =>
    have hb := b.toNat_lt
    simp only [hex, List.mem_cons, not_or]
    exact ⟨(hexDigit_ne_bar _ (by omega)).symm, (hexDigit_ne_bar _ (by omega)).symm, ih⟩

/-- The last separator splits a text in one way only. -/
theorem append_separator_inj {α : Type} {x y a b : List α} {sep : α} (ha : sep ∉ a)
    (hb : sep ∉ b) (h : x ++ sep :: a = y ++ sep :: b) : x = y ∧ a = b := by
  rcases List.append_eq_append_iff.mp h with ⟨t, whole, tail⟩ | ⟨t, whole, tail⟩
  · cases t with
    | nil => exact ⟨by simpa using whole.symm, by simpa using tail⟩
    | cons head t =>
      rw [List.cons_append, List.cons.injEq] at tail
      exact absurd (tail.2 ▸ List.mem_append_right t List.mem_cons_self) ha
  · cases t with
    | nil => exact ⟨by simpa using whole, by simpa using tail.symm⟩
    | cons head t =>
      rw [List.cons_append, List.cons.injEq] at tail
      exact absurd (tail.2 ▸ List.mem_append_right t List.mem_cons_self) hb

/-- So does the first one. -/
theorem separator_append_inj {α : Type} {x y a b : List α} {sep : α} (hx : sep ∉ x) (hy : sep ∉ y)
    (h : x ++ sep :: a = y ++ sep :: b) : x = y ∧ a = b := by
  induction x generalizing y with
  | nil =>
    cases y with
    | nil => exact ⟨rfl, (List.cons.inj h).2⟩
    | cons head tail =>
      have same := (List.cons.inj h).1
      exact absurd (same ▸ List.mem_cons_self) hy
  | cons head tail ih =>
    cases y with
    | nil =>
      have same := (List.cons.inj h).1
      exact absurd (same ▸ List.mem_cons_self) hx
    | cons head' tail' =>
      obtain ⟨first, rest⟩ := List.cons.inj h
      simp only [List.mem_cons, not_or] at hx hy
      obtain ⟨tails, ends⟩ := ih hx.2 hy.2 rest
      exact ⟨by rw [first, tails], ends⟩

/-! ## Arrays of bytes -/

theorem toList_loop (bytes : ByteArray) (i : Nat) (done : List UInt8) :
    ByteArray.toList.loop bytes i done = done.reverse ++ bytes.data.toList.drop i := by
  induction i, done using ByteArray.toList.loop.induct bytes with
  | case1 i done inside ih =>
    have bound : i < bytes.data.toList.length := by
      rw [Array.length_toList]
      exact inside
    have head : bytes.get! i = bytes.data.toList[i] := by
      rw [Array.getElem_toList]
      exact getElem!_pos bytes.data i inside
    rw [ByteArray.toList.loop, if_pos inside, ih, List.drop_eq_getElem_cons bound,
      List.reverse_cons, List.append_assoc, List.singleton_append, head]
  | case2 i done outside =>
    have past : bytes.data.toList.length ≤ i := by
      rw [Array.length_toList]
      exact not_lt.mp outside
    rw [ByteArray.toList.loop, if_neg outside, List.drop_eq_nil_of_le past, List.append_nil]

theorem toList_eq (bytes : ByteArray) : bytes.toList = bytes.data.toList := by
  rw [ByteArray.toList, toList_loop, List.reverse_nil, List.nil_append, List.drop_zero]

/-! ## Trimming -/

section Trim

variable {α : Type} [DecidableEq α]

/-- Takes tokens off the front, as long as there is one and at most so many. -/
def dropTokens (tokens : List (List α)) : Nat → List α → List α
  | 0, l => l
  | fuel + 1, l =>
    match tokens.find? (·.isPrefixOf l) with
    | none => l
    | some token => dropTokens tokens fuel (l.drop token.length)

/-- Takes all tokens off both ends. -/
def trim (tokens : List (List α)) (l : List α) : List α :=
  let front := dropTokens tokens l.length l
  (dropTokens (tokens.map List.reverse) front.length front.reverse).reverse

variable {tokens : List (List α)} {l : List α}

theorem dropTokens_of_none (none : ∀ token ∈ tokens, ¬token <+: l) (fuel : Nat) :
    dropTokens tokens fuel l = l := by
  have absent : tokens.find? (·.isPrefixOf l) = .none := by
    rw [List.find?_eq_none]
    intro token member found
    exact none token member (List.isPrefixOf_iff_prefix.mp found)
  cases fuel with
  | zero => rfl
  | succ fuel => rw [dropTokens, absent]

/-- With fuel for every element, no token is left at the front. -/
theorem dropTokens_none (some : ∀ token ∈ tokens, token ≠ []) {fuel : Nat}
    (enough : l.length ≤ fuel) : ∀ token ∈ tokens, ¬token <+: dropTokens tokens fuel l := by
  induction fuel generalizing l with
  | zero =>
    intro token member front
    have empty : l = [] := List.eq_nil_of_length_eq_zero (Nat.le_zero.mp enough)
    rw [dropTokens, empty, List.prefix_nil] at front
    exact some token member front
  | succ fuel ih =>
    intro token member front
    rw [dropTokens] at front
    split at front
    · next absent =>
        rw [List.find?_eq_none] at absent
        exact absent token member (List.isPrefixOf_iff_prefix.mpr front)
    · next found present =>
        have positive := List.length_pos_of_ne_nil (some found (List.mem_of_find?_eq_some present))
        refine ih ?_ token member front
        rw [List.length_drop]
        omega

theorem dropTokens_suffix (fuel : Nat) : dropTokens tokens fuel l <:+ l := by
  induction fuel generalizing l with
  | zero => exact List.suffix_rfl
  | succ fuel ih =>
    rw [dropTokens]
    split
    · exact List.suffix_rfl
    · exact ih.trans (List.drop_suffix _ _)

/-- What has no token at either end is left alone. -/
theorem trim_of_none (front : ∀ token ∈ tokens, ¬token <+: l)
    (back : ∀ token ∈ tokens, ¬token <:+ l) : trim tokens l = l := by
  have reversed : ∀ token ∈ tokens.map List.reverse, ¬token <+: l.reverse := by
    intro token member
    obtain ⟨original, present, rfl⟩ := List.mem_map.mp member
    rw [List.reverse_prefix]
    exact back original present
  rw [trim, dropTokens_of_none front, dropTokens_of_none reversed, List.reverse_reverse]

/-- Nothing that was trimmed has a token at either end. -/
theorem trim_none (some : ∀ token ∈ tokens, token ≠ []) :
    (∀ token ∈ tokens, ¬token <+: trim tokens l) ∧ ∀ token ∈ tokens, ¬token <:+ trim tokens l := by
  have front := dropTokens_none some (le_refl l.length)
  have someReversed : ∀ token ∈ tokens.map List.reverse, token ≠ [] := by
    intro token member
    obtain ⟨original, present, rfl⟩ := List.mem_map.mp member
    exact fun empty => some original present (List.reverse_eq_nil_iff.mp empty)
  constructor
  · intro token member ahead
    refine front token member (ahead.trans ?_)
    rw [trim, ← List.reverse_suffix, List.reverse_reverse]
    exact dropTokens_suffix _
  · intro token member behind
    rw [trim, ← List.reverse_prefix, List.reverse_reverse] at behind
    exact dropTokens_none someReversed (List.length_reverse ..).le token.reverse
      (List.mem_map_of_mem member) behind

theorem trim_trim (some : ∀ token ∈ tokens, token ≠ []) :
    trim tokens (trim tokens l) = trim tokens l :=
  trim_of_none (trim_none some).1 (trim_none some).2

end Trim

end Sdsce.Theory.Bytes
