import Mathlib.Data.List.Basic

/-!
# Base64

Three bytes become four characters of an alphabet of 64; the last group is padded. Line breaks in
a text are ignored, and the bits that the last characters carry too many are not looked at.
-/
namespace Sdsce.Theory.Base64

/-- The character of a 6-bit value; `plus` and `slash` stand for the last two. -/
def digit (plus slash : Char) (n : Nat) : Char :=
  if n < 26 then Char.ofNat (65 + n)
  else if n < 52 then Char.ofNat (71 + n)
  else if n < 62 then Char.ofNat (n - 4)
  else if n = 62 then plus else slash

/-- The 6-bit value of a character. -/
def value (plus slash c : Char) : Option Nat :=
  (List.range 64).find? fun n => digit plus slash n = c

/-- Padded text in the standard alphabet. -/
def encode : List UInt8 → List Char
  | a :: b :: c :: rest =>
    digit '+' '/' (a.toNat / 4) :: digit '+' '/' (a.toNat % 4 * 16 + b.toNat / 16) ::
      digit '+' '/' (b.toNat % 16 * 4 + c.toNat / 64) :: digit '+' '/' (c.toNat % 64) ::
      encode rest
  | [a, b] =>
    [digit '+' '/' (a.toNat / 4), digit '+' '/' (a.toNat % 4 * 16 + b.toNat / 16),
      digit '+' '/' (b.toNat % 16 * 4), '=']
  | [a] => [digit '+' '/' (a.toNat / 4), digit '+' '/' (a.toNat % 4 * 16), '=', '=']
  | [] => []

def byte1 (w x : Nat) : UInt8 := UInt8.ofNat (w * 4 + x / 16)

def byte2 (x y : Nat) : UInt8 := UInt8.ofNat (x % 16 * 16 + y / 4)

def byte3 (y z : Nat) : UInt8 := UInt8.ofNat (y % 4 * 64 + z)

/-- The groups of a text without line breaks, the last one padded. -/
def decodePadded : List Char → Option (List UInt8)
  | [] => some []
  | w :: x :: y :: z :: rest => do
    let w ← value '+' '/' w
    let x ← value '+' '/' x
    if y = '=' ∧ z = '=' ∧ rest = [] then return [byte1 w x]
    let y ← value '+' '/' y
    if z = '=' ∧ rest = [] then return [byte1 w x, byte2 x y]
    let z ← value '+' '/' z
    let more ← decodePadded rest
    return byte1 w x :: byte2 x y :: byte3 y z :: more
  | _ => none

/-- The groups of a text in the alphabet for URLs, the last one cut short. -/
def decodeRaw : List Char → Option (List UInt8)
  | [] => some []
  | [w, x] => do
    let w ← value '-' '_' w
    let x ← value '-' '_' x
    return [byte1 w x]
  | [w, x, y] => do
    let w ← value '-' '_' w
    let x ← value '-' '_' x
    let y ← value '-' '_' y
    return [byte1 w x, byte2 x y]
  | w :: x :: y :: z :: rest => do
    let w ← value '-' '_' w
    let x ← value '-' '_' x
    let y ← value '-' '_' y
    let z ← value '-' '_' z
    let more ← decodeRaw rest
    return byte1 w x :: byte2 x y :: byte3 y z :: more
  | [_] => none

/-- The text without its line breaks. -/
def joined (text : List Char) : List Char := text.filter fun c => c ≠ '\r' ∧ c ≠ '\n'

def decode (text : List Char) : Option (List UInt8) := decodePadded (joined text)

def decodeRawURL (text : List Char) : Option (List UInt8) := decodeRaw (joined text)

theorem value_digit : ∀ n < 64, value '+' '/' (digit '+' '/' n) = some n := by
  decide +kernel

theorem digit_ne : ∀ n < 64, digit '+' '/' n ≠ '=' ∧ digit '+' '/' n ≠ '\r' ∧
    digit '+' '/' n ≠ '\n' := by
  decide +kernel

/-- Nothing but characters of the alphabet and padding is written. -/
theorem joined_encode (bytes : List UInt8) : joined (encode bytes) = encode bytes := by
  refine List.filter_eq_self.mpr ?_
  have kept : ∀ n < 64, decide (digit '+' '/' n ≠ '\r' ∧ digit '+' '/' n ≠ '\n') = true :=
    fun n small => decide_eq_true (digit_ne n small).2
  induction bytes using encode.induct with
  | case1 a b c rest ih =>
    have := a.toNat_lt
    have := b.toNat_lt
    have := c.toNat_lt
    simp only [encode, List.forall_mem_cons]
    exact ⟨kept _ (by omega), kept _ (by omega), kept _ (by omega), kept _ (by omega), ih⟩
  | case2 a b =>
    have := a.toNat_lt
    have := b.toNat_lt
    simp only [encode, List.forall_mem_cons]
    exact ⟨kept _ (by omega), kept _ (by omega), kept _ (by omega), rfl, nofun⟩
  | case3 a =>
    have := a.toNat_lt
    simp only [encode, List.forall_mem_cons]
    exact ⟨kept _ (by omega), kept _ (by omega), rfl, rfl, nofun⟩
  | case4 => exact nofun

theorem byte_eq {b : UInt8} {n : Nat} (same : n = b.toNat) : UInt8.ofNat n = b := by
  rw [same, UInt8.ofNat_toNat]

theorem decodePadded_encode (bytes : List UInt8) : decodePadded (encode bytes) = some bytes := by
  induction bytes using encode.induct with
  | case1 a b c rest ih =>
    have ha := a.toNat_lt
    have hb := b.toNat_lt
    have hc := c.toNat_lt
    have third := (digit_ne (b.toNat % 16 * 4 + c.toNat / 64) (by omega)).1
    have fourth := (digit_ne (c.toNat % 64) (by omega)).1
    simp only [encode, decodePadded, third, fourth, false_and, if_false, ih, Option.bind_eq_bind,
      Option.bind_some, value_digit _ (show a.toNat / 4 < 64 by omega),
      value_digit _ (show a.toNat % 4 * 16 + b.toNat / 16 < 64 by omega),
      value_digit _ (show b.toNat % 16 * 4 + c.toNat / 64 < 64 by omega),
      value_digit _ (show c.toNat % 64 < 64 by omega), byte1, byte2, byte3]
    rw [byte_eq (show _ = a.toNat by omega), byte_eq (show _ = b.toNat by omega),
      byte_eq (show _ = c.toNat by omega)]
    rfl
  | case2 a b =>
    have ha := a.toNat_lt
    have hb := b.toNat_lt
    have third := (digit_ne (b.toNat % 16 * 4) (by omega)).1
    simp only [encode, decodePadded, third, false_and, if_false, true_and, if_true,
      Option.bind_eq_bind, Option.bind_some, value_digit _ (show a.toNat / 4 < 64 by omega),
      value_digit _ (show a.toNat % 4 * 16 + b.toNat / 16 < 64 by omega),
      value_digit _ (show b.toNat % 16 * 4 < 64 by omega), byte1, byte2]
    rw [byte_eq (show _ = a.toNat by omega), byte_eq (show _ = b.toNat by omega)]
    rfl
  | case3 a =>
    have ha := a.toNat_lt
    simp only [encode, decodePadded, true_and, if_true, Option.bind_eq_bind, Option.bind_some,
      value_digit _ (show a.toNat / 4 < 64 by omega),
      value_digit _ (show a.toNat % 4 * 16 < 64 by omega), byte1]
    rw [byte_eq (show _ = a.toNat by omega)]
    rfl
  | case4 => rfl

/-- What is encoded is decoded again. -/
theorem decode_encode (bytes : List UInt8) : decode (encode bytes) = some bytes := by
  rw [decode, joined_encode, decodePadded_encode]

example : encode [77, 97, 110, 33] = ['T', 'W', 'F', 'u', 'I', 'Q', '=', '='] := by decide

end Sdsce.Theory.Base64
