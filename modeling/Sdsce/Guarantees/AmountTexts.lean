import Sdsce.Source.Amounts

/-!
# What the text of an amount means

`Denotes` is the reading of an unsigned numeral: digits, at most one point, and the value in base
units rounded down. Every text that denotes an amount is parsed as that amount, in particular the
texts that the printer makes. The parser takes more than that: signs, and anything at all after the
18th decimal.
-/
namespace Sdsce.Guarantees.AmountTexts

open Sdsce.Theory Sdsce.Theory.Decimal Sdsce.Source Sdsce.Source.GRT

/-- `s` without the space around it and without the suffix. -/
def stripped (s : List UInt8) : List UInt8 :=
  let t := trimSpaceBytes s
  trimSpaceBytes (if hasGRTSuffix t then t.take (t.length - 3) else t)

/-- The text is empty or an unsigned numeral, and `g` is its value in base units, rounded down. -/
def Denotes (t : List UInt8) (g : GRT) : Prop :=
  ∃ whole frac, (t = whole ∧ frac = [] ∨ t = whole ++ point :: frac) ∧
    (∀ b ∈ whole, isDigit b) ∧ (∀ b ∈ frac, isDigit b) ∧
    g.raw.toNat = ⌊amount whole frac * 10 ^ 18⌋₊

/-- What follows the first point. -/
def fraction (t : List UInt8) : List UInt8 := (t.dropWhile (· ≠ point)).drop 1

/-- No signs, and only digits after the 18th decimal. -/
def Plain (t : List UInt8) : Prop := plus ∉ t ∧ minus ∉ t ∧ ∀ b ∈ (fraction t).drop 18, isDigit b

/-- What follows a sign, or the whole text. -/
def magnitude (l : List UInt8) : List UInt8 :=
  if l.head? = some minus ∨ l.head? = some plus then l.tail else l

/-- The integer that is written with at most one sign. -/
def signedValue (l : List UInt8) : Int :=
  if l.head? = some minus then -value (magnitude l) else value (magnitude l)

/-- At most one point, with nothing or a signed integer before it, and after it 18 places of which
the first may be a sign; `raw` is the sum of the two. Of what follows the 18 places nothing is asked
but that it holds no point. -/
def Reads (t : List UInt8) (raw : Int) : Prop :=
  ∃ whole frac, (t = whole ∧ frac = [] ∨ t = whole ++ point :: frac) ∧
    point ∉ whole ∧ point ∉ frac ∧ (whole = [] ∨ magnitude whole ≠ []) ∧
    (∀ b ∈ magnitude whole, isDigit b) ∧ (∀ b ∈ magnitude (frac.take 18), isDigit b) ∧
    raw = signedValue whole * 10 ^ 18 + signedValue (fixed 18 frac)

/-- The text without a minus sign in front. -/
def withoutMinus (t : List UInt8) : List UInt8 := if t.head? = some minus then t.tail else t

/-- The texts that are let through: behind another minus sign, parts whose sum has at most 256
bits. -/
def Lenient (t : List UInt8) : Prop := ∃ raw, Reads (withoutMinus t) raw ∧ raw.natAbs < 2 ^ 256

/-! ## Integers -/

variable {b : UInt8} {digits s whole frac t rest l : List UInt8} {n places : Nat} {raw : Int}
  {g : GRT}

theorem isDigit_ne (digit : isDigit b) : b ≠ plus ∧ b ≠ minus ∧ b ≠ point := by
  refine ⟨?_, ?_, ?_⟩ <;>
  · rintro rfl
    revert digit
    decide

theorem setDigits_eq_some :
    setDigits digits = some n ↔ digits ≠ [] ∧ (∀ b ∈ digits, isDigit b) ∧ value digits = n := by
  unfold setDigits
  split
  · next fits =>
      rw [List.all_eq_true] at fits
      rw [Option.some.injEq]
      exact ⟨fun same => ⟨fits.1, fits.2, same⟩, fun read => read.2.2⟩
  · next unfit =>
      rw [List.all_eq_true] at unfit
      constructor
      · nofun
      · rintro ⟨some, all, _⟩
        exact absurd ⟨some, all⟩ unfit

/-- `SetString` reads digits behind at most one sign. -/
theorem setString_eq_some {n : Int} : setString s = some n ↔
    magnitude s ≠ [] ∧ (∀ b ∈ magnitude s, isDigit b) ∧ signedValue s = n := by
  have split : setString s = (setDigits (magnitude s)).map fun n : Nat =>
      if s.head? = some minus then -(n : Int) else n := by
    unfold setString magnitude
    by_cases negative : s.head? = some minus
    · simp only [negative, true_or, if_true]
      rfl
    · by_cases positive : s.head? = some plus
      · simp only [positive, or_true, if_true]
        rfl
      · simp only [negative, positive, or_self, if_false]
        rfl
  rw [split, Option.map_eq_some_iff]
  constructor
  · rintro ⟨m, read, rfl⟩
    obtain ⟨some, all, rfl⟩ := setDigits_eq_some.mp read
    exact ⟨some, all, rfl⟩
  · rintro ⟨some, all, rfl⟩
    exact ⟨_, setDigits_eq_some.mpr ⟨some, all, rfl⟩, rfl⟩

theorem magnitude_unsigned (noPlus : plus ∉ s) (noMinus : minus ∉ s) :
    magnitude s = s ∧ signedValue s = value s := by
  have first {b : UInt8} (absent : b ∉ s) : s.head? ≠ some b :=
    fun head => absent (List.mem_of_head? head)
  have whole : magnitude s = s := if_neg (not_or.mpr ⟨first noMinus, first noPlus⟩)
  exact ⟨whole, by rw [signedValue, if_neg (first noMinus), whole]⟩

/-- Zeros behind a text leave its sign alone. -/
theorem magnitude_append_zeros (l : List UInt8) (n : Nat) :
    magnitude (l ++ List.replicate n zeroDigit) = magnitude l ++ List.replicate n zeroDigit := by
  cases l with
  | nil => cases n <;> rfl
  | cons b rest =>
    have first : (b :: rest ++ List.replicate n zeroDigit).head? = (b :: rest).head? := rfl
    unfold magnitude
    rw [first]
    split <;> rfl

theorem length_le_magnitude (l : List UInt8) : l.length ≤ (magnitude l).length + 1 := by
  unfold magnitude
  split
  · rw [List.length_tail]
    omega
  · exact Nat.le_succ _

theorem not_mem_of_digits (all : ∀ b ∈ s, isDigit b) : plus ∉ s ∧ minus ∉ s ∧ point ∉ s :=
  ⟨fun member => (isDigit_ne (all _ member)).1 rfl,
    fun member => (isDigit_ne (all _ member)).2.1 rfl,
    fun member => (isDigit_ne (all _ member)).2.2 rfl⟩

/-! ## The two parts -/

theorem parseInteger_ok_iff : parseInteger whole = .ok raw ↔
    (whole = [] ∨ magnitude whole ≠ []) ∧ (∀ b ∈ magnitude whole, isDigit b) ∧
      raw = signedValue whole * 10 ^ 18 := by
  unfold parseInteger
  by_cases empty : whole = []
  · subst empty
    constructor
    · intro parsed
      cases parsed
      exact ⟨.inl rfl, List.forall_mem_nil _, rfl⟩
    · rintro ⟨_, _, rfl⟩
      rfl
  simp only [if_neg empty]
  cases read : setString whole with
  | none =>
    refine ⟨nofun, ?_⟩
    rintro ⟨some, all, _⟩
    rw [setString_eq_some.mpr ⟨some.resolve_left empty, all, rfl⟩] at read
    cases read
  | some n =>
    obtain ⟨some, all, rfl⟩ := setString_eq_some.mp read
    rw [Except.ok.injEq]
    exact ⟨fun same => ⟨.inr some, all, same.symm⟩, fun parsed => parsed.2.2.symm⟩

theorem fixed_eq (places : Nat) (digits : List UInt8) :
    fixed places digits =
      digits.take places ++ List.replicate (places - digits.length) zeroDigit := by
  unfold fixed
  split
  · next long => rw [Nat.sub_eq_zero_of_le long.le, List.replicate_zero, List.append_nil]
  · next short => rw [List.take_of_length_le (Nat.not_lt.mp short)]

/-- The fraction, of which only the first 18 places are read. -/
theorem parseFraction_ok_iff {v : Int} : parseFraction frac = .ok v ↔
    (∀ b ∈ magnitude (frac.take 18), isDigit b) ∧ v = signedValue (fixed 18 frac) := by
  have read : parseFraction frac = .ok v ↔ setString (fixed 18 frac) = some v := by
    unfold parseFraction
    dsimp only
    cases setString (fixed 18 frac) with
    | none => exact ⟨nofun, nofun⟩
    | some n => rw [Except.ok.injEq, Option.some.injEq]
  have some : magnitude (fixed 18 frac) ≠ [] := by
    intro empty
    have size := length_le_magnitude (fixed 18 frac)
    rw [length_fixed, empty] at size
    exact absurd size (by decide)
  have digits : (∀ b ∈ magnitude (fixed 18 frac), isDigit b) ↔
      ∀ b ∈ magnitude (frac.take 18), isDigit b := by
    rw [fixed_eq, magnitude_append_zeros, List.forall_mem_append]
    refine and_iff_left fun b padding => ?_
    rw [List.eq_of_mem_replicate padding]
    decide
  rw [read, setString_eq_some, digits]
  exact ⟨fun read => ⟨read.2.1, read.2.2.symm⟩, fun read => ⟨some, read.1, read.2.symm⟩⟩

/-! ## The point -/

theorem parseParts_integer (noPoint : point ∉ t) : parseParts t = parseInteger t := by
  rw [parseParts, List.splitOn_eq_singleton noPoint]

theorem parseParts_fraction (noPoint : point ∉ whole) (noPoint' : point ∉ frac) :
    parseParts (whole ++ point :: frac) = do
      let raw ← parseInteger whole
      let fracValue ← parseFraction frac
      return raw + fracValue := by
  rw [parseParts, List.splitOn_append_cons_self_of_not_mem noPoint,
    List.splitOn_eq_singleton noPoint']

theorem parseParts_points (noPoint : point ∉ whole) (another : point ∈ rest) :
    parseParts (whole ++ point :: rest) = .error (.invalidDecimal (whole ++ point :: rest)) := by
  obtain ⟨middle, last, rfl, noPoint'⟩ := List.eq_append_cons_of_mem another
  have some : last.splitOn point ≠ [] := List.splitOn_ne_nil _ _
  obtain ⟨head, tail, parts⟩ := List.exists_cons_of_ne_nil some
  rw [parseParts, List.splitOn_append_cons_self_of_not_mem noPoint,
    List.splitOn_append_cons_self_of_not_mem noPoint', parts]

theorem fraction_of_not_mem (noPoint : point ∉ t) : fraction t = [] := by
  have none : t.dropWhile (· ≠ point) = [] := by
    rw [List.dropWhile_eq_nil_iff]
    intro b member
    exact decide_eq_true fun same => noPoint (same ▸ member)
  rw [fraction, none, List.drop_nil]

theorem fraction_append (noPoint : point ∉ whole) : fraction (whole ++ point :: rest) = rest := by
  have skipped : ∀ b ∈ whole, decide (b ≠ point) = true := by
    intro b member
    exact decide_eq_true fun same => noPoint (same ▸ member)
  rw [fraction, List.dropWhile_append_of_pos skipped]
  simp

theorem parseParts_ok_iff : parseParts t = .ok raw ↔ Reads t raw := by
  have nothing : signedValue (fixed 18 []) = 0 := by decide
  constructor
  · intro parsed
    by_cases present : point ∈ t
    · obtain ⟨whole, frac, rfl, noPoint⟩ := List.eq_append_cons_of_mem present
      by_cases another : point ∈ frac
      · rw [parseParts_points noPoint another] at parsed
        cases parsed
      rw [parseParts_fraction noPoint another] at parsed
      obtain ⟨n, integer, parsed⟩ := except_bind_ok parsed
      obtain ⟨v, fractional, parsed⟩ := except_bind_ok parsed
      cases parsed
      obtain ⟨some, digits, rfl⟩ := parseInteger_ok_iff.mp integer
      obtain ⟨digits', rfl⟩ := parseFraction_ok_iff.mp fractional
      exact ⟨whole, frac, .inr rfl, noPoint, another, some, digits, digits', rfl⟩
    · rw [parseParts_integer present] at parsed
      obtain ⟨some, digits, rfl⟩ := parseInteger_ok_iff.mp parsed
      exact ⟨t, [], .inl ⟨rfl, rfl⟩, present, List.not_mem_nil, some, digits,
        List.forall_mem_nil _, by rw [nothing, Int.add_zero]⟩
  · rintro ⟨whole, frac, ⟨rfl, rfl⟩ | rfl, noPoint, noPoint', some, digits, digits', rfl⟩
    · rw [parseParts_integer noPoint, nothing, Int.add_zero]
      exact parseInteger_ok_iff.mpr ⟨some, digits, rfl⟩
    · rw [parseParts_fraction noPoint noPoint', parseInteger_ok_iff.mpr ⟨some, digits, rfl⟩,
        parseFraction_ok_iff.mpr ⟨digits', rfl⟩]
      rfl

theorem fraction_shape (noPoint : point ∉ whole)
    (shape : t = whole ∧ frac = [] ∨ t = whole ++ point :: frac) : fraction t = frac := by
  obtain ⟨rfl, rfl⟩ | rfl := shape
  · exact fraction_of_not_mem noPoint
  · exact fraction_append noPoint

theorem not_mem_parts (absent : b ∉ t)
    (shape : t = whole ∧ frac = [] ∨ t = whole ++ point :: frac) : b ∉ whole ∧ b ∉ frac := by
  obtain ⟨rfl, rfl⟩ | rfl := shape
  · exact ⟨absent, List.not_mem_nil⟩
  · simp only [List.mem_append, List.mem_cons, not_or] at absent
    exact ⟨absent.1, absent.2.2⟩

/-- The parts of a text without oddities, as a rational number rounded down. -/
theorem reads_plain (plain : Plain t) : Reads t raw ↔
    ∃ whole frac, (t = whole ∧ frac = [] ∨ t = whole ++ point :: frac) ∧
      (∀ b ∈ whole, isDigit b) ∧ (∀ b ∈ frac, isDigit b) ∧
      raw = (⌊amount whole frac * 10 ^ 18⌋₊ : Nat) := by
  have value_sum {whole frac : List UInt8} (plusless : plus ∉ whole) (minusless : minus ∉ whole)
      (digits : ∀ b ∈ frac, isDigit b) :
      signedValue whole * 10 ^ 18 + signedValue (fixed 18 frac) =
        (⌊amount whole frac * 10 ^ 18⌋₊ : Nat) := by
    have fixed_digits : ∀ b ∈ fixed 18 frac, isDigit b := by
      rw [fixed_eq, List.forall_mem_append]
      refine ⟨fun b early => digits b (List.mem_of_mem_take early), fun b padding => ?_⟩
      rw [List.eq_of_mem_replicate padding]
      decide
    obtain ⟨noPlus, noMinus, _⟩ := not_mem_of_digits fixed_digits
    rw [(magnitude_unsigned plusless minusless).2, (magnitude_unsigned noPlus noMinus).2,
      floor_amount 18 digits]
    push_cast
    rfl
  constructor
  · rintro ⟨whole, frac, shape, noPoint, _, _, digits, digits', rfl⟩
    obtain ⟨noPlus, noPlus'⟩ := not_mem_parts plain.1 shape
    obtain ⟨noMinus, noMinus'⟩ := not_mem_parts plain.2.1 shape
    rw [(magnitude_unsigned noPlus noMinus).1] at digits
    rw [(magnitude_unsigned (mt List.mem_of_mem_take noPlus')
      (mt List.mem_of_mem_take noMinus')).1] at digits'
    have all : ∀ b ∈ frac, isDigit b := by
      rw [← List.take_append_drop 18 frac, List.forall_mem_append]
      exact ⟨digits', fraction_shape noPoint shape ▸ plain.2.2⟩
    exact ⟨whole, frac, shape, digits, all, value_sum noPlus noMinus all⟩
  · rintro ⟨whole, frac, shape, digits, digits', rfl⟩
    obtain ⟨noPlus, noMinus, noPoint⟩ := not_mem_of_digits digits
    obtain ⟨noPlus', noMinus', noPoint'⟩ := not_mem_of_digits digits'
    refine ⟨whole, frac, shape, noPoint, noPoint', ?_, ?_, ?_,
      (value_sum noPlus noMinus digits').symm⟩
    · rw [(magnitude_unsigned noPlus noMinus).1]
      exact em _
    · rwa [(magnitude_unsigned noPlus noMinus).1]
    · rw [(magnitude_unsigned (mt List.mem_of_mem_take noPlus')
        (mt List.mem_of_mem_take noMinus')).1]
      exact fun b early => digits' b (List.mem_of_mem_take early)

/-! ## The amount -/

theorem fromBig_ok_iff {decimal : List UInt8} : fromBig decimal raw = .ok g ↔
    raw.natAbs < 2 ^ 256 ∧ g = ⟨BitVec.ofInt 256 raw⟩ := by
  unfold fromBig
  split
  · next fits => rw [Except.ok.injEq, eq_comm, and_iff_right fits]
  · next large => exact ⟨nofun, fun both => absurd both.1 large⟩

theorem parseTrimmed_ok_iff : parseTrimmed t = .ok g ↔
    ∃ raw, Reads (withoutMinus t) raw ∧ raw.natAbs < 2 ^ 256 ∧
      g = ⟨BitVec.ofInt 256 (if t.head? = some minus then -raw else raw)⟩ := by
  unfold parseTrimmed
  split
  · next empty =>
      subst empty
      have zero : Reads [] 0 := ⟨[], [], .inl ⟨rfl, rfl⟩, List.not_mem_nil, List.not_mem_nil,
        .inl rfl, List.forall_mem_nil _, List.forall_mem_nil _, by decide⟩
      constructor
      · intro parsed
        cases parsed
        exact ⟨0, zero, by decide, rfl⟩
      · rintro ⟨raw, read, _, rfl⟩
        cases (parseParts_ok_iff.mpr zero).symm.trans (parseParts_ok_iff.mpr read)
        rfl
  dsimp only
  rw [← withoutMinus]
  have size (raw : Int) :
      (if t.head? = some minus then -raw else raw).natAbs = raw.natAbs := by
    split
    · exact Int.natAbs_neg raw
    · rfl
  cases parts : parseParts (withoutMinus t) with
  | error err =>
    refine ⟨nofun, ?_⟩
    rintro ⟨raw, read, _⟩
    cases parts.symm.trans (parseParts_ok_iff.mpr read)
  | ok raw =>
    dsimp only
    rw [fromBig_ok_iff, size]
    constructor
    · exact fun made => ⟨raw, parseParts_ok_iff.mp parts, made⟩
    · rintro ⟨raw', read, made⟩
      cases parts.symm.trans (parseParts_ok_iff.mpr read)
      exact made

theorem ofInt_natCast_iff : n < 2 ^ 256 ∧ g = ⟨BitVec.ofInt 256 n⟩ ↔ g.raw.toNat = n := by
  constructor
  · rintro ⟨fits, rfl⟩
    change (BitVec.ofInt 256 (n : Int)).toNat = n
    rw [BitVec.ofInt_natCast, BitVec.toNat_ofNat, Nat.mod_eq_of_lt fits]
  · rintro rfl
    refine ⟨g.raw.isLt, ?_⟩
    rw [BitVec.ofInt_natCast, BitVec.ofNat_toNat, BitVec.setWidth_eq]

theorem Denotes.plain (denotes : Denotes t g) : Plain t := by
  obtain ⟨whole, frac, shape, digits, digits', _⟩ := denotes
  obtain ⟨noPlus, noMinus, noPoint⟩ := not_mem_of_digits digits
  obtain ⟨noPlus', noMinus', _⟩ := not_mem_of_digits digits'
  refine ⟨?_, ?_, ?_⟩
  · obtain ⟨rfl, rfl⟩ | rfl := shape
    · exact noPlus
    · simp only [List.mem_append, List.mem_cons, not_or]
      exact ⟨noPlus, by decide, noPlus'⟩
  · obtain ⟨rfl, rfl⟩ | rfl := shape
    · exact noMinus
    · simp only [List.mem_append, List.mem_cons, not_or]
      exact ⟨noMinus, by decide, noMinus'⟩
  · rw [fraction_shape noPoint shape]
    exact fun b member => digits' b (List.mem_of_mem_drop member)

theorem parseTrimmed_plain (plain : Plain t) : parseTrimmed t = .ok g ↔ Denotes t g := by
  have unsigned : t.head? ≠ some minus := fun head => plain.2.1 (List.mem_of_head? head)
  rw [parseTrimmed_ok_iff, withoutMinus, if_neg unsigned]
  simp only [if_neg unsigned, reads_plain plain]
  constructor
  · rintro ⟨_, ⟨whole, frac, shape, digits, digits', rfl⟩, held⟩
    exact ⟨whole, frac, shape, digits, digits', ofInt_natCast_iff.mp held⟩
  · rintro ⟨whole, frac, shape, digits, digits', read⟩
    exact ⟨_, ⟨whole, frac, shape, digits, digits', rfl⟩, ofInt_natCast_iff.mpr read⟩

theorem parseTrimmed_of_denotes (denotes : Denotes t g) : parseTrimmed t = .ok g :=
  (parseTrimmed_plain denotes.plain).mpr denotes

theorem spaces_ne_nil : ∀ token ∈ spaces, token ≠ [] := by
  decide

/-- `ParseGRT` is the parser of decimals on the stripped text. -/
theorem parseGRT_eq (s : List UInt8) : parseGRT s = parseTrimmed (stripped s) := by
  have twice (l : List UInt8) : trimSpaceBytes (trimSpaceBytes l) = trimSpaceBytes l :=
    Bytes.trim_trim spaces_ne_nil
  unfold parseGRT stripped
  by_cases empty : trimSpaceBytes s = []
  · simp only [empty]
    rfl
  simp only [if_neg empty, parseDecimalToGRT]
  split
  · rw [twice]
  · rfl

/-- `ParseGRT` means what it reads exactly on the texts that have no signs and only digits after
the 18th decimal, and on those that have signs or more after that decimal but not in a form that is
let through. -/
theorem parseGRT_means_iff (s : List UInt8) :
    (∀ g, parseGRT s = .ok g ↔ Denotes (stripped s) g) ↔
      (Plain (stripped s) ∨ ¬ Lenient (stripped s)) := by
  rw [parseGRT_eq]
  constructor
  · intro means
    by_cases lenient : Lenient (stripped s)
    · obtain ⟨raw, reads, fits⟩ := lenient
      exact .inl ((means _).mp (parseTrimmed_ok_iff.mpr ⟨raw, reads, fits, rfl⟩)).plain
    · exact .inr lenient
  · rintro (plain | refused) g
    · exact parseTrimmed_plain plain
    · refine ⟨fun parsed => ?_, parseTrimmed_of_denotes⟩
      obtain ⟨raw, reads, fits, _⟩ := parseTrimmed_ok_iff.mp parsed
      exact (refused ⟨raw, reads, fits⟩).elim

/-- `-1` is the amount `2^256 - 10^18`, `1.-5` is 0.95 tokens, and 18 decimals may be followed by
letters; none of the texts denotes an amount. -/
theorem parseGRT_misreads :
    (parseGRT (utf8 "-1") = .ok ⟨BitVec.ofNat 256 (2 ^ 256 - 10 ^ 18)⟩ ∧
      ∀ g, ¬Denotes (stripped (utf8 "-1")) g) ∧
    (parseGRT (utf8 "1.-5") = .ok ⟨950000000000000000⟩ ∧ ∀ g, ¬Denotes (stripped (utf8 "1.-5")) g) ∧
    (parseGRT (utf8 "1.000000000000000000abc") = .ok ⟨1000000000000000000⟩ ∧
      ∀ g, ¬Denotes (stripped (utf8 "1.000000000000000000abc")) g) := by
  refine ⟨⟨by decide +kernel, fun g denotes => ?_⟩, ⟨by decide +kernel, fun g denotes => ?_⟩,
    by decide +kernel, fun g denotes => ?_⟩
  · exact absurd denotes.plain.2.1 (by decide +kernel)
  · exact absurd denotes.plain.2.1 (by decide +kernel)
  · exact absurd denotes.plain.2.2 (by decide +kernel)

/-! ## Trimming printed text -/

/-- A visible ASCII character: no space begins or ends with one. -/
def graphic (b : UInt8) : Bool := 0x21 ≤ b && b < 0x7f

theorem spaces_not_graphic : ∀ token ∈ spaces, (∀ b ∈ token.head?, graphic b = false) ∧
    ∀ b ∈ token.getLast?, graphic b = false := by
  decide +kernel

theorem no_space_before (first : ∀ b ∈ l.head?, graphic b) : ∀ token ∈ spaces, ¬token <+: l := by
  rintro token member ⟨rest, rfl⟩
  obtain ⟨b, tail, rfl⟩ := List.exists_cons_of_ne_nil (spaces_ne_nil token member)
  have space := (spaces_not_graphic _ member).1 b rfl
  have seen := first b rfl
  rw [space] at seen
  cases seen

theorem no_space_after (last : ∀ b ∈ l.getLast?, graphic b) : ∀ token ∈ spaces, ¬token <:+ l := by
  rintro token member ⟨rest, rfl⟩
  have some := spaces_ne_nil token member
  have own : token.getLast? = .some (token.getLast some) := List.getLast?_eq_getLast_of_ne_nil some
  have ends : (rest ++ token).getLast? = token.getLast? := List.getLast?_append_of_ne_nil _ some
  have space := (spaces_not_graphic _ member).2 (token.getLast some) own
  have seen := last (token.getLast some) (ends.trans own)
  rw [space] at seen
  cases seen

theorem trimSpaceBytes_of_graphic (first : ∀ b ∈ l.head?, graphic b)
    (last : ∀ b ∈ l.getLast?, graphic b) : trimSpaceBytes l = l :=
  Bytes.trim_of_none (no_space_before first) (no_space_after last)

theorem graphic_of_isDigit (digit : isDigit b) : graphic b := by
  have bounds := toNat_of_isDigit digit
  rw [graphic, Bool.and_eq_true, decide_eq_true_eq, decide_eq_true_eq, UInt8.le_iff_toNat_le,
    UInt8.lt_iff_toNat_lt]
  exact ⟨le_trans (by decide) bounds.1, lt_of_le_of_lt bounds.2 (by decide)⟩

theorem Denotes.bytes (denotes : Denotes t g) : ∀ b ∈ t, isDigit b ∨ b = point := by
  obtain ⟨whole, frac, ⟨rfl, rfl⟩ | rfl, digits, digits', _⟩ := denotes
  · exact fun b member => .inl (digits b member)
  intro b member
  rcases List.mem_append.mp member with early | late
  · exact .inl (digits b early)
  · rcases List.mem_cons.mp late with rfl | decimal
    · exact .inr rfl
    · exact .inl (digits' b decimal)

theorem Denotes.graphic (denotes : Denotes t g) : ∀ b ∈ t, graphic b := by
  intro b member
  rcases denotes.bytes b member with digit | rfl
  · exact graphic_of_isDigit digit
  · decide

theorem upperByte_ne (shape : isDigit b ∨ b = point) : upperByte b ≠ 84 := by
  rcases shape with digit | rfl
  · have bounds := toNat_of_isDigit digit
    have small : ¬(97 ≤ b ∧ b ≤ 122) := by
      rintro ⟨low, _⟩
      have := UInt8.le_iff_toNat_le.mp low
      exact absurd (le_trans this bounds.2) (by decide)
    rw [upperByte, if_neg small]
    rintro rfl
    exact absurd bounds.2 (by decide)
  · decide

theorem stripped_of_denotes (denotes : Denotes t g) : stripped t = t := by
  have trimmed : trimSpaceBytes t = t :=
    trimSpaceBytes_of_graphic (fun b head => denotes.graphic b (List.mem_of_head? head))
      (fun b last => denotes.graphic b (List.mem_of_getLast? last))
  have plain : hasGRTSuffix t = false := by
    rw [hasGRTSuffix, Bool.eq_false_iff, ne_eq, List.isSuffixOf_iff_suffix]
    intro ends
    obtain ⟨b, member, upper⟩ := List.mem_map.mp (ends.subset (by decide : (84 : UInt8) ∈ _))
    exact upperByte_ne (denotes.bytes b member) upper
  simp only [stripped, trimmed, plain, Bool.false_eq_true, if_false]

theorem trimSpaceBytes_space (some : t ≠ []) (visible : ∀ b ∈ t, graphic b) :
    trimSpaceBytes (t ++ [0x20]) = t := by
  have front : ∀ token ∈ spaces, ¬token <+: t ++ [0x20] := by
    refine no_space_before fun b head => ?_
    rw [List.head?_append_of_ne_nil _ some] at head
    exact visible b (List.mem_of_head? head)
  have back : ∀ token ∈ spaces.map List.reverse, ¬token <+: t.reverse := by
    intro token member
    obtain ⟨original, present, rfl⟩ := List.mem_map.mp member
    rw [List.reverse_prefix]
    exact no_space_after (fun b last => visible b (List.mem_of_getLast? last)) original present
  have size : (t ++ [0x20]).length = t.length + 1 := by simp
  have found : (spaces.map List.reverse).find? (·.isPrefixOf (0x20 :: t.reverse)) = .some [0x20] :=
    rfl
  have spaceless : (t ++ [0x20]).reverse = 0x20 :: t.reverse := by simp
  rw [trimSpaceBytes, Bytes.trim, Bytes.dropTokens_of_none front, size, spaceless,
    Bytes.dropTokens, found]
  simp only [List.length_singleton, List.drop_succ_cons, List.drop_zero]
  rw [Bytes.dropTokens_of_none back, List.reverse_reverse]

theorem stripped_suffix (denotes : Denotes t g) (some : t ≠ []) :
    stripped (t ++ [32, 71, 82, 84]) = t := by
  have trimmed : trimSpaceBytes (t ++ [32, 71, 82, 84]) = t ++ [32, 71, 82, 84] := by
    refine trimSpaceBytes_of_graphic (fun b head => ?_) (fun b last => ?_)
    · rw [List.head?_append_of_ne_nil _ some] at head
      exact denotes.graphic b (List.mem_of_head? head)
    · rw [List.getLast?_append_of_ne_nil _ (by decide)] at last
      cases last
      decide
  have suffixed : hasGRTSuffix (t ++ [32, 71, 82, 84]) = true := by
    rw [hasGRTSuffix, List.isSuffixOf_iff_suffix, List.map_append]
    exact (List.suffix_cons 32 [71, 82, 84]).trans (List.suffix_append _ _)
  have cut : (t ++ [32, 71, 82, 84]).take ((t ++ [32, 71, 82, 84]).length - 3) = t ++ [32] := by
    have size : (t ++ [32, 71, 82, 84]).length - 3 = (t ++ [32]).length := by simp
    rw [size, show t ++ [32, 71, 82, 84] = (t ++ [32]) ++ [71, 82, 84] by simp, List.take_left]
  simp only [stripped, trimmed, suffixed, if_true, cut]
  exact trimSpaceBytes_space some denotes.graphic

/-! ## Printing -/

theorem utf8_toString (n : Nat) : utf8 (toString n) = text n := by
  rw [Nat.toString_eq_ofList_toDigits, utf8_ofList]
  · rfl
  · exact fun c member => lt_of_le_of_lt (toNat_of_mem_toDigits member).2 (by decide)

/-- The decimals of a remainder as `ToDecimalString` makes them, before the zeros are trimmed. -/
def paddedDecimals (remainder : Nat) : List Char :=
  List.replicate (18 - (toString remainder).toList.length) '0' ++ (toString remainder).toList

theorem paddedDecimals_digits {c : Char} (member : c ∈ paddedDecimals n) :
    48 ≤ c.toNat ∧ c.toNat ≤ 57 := by
  rcases List.mem_append.mp member with zero | digit
  · rw [List.eq_of_mem_replicate zero]
    decide
  · rw [Nat.toString_eq_ofList_toDigits, String.toList_ofList] at digit
    exact toNat_of_mem_toDigits digit

/-- The bytes of the padded decimals are 18 digits with the value of the remainder. -/
theorem value_paddedDecimals (small : n < 10 ^ 18) :
    (paddedDecimals n).length = 18 ∧
      value ((paddedDecimals n).map fun c => UInt8.ofNat c.toNat) = n := by
  have digits : (toString n).toList = Nat.toDigits 10 n := by
    rw [Nat.toString_eq_ofList_toDigits, String.toList_ofList]
  have fits : (Nat.toDigits 10 n).length ≤ 18 :=
    (Nat.length_toDigits_le_iff (by decide) (by decide)).mpr small
  rw [paddedDecimals, digits]
  constructor
  · rw [List.length_append, List.length_replicate]
    omega
  · rw [List.map_append, List.map_replicate, value_append]
    change value (List.replicate _ zeroDigit) * _ + value (text n) = n
    rw [value_zeros, value_text, Nat.zero_mul, Nat.zero_add]

/-- The decimals that are printed; padding restores the zeros that were trimmed. -/
theorem printedDecimals (small : n < 10 ^ 18) :
    (∀ b ∈ utf8 (String.ofList ((paddedDecimals n).reverse.dropWhile (· = '0')).reverse),
        isDigit b) ∧
      value (fixed 18
        (utf8 (String.ofList ((paddedDecimals n).reverse.dropWhile (· = '0')).reverse))) = n := by
  obtain ⟨size, same⟩ := value_paddedDecimals small
  obtain ⟨zeros, split⟩ := eq_append_replicate '0' (paddedDecimals n)
  generalize ((paddedDecimals n).reverse.dropWhile (· = '0')).reverse = kept at split ⊢
  have member {c : Char} (inside : c ∈ kept) : c ∈ paddedDecimals n :=
    split ▸ List.mem_append_left _ inside
  have ascii : ∀ c ∈ kept, c.toNat < 128 := fun c inside =>
    lt_of_le_of_lt (paddedDecimals_digits (member inside)).2 (by decide)
  rw [utf8_ofList ascii]
  constructor
  · intro b inside
    obtain ⟨c, present, rfl⟩ := List.mem_map.mp inside
    exact isDigit_ofNat (paddedDecimals_digits (member present))
  have total : kept.length + zeros = 18 := by
    rw [← size, split, List.length_append, List.length_replicate]
  have restored : fixed 18 (kept.map fun c => UInt8.ofNat c.toNat) =
      (paddedDecimals n).map fun c => UInt8.ofNat c.toNat := by
    rw [fixed, if_neg (by rw [List.length_map]; omega), split, List.map_append,
      List.map_replicate, List.length_map, show 18 - kept.length = zeros by omega]
    rfl
  rw [restored, same]

theorem utf8_suffix : utf8 " GRT" = [32, 71, 82, 84] := by
  decide +kernel

theorem utf8_point : utf8 "." = [point] := by
  decide +kernel

theorem utf8_toDecimalString (g : GRT) :
    utf8 g.toDecimalString = text (g.raw.toNat / 10 ^ 18) ++
      if g.raw.toNat % 10 ^ 18 = 0 then [] else
        point :: utf8 (String.ofList
          ((paddedDecimals (g.raw.toNat % 10 ^ 18)).reverse.dropWhile (· = '0')).reverse) := by
  unfold GRT.toDecimalString
  by_cases whole : g.raw.toNat % 10 ^ 18 = 0
  · simp only [if_pos whole]
    rw [utf8_toString, List.append_nil]
  simp only [if_neg whole]
  change utf8 (toString (g.raw.toNat / 10 ^ 18) ++ "." ++ String.ofList _) = _
  rw [utf8_append, utf8_append, utf8_toString, utf8_point, List.append_assoc]
  rfl

theorem toDecimalString_denotes (g : GRT) : Denotes (utf8 g.toDecimalString) g := by
  have divided := Nat.div_add_mod' g.raw.toNat (10 ^ 18)
  have small : g.raw.toNat % 10 ^ 18 < 10 ^ 18 := Nat.mod_lt _ (by decide)
  rw [utf8_toDecimalString]
  split
  · next whole =>
      refine ⟨text (g.raw.toNat / 10 ^ 18), [], .inl ⟨List.append_nil _, rfl⟩, text_digits,
        List.forall_mem_nil _, ?_⟩
      have none : value (fixed 18 []) = 0 := value_zeros 18
      rw [floor_amount 18 (List.forall_mem_nil _), none, value_text]
      omega
  · obtain ⟨digits, same⟩ := printedDecimals small
    refine ⟨text (g.raw.toNat / 10 ^ 18), _, .inr rfl, text_digits, digits, ?_⟩
    rw [floor_amount 18 digits, same, value_text, divided]

theorem toDecimalString_ne_nil (g : GRT) : utf8 g.toDecimalString ≠ [] := by
  rw [utf8_toDecimalString]
  exact List.append_ne_nil_of_left_ne_nil (text_ne_nil _) _

theorem parseGRT_string (g : GRT) : parseGRT (utf8 g.string) = .ok g := by
  have denotes := toDecimalString_denotes g
  rw [parseGRT_eq, GRT.string, utf8_append, utf8_suffix,
    stripped_suffix denotes (toDecimalString_ne_nil g)]
  exact parseTrimmed_of_denotes denotes

/-- Every amount is parsed again from its text, with and without the suffix, and unmarshalled from
what it is marshalled as. -/
theorem amounts_survive_text (g : GRT) :
    parseGRT (utf8 g.string) = .ok g ∧ parseGRT (utf8 g.toDecimalString) = .ok g ∧
      unmarshalText g.marshalText = .ok g ∧ unmarshalJSON g.marshalJSON = .ok g ∧
      unmarshalYAML (.ok g.marshalYAML) = .ok g := by
  have denotes := toDecimalString_denotes g
  have string := parseGRT_string g
  have json : unmarshalJSON g.marshalJSON = parseGRT (utf8 g.string) := by
    have quoted : 2 ≤ g.marshalJSON.length ∧ g.marshalJSON.head? = some quote ∧
        g.marshalJSON.getLast? = some quote := by
      refine ⟨?_, rfl, ?_⟩
      · simp [marshalJSON]
      · exact List.getLast?_concat
    simp only [unmarshalJSON, if_pos quoted, unmarshalText]
    simp [marshalJSON]
  refine ⟨string, ?_, string, json.trans string, string⟩
  rw [parseGRT_eq, stripped_of_denotes denotes]
  exact parseTrimmed_of_denotes denotes

end Sdsce.Guarantees.AmountTexts
