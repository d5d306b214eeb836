import Mathlib.Data.List.AList
import Mathlib.Data.List.Sort

/-!
# Texts for the operator

`sanitizeDSN` of `provider/gateway/repository.go`, on the bytes of a string, and `writeMetricRaw` of
`provider/gateway/operator_metrics.go`, on its characters. `strconv.IsPrint` is a parameter.
-/
namespace Sdsce.Source.OperatorTexts

def colon : UInt8 := 58

def slash : UInt8 := 47

def atSign : UInt8 := 64

/-- The bytes of `***`. -/
def stars : List UInt8 := [42, 42, 42]

/-- `strings.Index`. -/
def index (substr : List UInt8) : List UInt8 → Option Nat
  | [] => if substr = [] then some 0 else none
  | b :: rest =>
    if substr.isPrefixOf (b :: rest) then some 0 else (index substr rest).map (· + 1)

/-- `sanitizeDSN`; `none` is the panic of a slice whose bounds are out of order. -/
def sanitizeDSN (dsn : List UInt8) : Option (List UInt8) :=
  match index [atSign] dsn with
  | none => some dsn
  | some idx =>
    if 0 < idx then
      match index [colon, slash, slash] dsn with
      | none => some dsn
      | some userIdx =>
        if userIdx + 3 ≤ idx then
          let userInfo := (dsn.take idx).drop (userIdx + 3)
          match index [colon] userInfo with
          | none => some dsn
          | some colonIdx =>
            let user := userInfo.take colonIdx
            some (dsn.take (userIdx + 3) ++ user ++ colon :: stars ++ atSign :: dsn.drop (idx + 1))
        else none
    else some dsn

/-- The bytes of `postgres://`. -/
def postgres : List UInt8 := [112, 111, 115, 116, 103, 114, 101, 115, colon, slash, slash]

/-! ## Metrics -/

abbrev Labels := AList fun _ : String => String

/-- `strings.ReplaceAll` of one character. -/
def replaceAll (s : List Char) (old : Char) (new : List Char) : List Char :=
  s.flatMap fun c => if c = old then new else [c]

def escapePrometheusLabel (value : List Char) : List Char :=
  let value := replaceAll value '\\' ['\\', '\\']
  let value := replaceAll value '\n' ['\\', 'n']
  replaceAll value '"' ['\\', '"']

/-- A number in base 16, with leading zeros. -/
def hexText (digits n : Nat) : List Char := (Nat.toDigits 16 n).leftpad digits '0'

/-- A character as `%q` writes it. -/
def quoteRune (isPrint : Char → Bool) (c : Char) : List Char :=
  if c = '"' ∨ c = '\\' then ['\\', c]
  else if isPrint c then [c]
  else
    '\\' :: match c.toNat with
      | 7 => ['a']
      | 8 => ['b']
      | 9 => ['t']
      | 10 => ['n']
      | 11 => ['v']
      | 12 => ['f']
      | 13 => ['r']
      | n =>
        if n < 32 ∨ n = 127 then 'x' :: hexText 2 n
        else if n < 0x10000 then 'u' :: hexText 4 n
        else 'U' :: hexText 8 n

/-- The verb `%q`. -/
def quote (isPrint : Char → Bool) (s : List Char) : List Char :=
  '"' :: s.flatMap (quoteRune isPrint) ++ ['"']

def sortedLabelKeys (values : Labels) : List String := values.keys.insertionSort (· ≤ ·)

/-- A label as the loop of `writeMetricRaw` writes it. -/
def labelText (isPrint : Char → Bool) (labels : Labels) (key : String) : List Char :=
  key.toList ++ '=' :: quote isPrint (escapePrometheusLabel ((labels.lookup key).getD "").toList)

/-- `writeMetricRaw`: what the builder `b` holds afterwards. -/
def writeMetricRaw (isPrint : Char → Bool) (b name : List Char) (labels : Labels)
    (value : List Char) : List Char :=
  let keys := sortedLabelKeys labels
  let braces :=
    if labels.keys.length ≠ 0 then
      '\x7b' :: [','].intercalate (keys.map (labelText isPrint labels)) ++ ['\x7d']
    else []
  b ++ name ++ braces ++ ' ' :: value ++ ['\n']

end Sdsce.Source.OperatorTexts
