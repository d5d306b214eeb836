import Sdsce.Source.Encodings
import Sdsce.Theory.Decimal

/-!
# Amounts as text

`ParseGRT` and the marshalling methods of `grt.go`, and `ParsePricingConfig` of
`sidecar/pricing.go`. A Go string is the list of its bytes, so it need not be UTF-8. The YAML
decoder is a parameter: it yields the price fields that it finds, in the order of the document, with
what the callback of each answers. A field that is absent or null is not among them.
-/
namespace Sdsce.Source

open Sdsce.Theory Sdsce.Theory.Decimal

/-! ## Strings -/

/-- The encodings of the runes for which `unicode.IsSpace` holds. -/
def spaces : List (List UInt8) :=
  [[0x09], [0x0a], [0x0b], [0x0c], [0x0d], [0x20], [0xc2, 0x85], [0xc2, 0xa0], [0xe1, 0x9a, 0x80],
    [0xe2, 0x80, 0x80], [0xe2, 0x80, 0x81], [0xe2, 0x80, 0x82], [0xe2, 0x80, 0x83],
    [0xe2, 0x80, 0x84], [0xe2, 0x80, 0x85], [0xe2, 0x80, 0x86], [0xe2, 0x80, 0x87],
    [0xe2, 0x80, 0x88], [0xe2, 0x80, 0x89], [0xe2, 0x80, 0x8a], [0xe2, 0x80, 0xa8],
    [0xe2, 0x80, 0xa9], [0xe2, 0x80, 0xaf], [0xe2, 0x81, 0x9f], [0xe3, 0x80, 0x80]]

/-- `strings.TrimSpace`. -/
def trimSpaceBytes (s : List UInt8) : List UInt8 := Bytes.trim spaces s

/-- `strings.ToUpper` on a letter of ASCII. -/
def upperByte (b : UInt8) : UInt8 := if 97 ≤ b ∧ b ≤ 122 then b - 32 else b

/-- `strings.HasSuffix(strings.ToUpper(s), "GRT")`: the letters G, R and T are the upper case of
no runes but themselves and g, r and t. -/
def hasGRTSuffix (s : List UInt8) : Bool := [71, 82, 84].isSuffixOf (s.map upperByte)

def plus : UInt8 := 43

def minus : UInt8 := 45

/-- The digits that `SetString` reads after the sign. -/
def setDigits (digits : List UInt8) : Option Nat :=
  if digits ≠ [] ∧ digits.all isDigit then some (value digits) else none

/-- `big.Int.SetString` in base 10, which takes a sign and no underscores. -/
def setString (s : List UInt8) : Option Int :=
  if s.head? = some minus then (setDigits s.tail).map fun n => -Int.ofNat n
  else if s.head? = some plus then (setDigits s.tail).map Int.ofNat
  else (setDigits s).map Int.ofNat

/-! ## Parsing -/

inductive AmountError where
  | invalidDecimal (decimal : List UInt8)
  | invalidInteger (intPart : List UInt8)
  | invalidFraction (fracPart : List UInt8)
  | overflow (decimal : List UInt8)
  | unmarshal (err : List UInt8)
deriving DecidableEq

def AmountError.text : AmountError → List UInt8
  | invalidDecimal decimal => utf8 "invalid decimal format: " ++ decimal
  | invalidInteger intPart => utf8 "invalid integer part: " ++ intPart
  | invalidFraction fracPart => utf8 "invalid fractional part: " ++ fracPart
  | overflow decimal => utf8 "value overflow: " ++ decimal
  | unmarshal err => err

namespace GRT

/-- The integer part in base units. -/
def parseInteger (intPart : List UInt8) : Except AmountError Int :=
  let intPart := if intPart = [] then [zeroDigit] else intPart
  match setString intPart with
  | none => .error (.invalidInteger intPart)
  | some intValue => .ok (intValue * 10 ^ 18)

/-- The fractional part, padded or truncated to 18 decimals. -/
def parseFraction (fracPart : List UInt8) : Except AmountError Int :=
  let fracPart := fixed 18 fracPart
  match setString fracPart with
  | none => .error (.invalidFraction fracPart)
  | some fracValue => .ok fracValue

def parseParts (decimal : List UInt8) : Except AmountError Int :=
  match decimal.splitOn point with
  | [intPart] => parseInteger intPart
  | [intPart, fracPart] => do
    let raw ← parseInteger intPart
    let fracValue ← parseFraction fracPart
    return raw + fracValue
  | _ => .error (.invalidDecimal decimal)

/-- `uint256.FromBig`, as in `newGRTFromBigInt`, with the overflow reported. -/
def fromBig (decimal : List UInt8) (raw : Int) : Except AmountError GRT :=
  if raw.natAbs < 2 ^ 256 then .ok ⟨BitVec.ofInt 256 raw⟩ else .error (.overflow decimal)

/-- `parseDecimalToGRT` after it has trimmed the text. -/
def parseTrimmed (decimal : List UInt8) : Except AmountError GRT :=
  if decimal = [] then .ok .zero
  else
    let negative := decimal.head? = some minus
    let decimal := if negative then decimal.tail else decimal
    match parseParts decimal with
    | .error err => .error err
    | .ok raw => fromBig decimal (if negative then -raw else raw)

def parseDecimalToGRT (decimal : List UInt8) : Except AmountError GRT :=
  parseTrimmed (trimSpaceBytes decimal)

def parseGRT (s : List UInt8) : Except AmountError GRT :=
  let s := trimSpaceBytes s
  if s = [] then .ok .zero
  else
    let s := if hasGRTSuffix s then trimSpaceBytes (s.take (s.length - 3)) else s
    parseDecimalToGRT s

/-! ## Marshalling -/

def quote : UInt8 := 34

def marshalText (g : GRT) : List UInt8 := utf8 g.string

def unmarshalText (text : List UInt8) : Except AmountError GRT := parseGRT text

def marshalJSON (g : GRT) : List UInt8 := quote :: utf8 g.string ++ [quote]

def unmarshalJSON (data : List UInt8) : Except AmountError GRT :=
  let s := if 2 ≤ data.length ∧ data.head? = some quote ∧ data.getLast? = some quote then
      (data.drop 1).take (data.length - 2)
    else data
  unmarshalText s

/-- The string that is handed to the encoder. -/
def marshalYAML (g : GRT) : List UInt8 := utf8 g.string

/-- `unmarshal` is what the callback answers for a string. -/
def unmarshalYAML (unmarshal : Except (List UInt8) (List UInt8)) : Except AmountError GRT :=
  match unmarshal with
  | .error err => .error (.unmarshal err)
  | .ok s => unmarshalText s

end GRT

/-! ## Pricing -/

inductive PriceField where
  | pricePerBlock
  | pricePerByte
deriving DecidableEq

def PricingConfig.set (c : PricingConfig) (price : GRT) : PriceField → PricingConfig
  | .pricePerBlock => { c with pricePerBlock := price }
  | .pricePerByte => { c with pricePerByte := price }

/-- `yaml.Unmarshal`: the fields one after the other. -/
def PricingConfig.unmarshalFields (c : PricingConfig) :
    List (PriceField × Except (List UInt8) (List UInt8)) → Except AmountError PricingConfig
  | [] => .ok c
  | (field, answer) :: rest =>
    match GRT.unmarshalYAML answer with
    | .error err => .error err
    | .ok price => (c.set price field).unmarshalFields rest

def parsePricingConfig
    (yaml : List UInt8 → Except (List UInt8) (List (PriceField × Except (List UInt8) (List UInt8))))
    (data : List UInt8) : Except (List UInt8) PricingConfig :=
  match yaml data with
  | .error err => .error (utf8 "parsing pricing config: " ++ err)
  | .ok fields =>
    match PricingConfig.unmarshalFields ⟨.zero, .zero⟩ fields with
    | .error err => .error (utf8 "parsing pricing config: " ++ err.text)
    | .ok config => .ok config

end Sdsce.Source
