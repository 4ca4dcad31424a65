import LogRouter.Number.Double
import LogRouter.Text.Basic

/-!
Reading numbers from text.

`readDecimal` reads the longest decimal literal at the start of a text: an optional sign, digits
with an optional point and fraction (or a point and a fraction), and an optional exponent.  Its
value is exact until `Double.ofDecimal` rounds it once.

`Double.ofNumberText` is the numeric reading of a whole text used for ports and capacities: blank
units around it are ignored, an empty text is zero, `0x`, `0o` and `0b` introduce unsigned hex,
octal and binary digits, `Infinity` may carry a sign, and anything else that is not one decimal
literal is not a number.
-/

namespace LogRouter

namespace Text

/-- Leading ASCII digits: their value, their count and the rest of the text. -/
def readDigits : Text → Nat × Nat × Text
  | u :: rest =>
    if isDigit u then
      let (v, n, r) := readDigits rest
      -- the digit read first is the most significant one
      (digitValue u * Nat.pow 10 n + v, n + 1, r)
    else (0, 0, u :: rest)
  | [] => (0, 0, [])

/-- The value of a digit in base `radix` (up to 36), if it is one. -/
def radixDigit? (radix : Nat) (u : UInt16) : Option Nat :=
  let n := u.toNat
  let v :=
    if 0x30 ≤ n ∧ n ≤ 0x39 then n - 0x30
    else if 0x61 ≤ n ∧ n ≤ 0x7A then n - 0x61 + 10
    else if 0x41 ≤ n ∧ n ≤ 0x5A then n - 0x41 + 10
    else 36
  if v < radix then some v else none

/-- The value of a whole text of digits in base `radix`; `none` if it is empty or holds another
unit. -/
def radixValue? (radix : Nat) (t : Text) : Option Nat :=
  if t.isEmpty then none
  else t.foldlM (fun acc u => (radixDigit? radix u).map (acc * radix + ·)) 0

end Text

/-- A decimal literal read from text: sign, digit value, power of ten. -/
structure DecimalLiteral where
  neg : Bool
  digits : Nat
  exponent : Int
deriving Inhabited

namespace DecimalLiteral

/-- The binary64 value nearest to the literal. -/
def toDouble (d : DecimalLiteral) : Double := Double.ofDecimal d.neg d.digits d.exponent

/-- An optional exponent `e` or `E` with an optional sign and at least one digit; without digits
nothing is read. -/
def readExponent (t : Text) : Int × Text :=
  match t with
  | u :: rest =>
    if u = 0x65 ∨ u = 0x45 then
      let (neg, body) := match rest with
        | 0x2B :: r => (false, r)
        | 0x2D :: r => (true, r)
        | r => (false, r)
      let (v, n, r) := Text.readDigits body
      if n = 0 then (0, t) else ((if neg then -(v : Int) else v), r)
    else (0, t)
  | [] => (0, [])

end DecimalLiteral

/-- The longest decimal literal at the start of a text, with the rest; `none` if there is none. -/
def readDecimal (t : Text) : Option (DecimalLiteral × Text) :=
  let (neg, body) := match t with
    | 0x2B :: r => (false, r)
    | 0x2D :: r => (true, r)
    | r => (false, r)
  let (iv, ni, afterInt) := Text.readDigits body
  let (fv, nf, afterFrac) := match afterInt with
    | 0x2E :: r => Text.readDigits r
    | r => (0, 0, r)
  let hasPoint := match afterInt with
    | 0x2E :: _ => true
    | _ => false
  if ni = 0 ∧ nf = 0 then none
  else
    let rest := if hasPoint then afterFrac else afterInt
    let (ex, rest) := DecimalLiteral.readExponent rest
    some (⟨neg, iv * Nat.pow 10 nf + fv, ex - nf⟩, rest)

namespace Double

/-- The numeric reading of a whole text: blank ends ignored, empty is zero, unsigned `0x`, `0o`
and `0b` digits, a signed `Infinity`, or one decimal literal; anything else is not a number. -/
def ofNumberText (t : Text) : Double :=
  let t := Text.trim t
  let prefixed (radix : Nat) (digits : Text) : Double :=
    match Text.radixValue? radix digits with
    | some v => ofNat v
    | none => nan
  match t with
  | [] => zero
  | 0x30 :: 0x78 :: r | 0x30 :: 0x58 :: r => prefixed 16 r
  | 0x30 :: 0x6F :: r | 0x30 :: 0x4F :: r => prefixed 8 r
  | 0x30 :: 0x62 :: r | 0x30 :: 0x42 :: r => prefixed 2 r
  | _ =>
    if t = Text.ofString "Infinity" ∨ t = Text.ofString "+Infinity" then infinity
    else if t = Text.ofString "-Infinity" then negInfinity
    else
      match readDecimal t with
      | some (d, []) => d.toDouble
      | _ => nan

end Double

end LogRouter
