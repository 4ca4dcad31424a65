import LogRouter.Json.Value
import LogRouter.Number.Parse

/-!
Reading JSON text.

The grammar is the strict one: blank space is only space, tab, line feed and carriage return;
strings hold no raw control unit and only the escapes `\" \\ \/ \b \f \n \r \t \uXXXX`; a number
is `-? (0 | [1-9][0-9]*) (. [0-9]+)? ([eE] [+-]? [0-9]+)?`, rounded once to binary64; arrays and
objects have no trailing comma.  A key that appears twice keeps its first place and takes its last
value (`Members.set`).  A `\u` escape may produce a surrogate without its partner, which the text
keeps.

Recursion is bounded by a fuel argument, `2 × length + 2`: along any chain of calls every second
call consumes at least one unit, so the fuel never runs out on a text that parses.
-/

namespace LogRouter

namespace Json

/-- Whether a unit is JSON blank space. -/
def isSpace (u : UInt16) : Bool := u = 0x20 || u = 0x09 || u = 0x0A || u = 0x0D

/-- The text after its leading blank space. -/
def skipSpace (t : Text) : Text := t.dropWhile isSpace

/-- The value of four hexadecimal digits. -/
def hex4? (a b c d : UInt16) : Option UInt16 := do
  let v ← Text.radixValue? 16 [a, b, c, d]
  pure v.toUInt16

/-- The body of a string literal up to its closing quote, unescaped, and the rest after it. -/
def readString (acc : Text) : Text → Option (Text × Text)
  | 0x22 :: r => some (acc.reverse, r)
  | 0x5C :: 0x75 :: a :: b :: c :: d :: r =>
    match hex4? a b c d with
    | some u => readString (u :: acc) r
    | none => none
  | 0x5C :: e :: r =>
    let unit? : Option UInt16 := match e.toNat with
      | 0x22 => some 0x22
      | 0x5C => some 0x5C
      | 0x2F => some 0x2F
      | 0x62 => some 0x08
      | 0x66 => some 0x0C
      | 0x6E => some 0x0A
      | 0x72 => some 0x0D
      | 0x74 => some 0x09
      | _ => none
    match unit? with
    | some u => readString (u :: acc) r
    | none => none
  | u :: r => if u < 0x20 then none else readString (u :: acc) r
  | [] => none

/-- An optional sign, `-` or the unit `plus` names: whether it is a minus, and the text after it. -/
def readSign (plus : Option UInt16) : Text → Bool × Text
  | u :: r => if u = 0x2D then (true, r) else if some u = plus then (false, r) else (false, u :: r)
  | [] => (false, [])

/-- The integer part of a number: `0`, or a digit from 1 to 9 and the digits after it. -/
def readIntPart : Text → Option (Nat × Text)
  | 0x30 :: r => some (0, r)
  | u :: r =>
    if Text.isDigit u then
      match Text.readDigits (u :: r) with
      | (_, 0, _) => none
      | (v, _ + 1, r') => some (v, r')
    else none
  | [] => none

/-- An optional fraction, a point and at least one digit: the digits' value and count, and the
text after it. -/
def readFraction : Text → Option (Nat × Nat × Text)
  | 0x2E :: r =>
    match Text.readDigits r with
    | (_, 0, _) => none
    | (v, n + 1, r') => some (v, n + 1, r')
  | r => some (0, 0, r)

/-- An optional exponent, `e` or `E`, a sign and at least one digit, and the text after it. -/
def readExponent : Text → Option (Int × Text)
  | u :: r =>
    if u = 0x65 ∨ u = 0x45 then
      let (neg, digits) := readSign (some 0x2B) r
      match Text.readDigits digits with
      | (_, 0, _) => none
      | (v, _ + 1, r') => some ((if neg then -(v : Int) else v), r')
    else some (0, u :: r)
  | [] => some (0, [])

/-- A number at the start of a text, by the strict grammar, and the rest after it. -/
def readNumber (t : Text) : Option (Json × Text) := do
  let (neg, body) := readSign none t
  let (iv, r) ← readIntPart body
  let (fv, nf, r) ← readFraction r
  let (ex, r) ← readExponent r
  pure (.num (Double.ofDecimal neg (iv * Nat.pow 10 nf + fv) (ex - nf)), r)

mutual

/-- A value at the start of a text (after blank space), and the rest after it. -/
def readValue : Nat → Text → Option (Json × Text)
  | 0, _ => none
  | fuel + 1, t =>
    match skipSpace t with
    | 0x7B :: r => readMembers fuel [] true r
    | 0x5B :: r => readItems fuel [] true r
    | 0x22 :: r => (readString [] r).map fun p => (.str p.1, p.2)
    | 0x74 :: 0x72 :: 0x75 :: 0x65 :: r => some (.bool true, r)
    | 0x66 :: 0x61 :: 0x6C :: 0x73 :: 0x65 :: r => some (.bool false, r)
    | 0x6E :: 0x75 :: 0x6C :: 0x6C :: r => some (.null, r)
    | r => readNumber r

/-- The elements of an array after its opening bracket, and the rest after the closing one. -/
def readItems : Nat → List Json → Bool → Text → Option (Json × Text)
  | 0, _, _, _ => none
  | fuel + 1, acc, first, t =>
    match skipSpace t with
    | 0x5D :: r => if first then some (.arr [], r) else none
    | t' =>
      match readValue fuel t' with
      | none => none
      | some (v, r) =>
        match skipSpace r with
        | 0x2C :: r' => readItems fuel (v :: acc) false r'
        | 0x5D :: r' => some (.arr (v :: acc).reverse, r')
        | _ => none

/-- The members of an object after its opening brace, and the rest after the closing one. -/
def readMembers : Nat → Members → Bool → Text → Option (Json × Text)
  | 0, _, _, _ => none
  | fuel + 1, acc, first, t =>
    match skipSpace t with
    | 0x7D :: r => if first then some (.obj [], r) else none
    | 0x22 :: r =>
      match readString [] r with
      | none => none
      | some (k, r) =>
        match skipSpace r with
        | 0x3A :: r =>
          match readValue fuel r with
          | none => none
          | some (v, r) =>
            let acc := Members.set acc k v
            match skipSpace r with
            | 0x2C :: r' => readMembers fuel acc false r'
            | 0x7D :: r' => some (.obj acc, r')
            | _ => none
        | _ => none
    | _ => none

end

/-- The value a whole JSON text stands for; `none` unless the text is one value between blank
space. -/
def parse? (t : Text) : Option Json :=
  match readValue (2 * t.length + 2) t with
  | some (v, r) => if (skipSpace r).isEmpty then some v else none
  | none => none

end Json

end LogRouter
