import LogRouter.Yaml.Schema

/-!
Scalar types: what a scalar's text means under the schema of its document.

A document declaring `%YAML 1.1` reads its scalars by the YAML 1.1 types; any other document by
the core schema of YAML 1.2.  Each schema is an ordered list of scalar types, each with a tag, a
pattern, a way to read a matching text, and the notation it gives a number (which writing the
number again keeps).

The YAML 1.1 types are wider than the core ones: booleans are also `y`, `yes`, `on` and their
negations; integers may be binary (`0b`), octal with a leading `0`, signed hex, and have
underscores between digits; numbers may be written in base-60 groups (`1:30` is 90); floats may
have underscores and need no digit before their point or exponent (`.` and `e5` read as not a
number).  A date (`2001-12-14`, with an optional time and zone) reads as a timestamp, and `<<` as
a key is the merge key.

An untagged plain scalar takes the first type of its schema whose pattern it matches, of those
used implicitly (the merge key only as a key); anything else is a string.  A tag names a type:
the types of that tag in the schema are tried in order (a type used implicitly only if its
pattern matches), then the types every core document knows by tag (`!!binary`, `!!merge`,
`!!timestamp`).  A tag naming no type gives a string, with a warning.
-/

namespace LogRouter

namespace Yaml

/-- The YAML version a document declares, which picks its schema. -/
inductive Version where
  | v1_1
  | v1_2
deriving DecidableEq, Inhabited

/-! ### Patterns of the YAML 1.1 types -/

/-- Whether a unit is a digit or an underscore. -/
def isDigitOrUnderscore (u : UInt16) : Bool := Text.isDigit u || u == 0x5F

/-- The text after an optional sign, and the sign unit if there was one. -/
def splitSign : Text → Option UInt16 × Text
  | 0x2B :: r => (some 0x2B, r)
  | 0x2D :: r => (some 0x2D, r)
  | t => (none, t)

/-- Whether a text is a true word of YAML 1.1. -/
def isYesText (t : Text) : Bool :=
  isOneOf t ["Y", "y", "Yes", "yes", "YES", "True", "true", "TRUE", "On", "on", "ON"]

/-- Whether a text is a false word of YAML 1.1. -/
def isNoText (t : Text) : Bool :=
  isOneOf t ["N", "n", "No", "no", "NO", "False", "false", "FALSE", "Off", "off", "OFF"]

/-- Whether a text is a YAML 1.1 integer with a two-unit prefix: an optional sign, the prefix,
and digits of `p` or underscores. -/
def isPrefixedInt11 (pfx : Text) (p : UInt16 → Bool) (t : Text) : Bool :=
  let body := (splitSign t).2
  body.take pfx.length == pfx && allUnits (fun u => p u || u == 0x5F) (body.drop pfx.length)

/-- Whether a text is a YAML 1.1 binary integer: `0b` and binary digits. -/
def isBinary11Text : Text → Bool := isPrefixedInt11 [0x30, 0x62] fun u => u == 0x30 || u == 0x31

/-- Whether a text is a YAML 1.1 octal integer: `0` and octal digits. -/
def isOctal11Text : Text → Bool := isPrefixedInt11 [0x30] isOctalDigit

/-- Whether a text is a YAML 1.1 hex integer: `0x` and hex digits. -/
def isHex11Text : Text → Bool := isPrefixedInt11 [0x30, 0x78] isHexDigit

/-- Whether a text is a YAML 1.1 decimal integer: a digit, then digits or underscores. -/
def isInt11Text (t : Text) : Bool :=
  match (splitSign t).2 with
  | d :: rest => Text.isDigit d && rest.all isDigitOrUnderscore
  | [] => false

/-- The leading digits-and-underscores part of a YAML 1.1 number, which must start with a digit
to be taken: the part and the rest. -/
def leadingDigits11 (t : Text) : Text × Text :=
  match t with
  | d :: _ =>
    if Text.isDigit d then
      let part := t.takeWhile isDigitOrUnderscore
      (part, t.drop part.length)
    else ([], t)
  | [] => ([], [])

/-- Whether a text is a YAML 1.1 float with an exponent: optional digits, an optional point and
digits, and `e` with a signed exponent. -/
def isExponent11Text (t : Text) : Bool :=
  let rest := (leadingDigits11 (splitSign t).2).2
  let rest := match rest with
    | 0x2E :: r => r.dropWhile isDigitOrUnderscore
    | r => r
  match rest with
  | 0x65 :: r | 0x45 :: r => allUnits Text.isDigit (splitSign r).2
  | _ => false

/-- Whether a text is a YAML 1.1 float with a point: optional digits, a point, and digits or
underscores. -/
def isPoint11Text (t : Text) : Bool :=
  match (leadingDigits11 (splitSign t).2).2 with
  | 0x2E :: r => r.all isDigitOrUnderscore
  | _ => false

/-- Whether a text is one base-60 group: one digit, or two digits of which the first is below
six. -/
def isGroup60 : Text → Bool
  | [a] => Text.isDigit a
  | [a, b] => Text.isDigit a && Text.isDigit b && a ≤ 0x35
  | _ => false

/-- The rest of a text after a last base-60 group at its start; `none` if it has none. -/
def afterGroup60 : Text → Option Text
  | a :: b :: rest =>
    if Text.isDigit a && Text.isDigit b then (if a ≤ 0x35 then some rest else none)
    else if Text.isDigit a then some (b :: rest) else none
  | [a] => if Text.isDigit a then some [] else none
  | [] => none

/-- Whether a text is a base-60 number whose rest after its groups satisfies `tail`: an optional
sign, a digit, digits or underscores, then one or more groups each after a `:`. -/
def isSexagesimalWith (tail : Text → Bool) (t : Text) : Bool :=
  match (splitSign t).2 with
  | d :: rest =>
    Text.isDigit d &&
      match rest.dropWhile isDigitOrUnderscore with
      | 0x3A :: groups =>
        let gs := Text.splitOnUnit groups 0x3A
        gs.dropLast.all isGroup60 &&
          match gs.getLast?.bind afterGroup60 with
          | some r => tail r
          | none => false
      | _ => false
  | [] => false

/-- Whether a text is a base-60 integer such as `1:30`. -/
def isSexagesimalIntText : Text → Bool := isSexagesimalWith List.isEmpty

/-- Whether a text is a base-60 float such as `1:30.5`. -/
def isSexagesimalFloatText : Text → Bool :=
  isSexagesimalWith fun rest =>
    match rest with
    | 0x2E :: r => r.all isDigitOrUnderscore
    | _ => false

/-! ### Reading numbers -/

/-- A text without its underscores. -/
def dropUnderscores (t : Text) : Text := t.filter (· != 0x5F)

/-- The value of an integer written in base `radix` after a prefix of `skip` units (and a sign),
underscores ignored; not a number if no digit is left.  A minus sign negates, so `-0` is
negative zero. -/
def signedRadixValue (skip radix : Nat) (t : Text) : Double :=
  let (sign, body) := splitSign t
  let digits := dropUnderscores (body.drop skip)
  let v := match Text.radixValue? radix digits with
    | some v => Double.ofNat v
    | none => Double.nan
  if sign == some 0x2D then v.negate else v

/-- The longest decimal number at the start of a text, or not a number if there is none. -/
def leadingFloat (t : Text) : Double :=
  match readDecimal t with
  | some (d, _) => d.toDouble
  | none => Double.nan

/-- The fraction digits a float's text shows when its last digit is zero, underscores
ignored; zero otherwise. -/
def fractionDigits (t : Text) : Nat :=
  match t.idxOf? 0x2E with
  | some i =>
    let f := dropUnderscores (t.drop (i + 1))
    if f.getLast? == some 0x30 then f.length else 0
  | none => 0

/-- The exact value of a finite non-negative number as a fraction `p / 2^k`. -/
def dyadic? (x : Double) : Option (Nat × Nat) :=
  match x.shape with
  | .finite false m q => if q ≥ 0 then some (m * Nat.pow 2 q.toNat, 0) else some (m, (-q).toNat)
  | .finite true 0 _ => some (0, 0)
  | _ => none

/-- `x × 60 + y` for non-negative numbers, each operation rounded to the nearest number. -/
def timesSixtyPlus (x y : Double) : Double :=
  match dyadic? x with
  | none => x
  | some (a, ka) =>
    let scaled := Double.ofRatio false (a * 60) (Nat.pow 2 ka)
    match dyadic? scaled, dyadic? y with
    | some (b, kb), some (c, kc) =>
      let k := max kb kc
      Double.ofRatio false (b * Nat.pow 2 (k - kb) + c * Nat.pow 2 (k - kc)) (Nat.pow 2 k)
    | _, _ => if y.isNaN then y else Double.infinity

/-- The value of a base-60 number: its groups read as numbers, each step multiplying by sixty
and adding the next group; a minus sign negates. -/
def sexagesimalValue (t : Text) : Double :=
  let (sign, body) := splitSign t
  let groups := Text.splitOnUnit (dropUnderscores body) 0x3A
  let v := groups.foldl (fun acc g => timesSixtyPlus acc (Double.ofNumberText g)) Double.zero
  if sign == some 0x2D then v.negate else v

/-! ### Scalar types -/

/-- The scalar types of the two schemas.  The core schema has `coreBool`, `coreOctal`,
`coreInt`, `coreHex`, `coreExponent` and `corePoint`; YAML 1.1 has the `yes` and `no` words, the
`...11` numbers and the base-60 types; both have strings, nulls, the special floats (`.inf`,
`.nan`), binary data, the merge key and timestamps. -/
inductive ScalarType where
  | str
  | null
  | coreBool
  | yes
  | no
  | coreOctal
  | coreInt
  | coreHex
  | binary11
  | octal11
  | int11
  | hex11
  | sexagesimalInt
  | specialFloat
  | coreExponent
  | corePoint
  | exponent11
  | point11
  | sexagesimalFloat
  | binary
  | merge
  | timestamp
deriving DecidableEq, Inhabited

namespace ScalarType

/-- The tag of a type. -/
def tag : ScalarType → Text
  | str => yamlTag "str"
  | null => yamlTag "null"
  | coreBool | yes | no => yamlTag "bool"
  | coreOctal | coreInt | coreHex | binary11 | octal11 | int11 | hex11 | sexagesimalInt => yamlTag "int"
  | specialFloat | coreExponent | corePoint | exponent11 | point11 | sexagesimalFloat => yamlTag "float"
  | binary => yamlTag "binary"
  | merge => yamlTag "merge"
  | timestamp => yamlTag "timestamp"

/-- The notation a type gives the numbers it reads. -/
def format : ScalarType → NumberFormat
  | coreOctal | octal11 => .octal
  | coreHex | hex11 => .hex
  | binary11 => .binary
  | coreExponent | exponent11 => .exponent
  | sexagesimalInt | sexagesimalFloat => .sexagesimal
  | _ => .none

/-- The pattern of a type; `none` for the types only a tag asks for. -/
def test? : ScalarType → Option (Text → Bool)
  | str | binary => none
  | null => some isNullText
  | coreBool => some isBoolText
  | yes => some isYesText
  | no => some isNoText
  | coreOctal => some isOctalText
  | coreInt => some isDecimalText
  | coreHex => some isHexText
  | binary11 => some isBinary11Text
  | octal11 => some isOctal11Text
  | int11 => some isInt11Text
  | hex11 => some isHex11Text
  | sexagesimalInt => some isSexagesimalIntText
  | specialFloat => some isSpecialFloatText
  | coreExponent => some isExponentFloatText
  | corePoint => some isPointFloatText
  | exponent11 => some isExponent11Text
  | point11 => some isPoint11Text
  | sexagesimalFloat => some isSexagesimalFloatText
  | merge => some fun t => t == [0x3C, 0x3C]
  | timestamp => some fun t => (timestampMillis t).isSome

/-- Whether a text matches a type's pattern. -/
def accepts (ty : ScalarType) (t : Text) : Bool :=
  match ty.test? with
  | some p => p t
  | none => false

/-- The message of a timestamp that does not read as one. -/
def badTimestamp : Text := Text.ofString "!!timestamp expects a date, starting with yyyy-mm-dd"

/-- The value a type gives a text, with the number of fraction digits to keep when it is written
again, or the message of a text the type cannot read. -/
def read (ty : ScalarType) (t : Text) : Except Text (ScalarValue × Nat) :=
  match ty with
  | str => .ok (.str t, 0)
  | null => .ok (.null, 0)
  | coreBool => .ok (.bool (t.head? == some 0x74 || t.head? == some 0x54), 0)
  | yes => .ok (.bool true, 0)
  | no => .ok (.bool false, 0)
  | coreOctal => .ok (.num (radixIntValue 8 t), 0)
  | coreInt => .ok (.num (decimalValue t), 0)
  | coreHex => .ok (.num (radixIntValue 16 t), 0)
  | binary11 => .ok (.num (signedRadixValue 2 2 t), 0)
  | octal11 => .ok (.num (signedRadixValue 1 8 t), 0)
  | int11 => .ok (.num (signedRadixValue 0 10 t), 0)
  | hex11 => .ok (.num (signedRadixValue 2 16 t), 0)
  | sexagesimalInt | sexagesimalFloat => .ok (.num (sexagesimalValue t), 0)
  | specialFloat => .ok (.num (specialFloatValue t), 0)
  | coreExponent => .ok (.num (leadingFloat t), 0)
  | corePoint =>
    let keep := match t.idxOf? 0x2E with
      | some i => if t.getLast? == some 0x30 then t.length - i - 1 else 0
      | none => 0
    .ok (.num (leadingFloat t), keep)
  | exponent11 => .ok (.num (leadingFloat (dropUnderscores t)), 0)
  | point11 => .ok (.num (leadingFloat (dropUnderscores t)), fractionDigits t)
  | binary => .ok (.bytes (Base64.decode t), 0)
  | merge => .ok (.mergeKey, 0)
  | timestamp =>
    match timestampMillis t with
    | some ms => .ok (.timestamp ms, 0)
    | none => .error badTimestamp

end ScalarType

namespace Version

/-- The schema of a version: the document's `%YAML 1.1` gives the YAML 1.1 types, else the core
schema. -/
def ofText (t : Text) : Option Version :=
  if t == Text.ofString "1.1" then some .v1_1
  else if t == Text.ofString "1.2" then some .v1_2
  else none

/-- The scalar types of a version's schema, in the order they are tried. -/
def types : Version → List ScalarType
  | .v1_2 => [.str, .null, .coreBool, .coreOctal, .coreInt, .coreHex, .specialFloat, .coreExponent,
      .corePoint]
  | .v1_1 => [.str, .null, .yes, .no, .binary11, .octal11, .int11, .hex11, .specialFloat, .exponent11,
      .point11, .binary, .merge, .sexagesimalInt, .sexagesimalFloat, .timestamp]

/-- The types a core document knows by tag although its schema does not try them. -/
def known : Version → List ScalarType
  | .v1_2 => [.binary, .merge, .timestamp]
  | .v1_1 => []

/-- Whether a version's schema tries a type's pattern on untagged plain scalars: every type of
its list but binary data. -/
def isDefault (v : Version) (ty : ScalarType) : Bool := ty != .binary && v.types.contains ty

/-- Whether a type is tried on an untagged plain scalar, the merge key only on keys. -/
def isImplicit (v : Version) (atKey : Bool) (ty : ScalarType) : Bool :=
  v.isDefault ty && (ty != .merge || atKey)

/-- The type of an untagged plain scalar: the first type tried implicitly whose pattern the text
matches, else a string. -/
def plainType (v : Version) (atKey : Bool) (t : Text) : ScalarType :=
  ((v.types.filter (v.isImplicit atKey)).find? (·.accepts t)).getD .str

/-- The type a tag names for a text: the non-specific tag `!` names a string; of the schema's
types with the tag, the first that is used without a pattern, else the first whose pattern the
text matches; else a type known by tag.  `none` when the tag names no type. -/
def taggedType? (v : Version) (tagName : Text) (t : Text) : Option ScalarType :=
  if tagName == [0x21] then some .str
  else
    let named := v.types.filter (·.tag == tagName)
    let tested (ty : ScalarType) : Bool := v.isDefault ty && ty.test?.isSome
    match named.find? (!tested ·) with
    | some ty => some ty
    | none =>
      match named.find? (·.accepts t) with
      | some ty => some ty
      | none => (v.known.filter (·.tag == tagName)).head?

end Version

/-- A scalar read under a schema: its value, the notation of its type, and the fraction digits to
keep. -/
structure ReadScalar where
  value : ScalarValue
  format : NumberFormat := .none
  minFractionDigits : Nat := 0
deriving Inhabited

/-- What a tag or a plain scalar's pattern makes of a scalar's text, with a message if the text
could not be read (a warning when the tag names no type, an error when its type cannot read the
text). -/
def readScalar (v : Version) (atKey plain : Bool) (tagName : Option Text) (t : Text) :
    ReadScalar × Option (Bool × Text) :=
  let chosen : Option ScalarType × Option (Bool × Text) :=
    match tagName with
    | some name =>
      match v.taggedType? name t with
      | some ty => (some ty, none)
      | none => (none, some (true, Text.ofString "Unresolved tag: " ++ name))
    | none => (some (if plain then v.plainType atKey t else .str), none)
  match chosen with
  | (some ty, _) =>
    match ty.read t with
    | .ok (value, keep) => ({ value, format := ty.format, minFractionDigits := keep }, none)
    | .error msg => ({ value := .str t }, some (false, msg))
  | (none, warning) => ({ value := .str t }, warning)

end Yaml

end LogRouter
