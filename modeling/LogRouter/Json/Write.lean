import LogRouter.Json.Value
import LogRouter.Number.Shortest

/-!
JSON text of a value, without blank space.

Numbers are written by `Double.toText`, except that a value that is not finite is written `null`.
Strings are written between double quotes: the quote, the backslash and the control units are
escaped (the five that have a letter by that letter, the others as `\u00xx`), and a surrogate
without its partner is written as a `\uxxxx` escape, so that the text is well formed.  All other
units are written as they are.  Members are written in enumeration order.
-/

namespace LogRouter

namespace Json

/-- Lower-case hexadecimal digit. -/
def hexDigit (n : Nat) : UInt16 := if n < 10 then (0x30 + n).toUInt16 else (0x61 + n - 10).toUInt16

/-- The escape `\u` followed by four lower-case hexadecimal digits. -/
def unicodeEscape (u : UInt16) : Text :=
  let n := u.toNat
  [0x5C, 0x75, hexDigit (n / 4096 % 16), hexDigit (n / 256 % 16), hexDigit (n / 16 % 16),
    hexDigit (n % 16)]

/-- The written form of one unit that is not a surrogate. -/
def escapeUnit (u : UInt16) : Text :=
  match u.toNat with
  | 0x22 => [0x5C, 0x22]
  | 0x5C => [0x5C, 0x5C]
  | 0x08 => [0x5C, 0x62]
  | 0x0C => [0x5C, 0x66]
  | 0x0A => [0x5C, 0x6E]
  | 0x0D => [0x5C, 0x72]
  | 0x09 => [0x5C, 0x74]
  | n => if n < 0x20 then unicodeEscape u else [u]

/-- The body of a string literal: escapes applied, pairs kept, unpaired surrogates escaped. -/
def escapeBody : Text → Text
  | [] => []
  | [u] => if Text.isSurrogate u then unicodeEscape u else escapeUnit u
  | u :: tail@(v :: rest) =>
    if Text.isHigh u && Text.isLow v then u :: v :: escapeBody rest
    else (if Text.isSurrogate u then unicodeEscape u else escapeUnit u) ++ escapeBody tail

/-- A string literal: the escaped body between double quotes. -/
def quote (s : Text) : Text := [0x22] ++ escapeBody s ++ [0x22]

/-- The text of a number inside JSON: `null` unless it is finite. -/
def numberText (x : Double) : Text :=
  if x.isFinite then x.toText else Text.ofString "null"

mutual

/-- The JSON text of a value. -/
def render : Json → Text
  | .null => Text.ofString "null"
  | .bool true => Text.ofString "true"
  | .bool false => Text.ofString "false"
  | .num x => numberText x
  | .str s => quote s
  | .arr items => [0x5B] ++ renderItems items ++ [0x5D]
  | .obj ms => [0x7B] ++ renderMembers ms ++ [0x7D]

/-- Array elements, separated by commas. -/
def renderItems : List Json → Text
  | [] => []
  | [x] => render x
  | x :: rest => render x ++ [0x2C] ++ renderItems rest

/-- Object members as `"key":value`, separated by commas. -/
def renderMembers : List (Text × Json) → Text
  | [] => []
  | [(k, v)] => quote k ++ [0x3A] ++ render v
  | (k, v) :: rest => quote k ++ [0x3A] ++ render v ++ [0x2C] ++ renderMembers rest

end

mutual

/-- The text a value shows as when it is turned into a string: a string is itself, a number its
shortest decimal, an array its elements joined by commas (null as nothing), an object
`[object Object]`. -/
def displayText : Json → Text
  | .null => Text.ofString "null"
  | .bool true => Text.ofString "true"
  | .bool false => Text.ofString "false"
  | .num x => x.toText
  | .str s => s
  | .arr items => elementsText items
  | .obj _ => Text.ofString "[object Object]"

/-- Array elements as text, joined by commas; a null element shows as nothing. -/
def elementsText : List Json → Text
  | [] => []
  | [x] => (match x with | .null => [] | v => displayText v)
  | x :: rest => (match x with | .null => [] | v => displayText v) ++ [0x2C] ++ elementsText rest

end

end Json

end LogRouter
