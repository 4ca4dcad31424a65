/-!
Text as a sequence of UTF-16 code units.

Every length and offset this library reports is counted in UTF-16 units, and a text may hold a
surrogate without its partner (half of a pair cut off by a match, or one written as an escape in
JSON).  So a text is a plain list of units rather than a string of characters.  Characters enter
through `Text.ofString`, which writes each one as one unit or as a surrogate pair, and leave
through `Text.toString`, which reads pairs back and shows an unpaired surrogate as U+FFFD.

The blank units are those of the whitespace and line-terminator classes of regular expressions,
`isBlank`; trimming removes them from the ends.
-/

namespace LogRouter

/-- A text is a sequence of UTF-16 code units; a surrogate without a partner is a unit like any
other. -/
abbrev Text := List UInt16

namespace Text

/-- The units of one character: one unit below U+10000, else a surrogate pair. -/
def unitsOfChar (c : Char) : List UInt16 :=
  let n := c.toNat
  if n < 0x10000 then [n.toUInt16]
  else
    let m := n - 0x10000
    [(0xD800 + m / 0x400).toUInt16, (0xDC00 + m % 0x400).toUInt16]

/-- The units of a string, character by character. -/
def ofString (s : String) : Text := s.toList.flatMap unitsOfChar

/-- Whether a unit is the first half of a surrogate pair. -/
def isHigh (u : UInt16) : Bool := 0xD800 ≤ u.toNat && u.toNat ≤ 0xDBFF

/-- Whether a unit is the second half of a surrogate pair. -/
def isLow (u : UInt16) : Bool := 0xDC00 ≤ u.toNat && u.toNat ≤ 0xDFFF

/-- Whether a unit is a surrogate of either half. -/
def isSurrogate (u : UInt16) : Bool := 0xD800 ≤ u.toNat && u.toNat ≤ 0xDFFF

/-- The code point of a surrogate pair. -/
def pairCode (hi lo : UInt16) : Nat := 0x10000 + (hi.toNat - 0xD800) * 0x400 + (lo.toNat - 0xDC00)

/-- The characters of a text: a pair is one character, an unpaired surrogate is U+FFFD. -/
def toChars : Text → List Char
  | [] => []
  | [u] => [if isSurrogate u then '�' else Char.ofNat u.toNat]
  | u :: v :: rest =>
    if isHigh u && isLow v then Char.ofNat (pairCode u v) :: toChars rest
    else (if isSurrogate u then '�' else Char.ofNat u.toNat) :: toChars (v :: rest)

/-- The string a text reads as, an unpaired surrogate shown as U+FFFD. -/
def toString (t : Text) : String := String.ofList (toChars t)

/-- Decimal digits of a natural number. -/
def ofNat (n : Nat) : Text := ofString (Nat.repr n)

/-- Decimal digits of an integer, with a minus sign below zero. -/
def ofInt (n : Int) : Text := ofString (n.repr)

/-- Whether a unit is an ASCII decimal digit. -/
def isDigit (u : UInt16) : Bool := 0x30 ≤ u.toNat && u.toNat ≤ 0x39

/-- The value of an ASCII decimal digit. -/
def digitValue (u : UInt16) : Nat := u.toNat - 0x30

/-- Whether a unit is an ASCII letter. -/
def isAsciiLetter (u : UInt16) : Bool :=
  (0x41 ≤ u.toNat && u.toNat ≤ 0x5A) || (0x61 ≤ u.toNat && u.toNat ≤ 0x7A)

/-- Whether a unit is a letter, a digit or an underscore of ASCII: the units of a word. -/
def isWordUnit (u : UInt16) : Bool := isAsciiLetter u || isDigit u || u = 0x5F

/-- Blank units: white space (tab, vertical tab, form feed, space, no-break space, the byte order
mark and the space separators of Unicode) and the line terminators. -/
def isBlank (u : UInt16) : Bool :=
  match u.toNat with
  | 0x09 | 0x0A | 0x0B | 0x0C | 0x0D | 0x20 | 0xA0 | 0x1680 | 0x2028 | 0x2029 | 0x202F
  | 0x205F | 0x3000 | 0xFEFF => true
  | n => 0x2000 ≤ n && n ≤ 0x200A

/-- The text without its leading blank units. -/
def trimStart (t : Text) : Text := t.dropWhile isBlank

/-- The text without its trailing blank units. -/
def trimEnd (t : Text) : Text := (t.reverse.dropWhile isBlank).reverse

/-- The text without blank units at either end. -/
def trim (t : Text) : Text := trimEnd (trimStart t)

/-- The position of the first occurrence of a unit. -/
def indexOf? (t : Text) (u : UInt16) : Option Nat := t.idxOf? u

/-- The position of the last occurrence of a unit. -/
def lastIndexOf? (t : Text) (u : UInt16) : Option Nat :=
  (t.reverse.idxOf? u).map fun i => t.length - 1 - i

/-- Pieces between the occurrences of a separator unit; `n` separators give `n + 1` pieces. -/
def splitOnUnit (t : Text) (sep : UInt16) : List Text :=
  t.splitOn sep

/-- The texts joined, with a separator between neighbours. -/
def join (sep : Text) : List Text → Text
  | [] => []
  | [t] => t
  | t :: rest => t ++ sep ++ join sep rest

/-- A text in double quotes, as error messages show names and values. -/
def quoted (t : Text) : Text := [0x22] ++ t ++ [0x22]

/-- A text in single quotes. -/
def singleQuoted (t : Text) : Text := [0x27] ++ t ++ [0x27]

end Text

end LogRouter
