import LogRouter.Yaml.Scalar
import LogRouter.Number.Shortest
import LogRouter.Number.Parse
import LogRouter.Text.Base64
import LogRouter.Text.Utf8
import LogRouter.Time.Instant

/-!
The core schema's patterns, tags, and timestamps.

The core schema reads an untagged plain scalar by its patterns: null (`~`, `null`, empty),
booleans (`true`, `False`, ...), octal `0o` integers, decimal integers, hex `0x` integers, the
special floats (`.inf`, `.nan`), floats with an exponent, and floats with a point.  Quoted and
block scalars are strings.  `Yaml.Types` orders these patterns into the schema.

Tag handles: `!!` stands for `tag:yaml.org,2002:`, `!` alone is the non-specific tag, `!name` is a
local tag, and `!<...>` is a verbatim tag.  Any other handle is one a `%TAG` directive declares,
or unknown.

A timestamp is a date `yyyy-m-d`, optionally followed by a time `h:m:s` with a fraction and a
zone; its value is milliseconds since 1970 in UTC.  It is shown as a date's default text or as
ISO text.
-/

namespace LogRouter

namespace Yaml

/-- Whether a text is one of a list of texts. -/
def isOneOf (t : Text) (options : List String) : Bool := options.any fun o => t == Text.ofString o

/-- Whether a text is non-empty and every unit satisfies `p`. -/
def allUnits (p : UInt16 → Bool) (t : Text) : Bool := !t.isEmpty && t.all p

/-- Whether a unit is an octal digit. -/
def isOctalDigit (u : UInt16) : Bool := 0x30 ≤ u && u ≤ 0x37

/-- A text without a leading sign, and whether there was one. -/
def dropSign : Text → Text
  | 0x2B :: r | 0x2D :: r => r
  | t => t

/-- Whether a text is a null of the core schema. -/
def isNullText (t : Text) : Bool := t.isEmpty || isOneOf t ["~", "null", "Null", "NULL"]

/-- Whether a text is a boolean of the core schema. -/
def isBoolText (t : Text) : Bool := isOneOf t ["true", "True", "TRUE", "false", "False", "FALSE"]

/-- Whether a text is an octal integer: `0o` and octal digits. -/
def isOctalText : Text → Bool
  | 0x30 :: 0x6F :: r => allUnits isOctalDigit r
  | _ => false

/-- Whether a text is a decimal integer: an optional sign and digits. -/
def isDecimalText (t : Text) : Bool := allUnits Text.isDigit (dropSign t)

/-- Whether a text is a hex integer: `0x` and hex digits. -/
def isHexText : Text → Bool
  | 0x30 :: 0x78 :: r => allUnits isHexDigit r
  | _ => false

/-- Whether a text is an infinity or not-a-number of the core schema. -/
def isSpecialFloatText (t : Text) : Bool :=
  isOneOf (dropSign t) [".inf", ".Inf", ".INF"] || isOneOf t [".nan", ".NaN", ".NAN"]

/-- The parts of a decimal mantissa: digits before the point, whether there is a point, digits
after it, and what follows. -/
def mantissa (t : Text) : Nat × Bool × Nat × Text :=
  let body := dropSign t
  let whole := body.takeWhile Text.isDigit
  let rest := body.drop whole.length
  match rest with
  | 0x2E :: r =>
    let frac := r.takeWhile Text.isDigit
    (whole.length, true, frac.length, r.drop frac.length)
  | r => (whole.length, false, 0, r)

/-- Whether a text is an exponent part: `e` or `E`, an optional sign, and digits. -/
def isExponentText : Text → Bool
  | 0x65 :: r | 0x45 :: r => allUnits Text.isDigit (dropSign r)
  | _ => false

/-- Whether a text is a float with an exponent. -/
def isExponentFloatText (t : Text) : Bool :=
  let (w, point, f, rest) := mantissa t
  ((w == 0 && point && f > 0) || w > 0) && isExponentText rest

/-- Whether a text is a float with a point and no exponent. -/
def isPointFloatText (t : Text) : Bool :=
  let (w, point, f, rest) := mantissa t
  ((w == 0 && point && f > 0) || (w > 0 && point)) && rest.isEmpty

/-- The value of a decimal literal of the core schema. -/
def decimalValue (t : Text) : Double :=
  match readDecimal t with
  | some (d, _) => d.toDouble
  | none => Double.nan

/-- The value of an integer written in base `radix` after a two-unit prefix. -/
def radixIntValue (radix : Nat) (t : Text) : Double :=
  match Text.radixValue? radix (t.drop 2) with
  | some v => Double.ofNat v
  | none => Double.nan

/-- The value of a special float. -/
def specialFloatValue (t : Text) : Double :=
  if isOneOf t [".nan", ".NaN", ".NAN"] then Double.nan
  else if t.head? == some 0x2D then Double.negInfinity else Double.infinity

/-! ### Tags -/

/-- The prefix the `!!` handle stands for. -/
def yamlTagPrefix : Text := Text.ofString "tag:yaml.org,2002:"

/-- The full name of a tag of the YAML tag repository. -/
def yamlTag (name : String) : Text := yamlTagPrefix ++ Text.ofString name

/-- The bytes of `%XX` escapes in a text, or `none` if an escape is broken. -/
def percentBytes : Text → Option (List (Sum UInt8 UInt16))
  | [] => some []
  | 0x25 :: a :: b :: rest =>
    if isHexDigit a && isHexDigit b then
      let v := (Text.radixValue? 16 [a, b]).getD 0
      (percentBytes rest).map (.inl v.toUInt8 :: ·)
    else none
  | 0x25 :: _ => none
  | u :: rest => (percentBytes rest).map (.inr u :: ·)

/-- Groups escaped bytes into UTF-8 sequences; `none` if a group is not valid UTF-8. -/
def decodePercent : List (Sum UInt8 UInt16) → List UInt8 → Option Text
  | [], pending => if pending.isEmpty then some [] else if Utf8.isValid pending then some (Utf8.decode pending) else none
  | .inl b :: rest, pending => decodePercent rest (pending ++ [b])
  | .inr u :: rest, pending =>
    if pending.isEmpty then (decodePercent rest []).map (u :: ·)
    else if Utf8.isValid pending then (decodePercent rest []).map (Utf8.decode pending ++ u :: ·)
    else none

/-- A tag suffix with its `%XX` escapes decoded, or `none` if they do not decode. -/
def decodeSuffix (t : Text) : Option Text :=
  if t.contains 0x25 then (percentBytes t).bind (decodePercent · []) else some t

/-- The tag handles every document knows: `!!` for the YAML tag repository. -/
def defaultHandles : List (Text × Text) := [([0x21, 0x21], yamlTagPrefix)]

/-- What a tag's source names, given the handles in force: the full tag name, and the errors
found reading it. A tag that cannot be resolved has no name. -/
def resolveTagName (handles : List (Text × Text)) (t : SourceToken) : Option Text × List YamlError :=
  let src := t.source
  let err (msg : Text) : YamlError := ⟨t.offset, t.offset + src.length, false, msg⟩
  if src == [0x21] then (some src, [])
  else
    match src with
    | 0x21 :: 0x3C :: rest =>
      let verbatim := rest.dropLast
      if verbatim == [0x21] || verbatim == [0x21, 0x21] then
        (none, [err (Text.ofString "Verbatim tags aren't resolved, so " ++ src ++ Text.ofString " is invalid.")])
      else if src.getLast? != some 0x3E then
        (some verbatim, [err (Text.ofString "Verbatim tags must end with a >")])
      else (some verbatim, [])
    | _ =>
      let handleLength := match src.reverse.idxOf? 0x21 with
        | some k => src.length - k
        | none => 0
      let handle := src.take handleLength
      let suffix := src.drop handleLength
      let errs := if suffix.isEmpty then
          [err (Text.ofString "The " ++ src ++ Text.ofString " tag has no suffix")] else []
      match handles.lookup handle with
      | some tagPrefix =>
        match decodeSuffix suffix with
        | some s => (some (tagPrefix ++ s), errs)
        | none => (none, errs ++ [err (Text.ofString "URIError: URI malformed")])
      | none =>
        if handle == [0x21] then (some src, errs)
        else (none, errs ++ [err (Text.ofString "Could not resolve tag: " ++ src)])

/-! ### Timestamps -/

/-- Reads up to `n` digits: their value and count. -/
def readDigitsUpTo (n : Nat) (t : Text) : Nat × Nat × Text :=
  let ds := (t.takeWhile Text.isDigit).take n
  (ds.foldl (fun acc u => acc * 10 + Text.digitValue u) 0, ds.length, t.drop ds.length)

/-- The offset of a timestamp's time zone: `Z`, or a sign, one or two hour digits (two only
from `00` to `29`) and optional `:` and two minute digits.  Without minutes the number is hours;
with them it is minutes; a result below 30 counts as hours. -/
def readZone (t : Text) : Option Int :=
  match t with
  | [] => none
  | [0x5A] => some 0
  | s :: rest =>
    if s != 0x2B && s != 0x2D then none
    else
      let twoDigits := match rest with
        | a :: b :: _ => 0x30 ≤ a && a ≤ 0x32 && Text.isDigit b
        | _ => false
      let (hours, nh, r) := readDigitsUpTo (if twoDigits then 2 else 1) rest
      if nh == 0 then none
      else
        let value : Option Int := match r with
          | [] => some hours
          | [0x3A, a, b] => if Text.isDigit a && Text.isDigit b then
              some (hours * 60 + Text.digitValue a * 10 + Text.digitValue b) else none
          | _ => none
        value.map fun v =>
          let v := if v < 30 then v * 60 else v
          if s == 0x2D then -v else v

/-- The milliseconds since 1970 of a timestamp text, or `none` if it does not read as one.  The
text is a four-digit year, a month and a day of one or two digits, and optionally `t`, `T` or
blanks, a time of one- or two-digit hours, minutes and seconds with an optional fraction, and
optionally blanks and a zone.  A year below 100 counts from 1900; months and days past their
ends roll over. -/
def timestampMillis (t : Text) : Option Int := do
  let (year, ny, r) := readDigitsUpTo 4 t
  guard (ny == 4)
  let r ← match r with | 0x2D :: r => some r | _ => none
  let (month, nm, r) := readDigitsUpTo 2 r
  guard (nm ≥ 1)
  let r ← match r with | 0x2D :: r => some r | _ => none
  let (day, nd, r) := readDigitsUpTo 2 r
  guard (nd ≥ 1)
  let year : Int := if year ≤ 99 then 1900 + year else year
  let monthIndex : Int := (month : Int) - 1
  let y := year + monthIndex / 12
  let mo := (monthIndex % 12).toNat + 1
  let days := Instant.daysOfCivil y mo 1 + day - 1
  if r.isEmpty then return days * 86400000
  let r ← match r with
    | 0x74 :: r | 0x54 :: r => some r
    | r => if r.head?.map isSpaceOrTab |>.getD false then some (r.dropWhile isSpaceOrTab) else none
  let (hh, nh, r) := readDigitsUpTo 2 r
  guard (nh ≥ 1)
  let r ← match r with | 0x3A :: r => some r | _ => none
  let (mi, nmi, r) := readDigitsUpTo 2 r
  guard (nmi ≥ 1)
  let r ← match r with | 0x3A :: r => some r | _ => none
  let (ss, nss, r) := readDigitsUpTo 2 r
  guard (nss ≥ 1)
  let (millis, r) ← match r with
    | 0x2E :: r' =>
      let frac := r'.takeWhile Text.isDigit
      if frac.isEmpty then none
      else
        let three := (frac ++ [0x30, 0x30]).take 3
        some ((three.foldl (fun acc u => acc * 10 + Text.digitValue u) 0 : Nat), r'.drop frac.length)
    | r => some (0, r)
  let zone ← if r.isEmpty then some 0 else readZone (r.dropWhile isSpaceOrTab)
  let base := days * 86400000 + ((hh * 60 + mi) * 60 + ss : Nat) * 1000 + millis
  return base - zone * 60000

/-- The names of the days of the week, from Thursday, the weekday of 1970-01-01. -/
def weekdayNames : List String := ["Thu", "Fri", "Sat", "Sun", "Mon", "Tue", "Wed"]

/-- The short names of the months. -/
def monthNames : List String :=
  ["Jan", "Feb", "Mar", "Apr", "May", "Jun", "Jul", "Aug", "Sep", "Oct", "Nov", "Dec"]

/-- A time as a date's default text shows it in UTC: `Mon Jan 01 2024 00:00:00 GMT+0000
(Coordinated Universal Time)`. -/
def dateText (ms : Int) : Text :=
  let days := ms / Instant.msPerDay
  let inDay := (ms - days * Instant.msPerDay).toNat / 1000
  let (y, m, d) := Instant.civilOfDays days
  let year := if y < 0 then Text.ofString "-" ++ Instant.padded 6 y.natAbs else Instant.padded 4 y.toNat
  Text.ofString (weekdayNames.getD (days % 7).toNat "" ++ " " ++ monthNames.getD (m - 1) "" ++ " ") ++
    Instant.padded 2 d ++ [0x20] ++ year ++ [0x20] ++ Instant.padded 2 (inDay / 3600) ++ [0x3A] ++
    Instant.padded 2 (inDay / 60 % 60) ++ [0x3A] ++ Instant.padded 2 (inDay % 60) ++
    Text.ofString " GMT+0000 (Coordinated Universal Time)"

/-- A time as ISO text in UTC with milliseconds: `2001-12-14T21:59:43.100Z`, the year with a
sign and six digits outside 0 to 9999. -/
def isoText (ms : Int) : Text :=
  let days := ms / Instant.msPerDay
  let inDay := (ms - days * Instant.msPerDay).toNat
  let (y, m, d) := Instant.civilOfDays days
  Instant.yearText y ++ [0x2D] ++ Instant.padded 2 m ++ [0x2D] ++ Instant.padded 2 d ++ [0x54] ++
    Instant.padded 2 (inDay / 3600000) ++ [0x3A] ++ Instant.padded 2 (inDay / 60000 % 60) ++ [0x3A] ++
    Instant.padded 2 (inDay / 1000 % 60) ++ [0x2E] ++ Instant.padded 3 (inDay % 1000) ++ [0x5A]

namespace ScalarValue

/-- A scalar value as text, the way string conversion writes it. -/
def display : ScalarValue → Text
  | .null => Text.ofString "null"
  | .bool b => Text.ofString (if b then "true" else "false")
  | .num x => x.toText
  | .str s => s
  | .bytes b => Utf8.decode b
  | .timestamp ms => dateText ms
  | .mergeKey => Text.ofString "Symbol(<<)"

/-- Whether two values are the same for membership tests: like strict equality, except that
not-a-number equals itself. -/
def sameValueZero : ScalarValue → ScalarValue → Bool
  | .num a, .num b => Double.numEq a b || (a.isNaN && b.isNaN)
  | a, b => a.same b

end ScalarValue

end Yaml

end LogRouter
