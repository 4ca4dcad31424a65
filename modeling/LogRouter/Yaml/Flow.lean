import LogRouter.Yaml.Types
import LogRouter.Json.Write
import LogRouter.Text.Base64

/-!
Writing nodes in flow style: `[ a, b ]` and `{ k: v }`, as a mapping key that is a collection is
turned into the text of an object's key.

A node is written as it was read where it can be.  A scalar keeps its source text when that
text still reads as the same value (`~` stays `~`, `0x1F` is written `0x1f` in its notation, `1.50`
keeps its two fraction digits) and its quoting style when that style can hold its text; a plain
string that would read as something else, or that holds characters the flow style gives a meaning
to, is quoted.  Nested nodes show their anchor and explicit tag; an alias is `*name`.  Comments are
written after the items they follow, and force one item per line.

A collection goes on one line, `[ a, b ]`, unless it is empty (`[]`), an item holds a line break
or a comment, or the line would be wider than eighty units; then each item has a line of its own,
indented two spaces more than the brackets.  Long plain and quoted scalars fold at spaces so that
lines stay within eighty units, each folded line keeping at least twenty.
-/

namespace LogRouter

namespace Yaml

namespace Flow

/-- The widest line a folded scalar makes. -/
def lineWidth : Nat := 80

/-- The least content a folded line keeps. -/
def minContentWidth : Nat := 20

/-- The indentation each level of nesting adds. -/
def indentStep : Nat := 2

/-- The shortest double-quoted text whose line breaks are written as breaks rather than `\n`. -/
def minMultiLineLength : Nat := 40

/-- `n` spaces. -/
def spaces (n : Nat) : Text := List.replicate n 0x20

/-! ### Lines and comments -/

/-- Whether a unit ends a line where a comment is split into lines. -/
def isLineEnd (u : UInt16) : Bool := u == 0x0A || u == 0x0D || u == 0x2028 || u == 0x2029

/-- Applies `f` to each line of a text (the current line held reversed in `line`), keeping the
units that end the lines. -/
def mapLinesFrom (f : Text → Text) (line : Text) : Text → Text
  | [] => f line.reverse
  | u :: rest =>
    if isLineEnd u then f line.reverse ++ [u] ++ mapLinesFrom f [] rest
    else mapLinesFrom f (u :: line) rest

/-- Applies `f` to each line of a text. -/
def mapLines (f : Text → Text) (t : Text) : Text := mapLinesFrom f [] t

/-- A comment as written: `#` before each non-empty line, a line of one space becoming `#`. -/
def commentText (c : Text) : Text :=
  mapLines (fun l => if l.isEmpty then [] else if l == [0x20] then [0x23] else 0x23 :: l) c

/-- A comment indented: `indent` spaces before each line that is not blank; a comment of line
breaks only loses one. -/
def indentComment (c : Text) (indent : Nat) : Text :=
  if !c.isEmpty && c.all (· == 0x0A) then c.drop 1
  else if indent == 0 then c
  else mapLines (fun l => if l.all (· == 0x20) then l else spaces indent ++ l) c

/-- The comment written after a line `str`: on the next lines if it has several lines, else after
a space. -/
def lineComment (str : Text) (indent : Nat) (comment : Text) : Text :=
  if str.getLast? == some 0x0A then indentComment comment indent
  else if comment.contains 0x0A then [0x0A] ++ indentComment comment indent
  else (if str.getLast? == some 0x20 then [] else [0x20]) ++ comment

/-- Whether a text has a document marker (`%`, `---`, `...`) at the start of a line. -/
def hasDocumentMarker (t : Text) : Bool :=
  let atLine (r : Text) : Bool :=
    r.head? == some 0x25 || r.take 3 == [0x2D, 0x2D, 0x2D] || r.take 3 == [0x2E, 0x2E, 0x2E]
  atLine t || (t.zipIdx.any fun (u, i) => isLineEnd u && atLine (t.drop (i + 1)))

/-! ### Folding long lines -/

/-- How a scalar folds: plain and single-quoted text at spaces, double-quoted text also inside
runs of blanks, with an escaped line break. -/
inductive FoldMode where
  | plain
  | quoted
deriving DecidableEq

/-- The unit at a position, if the position is inside the text. -/
def unitAt (a : Array UInt16) (i : Int) : Option UInt16 := if i < 0 then none else a[i.toNat]?

/-- The units from `start` to `stop`, positions below zero counting from the end. -/
def sliceAt (a : Array UInt16) (start stop : Int) : Text :=
  let clamp (i : Int) : Nat := if i < 0 then (a.size + i).toNat else min i.toNat a.size
  let s := clamp start
  let e := clamp stop
  (a.toList.drop s).take (e - s)

/-- The state of finding where a text folds: the position reached, the unit before it, the
last space a line may break at, where the current line must end, the last escape, the folds so
far and those made inside escapes, and whether folding gave up. -/
structure FoldScan where
  i : Int
  prev : Option UInt16 := none
  split : Option Int := none
  stop : Int
  escStart : Int := -1
  escEnd : Int := -1
  folds : Array Int := #[]
  escaped : List Int := []
  bail : Bool := false

/-- Whether a unit is a space, a tab or a line break. -/
def isBreakable (u : Option UInt16) : Bool := u == some 0x20 || u == some 0x0A || u == some 0x09

/-- Moves past the blanks at a line's end in double-quoted text: the position, the unit before,
the unit at it. -/
def skipLineEndBlanks (a : Array UInt16) : Nat → Int → Option UInt16 → Option UInt16 →
    Int × Option UInt16 × Option UInt16
  | 0, i, prev, ch => (i, prev, ch)
  | fuel + 1, i, prev, ch =>
    if prev == some 0x20 || prev == some 0x09 then skipLineEndBlanks a fuel (i + 1) ch (unitAt a (i + 1))
    else (i, prev, ch)

/-- Finds the folds of a text, one unit at a time: a line break starts a new line; a space between
two other units may become a break; a line that reaches its end breaks at the last such space,
or, in double-quoted text, at the position itself with an escape. -/
def foldScan (a : Array UInt16) (mode : FoldMode) (indent endStep : Int) : Nat → FoldScan → FoldScan
  | 0, s => s
  | fuel + 1, s =>
    if s.bail then s
    else
      let i := s.i + 1
      match unitAt a i with
      | none => { s with i }
      | some ch =>
        let (i, escStart, escEnd) :=
          if mode == .quoted && ch == 0x5C then
            let skip : Int := match unitAt a (i + 1) with
              | some 0x78 => 3
              | some 0x75 => 5
              | some 0x55 => 9
              | _ => 1
            (i + skip, i, i + skip)
          else (i, s.escStart, s.escEnd)
        let s := { s with i, escStart, escEnd }
        if ch == 0x0A then
          foldScan a mode indent endStep fuel { s with stop := i + indent + endStep, split := none, prev := some ch }
        else
          let split :=
            if ch == 0x20 && s.prev.isSome && !isBreakable s.prev then
              match unitAt a (i + 1) with
              | some n => if isBreakable (some n) then s.split else some i
              | none => s.split
            else s.split
          let s := { s with split }
          if i ≥ s.stop then
            match split with
            | some sp =>
              foldScan a mode indent endStep fuel
                { s with folds := s.folds.push sp, stop := sp + endStep, split := none, prev := some ch }
            | none =>
              if mode == .quoted then
                let (i, _, ch') := skipLineEndBlanks a a.size i s.prev (some ch)
                let j := if i > s.escEnd + 1 then i - 2 else s.escStart - 1
                if s.escaped.contains j then { s with bail := true }
                else
                  foldScan a mode indent endStep fuel
                    { s with i, folds := s.folds.push j, escaped := j :: s.escaped, stop := j + endStep,
                             split := none, prev := ch' }
              else foldScan a mode indent endStep fuel { s with prev := some ch }
          else foldScan a mode indent endStep fuel { s with prev := some ch }

/-- Folds a text whose lines are indented by `indent` and whose first line starts at column
`indentAtStart`, if known, so that lines stay within the line width. -/
def foldLines (text : Text) (indent : Nat) (mode : FoldMode) (indentAtStart : Option Nat) : Text :=
  let endStep : Int := max (1 + (minContentWidth : Int)) (1 + (lineWidth : Int) - indent)
  if (text.length : Int) ≤ endStep then text
  else
    let a := text.toArray
    let (folds0, stop) : Array Int × Int := match indentAtStart with
      | some ias =>
        if ias > lineWidth - max 2 minContentWidth then (#[0], (lineWidth : Int) - indent)
        else (#[], (lineWidth : Int) - ias)
      | none => (#[], (lineWidth : Int) - indent)
    let s := foldScan a mode indent endStep (a.size + 1) { i := -1, stop, folds := folds0 }
    if s.bail then text
    else
      let folds := s.folds.toList
      match folds with
      | [] => text
      | first :: _ =>
        let ends := (folds.drop 1).map some ++ [none]
        (folds.zip ends).foldl (fun res (fold, next) =>
          let stop : Int := match next with
            | some n => if n == 0 then a.size else n
            | none => a.size
          if fold == 0 then [0x0A] ++ spaces indent ++ sliceAt a 0 stop
          else
            let esc : Text := if mode == .quoted && s.escaped.contains fold then
                (unitAt a fold).toList ++ [0x5C] else []
            res ++ esc ++ [0x0A] ++ spaces indent ++ sliceAt a (fold + 1) stop)
          (sliceAt a 0 first)

/-! ### Quoted scalars -/

/-- The escapes of double-quoted text for JSON's `\u00XX` escapes: YAML's short escapes where it
has them, else `\x` and two hex digits. -/
def unicodeEscapeText (code : Text) (whole : Text) : Text :=
  let is (s : String) := code == Text.ofString s
  if is "0000" then Text.ofString "\\0"
  else if is "0007" then Text.ofString "\\a"
  else if is "000b" then Text.ofString "\\v"
  else if is "001b" then Text.ofString "\\e"
  else if is "0085" then Text.ofString "\\N"
  else if is "00a0" then Text.ofString "\\_"
  else if is "2028" then Text.ofString "\\L"
  else if is "2029" then Text.ofString "\\P"
  else if code.take 2 == Text.ofString "00" then Text.ofString "\\x" ++ code.drop 2
  else whole

/-- Adds a line break for each further escaped line break, as folding a double-quoted text reads
every break after the first as itself. -/
def extraBreaks (json : Array UInt16) : Nat → Nat → Text → Nat × Text
  | 0, i, out => (i, out)
  | fuel + 1, i, out =>
    if json[i + 2]? == some 0x5C && json[i + 3]? == some 0x6E && json[i + 4]? != some 0x22 then
      extraBreaks json fuel (i + 2) (out ++ [0x0A])
    else (i, out)

/-- Rewrites the escapes of a JSON string literal as YAML writes them, from position `i`, the text
from `start` not yet copied: a space before an escaped line break is escaped, `\u` escapes
become YAML's, and an escaped line break in a long text that is not a key becomes a real
break.  Gives where copying stopped and the text so far. -/
def rewriteEscapes (json : Array UInt16) (implicitKey : Bool) (indent : Text) :
    Nat → Nat → Nat → Text → Nat × Text
  | 0, _, start, out => (start, out)
  | fuel + 1, i, start, out =>
    match json[i]? with
    | none => (start, out)
    | some ch =>
      let (i, start, out, ch) :=
        if ch == 0x20 && json[i + 1]? == some 0x5C && json[i + 2]? == some 0x6E then
          (i + 1, i + 1, out ++ sliceAt json start i ++ [0x5C, 0x20], (0x5C : UInt16))
        else (i, start, out, ch)
      if ch == 0x5C then
        match json[i + 1]? with
        | some 0x75 =>
          let out := out ++ sliceAt json start i ++
            unicodeEscapeText (sliceAt json (i + 2) (i + 6)) (sliceAt json i (i + 6))
          rewriteEscapes json implicitKey indent fuel (i + 6) (i + 6) out
        | some 0x6E =>
          if implicitKey || json[i + 2]? == some 0x22 || json.size < minMultiLineLength then
            rewriteEscapes json implicitKey indent fuel (i + 2) start out
          else
            let out := out ++ sliceAt json start i ++ [0x0A, 0x0A]
            let (i, out) := extraBreaks json json.size i out
            let out := out ++ indent
            let out := if json[i + 2]? == some 0x20 then out ++ [0x5C] else out
            rewriteEscapes json implicitKey indent fuel (i + 2) (i + 2) out
        | _ => rewriteEscapes json implicitKey indent fuel (i + 2) start out
      else rewriteEscapes json implicitKey indent fuel (i + 1) start out

/-- The context a scalar is written in: the indentation of its lines, whether it is an implicit
key, and the column its first line starts at, if known. -/
structure ScalarPlace where
  indent : Nat
  implicitKey : Bool
  indentAtStart : Option Nat

/-- The indentation quoted text uses: the place's, or two spaces when there is none and the text
has a document marker. -/
def quoteIndent (place : ScalarPlace) (value : Text) : Nat :=
  if place.indent == 0 then (if hasDocumentMarker value then 2 else 0) else place.indent

/-- A text in double quotes: its JSON literal with YAML's escapes, folded unless it is a key. -/
def doubleQuoted (place : ScalarPlace) (value : Text) : Text :=
  let json := (Json.quote value).toArray
  let indent := quoteIndent place value
  let (start, out) := rewriteEscapes json place.implicitKey (spaces indent) (json.size + 1) 0 0 []
  let str := if start == 0 then json.toList else out ++ sliceAt json start json.size
  if place.implicitKey then str else foldLines str indent .quoted place.indentAtStart

/-- Whether a text has a blank before or after a line break, which single quotes cannot keep. -/
def hasBlankAtBreak (t : Text) : Bool :=
  (t.zip (t.drop 1)).any fun (a, b) =>
    ((a == 0x20 || a == 0x09) && b == 0x0A) || (a == 0x0A && (b == 0x20 || b == 0x09))

/-- Each run of line breaks followed by one more break and the indentation. -/
def indentBreaks (indent : Nat) : Text → Text
  | [] => []
  | 0x0A :: rest =>
    let more := rest.takeWhile (· == 0x0A)
    [0x0A] ++ more ++ [0x0A] ++ spaces indent ++ indentBreaks indent (rest.drop more.length)
  | u :: rest => u :: indentBreaks indent rest
termination_by t => t.length
decreasing_by all_goals simp_all only [List.length_cons, List.length_drop]; omega

/-- A text in single quotes, quotes doubled; double quotes when single quotes cannot hold it. -/
def singleQuoted (place : ScalarPlace) (value : Text) : Text :=
  if (place.implicitKey && value.contains 0x0A) || hasBlankAtBreak value then doubleQuoted place value
  else
    let indent := quoteIndent place value
    let body := indentBreaks indent (value.flatMap fun u => if u == 0x27 then [0x27, 0x27] else [u])
    let res := [0x27] ++ body ++ [0x27]
    if place.implicitKey then res else foldLines res indent .plain place.indentAtStart

/-- A text in quotes: single quotes if it holds a double quote and no single one, else double. -/
def quoted (place : ScalarPlace) (value : Text) : Text :=
  if value.contains 0x22 && !value.contains 0x27 then singleQuoted place value else doubleQuoted place value

/-! ### Plain scalars -/

/-- Whether a unit is one of those a plain scalar may not start with. -/
def isIndicatorStart (u : UInt16) : Bool :=
  (Text.ofString "\n\t ,[]{}#&*!|>'\"%@\x60").contains u

/-- Whether a plain text would not read back as itself: it starts with an indicator, is a lone
`?` or `-` or starts with one and a blank, holds `: `, a break before a blank or after one, or a
`#` after a blank, or ends with a blank or `:`. -/
def needsQuotes (t : Text) : Bool :=
  let pairs := t.zip (t.drop 1)
  let blank (u : UInt16) := u == 0x20 || u == 0x09
  (t.head?.map isIndicatorStart).getD false ||
    t == [0x3F] || t == [0x2D] ||
    (match t with
      | u :: v :: _ => (u == 0x3F || u == 0x2D) && blank v
      | _ => false) ||
    pairs.any (fun (a, b) =>
      ((a == 0x0A || a == 0x3A) && blank b) || (blank a && b == 0x0A) ||
        ((a == 0x0A || blank a) && b == 0x23)) ||
    (t.getLast?.map fun u => u == 0x0A || blank u || u == 0x3A).getD false

/-- Whether a text would read as a value of another type under a version's schema. -/
def readsAsOther (v : Version) (t : Text) : Bool :=
  (v.types.filter fun ty => v.isDefault ty && ty != .str).any (·.accepts t)

/-- A plain text, quoted when it cannot stand plain: it holds a flow indicator, would not read back
as itself, or (for a string) would read as another type. -/
def plain (v : Version) (place : ScalarPlace) (value : Text) (actualString : Bool) : Text :=
  if (place.implicitKey && value.contains 0x0A) || value.any (fun u => (Text.ofString "[]{},").contains u) then
    quoted place value
  else if needsQuotes value then quoted place value
  else if hasDocumentMarker value && place.implicitKey && place.indent == indentStep then quoted place value
  else
    let str := indentBreaks place.indent value
    if actualString && readsAsOther v str then quoted place value
    else if place.implicitKey then str
    else foldLines str place.indent .plain place.indentAtStart

/-- Whether a text holds a control character (other than tab and line feed), a C1 control, or an
unpaired surrogate, which only double quotes can write. -/
def needsDoubleQuotes (t : Text) : Bool :=
  let control (u : UInt16) := u ≤ 0x08 || (0x0B ≤ u && u ≤ 0x1F) || (0x7F ≤ u && u ≤ 0x9F)
  let rec lone : Text → Bool
    | [] => false
    | u :: rest =>
      if Text.isHigh u then
        match rest with
        | v :: rest' => if Text.isLow v then lone rest' else true
        | [] => true
      else Text.isLow u || lone rest
  t.any control || lone t

/-- A string in its style: plain, single or double quotes; block styles cannot stand in flow
and are quoted. -/
def writeString (v : Version) (place : ScalarPlace) (style : ScalarStyle) (value : Text) (actualString : Bool) :
    Text :=
  let style := if style != .doubleQuoted && needsDoubleQuotes value then .doubleQuoted else style
  match style with
  | .literal | .folded => quoted place value
  | .doubleQuoted => doubleQuoted place value
  | .singleQuoted => singleQuoted place value
  | .plain => plain v place value actualString

/-! ### Numbers -/

/-- The digits of a natural number in base `radix` (up to 16), lower-case. -/
def radixText (radix n : Nat) : Text := Text.ofString (String.ofList (Nat.toDigits radix n))

/-- A number with an exponent and the fewest digits that read back: `1e+3`, `1.5e-7`, `0e+0`. -/
def exponentText (x : Double) : Text :=
  match x.shape with
  | .finite neg m q =>
    if m == 0 then Text.ofString "0e+0"
    else
      let (s, e) := Double.shortestDigits m q
      let ds := Text.ofNat s
      let exp : Int := e + ds.length - 1
      (if neg then [0x2D] else []) ++ ds.take 1 ++ (if ds.length > 1 then [0x2E] ++ ds.drop 1 else []) ++
        [0x65] ++ (if exp ≥ 0 then [0x2B] else [0x2D]) ++ Text.ofNat exp.natAbs
  | _ => x.toText

/-- The number a scalar value stands for, as numeric conversion reads it. -/
def numberOf : ScalarValue → Double
  | .num x => x
  | .str s => Double.ofNumberText s
  | .null => Double.zero
  | .bool b => if b then Double.ofNat 1 else Double.zero
  | _ => Double.nan

/-- Whether a scalar value is truthy: not null, false, zero, not-a-number or empty. -/
def truthy : ScalarValue → Bool
  | .null => false
  | .bool b => b
  | .num x => !(x.isNaN || x.isZero)
  | .str s => !s.isEmpty
  | _ => true

/-- A number in decimal: `.nan`, `.inf` and `-.inf` when it is not finite, `-0` for negative zero;
a string value is written as a JSON string.  A float read from a text with trailing fraction
zeros keeps that many fraction digits. -/
def numberText (value : ScalarValue) (format : NumberFormat) (minFractionDigits : Nat)
    (tag : Option Text) : Text :=
  let num := numberOf value
  if num.isNaN then Text.ofString ".nan"
  else if !num.isFinite then Text.ofString (if num.signBit then "-.inf" else ".inf")
  else
    let n := match value with
      | .num x => if x.isZero && x.signBit then Text.ofString "-0" else x.toText
      | .str s => Json.quote s
      | other => other.display
    let floatTag := match tag with
      | none => true
      | some t => t == yamlTag "float"
    if format == .none && minFractionDigits > 0 && floatTag && (n.head?.map Text.isDigit).getD false then
      let (n, point) := match n.idxOf? 0x2E with
        | some i => (n, i)
        | none => (n ++ [0x2E], n.length)
      let shown := n.length - point - 1
      n ++ List.replicate (minFractionDigits - shown) 0x30
    else n

/-- An integer in base `radix` after `pfx`, as the core schema writes octal and hex: only for a
non-negative integer, else in decimal. -/
def coreRadixText (radix : Nat) (pfx : String) (value : ScalarValue) (format : NumberFormat) (mfd : Nat)
    (tag : Option Text) : Text :=
  match value with
  | .num x =>
    match x.toInt? with
    | some n => if n ≥ 0 then Text.ofString pfx ++ radixText radix n.toNat else numberText value format mfd tag
    | none => numberText value format mfd tag
  | _ => numberText value format mfd tag

/-- An integer in base `radix` after `pfx`, as YAML 1.1 writes binary, octal and hex: a negative
one with its sign before the prefix. -/
def radixText11 (radix : Nat) (pfx : String) (value : ScalarValue) (format : NumberFormat) (mfd : Nat)
    (tag : Option Text) : Text :=
  match value with
  | .num x =>
    match x.toInt? with
    | some n =>
      (if n < 0 then [0x2D] else []) ++ Text.ofString pfx ++ radixText radix n.natAbs
    | none => numberText value format mfd tag
  | _ => numberText value format mfd tag

/-- A float with an exponent when it is finite. -/
def exponentFloatText (value : ScalarValue) (format : NumberFormat) (mfd : Nat) (tag : Option Text) : Text :=
  let num := numberOf value
  if num.isFinite then exponentText num else numberText value format mfd tag

/-- Drops a run of six zeros and the digits after it at the end of a text, the noise of a
remainder. -/
def dropZeroNoise (t : Text) : Text :=
  let n := t.length
  match (List.range n).find? fun i =>
      (t.drop i).take 6 == [0x30, 0x30, 0x30, 0x30, 0x30, 0x30] && (t.drop (i + 6)).all Text.isDigit with
  | some i => t.take i
  | none => t

/-- A number in base-60 groups, `1:30:05` for 5405: seconds with their fraction, minutes, and
hours for what is left; each group of at least two digits. -/
def sexagesimalText (value : ScalarValue) (format : NumberFormat) (mfd : Nat) (tag : Option Text) : Text :=
  let num := numberOf value
  match num.shape with
  | .finite neg m q =>
    let sign : Text := if neg && m != 0 then [0x2D] else []
    -- the value is `p / 2^k`
    let (p, k) := if q ≥ 0 then (m * Nat.pow 2 q.toNat, 0) else (m, (-q).toNat)
    let den := Nat.pow 2 k
    let seconds := Double.ofRatio false (p % (60 * den)) den
    let whole := p / (60 * den)
    let pad (t : Text) : Text := if t.length < 2 then List.replicate (2 - t.length) 0x30 ++ t else t
    let partText (x : Double) : Text := pad x.toText
    let parts : List Text :=
      if p < 60 * den then [pad [0x30], partText seconds]
      else if whole < 60 then [partText (Double.ofNat whole), partText seconds]
      else [partText (Double.ofNat (whole / 60)), partText (Double.ofNat (whole % 60)), partText seconds]
    sign ++ dropZeroNoise (Text.join [0x3A] parts)
  | _ => numberText value format mfd tag

/-- A time as a timestamp writes it: ISO text without a zero time of day or zero milliseconds. -/
def timestampText (ms : Int) : Text :=
  let iso := isoText ms
  let dayEnd := Text.ofString "T00:00:00.000Z"
  let msEnd := Text.ofString ".000Z"
  if iso.length ≥ dayEnd.length && iso.drop (iso.length - dayEnd.length) == dayEnd then
    iso.take (iso.length - dayEnd.length)
  else if iso.drop (iso.length - msEnd.length) == msEnd then iso.take (iso.length - msEnd.length)
  else iso

/-! ### Writing nodes -/

/-- How a scalar is written: by one of the schema's scalar types, or as a string that is not
checked against the schema, when its tag names a collection type. -/
inductive Writer where
  | type (ty : ScalarType)
  | collection
deriving DecidableEq

/-- The collection tags of a version's schema. -/
def collectionTags : Version → List Text
  | .v1_2 => [yamlTag "map", yamlTag "seq"]
  | .v1_1 => [yamlTag "map", yamlTag "seq", yamlTag "omap", yamlTag "pairs", yamlTag "set"]

/-- The writers a tag names under a version's schema, in the schema's order. -/
def writersOfTag (v : Version) (tag : Text) : List Writer :=
  if (collectionTags v).contains tag then [.collection]
  else ((v.types ++ v.known).filter (·.tag == tag)).map .type

/-- The writer of a value without a tag that names one: the type that identifies the value's
kind, of several the one of the value's notation, else one without a notation. -/
def identify (v : Version) (value : ScalarValue) (format : NumberFormat) : ScalarType :=
  match value with
  | .str s => if v == .v1_1 && s == [0x3C, 0x3C] then .merge else .str
  | .null => .null
  | .bool b => if v == .v1_1 then (if b then .yes else .no) else .coreBool
  | .num x =>
    let candidates : List ScalarType := match v with
      | .v1_2 =>
        if x.isInteger then
          (if x.lt Double.zero then [.coreInt] else [.coreOctal, .coreInt, .coreHex]) ++
            [.specialFloat, .coreExponent, .corePoint]
        else [.specialFloat, .coreExponent, .corePoint]
      | .v1_1 =>
        if x.isInteger then
          [.binary11, .octal11, .int11, .hex11, .specialFloat, .exponent11, .point11, .sexagesimalInt,
            .sexagesimalFloat]
        else [.specialFloat, .exponent11, .point11, .sexagesimalFloat]
    ((candidates.find? (·.format == format)) <|> (candidates.find? (·.format == .none))).getD .specialFloat
  | .bytes _ => .binary
  | .timestamp _ => .timestamp
  | .mergeKey => .merge

/-- The writer of a scalar: by its explicit tag when the schema knows that tag (the one of its
notation if several), else by its value. -/
def writerOf (v : Version) (value : ScalarValue) (form : ScalarForm) (tag : Option Text) : Writer :=
  let byValue := Writer.type (identify v value form.format)
  match tag with
  | some t =>
    match writersOfTag v t with
    | [] => byValue
    | w :: ws =>
      ((w :: ws).find? fun x =>
        match x with
        | .type ty => ty.format == form.format
        | .collection => form.format == .none).getD w
  | none => byValue

/-- Whether a writer's type is used without a tag, so that its tag need not be written. -/
def Writer.isDefault (v : Version) : Writer → Bool
  | .type ty => v.isDefault ty
  | .collection => true

/-- A tag as written: the first handle whose prefix starts it and the rest with `!`, `,` and
brackets escaped; a tag no handle covers as itself when it starts with `!`, else as `!<tag>`. -/
def tagText (handles : List (Text × Text)) (tag : Text) : Text :=
  let escape (u : UInt16) : Text :=
    if u == 0x21 then Text.ofString "%21" else if u == 0x2C then Text.ofString "%2C"
    else if u == 0x5B then Text.ofString "%5B" else if u == 0x5D then Text.ofString "%5D"
    else if u == 0x7B then Text.ofString "%7B" else if u == 0x7D then Text.ofString "%7D" else [u]
  match handles.find? fun (_, pfx) => tag.take pfx.length == pfx with
  | some (h, pfx) => h ++ (tag.drop pfx.length).flatMap escape
  | none => if tag.head? == some 0x21 then tag else Text.ofString "!<" ++ tag ++ [0x3E]

/-- Whether an anchor or alias name can be written: no control character below U+001A, no white
space, no comma or bracket. -/
def isAnchorName (a : Text) : Bool :=
  !a.any fun u =>
    u ≤ 0x19 || u == 0x20 || u == 0x2C || u == 0x5B || u == 0x5D || u == 0x7B || u == 0x7D ||
      Text.isBlank u

/-- The error of a name that cannot be written as an anchor. -/
def anchorError (a : Text) : Text :=
  Text.ofString "Anchor must not contain whitespace or control characters: " ++ Json.quote a

/-- What writing a node in flow style knows: the document's version and tag handles, the
indentation of the lines it starts, whether it writes an implicit key, whether the mapping it
writes a pair of has no values, and the column its first line starts at, if known. -/
structure Context where
  version : Version
  handles : List (Text × Text)
  indent : Nat := 0
  implicitKey : Bool := false
  allNullValues : Bool := false
  indentAtStart : Option Nat := none

/-- Where a context writes a scalar. -/
def Context.place (ctx : Context) : ScalarPlace := ⟨ctx.indent, ctx.implicitKey, ctx.indentAtStart⟩

/-- Base64 text in lines of the width left at an indentation, joined by line breaks for a
literal block and by spaces otherwise; in one piece for double quotes. -/
def binaryText (ctx : Context) (style : ScalarStyle) (bytes : List UInt8) : Text :=
  let str := Base64.encode bytes
  if style == .doubleQuoted then str
  else
    let width := max (lineWidth - ctx.indent) minContentWidth
    let rec chunks : Nat → Text → List Text
      | 0, _ => []
      | fuel + 1, t => if t.isEmpty then [] else t.take width :: chunks fuel (t.drop width)
    Text.join (if style == .literal then [0x0A] else [0x20]) (chunks str.length str)

/-- A scalar's text by its writer. -/
def scalarText (ctx : Context) (w : Writer) (value : ScalarValue) (form : ScalarForm) (tag : Option Text) : Text :=
  let v := ctx.version
  let fmt := form.format
  let mfd := form.minFractionDigits
  match w with
  | .collection => writeString v ctx.place form.style value.display false
  | .type ty =>
    match ty with
    | .str => writeString v ctx.place form.style value.display true
    | .null => if isNullText form.source then form.source else Text.ofString "null"
    | .coreBool =>
      let sourceValue := form.source.head? == some 0x74 || form.source.head? == some 0x54
      let same := match value with
        | .bool b => b == sourceValue
        | _ => false
      if isBoolText form.source && same then form.source
      else Text.ofString (if truthy value then "true" else "false")
    | .yes | .no =>
      let test := if truthy value then isYesText else isNoText
      if test form.source then form.source else Text.ofString (if truthy value then "true" else "false")
    | .coreOctal => coreRadixText 8 "0o" value fmt mfd tag
    | .coreHex => coreRadixText 16 "0x" value fmt mfd tag
    | .binary11 => radixText11 2 "0b" value fmt mfd tag
    | .octal11 => radixText11 8 "0" value fmt mfd tag
    | .hex11 => radixText11 16 "0x" value fmt mfd tag
    | .coreExponent | .exponent11 => exponentFloatText value fmt mfd tag
    | .sexagesimalInt | .sexagesimalFloat => sexagesimalText value fmt mfd tag
    | .binary =>
      match value with
      | .bytes b => writeString v ctx.place form.style (binaryText ctx form.style b) false
      | other => writeString v ctx.place form.style other.display false
    | .merge => [0x3C, 0x3C]
    | .timestamp =>
      match value with
      | .timestamp ms => timestampText ms
      | other => other.display
    | .coreInt | .int11 | .specialFloat | .corePoint | .point11 => numberText value fmt mfd tag

/-- An item of a flow collection: a node, or a pair as the entries of ordered maps and lists of
pairs are written. -/
inductive Item where
  | node (n : Node)
  | pair (key : Node) (value : Option Node)

/-- Adds a line before a text, on a new line if it has one. -/
def prependLine (before mine : Text) : Text :=
  if before.isEmpty then mine else if mine.isEmpty then before else before ++ [0x0A] ++ mine

/-- An item of an ordered map or list of pairs as the pair it stands for: a mapping's first pair
(a null key when it is empty), its comments moved to the key and value; any other node is a key
without a value. -/
def pairItem (n : Node) : Item :=
  match n with
  | .map pairs _ p r =>
    let (k, v) := match pairs with
      | (k, v) :: _ => (k, v)
      | [] => (Node.scalar .null ⟨Text.ofString "null", .plain, .none, 0⟩ {} r, none)
    let k := k.modifyProps fun q => { q with commentBefore := prependLine p.commentBefore q.commentBefore }
    if p.comment.isEmpty then .pair k v
    else
      match v with
      | some vn => .pair k (some (vn.modifyProps fun q => { q with comment := prependLine p.comment q.comment }))
      | none => .pair (k.modifyProps fun q => { q with comment := prependLine p.comment q.comment }) none
  | n => .pair n none

/-- The line a comment before an item takes in a collection at indentation `indent`. -/
def commentLine (indent : Nat) (comment : Text) : Text :=
  (indentComment (commentText comment) indent).dropWhile fun u =>
    u == 0x20 || u == 0x09 || u == 0x0A || u == 0x0D || Text.isBlank u

/-- Whether a value's text starting with properties has them on a line of their own: it holds a
line break before the space that ends its anchor (and tag). -/
def hasPropsLine (valueStr : Text) : Bool :=
  match valueStr.idxOf? 0x0A with
  | none => false
  | some nl0 =>
    match valueStr.head? with
    | some 0x26 | some 0x21 =>
      let sp0 := valueStr.idxOf? 0x20
      let sp0 := match sp0 with
        | some sp =>
          if valueStr.head? == some 0x26 && sp < nl0 && valueStr[sp + 1]? == some 0x21 then
            ((valueStr.drop (sp + 1)).idxOf? 0x20).map (· + sp + 1)
          else some sp
        | none => none
      match sp0 with
      | none => true
      | some sp => nl0 < sp
    | _ => false

mutual

/-- Writes a node in a context: an alias as `*name`; any other node with its anchor and tag
before it.  Gives the text and the column the context's next item starts at, which properties
move on. -/
def writeNode : Nat → Context → Node → Except Text (Text × Option Nat)
  | 0, ctx, _ => .ok ([], ctx.indentAtStart)
  | fuel + 1, ctx, n =>
    match n with
    | .aliasRef name _ _ =>
      if !isAnchorName name then .error (anchorError name)
      else .ok ([0x2A] ++ name ++ (if ctx.implicitKey then [0x20] else []), ctx.indentAtStart)
    | _ => do
      let p := n.props
      let w := match n with
        | .scalar value form _ _ => writerOf ctx.version value form p.tag
        | _ => .collection
      let anchorPart ← match p.anchor with
        | some a => if isAnchorName a then pure [[0x26] ++ a] else .error (anchorError a)
        | none => pure []
      let tag := match p.tag with
        | some t => some t
        | none =>
          match w with
          | .type ty => if w.isDefault ctx.version then none else some ty.tag
          | .collection => none
      let props := Text.join [0x20] (anchorPart ++ (tag.map (tagText ctx.handles)).toList)
      let ias := if props.isEmpty then ctx.indentAtStart else some (ctx.indentAtStart.getD 0 + props.length + 1)
      let ctx := { ctx with indentAtStart := ias }
      let str ← match n with
        | .scalar value form _ _ => pure (scalarText ctx w value form p.tag)
        | .map pairs kind _ _ => writeMap fuel ctx pairs kind
        | .seq items kind _ _ => writeSeq fuel ctx items kind
        | .aliasRef .. => pure []
      .ok (if props.isEmpty then str else props ++ [0x20] ++ str, ias)

/-- Writes a mapping: a set, or a mapping none of whose keys has a value, writes keys alone. -/
def writeMap : Nat → Context → List (Node × Option Node) → CollectionKind → Except Text Text
  | 0, _, _, _ => .ok []
  | fuel + 1, ctx, pairs, kind =>
    let allNull := ctx.allNullValues || kind == .set || pairs.all (·.2.isNone)
    writeItems fuel { ctx with allNullValues := allNull } (pairs.map fun (k, v) => .pair k v) [0x7B] [0x7D]
      ctx.indent

/-- Writes a sequence: the entries of an ordered map or list of pairs as pairs. -/
def writeSeq : Nat → Context → List Node → CollectionKind → Except Text Text
  | 0, _, _, _ => .ok []
  | fuel + 1, ctx, items, kind =>
    let asItems := if kind == .orderedMap || kind == .pairs then items.map pairItem else items.map .node
    writeItems fuel ctx asItems [0x5B] [0x5D] (ctx.indent + indentStep)

/-- Writes the items of a flow collection between its brackets: on one line when no item has a
comment or a line break and the line fits, else one item a line. -/
def writeItems : Nat → Context → List Item → Text → Text → Nat → Except Text Text
  | 0, _, _, _, _, _ => .ok []
  | fuel + 1, ctx, items, opening, closing, itemIndent => do
    let itemIndent := itemIndent + indentStep
    let itemCtx := { ctx with indent := itemIndent }
    let count := items.length
    let step (acc : Bool × Nat × Array Text × Option Nat) (entry : Item × Nat) :
        Except Text (Bool × Nat × Array Text × Option Nat) := do
      let (reqNewline, linesAtValue, lines, ias) := acc
      let (item, i) := entry
      let (lines, reqNewline, comment) : Array Text × Bool × Text := match item with
        | .node n =>
          let p := n.props
          let lines := if p.spaceBefore then lines.push [] else lines
          let lines := if p.commentBefore.isEmpty then lines else lines.push (commentLine ctx.indent p.commentBefore)
          (lines, reqNewline, p.comment)
        | .pair k v =>
          let kp := k.props
          let lines := if kp.spaceBefore then lines.push [] else lines
          let lines := if kp.commentBefore.isEmpty then lines else lines.push (commentLine ctx.indent kp.commentBefore)
          let reqNewline := reqNewline || !kp.comment.isEmpty
          match v with
          | some vn => (lines, reqNewline || !vn.props.commentBefore.isEmpty, vn.props.comment)
          | none => (lines, reqNewline, kp.comment)
      let reqNewline := reqNewline || !comment.isEmpty
      let (str, ias) ← match item with
        | .node n => writeNode fuel { itemCtx with indentAtStart := ias } n
        | .pair k v => do
          let s ← writePair fuel { itemCtx with indentAtStart := ias } k v
          pure (s, ias)
      let str := if i + 1 < count then str ++ [0x2C] else str
      let str := if comment.isEmpty then str else str ++ lineComment str itemIndent (commentText comment)
      let reqNewline := reqNewline || lines.size > linesAtValue || str.contains 0x0A
      let lines := lines.push str
      pure (reqNewline, lines.size, lines, ias)
    let (reqNewline, _, lines, _) ← (items.zipIdx).foldlM step (false, 0, #[], ctx.indentAtStart)
    if lines.isEmpty then pure (opening ++ closing)
    else
      let width := lines.foldl (fun acc l => acc + l.length + 2) 2
      if reqNewline || width > lineWidth then
        let body := lines.toList.flatMap fun l =>
          if l.isEmpty then [0x0A] else [0x0A] ++ spaces (indentStep + ctx.indent) ++ l
        pure (opening ++ body ++ [0x0A] ++ spaces ctx.indent ++ closing)
      else pure (opening ++ [0x20] ++ Text.join [0x20] lines.toList ++ [0x20] ++ closing)

/-- Writes a pair: `key: value`, a key alone when there is no value or the mapping has none, and
`? key` with the value on the next line when the key is a collection, a block scalar or an
alias. -/
def writePair : Nat → Context → Node → Option Node → Except Text Text
  | 0, _, _, _ => .ok []
  | fuel + 1, ctx, key, value => do
    let keyComment := key.props.comment
    let explicitKey := match key with
      | .map .. | .seq .. | .aliasRef .. => true
      | .scalar _ form _ _ => form.style == .literal || form.style == .folded
    let pctx := { ctx with allNullValues := false, implicitKey := !explicitKey && !ctx.allNullValues,
                           indent := ctx.indent + indentStep }
    let (str, ias) ← writeNode fuel pctx key
    match value with
    | none => pure (if str.isEmpty then [0x3F] else if explicitKey then [0x3F, 0x20] ++ str else str)
    | some vn =>
      if ctx.allNullValues then
        pure (if str.isEmpty then [0x3F] else if explicitKey then [0x3F, 0x20] ++ str else str)
      else
        let str := if explicitKey then
            let s := if keyComment.isEmpty then str
              else str ++ lineComment str pctx.indent (commentText keyComment)
            [0x3F, 0x20] ++ s ++ [0x0A] ++ spaces ctx.indent ++ [0x3A]
          else
            let s := str ++ [0x3A]
            if keyComment.isEmpty then s else s ++ lineComment s pctx.indent (commentText keyComment)
        let vp := vn.props
        let ias := if !explicitKey && keyComment.isEmpty && vn.isScalar then some (str.length + 1) else ias
        let vctx := { pctx with implicitKey := false, indentAtStart := ias }
        let (valueStr, _) ← writeNode fuel vctx vn
        let ws : Text :=
          if !keyComment.isEmpty || vp.spaceBefore || !vp.commentBefore.isEmpty then
            let ws : Text := if vp.spaceBefore then [0x0A] else []
            let ws := if vp.commentBefore.isEmpty then ws
              else ws ++ [0x0A] ++ indentComment (commentText vp.commentBefore) vctx.indent
            ws ++ [0x0A] ++ spaces vctx.indent
          else if !explicitKey && vn.isCollection then
            if valueStr.contains 0x0A && !hasPropsLine valueStr then [0x0A] ++ spaces vctx.indent else [0x20]
          else if valueStr.isEmpty || valueStr.head? == some 0x0A then []
          else [0x20]
        pure (str ++ ws ++ valueStr)

end

/-- The text of a collection used as a mapping key: the collection in flow style without its own
anchor and tag, under the document's version and tag handles.  `fuel` bounds the depth. -/
def keyText (fuel : Nat) (v : Version) (handles : List (Text × Text)) (n : Node) : Except Text Text :=
  let ctx : Context := { version := v, handles }
  match n with
  | .map pairs kind _ _ => writeMap fuel ctx pairs kind
  | .seq items kind _ _ => writeSeq fuel ctx items kind
  | .aliasRef name _ _ => if isAnchorName name then .ok ([0x2A] ++ name) else .error (anchorError name)
  | .scalar value .. => .ok value.display

end Flow

end Yaml

end LogRouter
