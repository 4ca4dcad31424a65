import LogRouter.Text.Basic

/-!
YAML lexing: cutting the source into lexemes.

The lexer walks the source once, keeping the little context that YAML's layout needs: whether it
is inside a flow collection (and how deep), whether a `:` there would close an implicit key, the
indentation of the current line and the indentation a continuation line needs.  It emits pieces of
the source in order, so that the pieces, without the three marks, spell the source again; the
marks tell the parser that a document starts, that a flow collection was cut short by a line
indented too little, and that the next piece is the text of a scalar.

Plain scalars run over line breaks while the next line is indented enough; quoted scalars run to
their closing quote unless a line inside them is indented too little; block scalars take every
line indented at least as much as their first non-empty one, and leave trailing empty lines to
the next token unless the header keeps them.
-/

namespace LogRouter

namespace Yaml

/-- A piece of the source as the lexer cuts it, or one of three marks that carry no text. -/
inductive Lexeme where
  /-- a document starts here without a `---` -/
  | documentMark
  /-- a flow collection ends here because a line was indented too little -/
  | flowEndMark
  /-- the next piece is the text of a scalar -/
  | scalarMark
  | piece (text : Text)
deriving Inhabited, Repr, DecidableEq

/-- What the lexer expects next: a line outside any document content, document content, or the
inside of a flow collection. -/
inductive LexMode where
  | stream
  | doc
  | flow
deriving Inhabited, DecidableEq

/-- Whether a unit is blank for YAML's layout: space, tab or a line break. -/
def isBlankUnit (u : UInt16) : Bool := u == 0x20 || u == 0x0A || u == 0x0D || u == 0x09

/-- Whether the source ends here or has a blank unit here. -/
def isEmptyAt : Option UInt16 → Bool
  | none => true
  | some u => isBlankUnit u

/-- Whether a unit is a flow indicator: `,`, `[`, `]`, `{` or `}`. -/
def isFlowIndicator : Option UInt16 → Bool
  | some u => u == 0x2C || u == 0x5B || u == 0x5D || u == 0x7B || u == 0x7D
  | none => false

/-- Whether a unit cannot be part of an anchor or alias name. -/
def isNotAnchorUnit : Option UInt16 → Bool
  | none => true
  | some u => isBlankUnit u || isFlowIndicator (some u)

/-- Whether a unit may appear in a tag. -/
def isTagUnit (u : UInt16) : Bool :=
  Text.isAsciiLetter u || Text.isDigit u ||
    (Text.ofString "-#;/?:@&=+$_.!~*'()").contains u

/-- Whether a unit is a hexadecimal digit. -/
def isHexUnit : Option UInt16 → Bool
  | some u => Text.isDigit u || (0x41 ≤ u && u ≤ 0x46) || (0x61 ≤ u && u ≤ 0x66)
  | none => false

/-- The lexer's state: the source, the position, the layout context and the lexemes so far. -/
structure Lexer where
  src : Array UInt16
  pos : Nat := 0
  flowKey : Bool := false
  flowLevel : Nat := 0
  indentNext : Nat := 0
  indentValue : Nat := 0
  /-- the indentation a block scalar header asks for, less one -/
  scalarIndent : Option Nat := none
  /-- whether a block scalar header keeps trailing empty lines -/
  scalarKeep : Bool := false
  out : Array Lexeme := #[]
deriving Inhabited

namespace Lexer

/-- The unit at an index of the source. -/
def unitAt (l : Lexer) (i : Nat) : Option UInt16 := l.src[i]?

/-- The unit at a signed index; none before the start. -/
def atInt (l : Lexer) (i : Int) : Option UInt16 := if i < 0 then none else l.src[i.toNat]?

/-- The unit `n` places after the position. -/
def charAt (l : Lexer) (n : Nat) : Option UInt16 := l.src[l.pos + n]?

/-- The units between two indices. -/
def slice (l : Lexer) (a b : Nat) : Text := (l.src.extract a b).toList

/-- How many units equal to `u` stand right before index `i`. -/
def runBefore (l : Lexer) (u : UInt16) : Nat → Nat
  | 0 => 0
  | i + 1 => if l.unitAt i == some u then runBefore l u i + 1 else 0

/-- Emits a piece of text. -/
def emit (l : Lexer) (t : Text) : Lexer := { l with out := l.out.push (.piece t) }

/-- Emits a mark. -/
def mark (l : Lexer) (m : Lexeme) : Lexer := { l with out := l.out.push m }

/-- The first index from `i` on whose unit fails `keep`, or the end. -/
def scanWhile (l : Lexer) (keep : UInt16 → Bool) (i : Nat) : Nat :=
  go (l.src.size + 1) i
where
  go : Nat → Nat → Nat
    | 0, i => i
    | fuel + 1, i =>
      match l.src[i]? with
      | some u => if keep u then go fuel (i + 1) else i
      | none => i

/-- The first index of a unit from `i` on, if any. -/
def indexOf (l : Lexer) (u : UInt16) (i : Nat) : Option Nat :=
  let j := l.scanWhile (· != u) i
  if j < l.src.size then some j else none

/-- Emits the next `n` units and moves past them. -/
def pushCount (l : Lexer) (n : Nat) : Lexer × Nat :=
  if n > 0 then ({ l.emit (l.slice l.pos (l.pos + n)) with pos := l.pos + n }, n) else (l, 0)

/-- Emits the units up to index `i`; an empty piece only when `allowEmpty`. -/
def pushToIndex (l : Lexer) (i : Nat) (allowEmpty : Bool) : Lexer × Nat :=
  let e := min i l.src.size
  if l.pos < e then ({ l.emit (l.slice l.pos e) with pos := e }, e - l.pos)
  else (if allowEmpty then l.emit [] else l, 0)

/-- Emits a run of spaces (and tabs, when allowed). -/
def pushSpaces (l : Lexer) (allowTabs : Bool) : Lexer × Nat :=
  let i := l.scanWhile (fun u => u == 0x20 || (allowTabs && u == 0x09)) l.pos
  l.pushToIndex i false

/-- Emits units up to the first one that passes `stop` (the end passes). -/
def pushUntil (l : Lexer) (stop : Option UInt16 → Bool) : Lexer × Nat :=
  l.pushToIndex (l.scanWhile (fun u => !stop (some u)) l.pos) false

/-- Emits a line break, if one is here. -/
def pushNewline (l : Lexer) : Lexer × Nat :=
  match l.charAt 0 with
  | some 0x0A => l.pushCount 1
  | some 0x0D => if l.charAt 1 == some 0x0A then l.pushCount 2 else (l, 0)
  | _ => (l, 0)

/-- The current line, from the position to its line break (a carriage return before the line
feed excluded): its start and length. -/
def getLine (l : Lexer) : Nat × Nat :=
  match l.indexOf 0x0A l.pos with
  | some e =>
    let e := if e > l.pos && l.unitAt (e - 1) == some 0x0D then e - 1 else e
    (l.pos, e - l.pos)
  | none => (l.pos, l.src.size - l.pos)

/-- The unit at index `k` of a line. -/
def lineAt (l : Lexer) (line : Nat × Nat) (k : Nat) : Option UInt16 :=
  if k < line.2 then l.unitAt (line.1 + k) else none

/-- Whether the rest of the line is blank or a comment. -/
def atLineEnd (l : Lexer) : Bool :=
  let i := l.scanWhile (fun u => u == 0x20 || u == 0x09) l.pos
  match l.unitAt i with
  | none => true
  | some 0x23 => true
  | some 0x0A => true
  | some 0x0D => l.unitAt (i + 1) == some 0x0A
  | _ => false

/-- Whether three units from `i` are `---` or `...` followed by a blank or the end. -/
def markerAt (l : Lexer) (i : Nat) : Bool :=
  let three (u : UInt16) := l.unitAt i == some u && l.unitAt (i + 1) == some u && l.unitAt (i + 2) == some u
  (three 0x2D || three 0x2E) && isEmptyAt (l.unitAt (i + 3))

/-- Where a scalar may continue after the line break before `offset`: the index of its next
content, or none when the next line ends the scalar (indented too little, or a document
marker at the left margin). -/
def continueScalar (l : Lexer) (offset : Nat) : Option Nat :=
  if l.indentNext > 0 then
    let indent := l.scanWhile (· == 0x20) offset - offset
    let ch := l.unitAt (offset + indent)
    if ch == some 0x0D && l.unitAt (offset + indent + 1) == some 0x0A then some (offset + indent + 1)
    else if ch == some 0x0A || indent ≥ l.indentNext then some (offset + indent)
    else none
  else if l.markerAt offset then none
  else some offset

/-- The end of a tag's name from `i`: tag units and `%` escapes. -/
def tagEnd (l : Lexer) : Nat → Nat → Nat
  | 0, i => i
  | fuel + 1, i =>
    match l.unitAt i with
    | some u =>
      if isTagUnit u then tagEnd l fuel (i + 1)
      else if u == 0x25 && isHexUnit (l.unitAt (i + 1)) && isHexUnit (l.unitAt (i + 2)) then tagEnd l fuel (i + 3)
      else i
    | none => i

/-- Emits a tag: `!<...>` up to its `>`, or `!` and its name. -/
def pushTag (l : Lexer) : Lexer × Nat :=
  if l.charAt 1 == some 0x3C then
    let i := l.scanWhile (fun u => !isBlankUnit u && u != 0x3E) (l.pos + 2)
    l.pushToIndex (if l.unitAt i == some 0x3E then i + 1 else i) false
  else l.pushToIndex (l.tagEnd l.src.size (l.pos + 1)) false

/-- Emits the node properties and indicators at the position: tags, anchors, and `-`, `?`, `:`
followed by a blank (or, in a flow collection, by a flow indicator), with the spaces after each. -/
def pushIndicators : Nat → Lexer → Lexer × Nat
  | 0, l => (l, 0)
  | fuel + 1, l =>
    let more (l : Lexer) (a : Nat) : Lexer × Nat :=
      let (l, b) := l.pushSpaces true
      let (l, c) := pushIndicators fuel l
      (l, a + b + c)
    match l.charAt 0 with
    | some 0x21 => let (l, a) := l.pushTag; more l a
    | some 0x26 => let (l, a) := l.pushUntil isNotAnchorUnit; more l a
    | some u =>
      if u == 0x2D || u == 0x3F || u == 0x3A then
        let inFlow := l.flowLevel > 0
        let ch1 := l.charAt 1
        if isEmptyAt ch1 || (inFlow && isFlowIndicator ch1) then
          let l := if !inFlow then { l with indentNext := l.indentValue + 1 }
            else if l.flowKey then { l with flowKey := false } else l
          let (l, a) := l.pushCount 1
          more l a
        else (l, 0)
      else (l, 0)
    | none => (l, 0)

/-- After the indentation of a line: block sequence entries and explicit keys and values, each
adding to the indentation. -/
def parseBlockStart : Nat → Lexer → Lexer × LexMode
  | 0, l => (l, .doc)
  | fuel + 1, l =>
    let ch0 := l.charAt 0
    if (ch0 == some 0x2D || ch0 == some 0x3F || ch0 == some 0x3A) && isEmptyAt (l.charAt 1) then
      let (l, a) := l.pushCount 1
      let (l, b) := l.pushSpaces true
      parseBlockStart fuel { l with indentNext := l.indentValue + 1, indentValue := l.indentValue + a + b }
    else (l, .doc)

/-- The start of a line: a document marker, or the indentation and then block indicators. -/
def parseLineStart (l : Lexer) : Lexer × LexMode :=
  let ch := l.charAt 0
  if (ch == some 0x2D || ch == some 0x2E) && l.markerAt l.pos then
    let (l, _) := l.pushCount 3
    ({ l with indentValue := 0, indentNext := 0 }, if ch == some 0x2D then .doc else .stream)
  else
    let (l, n) := l.pushSpaces false
    let l := { l with indentValue := n }
    let l := if l.indentNext > l.indentValue && !isEmptyAt (l.charAt 1) then { l with indentNext := l.indentValue } else l
    parseBlockStart l.src.size l

/-- A line outside any document content: a byte order mark, a directive, a blank or comment line,
or the start of a document. -/
def parseStream (l : Lexer) : Lexer × LexMode :=
  let l := if l.charAt 0 == some 0xFEFF then (l.pushCount 1).1 else l
  let line := l.getLine
  if l.lineAt line 0 == some 0x25 then
    -- a directive line, up to a comment after a blank
    let hashes := (List.range line.2).filter fun k =>
      l.lineAt line k == some 0x23 && k > 0 && (l.lineAt line (k - 1) == some 0x20 || l.lineAt line (k - 1) == some 0x09)
    let dirEnd := match hashes with
      | k :: _ => k - 1
      | [] => line.2
    let trimmed := (List.range dirEnd).reverse.find? (fun k => !(l.lineAt line k == some 0x20 || l.lineAt line k == some 0x09))
    let dirEnd := match trimmed with
      | some k => k + 1
      | none => 0
    let (l, a) := l.pushCount dirEnd
    let (l, b) := l.pushSpaces true
    let (l, _) := l.pushCount (line.2 - (a + b))
    (l, .stream)
  else if l.atLineEnd then
    let (l, sp) := l.pushSpaces true
    let (l, _) := l.pushCount (line.2 - sp)
    let (l, _) := l.pushNewline
    (l, .stream)
  else (l.mark .documentMark).parseLineStart

/-- The quoted scalar at the position, up to its closing quote (a doubled single quote or an
escaped double quote does not close), cut short before a line indented too little. -/
def parseQuotedScalar (l : Lexer) : Lexer × LexMode :=
  let quote := (l.charAt 0).getD 0x22
  let rec closeSingle : Nat → Option Nat → Option Nat
    | 0, e => e
    | fuel + 1, some e => if l.unitAt (e + 1) == some 0x27 then closeSingle fuel (l.indexOf 0x27 (e + 2)) else some e
    | _ + 1, none => none
  let rec closeDouble : Nat → Option Nat → Option Nat
    | 0, e => e
    | fuel + 1, some e =>
      let backslashes := l.runBefore 0x5C e
      if backslashes % 2 == 0 then some e else closeDouble fuel (l.indexOf 0x22 (e + 1))
    | _ + 1, none => none
  let first := l.indexOf quote (l.pos + 1)
  let close := if quote == 0x27 then closeSingle l.src.size first else closeDouble l.src.size first
  -- a line break inside the quotes where the scalar cannot continue cuts it short
  let limit := close.getD 0
  let newlineBefore (i : Nat) : Option Nat := (l.indexOf 0x0A i).filter (· < limit)
  let rec follow : Nat → Option Nat → Option Nat
    | 0, nl => nl
    | fuel + 1, some nl =>
      match l.continueScalar (nl + 1) with
      | none => some nl
      | some cs => follow fuel (newlineBefore cs)
    | _ + 1, none => none
  let close := match follow l.src.size (newlineBefore l.pos) with
    | some nl => some (nl - (if l.unitAt (nl - 1) == some 0x0D then 2 else 1))
    | none => close
  let stop := match close with
    | some e => e + 1
    | none => l.src.size
  let (l, _) := l.pushToIndex stop false
  (l, if l.flowLevel > 0 then .flow else .doc)

/-- Reads a block scalar header's indicators, then emits the header up to a blank or comment. -/
def parseBlockScalarHeader (l : Lexer) : Lexer × Nat :=
  let rec read : Nat → Nat → Lexer → Lexer
    | 0, _, l => l
    | fuel + 1, i, l =>
      match l.unitAt i with
      | some 0x2B => read fuel (i + 1) { l with scalarKeep := true }
      | some 0x2D => read fuel (i + 1) l
      | some u =>
        if 0x31 ≤ u && u ≤ 0x39 then read fuel (i + 1) { l with scalarIndent := some (u.toNat - 0x31) }
        else l
      | none => l
  let l := read l.src.size (l.pos + 1) { l with scalarIndent := none, scalarKeep := false }
  l.pushUntil fun u => isEmptyAt u || u == some 0x23

/-- The blank prefix of a block scalar: the index of the last line break in it (or the position
less one) and the indentation after it. -/
def blankPrefix (l : Lexer) : Nat → Nat → Int → Nat → Int × Nat
  | 0, _, nl, indent => (nl, indent)
  | fuel + 1, i, nl, indent =>
    match l.unitAt i with
    | some 0x20 => blankPrefix l fuel (i + 1) nl (indent + 1)
    | some 0x0A => blankPrefix l fuel (i + 1) i 0
    | some 0x0D => if l.unitAt (i + 1) == some 0x0A then blankPrefix l fuel (i + 1) nl indent else (nl, indent)
    | _ => (nl, indent)

/-- Follows the lines of a block scalar while they may continue it: the last line break taken,
or none when the source ends inside the scalar. -/
def followLines (l : Lexer) : Nat → Int → Option Int
  | 0, nl => some nl
  | fuel + 1, nl =>
    match l.continueScalar (nl + 1).toNat with
    | none => some nl
    | some cs =>
      match l.indexOf 0x0A cs with
      | some k => followLines l fuel k
      | none => none

/-- Drops trailing lines of a block scalar that are not more indented than `indent`. -/
def dropTrailing (l : Lexer) (indent : Nat) : Nat → Int → Int
  | 0, nl => nl
  | fuel + 1, nl =>
    let i := nl - 1
    let i := if l.atInt i == some 0x0D then i - 1 else i
    let lastChar := i
    let spaces := l.runBefore 0x20 (i + 1).toNat
    let i := i - spaces
    if l.atInt i == some 0x0A && i ≥ l.pos && i + 1 + indent > lastChar then dropTrailing l indent fuel i
    else nl

/-- The text of a block scalar after its header line. -/
def parseBlockScalar (l : Lexer) : Lexer × LexMode :=
  let (nl, indent) := l.blankPrefix l.src.size l.pos ((l.pos : Int) - 1) 0
  let (l, nl) :=
    if indent ≥ l.indentNext then
      let l := match l.scalarIndent with
        | none => { l with indentNext := indent }
        | some k => { l with indentNext := k + (if l.indentNext == 0 then 1 else l.indentNext) }
      match l.followLines l.src.size nl with
      | some k => (l, k)
      | none => (l, (l.src.size : Int))
    else (l, nl)
  let afterSpaces := l.scanWhile (· == 0x20) (nl + 1).toNat
  let nl :=
    if l.unitAt afterSpaces == some 0x09 then
      ((l.scanWhile (fun u => u == 0x09 || u == 0x20 || u == 0x0D || u == 0x0A) afterSpaces : Nat) : Int) - 1
    else if !l.scalarKeep then l.dropTrailing indent l.src.size nl
    else nl
  let l := l.mark .scalarMark
  let (l, _) := l.pushToIndex (nl + 1).toNat true
  l.parseLineStart

/-- The end of a plain scalar from the position: where it stops, less one. -/
def plainEnd (l : Lexer) (inFlow : Bool) : Nat → Nat → Int → Int
  | 0, _, e => e
  | fuel + 1, i, e =>
    match l.unitAt i with
    | none => e
    | some ch =>
      if ch == 0x3A then
        let next := l.unitAt (i + 1)
        if isEmptyAt next || (inFlow && isFlowIndicator next) then e else plainEnd l inFlow fuel (i + 1) i
      else if isBlankUnit ch then
        let (ch, i, e) :=
          if ch == 0x0D then (if l.unitAt (i + 1) == some 0x0A then (0x0A, i + 1, e) else (ch, i, (i : Int)))
          else (ch, i, e)
        let next := l.unitAt (i + 1)
        if next == some 0x23 || (inFlow && isFlowIndicator next) then e
        else if ch == 0x0A then
          match l.continueScalar (i + 1) with
          | none => e
          | some cs => plainEnd l inFlow fuel (max i (cs - 2) + 1) e
        else plainEnd l inFlow fuel (i + 1) e
      else if inFlow && isFlowIndicator (some ch) then e
      else plainEnd l inFlow fuel (i + 1) i

/-- The plain scalar at the position. -/
def parsePlainScalar (l : Lexer) : Lexer × LexMode :=
  let inFlow := l.flowLevel > 0
  let e := l.plainEnd inFlow (l.src.size + 1) l.pos ((l.pos : Int) - 1)
  let l := l.mark .scalarMark
  let (l, _) := l.pushToIndex (e + 1).toNat true
  (l, if inFlow then .flow else .doc)

/-- Document content: properties and indicators, then a comment, a line break, a flow
collection, an alias, or a scalar. -/
def parseDocument (l : Lexer) : Lexer × LexMode :=
  let (l, _) := l.pushSpaces true
  let line := l.getLine
  let (l, n) := pushIndicators l.src.size l
  match l.lineAt line n with
  | some 0x23 =>
    let (l, _) := l.pushCount (line.2 - n)
    let (l, _) := l.pushNewline
    l.parseLineStart
  | none =>
    let (l, _) := l.pushNewline
    l.parseLineStart
  | some 0x7B | some 0x5B =>
    let (l, _) := l.pushCount 1
    ({ l with flowKey := false, flowLevel := 1 }, .flow)
  | some 0x7D | some 0x5D =>
    let (l, _) := l.pushCount 1
    (l, .doc)
  | some 0x2A =>
    let (l, _) := l.pushUntil isNotAnchorUnit
    (l, .doc)
  | some 0x22 | some 0x27 => l.parseQuotedScalar
  | some 0x7C | some 0x3E =>
    let (l, a) := l.parseBlockScalarHeader
    let (l, b) := l.pushSpaces true
    let (l, _) := l.pushCount (line.2 - (n + a + b))
    let (l, _) := l.pushNewline
    l.parseBlockScalar
  | _ => l.parsePlainScalar

/-- Blank space and line breaks inside a flow collection: the indentation of the last line
started, if any. -/
def flowSpaces : Nat → Lexer → Option Nat → Lexer × Option Nat
  | 0, l, indent => (l, indent)
  | fuel + 1, l, indent =>
    let (l, nl) := l.pushNewline
    let (l, sp, indent) :=
      if nl > 0 then
        let (l, sp) := l.pushSpaces false
        ({ l with indentValue := sp }, sp, some sp)
      else (l, 0, indent)
    let (l, sp2) := l.pushSpaces true
    if nl + sp + sp2 > 0 then flowSpaces fuel l indent else (l, indent)

/-- Emits the commas at the start of what is left of a line, with the spaces after each. -/
def pushCommas (line : Nat × Nat) : Nat → Lexer → Nat → Lexer × Nat
  | 0, l, n => (l, n)
  | fuel + 1, l, n =>
    if l.lineAt line n == some 0x2C then
      let (l, a) := l.pushCount 1
      let (l, b) := l.pushSpaces true
      pushCommas line fuel { l with flowKey := false } (n + a + b)
    else (l, n)

/-- Inside a flow collection: a line indented too little ends it; otherwise commas, properties,
nested collections, closing brackets, aliases, `:` and scalars. -/
def parseFlowCollection (l : Lexer) : Lexer × LexMode :=
  let (l, indent) := flowSpaces l.src.size l none
  let line := l.getLine
  let line0 := l.lineAt line 0
  let short := match indent with
    | some i => i < l.indentNext && line0 != some 0x23
    | none => false
  let marker := indent == some 0 && l.markerAt l.pos
  let atFlowEndMarker := l.indentNext ≥ 1 && indent == some (l.indentNext - 1) && l.flowLevel == 1 &&
    (line0 == some 0x5D || line0 == some 0x7D)
  if (short || marker) && !atFlowEndMarker then
    ({ l with flowLevel := 0 }.mark .flowEndMark).parseLineStart
  else
    let (l, n) := pushCommas line l.src.size l 0
    let (l, k) := pushIndicators l.src.size l
    let n := n + k
    match l.lineAt line n with
    | none => (l, .flow)
    | some 0x23 =>
      let (l, _) := l.pushCount (line.2 - n)
      (l, .flow)
    | some 0x7B | some 0x5B =>
      let (l, _) := l.pushCount 1
      ({ l with flowKey := false, flowLevel := l.flowLevel + 1 }, .flow)
    | some 0x7D | some 0x5D =>
      let (l, _) := l.pushCount 1
      let l := { l with flowKey := true, flowLevel := l.flowLevel - 1 }
      (l, if l.flowLevel > 0 then .flow else .doc)
    | some 0x2A =>
      let (l, _) := l.pushUntil isNotAnchorUnit
      (l, .flow)
    | some 0x22 | some 0x27 => { l with flowKey := true }.parseQuotedScalar
    | some 0x3A =>
      let next := l.charAt 1
      if l.flowKey || isEmptyAt next || next == some 0x2C then
        let (l, _) := { l with flowKey := false }.pushCount 1
        let (l, _) := l.pushSpaces true
        (l, .flow)
      else { l with flowKey := false }.parsePlainScalar
    | _ => { l with flowKey := false }.parsePlainScalar

/-- One step in a mode. -/
def step (l : Lexer) : LexMode → Lexer × LexMode
  | .stream => l.parseStream
  | .doc => l.parseDocument
  | .flow => l.parseFlowCollection

/-- Steps until the source is used up; `fuel` bounds the steps. -/
def run : Nat → Lexer → LexMode → Lexer
  | 0, l, _ => l
  | fuel + 1, l, mode =>
    if l.pos < l.src.size then
      let (l, mode) := l.step mode
      run fuel l mode
    else l

end Lexer

/-- The lexemes of a source. -/
def lex (source : Text) : List Lexeme :=
  let src := source.toArray
  (Lexer.run (4 * src.size + 4) { src } .stream).out.toList

end Yaml

end LogRouter
