import LogRouter.Yaml.Node
import LogRouter.Text.Utf8

/-!
The text of YAML scalars.

A scalar's source becomes its text in one of five ways.  Plain and quoted scalars fold their line
breaks: a single break between two lines becomes a space, and each further empty line stays a
line break; spaces and tabs around breaks go.  Single-quoted scalars write a quote as two quotes.
Double-quoted scalars have escapes: one-letter escapes, `\x`, `\u` and `\U` with two, four or
eight hex digits, and an escaped line break, which joins two lines without a space.  Block scalars
(`|` literal, `>` folded) take their lines below the header, less the indentation of the first
non-empty line or the indentation the header gives, and end as the chomping indicator says: `-`
drops the final line breaks, `+` keeps them all, and otherwise one is kept.

Problems found on the way are collected as `YamlError`s at absolute offsets.  An escape naming a
code point above U+10FFFF is not a YAML error: the reader gives up at once with a range error,
which `ScalarText.fatal` carries.
-/

namespace LogRouter

namespace Yaml

/-- Whether a unit is a space or a tab. -/
def isSpaceOrTab (u : UInt16) : Bool := u == 0x20 || u == 0x09

/-- A line without its final carriage return and the spaces and tabs before it. -/
def trimLineEnd (line : Text) : Text :=
  let noCr := if line.getLast? == some 0x0D then line.dropLast else line
  (noCr.reverse.dropWhile isSpaceOrTab).reverse

/-- Folds the lines after the first: `sep` is what goes before the next non-empty line. -/
def foldRest (sep acc : Text) : List Text → Text
  | [] => acc
  | [last] => acc ++ sep ++ last.dropWhile isSpaceOrTab
  | line :: rest =>
    let content := trimLineEnd (line.dropWhile isSpaceOrTab)
    if content.isEmpty then
      if sep == [0x0A] then foldRest sep (acc ++ sep) rest else foldRest [0x0A] acc rest
    else foldRest [0x20] (acc ++ sep ++ content) rest

/-- The line folding of flow scalars. -/
def foldLines (source : Text) : Text :=
  match Text.splitOnUnit source 0x0A with
  | [] | [_] => source
  | first :: rest => foldRest [0x20] (trimLineEnd first) rest

/-- A text with every pair of single quotes made one. -/
def undoubleQuotes : Text → Text
  | 0x27 :: 0x27 :: rest => 0x27 :: undoubleQuotes rest
  | u :: rest => u :: undoubleQuotes rest
  | [] => []

/-- The text of a scalar with what went wrong reading it. -/
structure ScalarText where
  value : Text
  errors : List YamlError := []
  fatal : Option Text := none
  comment : Text := []
deriving Inhabited

/-- A plain scalar: folded, after checking its first character. -/
def plainText (offset : Nat) (source : Text) : ScalarText :=
  let bad : Option String :=
    match source with
    | 0x09 :: _ => some "a tab character"
    | 0x2C :: _ => some "flow indicator character ,"
    | 0x25 :: _ => some "directive indicator character %"
    | 0x7C :: _ => some "block scalar indicator |"
    | 0x3E :: _ => some "block scalar indicator >"
    | 0x40 :: _ => some "reserved character @"
    | 0x60 :: _ => some "reserved character \x60"
    | _ => none
  let errors := match bad with
    | some what => [YamlError.atOffset offset ("Plain value cannot start with " ++ what)]
    | none => []
  { value := foldLines source, errors }

/-- A single-quoted scalar: the text between the quotes, folded, quotes undoubled. -/
def singleQuotedText (offset : Nat) (source : Text) : ScalarText :=
  let errors :=
    if source.length == 1 || source.getLast? != some 0x27 then
      [YamlError.atOffset (offset + source.length) "Missing closing 'quote"]
    else []
  { value := undoubleQuotes (foldLines ((source.drop 1).dropLast)), errors }

/-- The one-unit escapes of double-quoted scalars. -/
def escapeUnit? (u : UInt16) : Option UInt16 :=
  ([(0x30, 0x00), (0x61, 0x07), (0x62, 0x08), (0x65, 0x1B), (0x66, 0x0C), (0x6E, 0x0A),
    (0x72, 0x0D), (0x74, 0x09), (0x76, 0x0B), (0x4E, 0x85), (0x5F, 0xA0), (0x4C, 0x2028),
    (0x50, 0x2029), (0x20, 0x20), (0x22, 0x22), (0x2F, 0x2F), (0x5C, 0x5C), (0x09, 0x09)] :
    List (UInt16 × UInt16)).lookup u

/-- The last position from `j` on before which only spaces and tabs follow: skips the spaces
and tabs after position `j`. -/
def skipBlanksAfter (s : Array UInt16) : Nat → Nat → Nat
  | 0, j => j
  | fuel + 1, j =>
    match s[j + 1]? with
    | some u => if isSpaceOrTab u then skipBlanksAfter s fuel (j + 1) else j
    | none => j

/-- A line break in a double-quoted scalar at position `o`: the breaks it folds to and the
position of the last unit it takes (following spaces, tabs and line breaks). -/
def foldBreak (s : Array UInt16) : Nat → Nat → Text → Text × Nat
  | 0, o, fold => (if fold.isEmpty then [0x20] else fold, o)
  | fuel + 1, o, fold =>
    match s[o + 1]? with
    | some u =>
      if isSpaceOrTab u then foldBreak s fuel (o + 1) fold
      else if u == 0x0A then foldBreak s fuel (o + 1) (fold ++ [0x0A])
      else if u == 0x0D && s[o + 2]? == some 0x0A then foldBreak s fuel (o + 1) fold
      else (if fold.isEmpty then [0x20] else fold, o)
    | none => (if fold.isEmpty then [0x20] else fold, o)

/-- The units from `start`, at most `count` of them. -/
def unitsFrom (s : Array UInt16) (start count : Nat) : Text :=
  ((s.toList.drop start).take count)

/-- Whether a unit is a hex digit. -/
def isHexDigit (u : UInt16) : Bool :=
  Text.isDigit u || (0x41 ≤ u && u ≤ 0x46) || (0x61 ≤ u && u ≤ 0x66)

/-- The value of hex digits. -/
def hexValue (t : Text) : Nat :=
  t.foldl (fun acc u =>
    acc * 16 + (if Text.isDigit u then Text.digitValue u
      else if u ≤ 0x46 then u.toNat - 0x41 + 10 else u.toNat - 0x61 + 10)) 0

/-- What a hex escape stands for. -/
inductive HexEscape where
  | units (t : Text)
  | invalid (raw : Text)
  | outOfRange (code : Nat)

/-- The hex escape with `length` digits from position `start`. -/
def hexEscape (s : Array UInt16) (start length : Nat) : HexEscape :=
  let digits := unitsFrom s start length
  if digits.length == length && digits.all isHexDigit then
    let code := hexValue digits
    if code > 0x10FFFF then .outOfRange code else .units (Utf8.unitsOfCode code)
  else .invalid (unitsFrom s (start - 2) (length + 2))

/-- The error for an escape that does not read. -/
def badEscape (offset : Nat) (raw : Text) : YamlError :=
  { start := offset, stop := offset + 1, message := Text.ofString "Invalid escape sequence " ++ raw }

/-- Reads the inside of a double-quoted scalar from position `i`, up to its last unit. -/
def doubleQuotedFrom (s : Array UInt16) (offset : Nat) :
    Nat → Nat → Text → List YamlError → ScalarText
  | 0, _, res, errs => { value := res, errors := errs }
  | fuel + 1, i, res, errs =>
    match s[i]? with
    | none => { value := res, errors := errs }
    | some ch =>
      if i + 1 ≥ s.size then { value := res, errors := errs }
      else if ch == 0x0D && s[i + 1]? == some 0x0A then doubleQuotedFrom s offset fuel (i + 1) res errs
      else if ch == 0x0A then
        let (fold, o) := foldBreak s s.size i []
        doubleQuotedFrom s offset fuel (o + 1) (res ++ fold) errs
      else if ch == 0x5C then
        let next := s.getD (i + 1) 0
        match escapeUnit? next with
        | some cc => doubleQuotedFrom s offset fuel (i + 2) (res ++ [cc]) errs
        | none =>
          if next == 0x0A then
            doubleQuotedFrom s offset fuel (skipBlanksAfter s s.size (i + 1) + 1) res errs
          else if next == 0x0D && s[i + 2]? == some 0x0A then
            doubleQuotedFrom s offset fuel (skipBlanksAfter s s.size (i + 2) + 1) res errs
          else if next == 0x78 || next == 0x75 || next == 0x55 then
            let length := if next == 0x78 then 2 else if next == 0x75 then 4 else 8
            match hexEscape s (i + 2) length with
            | .units t => doubleQuotedFrom s offset fuel (i + 2 + length) (res ++ t) errs
            | .invalid raw =>
              doubleQuotedFrom s offset fuel (i + 2 + length) (res ++ raw)
                (errs ++ [badEscape (offset + i) raw])
            | .outOfRange code =>
              { value := res, errors := errs,
                fatal := some (Text.ofString "Invalid code point " ++ Text.ofNat code) }
          else
            let raw := unitsFrom s i 2
            doubleQuotedFrom s offset fuel (i + 2) (res ++ raw) (errs ++ [badEscape (offset + i) raw])
      else if isSpaceOrTab ch then
        let j := skipBlanksAfter s s.size i
        let next := s[j + 1]?
        let atBreak := next == some 0x0A || (next == some 0x0D && s[j + 2]? == some 0x0A)
        let kept := if atBreak then [] else unitsFrom s i (j + 1 - i)
        doubleQuotedFrom s offset fuel (j + 1) (res ++ kept) errs
      else doubleQuotedFrom s offset fuel (i + 1) (res ++ [ch]) errs

/-- A double-quoted scalar: the text between the quotes with escapes and folds applied. -/
def doubleQuotedText (offset : Nat) (source : Text) : ScalarText :=
  let s := source.toArray
  let r := doubleQuotedFrom s offset (s.size + 1) 1 [] []
  if r.fatal.isSome then r
  else if source.length == 1 || source.getLast? != some 0x22 then
    { r with errors := r.errors ++ [YamlError.atOffset (offset + source.length) "Missing closing \"quote"] }
  else r

/-- The tokens after a node on its line: where they end, and the errors of tokens that have no
place there.  With `reqSpace`, a comment must follow white space. -/
def endOf (reqSpace : Bool) (tokens : Option (List SourceToken)) (offset : Nat) : Nat × List YamlError :=
  let step (acc : Nat × Bool × List YamlError) (t : SourceToken) : Nat × Bool × List YamlError :=
    let (o, hasSpace, errs) := acc
    let o' := o + t.source.length
    match t.kind with
    | .space => (o', true, errs)
    | .comment =>
      let errs := if hasSpace || !reqSpace then errs else
        errs ++ [YamlError.onToken t "Comments must be separated from other tokens by white space characters"]
      (o', hasSpace, errs)
    | .newline => (o', true, errs)
    | k => (o', hasSpace, errs ++ [YamlError.onToken t ("Unexpected " ++ k.name ++ " at node end")])
  let (o, _, errs) := (tokens.getD []).foldl step (offset, false, [])
  (o, errs)

/-- The comment after a node on its line and the lines below it: the texts after each `#` (a
single space for an empty one), with the line breaks between them. -/
def trailingComment (tokens : Option (List SourceToken)) : Text :=
  let step (acc : Text × Text) (t : SourceToken) : Text × Text :=
    let (comment, sep) := acc
    match t.kind with
    | .comment =>
      let cb := if t.source.length ≤ 1 then [0x20] else t.source.drop 1
      (if comment.isEmpty then cb else comment ++ sep ++ cb, [])
    | .newline => (comment, if comment.isEmpty then sep else sep ++ t.source)
    | _ => (comment, sep)
  ((tokens.getD []).foldl step ([], [])).1

/-! ### Block scalars -/

/-- What a block scalar header says: folded or literal, an explicit indentation (zero if none),
and the chomping indicator (`0` if none). -/
structure BlockHeader where
  folded : Bool
  indent : Nat
  chomp : UInt16
  length : Nat
  comment : Text
deriving Inhabited

/-- Reads the header indicators from left to right. -/
def readHeader (offset : Nat) : List UInt16 → Nat → UInt16 → Nat → Option Nat → UInt16 × Nat × Option Nat
  | [], _, chomp, indent, err => (chomp, indent, err)
  | u :: rest, i, chomp, indent, err =>
    if chomp == 0 && (u == 0x2D || u == 0x2B) then readHeader offset rest (i + 1) u indent err
    else
      let n := if 0x31 ≤ u && u ≤ 0x39 then u.toNat - 0x30 else 0
      if indent == 0 && n != 0 then readHeader offset rest (i + 1) chomp n err
      else readHeader offset rest (i + 1) chomp indent (err <|> some (offset + i))

/-- The header of a block scalar from its header token and the tokens after it on its line. -/
def blockHeader (offset : Nat) (props : List SourceToken) : Option BlockHeader × List YamlError :=
  match props with
  | [] => (none, [])
  | h :: rest =>
    if h.kind != .blockScalarHeader then
      (none, [YamlError.onToken h "Block scalar header not found"])
    else
      let (chomp, indent, err) := readHeader offset (h.source.drop 1) 1 0 0 none
      let errs := match err with
        | some e => [YamlError.withText e "Block scalar header includes extra characters: " h.source]
        | none => []
      let step (acc : Nat × Bool × Text × List YamlError) (t : SourceToken) :
          Nat × Bool × Text × List YamlError :=
        let (len, hasSpace, comment, errs) := acc
        let len' := len + t.source.length
        match t.kind with
        | .space => (len', true, comment, errs)
        | .newline => (len', hasSpace, comment, errs)
        | .comment =>
          (len', hasSpace, t.source.drop 1, if hasSpace then errs else
            errs ++ [YamlError.onToken t "Comments must be separated from other tokens by white space characters"])
        | k => (len', hasSpace, comment,
            errs ++ [YamlError.onToken t ("Unexpected token in block scalar header: " ++ k.name)])
      let (len, _, comment, errs) := rest.foldl step (h.source.length, false, [], errs)
      (some ⟨h.source.head? == some 0x3E, indent, chomp, len, comment⟩, errs)

/-- The lines of a block scalar's body: each with the spaces that start it and the rest. -/
def bodyLines (source : Text) : List (Nat × Text) :=
  if source.isEmpty then []
  else (Text.splitOnUnit source 0x0A).map fun l =>
    let sp := l.takeWhile (· == 0x20)
    (sp.length, l.drop sp.length)

/-- Whether a body line is empty (possibly but for a carriage return). -/
def isEmptyLine (content : Text) : Bool := content.isEmpty || content == [0x0D]

/-- `n` spaces. -/
def spaces (n : Nat) : Text := List.replicate n 0x20

/-- The indentation of a block scalar and where its content starts: looks at the leading lines
up to the first non-empty one. Gives the indentation, the index of the first content line, and
the errors. -/
def findIndent (atRoot : Bool) (header : BlockHeader) :
    List (Nat × Text) → Nat → Nat → Nat → List YamlError → Nat × Nat × List YamlError
  | [], trim, _, _, errs => (trim, 0, errs)
  | (ind, content) :: rest, trim, i, offset, errs =>
    if isEmptyLine content then
      let trim := if header.indent == 0 && ind > trim then ind else trim
      findIndent atRoot header rest trim (i + 1) (offset + ind + content.length + 1) errs
    else
      let errs := if ind < trim then errs ++ [YamlError.atOffset (offset + ind)
        "Block scalars with more-indented leading empty lines must use an explicit indentation indicator"] else errs
      let trim := if header.indent == 0 then ind else trim
      let errs := if trim == 0 && !atRoot then errs ++ [YamlError.atOffset offset
        "Block scalar values in collections must be indented"] else errs
      (trim, i, errs)

/-- A single line break. -/
def oneBreak : Text := [0x0A]

/-- A single space. -/
def oneSpace : Text := [0x20]

/-- The state of joining block scalar lines: the text so far, what goes before the next line,
and whether the last line was more indented. -/
structure BlockJoin where
  value : Text := []
  sep : Text := []
  moreIndented : Bool := false
  offset : Nat
  errors : List YamlError := []

/-- Adds one content line to a block scalar. -/
def BlockJoin.add (header : BlockHeader) (trim : Nat) (j : BlockJoin) (line : Nat × Text) : BlockJoin :=
  let (ind, content) := line
  let offset := j.offset + ind + content.length + 1
  let crlf := content.getLast? == some 0x0D
  let content := if crlf then content.dropLast else content
  let (ind, errors) : Nat × List YamlError :=
    if !content.isEmpty && ind < trim then
      let msg := "Block scalar lines must not be less indented than their " ++
        (if header.indent != 0 then "explicit indentation indicator" else "first line")
      (0, j.errors ++ [YamlError.atOffset (offset - content.length - (if crlf then 2 else 1)) msg])
    else (ind, j.errors)
  let j := { j with offset, errors }
  let extra := spaces (ind - trim)
  if !header.folded then
    { j with value := j.value ++ j.sep ++ extra ++ content, sep := [0x0A] }
  else if ind > trim || content.head? == some 0x09 then
    let sep : Text := if j.sep == oneSpace then [0x0A]
      else if !j.moreIndented && j.sep == oneBreak then [0x0A, 0x0A] else j.sep
    { j with value := j.value ++ sep ++ extra ++ content, sep := [0x0A], moreIndented := true }
  else if content.isEmpty then
    if j.sep == oneBreak then { j with value := j.value ++ [0x0A] } else { j with sep := [0x0A] }
  else { j with value := j.value ++ j.sep ++ content, sep := [0x20], moreIndented := false }

/-- The text of a block scalar whose node has indentation `indent`, at `offset`, with its header
tokens and body; `atRoot` tells whether it stands outside every collection. -/
def blockScalarText (atRoot : Bool) (offset indent : Nat) (props : List SourceToken) (source : Text) :
    ScalarText × Nat :=
  match blockHeader offset props with
  | (none, errs) => ({ value := [], errors := errs }, offset)
  | (some header, herrs) =>
    let stop := offset + header.length + source.length
    let lines := bodyLines source
    let lastContent := (lines.zipIdx.filter fun (l, _) => !isEmptyLine l.2).getLast?.map (·.2 + 1)
    match lastContent with
    | none =>
      let value := if header.chomp == 0x2B && !lines.isEmpty then
          List.replicate (max 1 (lines.length - 1)) 0x0A
        else []
      ({ value, errors := herrs, comment := header.comment }, stop)
    | some chompStart =>
      let trim0 := indent + header.indent
      let start := offset + header.length
      let (trim, contentStart, errs) := findIndent atRoot header lines trim0 0 start herrs
      let chompStart := match ((lines.zipIdx.drop chompStart).filter fun (l, _) => l.1 > trim).getLast? with
        | some (_, i) => i + 1
        | none => chompStart
      let leading := (lines.take contentStart).foldl (fun acc l => acc ++ spaces (l.1 - trim) ++ [0x0A]) []
      let startOffset := (lines.take contentStart).foldl (fun o l => o + l.1 + l.2.length + 1) start
      let j := (lines.drop contentStart |>.take (chompStart - contentStart)).foldl (BlockJoin.add header trim)
        { value := leading, offset := startOffset, errors := errs }
      let value :=
        if header.chomp == 0x2D then j.value
        else if header.chomp == 0x2B then
          let kept := (lines.drop chompStart).foldl (fun acc l => acc ++ [0x0A] ++ spaces (l.1 - trim)) j.value
          if kept.getLast? == some 0x0A then kept else kept ++ [0x0A]
        else j.value ++ [0x0A]
      ({ value, errors := j.errors, comment := header.comment }, stop)

end Yaml

end LogRouter
