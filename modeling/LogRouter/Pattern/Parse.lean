import LogRouter.Pattern.Syntax
import LogRouter.Text.Identifier

/-!
Reading a regular expression.

The reader is a recursive descent over the units of the pattern, without flags and with the
lenient escapes of web browsers: an unknown escape stands for its letter, `\8` and `\9` for digits,
a decimal escape larger than the number of captures for an octal character code, `\c` without a
letter for a backslash, and `{`, `}` and `]` that open no quantifier or class for themselves.

Two facts about the whole pattern are needed before the reader reaches them, so an outline is
taken first: how many captures the pattern opens (a decimal escape up to that number is a back
reference), and whether any capture is named (then `\k` must start a named back reference).

Errors are found left to right and the first one wins; a named back reference to a name that no
capture carries is reported only once the whole pattern has been read.  Group names may use the
characters of identifiers, `$`, `_` and `\u` escapes, and are compared unit by unit.
-/

namespace LogRouter

namespace Pattern

/-! ### The outline -/

/-- The number of captures of a pattern and whether one of them is named. -/
structure Outline where
  captures : Nat := 0
  named : Bool := false

/-- The position just after the class that runs from `i` (just after its `[`): an escape takes
the unit after it, and the first other `]` ends the class. -/
def skipClass (src : Array UInt16) : Nat → Nat → Nat
  | 0, i => i
  | fuel + 1, i =>
    match src[i]? with
    | none => i
    | some 0x5C => skipClass src fuel (i + 2)
    | some 0x5D => i + 1
    | some _ => skipClass src fuel (i + 1)

/-- Counts the opening parentheses of captures from `i` on: every `(` not followed by `?`, and
every `(?<` not followed by `=` or `!`, which is a named capture.  Escaped units and classes are
skipped. -/
def outlineFrom (src : Array UInt16) : Nat → Nat → Outline → Outline
  | 0, _, o => o
  | fuel + 1, i, o =>
    match src[i]? with
    | none => o
    | some 0x5C => outlineFrom src fuel (i + 2) o
    | some 0x5B => outlineFrom src fuel (skipClass src src.size (i + 1)) o
    | some 0x28 =>
      if src[i + 1]? == some 0x3F then
        if src[i + 2]? == some 0x3C && src[i + 3]? != some 0x3D && src[i + 3]? != some 0x21 then
          outlineFrom src fuel (i + 1) { captures := o.captures + 1, named := true }
        else outlineFrom src fuel (i + 1) o
      else outlineFrom src fuel (i + 1) { o with captures := o.captures + 1 }
    | some _ => outlineFrom src fuel (i + 1) o

/-- The outline of a whole pattern. -/
def outline (src : Array UInt16) : Outline := outlineFrom src (src.size + 1) 0 {}

/-! ### Escapes -/

/-- The value of a hexadecimal digit. -/
def hexValue? (u : UInt16) : Option Nat :=
  if 0x30 ≤ u && u ≤ 0x39 then some (u.toNat - 0x30)
  else if 0x41 ≤ u && u ≤ 0x46 then some (u.toNat - 0x41 + 10)
  else if 0x61 ≤ u && u ≤ 0x66 then some (u.toNat - 0x61 + 10)
  else none

/-- Exactly `n` hexadecimal digits from `i`: their value and the position after them. -/
def readHex (src : Array UInt16) (i : Nat) : Nat → Option (Nat × Nat)
  | 0 => some (0, i)
  | n + 1 => do
    let d ← src[i]? >>= hexValue?
    let (v, j) ← readHex src (i + 1) n
    pure (d * Nat.pow 16 n + v, j)

/-- Whether a unit is an octal digit. -/
def isOctal (u : UInt16) : Bool := 0x30 ≤ u && u ≤ 0x37

/-- A legacy octal code from `i`, which holds an octal digit: up to three digits, the third only
while the value stays below 256. -/
def readOctal (src : Array UInt16) (i : Nat) : UInt16 × Nat :=
  let v := (src[i]?.getD 0x30).toNat - 0x30
  match src[i + 1]? with
  | some d =>
    if isOctal d then
      let v := v * 8 + (d.toNat - 0x30)
      match src[i + 2]? with
      | some e => if v < 32 && isOctal e then ((v * 8 + (e.toNat - 0x30)).toUInt16, i + 3)
        else (v.toUInt16, i + 2)
      | none => (v.toUInt16, i + 2)
    else (v.toUInt16, i + 1)
  | none => (v.toUInt16, i + 1)

/-- The unit an escape stands for, read from `i`, the position just after the backslash, and the
position after it.  Inside a class `\c` also takes a digit or `_`.  `\k` is refused when the
pattern has named captures, since there it could only start a named back reference. -/
def characterEscape (src : Array UInt16) (i : Nat) (inClass named : Bool) :
    Except PatternError (UInt16 × Nat) :=
  match src[i]? with
  | none => .error .escapeAtEnd
  | some c =>
    if c = 0x66 then .ok (0x0C, i + 1)
    else if c = 0x6E then .ok (0x0A, i + 1)
    else if c = 0x72 then .ok (0x0D, i + 1)
    else if c = 0x74 then .ok (0x09, i + 1)
    else if c = 0x76 then .ok (0x0B, i + 1)
    else if c = 0x63 then
      -- \c with a control letter; otherwise the backslash stands for itself
      match src[i + 1]? with
      | some l =>
        if Text.isAsciiLetter l || (inClass && (Text.isDigit l || l = 0x5F)) then .ok (l &&& 0x1F, i + 2)
        else .ok (0x5C, i)
      | none => .ok (0x5C, i)
    else if c = 0x30 then
      match src[i + 1]? with
      | some d => if Text.isDigit d then .ok (readOctal src i) else .ok (0, i + 1)
      | none => .ok (0, i + 1)
    else if 0x31 ≤ c && c ≤ 0x37 then .ok (readOctal src i)
    else if c = 0x78 then
      match readHex src (i + 1) 2 with
      | some (v, j) => .ok (v.toUInt16, j)
      | none => .ok (0x78, i + 1)
    else if c = 0x75 then
      match readHex src (i + 1) 4 with
      | some (v, j) => .ok (v.toUInt16, j)
      | none => .ok (0x75, i + 1)
    else if c = 0x6B && named then .error .invalidEscape
    else .ok (c, i + 1)

/-- The class escape a letter names, if it names one: `d`, `s` or `w`, or their capitals for the
complement. -/
def classEscape? (u : UInt16) : Option ClassItem :=
  if u = 0x64 then some (.escape 'd' false)
  else if u = 0x44 then some (.escape 'd' true)
  else if u = 0x73 then some (.escape 's' false)
  else if u = 0x53 then some (.escape 's' true)
  else if u = 0x77 then some (.escape 'w' false)
  else if u = 0x57 then some (.escape 'w' true)
  else none

/-! ### Group names -/

/-- Whether a code point may start a group name: a letter, `$` or `_`. -/
def isNameStart (c : Nat) : Bool :=
  c = 0x24 || c = 0x5F || Identifier.isStart c

/-- Whether a code point may continue a group name: also a digit, a combining mark or a
joiner. -/
def isNamePart (c : Nat) : Bool :=
  isNameStart c || Identifier.isContinue c

/-- The code point at `i`, a surrogate pair read as one, and the position after it. -/
def codePointAt (src : Array UInt16) (i : Nat) : Option (Nat × Nat) :=
  match src[i]? with
  | none => none
  | some u =>
    match src[i + 1]? with
    | some v => if Text.isHigh u && Text.isLow v then some (Text.pairCode u v, i + 2) else some (u.toNat, i + 1)
    | none => some (u.toNat, i + 1)

/-- Hexadecimal digits from `i` up to the first other unit, while the value stays at most
`0x10FFFF`; at least one digit. -/
def readHexRun (src : Array UInt16) : Nat → Nat → Option Nat → Option (Nat × Nat)
  | 0, _, _ => none
  | fuel + 1, i, acc =>
    match src[i]? >>= hexValue? with
    | some d =>
      let v := acc.getD 0 * 16 + d
      if v > 0x10FFFF then none else readHexRun src fuel (i + 1) (some v)
    | none => acc.map (·, i)

/-- A `\u` escape in a group name, read from just after the `u`: four digits (a high and a low
surrogate written as two escapes make one code point), or any number of digits in braces. -/
def nameEscape (src : Array UInt16) (i : Nat) : Option (Nat × Nat) :=
  if src[i]? == some 0x7B then
    match readHexRun src src.size (i + 1) none with
    | some (v, j) => if src[j]? == some 0x7D then some (v, j + 1) else none
    | none => none
  else
    match readHex src i 4 with
    | some (v, j) =>
      if 0xD800 ≤ v && v ≤ 0xDBFF && src[j]? == some 0x5C && src[j + 1]? == some 0x75 then
        match readHex src (j + 2) 4 with
        | some (w, k) =>
          if 0xDC00 ≤ w && w ≤ 0xDFFF then
            some (Text.pairCode v.toUInt16 w.toUInt16, k)
          else some (v, j)
        | none => some (v, j)
      else some (v, j)
    | none => none

/-- The units of a code point. -/
def unitsOfCode (c : Nat) : Text :=
  if c < 0x10000 then [c.toUInt16]
  else [(0xD800 + (c - 0x10000) / 0x400).toUInt16, (0xDC00 + (c - 0x10000) % 0x400).toUInt16]

/-- The rest of a group name from `i`, the units read so far in `acc`, up to and past its `>`. -/
def nameFrom (src : Array UInt16) : Nat → Nat → Bool → Text → Except PatternError (Text × Nat)
  | 0, _, _, _ => .error .invalidCaptureGroupName
  | fuel + 1, i, atStart, acc =>
    let next : Except PatternError (Nat × Nat) :=
      match codePointAt src i with
      | none => .error .invalidCaptureGroupName
      | some (c, j) =>
        if c = 0x5C && src[i + 1]? == some 0x75 then
          match nameEscape src (i + 2) with
          | some r => .ok r
          | none => .error .invalidUnicodeEscape
        else .ok (c, j)
    match next with
    | .error e => .error e
    | .ok (c, j) =>
      if c = 0x5C then .error .invalidCaptureGroupName
      else if atStart then
        if isNameStart c then nameFrom src fuel j false (acc ++ unitsOfCode c)
        else .error .invalidCaptureGroupName
      else if c = 0x3E then .ok (acc, j)
      else if isNamePart c then nameFrom src fuel j false (acc ++ unitsOfCode c)
      else .error .invalidCaptureGroupName

/-- A group name from `i`, just after its `<`, and the position after its `>`. -/
def readName (src : Array UInt16) (i : Nat) : Except PatternError (Text × Nat) :=
  nameFrom src (src.size + 1) i true []

/-! ### Classes and quantifiers -/

/-- One element of a class as read: a unit, or a class escape. -/
inductive ClassAtom where
  | unit (u : UInt16)
  | escape (item : ClassItem)

/-- The items a class atom adds by itself. -/
def ClassAtom.item : ClassAtom → ClassItem
  | .unit u => .unit u
  | .escape item => item

/-- One element of a class from `i`, which holds a unit, and the position after it. -/
def classAtom (src : Array UInt16) (i : Nat) (named : Bool) : Except PatternError (ClassAtom × Nat) :=
  match src[i]? with
  | none => .error .unterminatedCharacterClass
  | some 0x5C =>
    match src[i + 1]? with
    | none => .error .escapeAtEnd
    | some 0x62 => .ok (.unit 0x08, i + 2)
    | some e =>
      match classEscape? e with
      | some item => .ok (.escape item, i + 2)
      | none => (characterEscape src (i + 1) true named).map fun (u, j) => (.unit u, j)
  | some u => .ok (.unit u, i + 1)

/-- The items of a class from `i` up to and past its `]`, the items so far in `acc` (last first).
A `-` between two units makes a range, which must not run backwards; next to a class escape it
stands for itself. -/
def classItems (src : Array UInt16) (named : Bool) :
    Nat → Nat → List ClassItem → Except PatternError (List ClassItem × Nat)
  | 0, _, _ => .error .unterminatedCharacterClass
  | fuel + 1, i, acc =>
    match src[i]? with
    | none => .error .unterminatedCharacterClass
    | some 0x5D => .ok (acc.reverse, i + 1)
    | some _ =>
      match classAtom src i named with
      | .error e => .error e
      | .ok (a, j) =>
        if src[j]? == some 0x2D then
          match src[j + 1]? with
          | none => .error .unterminatedCharacterClass
          | some 0x5D => .ok ((ClassItem.unit 0x2D :: a.item :: acc).reverse, j + 2)
          | some _ =>
            match classAtom src (j + 1) named with
            | .error e => .error e
            | .ok (b, k) =>
              match a, b with
              | .unit x, .unit y =>
                if y < x then .error .classRangeOutOfOrder
                else classItems src named fuel k (.range x y :: acc)
              | _, _ => classItems src named fuel k (b.item :: .unit 0x2D :: a.item :: acc)
        else classItems src named fuel j (a.item :: acc)

/-- The largest count a quantifier can hold; a larger count stands for it. -/
def countLimit : Nat := 2147483647

/-- Decimal digits from `i`, their value capped at `countLimit`, and the position after them. -/
def readCount (src : Array UInt16) : Nat → Nat → Nat → Nat × Nat
  | 0, i, v => (v, i)
  | fuel + 1, i, v =>
    match src[i]? with
    | some d => if Text.isDigit d then readCount src fuel (i + 1) (min countLimit (v * 10 + Text.digitValue d))
      else (v, i)
    | none => (v, i)

/-- A braced quantifier `{n}`, `{n,}` or `{n,m}` at `i`: its bounds (none for no upper bound) and
the position after it. -/
def interval (src : Array UInt16) (i : Nat) : Option (Nat × Option Nat × Nat) :=
  match src[i + 1]? with
  | some d =>
    if !Text.isDigit d then none
    else
      let (lo, j) := readCount src src.size (i + 1) 0
      match src[j]? with
      | some 0x7D => some (lo, if lo = countLimit then none else some lo, j + 1)
      | some 0x2C =>
        match src[j + 1]? with
        | some 0x7D => some (lo, none, j + 2)
        | _ =>
          let (hi, k) := readCount src src.size (j + 1) 0
          if src[k]? == some 0x7D then some (lo, if hi = countLimit then none else some hi, k + 1)
          else none
      | _ => none
  | none => none

/-- A quantifier at `i`: its bounds, whether it is greedy, and the position after it.  A braced
quantifier whose bounds run backwards is refused. -/
def quantifier (src : Array UInt16) (i : Nat) :
    Except PatternError (Option (Nat × Option Nat × Bool × Nat)) :=
  let bounds : Except PatternError (Option (Nat × Option Nat × Nat)) :=
    match src[i]? with
    | some 0x2A => .ok (some (0, none, i + 1))
    | some 0x2B => .ok (some (1, none, i + 1))
    | some 0x3F => .ok (some (0, some 1, i + 1))
    | some 0x7B =>
      match interval src i with
      | some (lo, hi, j) =>
        if hi.any (· < lo) then .error .rangeOutOfOrder else .ok (some (lo, hi, j))
      | none => .ok none
    | _ => .ok none
  bounds.map fun
    | some (lo, hi, j) => if src[j]? == some 0x3F then some (lo, hi, false, j + 1) else some (lo, hi, true, j)
    | none => none

/-! ### Terms -/


/-- A quantified atom.  An atom that can only match the empty text is dropped when it may be
repeated zero times and kept once otherwise, which matches the same texts. -/
def quantify (atom : Node) (lo : Nat) (hi : Option Nat) (greedy : Bool) (first stop : Nat) : Node :=
  if atom.onlyEmpty then (if lo = 0 then .empty else atom)
  else .repeat lo hi greedy first stop atom

/-- The terms of one alternative, last first, as one node. -/
def sequenceOf (terms : List Node) : Node :=
  match terms.reverse with
  | [] => .empty
  | [t] => t
  | ts => .seq ts

/-- The alternatives read so far (last first) and the terms of the last one, as one node. -/
def choiceOf (alts : List Node) (terms : List Node) : Node :=
  match (sequenceOf terms :: alts).reverse with
  | [a] => a
  | as => .alt as

/-- Where reading stands: the position, the captures opened so far, the named captures closed so
far (by number) and the names that back references asked for. -/
structure Progress where
  pos : Nat := 0
  opened : Nat := 0
  names : List (Text × Nat) := []
  references : List Text := []

/-- How what was just read may be followed by a quantifier. -/
inductive Follow where
  /-- an atom, which a quantifier may follow -/
  | atom
  /-- an assertion: a quantifier after it has nothing to repeat -/
  | assertion
  /-- a look-behind, which may not be quantified -/
  | lookBehind

/-- Inserts a named capture among those closed so far, keeping them in the order of their
numbers; a name already taken is refused. -/
def addName (names : List (Text × Nat)) (name : Text) (index : Nat) :
    Except PatternError (List (Text × Nat)) :=
  if names.any (·.1 == name) then .error .duplicateCaptureGroupName
  else .ok (names.filter (·.2 < index) ++ [(name, index)] ++ names.filter (·.2 > index))

/-- An escape outside a class from `p.pos` (its backslash), which is not `\b` or `\B`: the node it
stands for and where reading stands after it.  `enclosing` lists the captures open around it, by
number and name, innermost first: a back reference into a capture still open matches the empty
text. -/
def atomEscape (src : Array UInt16) (o : Outline) (enclosing : List (Nat × Option Text))
    (p : Progress) : Except PatternError (Node × Progress) :=
  let i := p.pos + 1
  match src[i]? with
  | none => .error .escapeAtEnd
  | some e =>
    match classEscape? e with
    | some item => .ok (.set false [item], { p with pos := i + 1 })
    | none =>
      let digitRun := readCount src src.size i 0
      if 0x31 ≤ e && e ≤ 0x39 && digitRun.1 ≤ o.captures && digitRun.1 ≤ 65536 then
        let n := digitRun.1
        let node := if enclosing.any (·.1 == n) then Node.empty else .backref n
        .ok (node, { p with pos := digitRun.2 })
      else if e = 0x6B && o.named then
        if src[i + 1]? != some 0x3C then .error .invalidNamedReference
        else
          match readName src (i + 2) with
          | .error err => .error err
          | .ok (name, j) =>
            if enclosing.any (·.2 == some name) then .ok (.empty, { p with pos := j })
            else .ok (.namedBackref name, { p with pos := j, references := p.references ++ [name] })
      else
        (characterEscape src i false o.named).map fun (u, j) => (.unit u, { p with pos := j })

/-- Reads the terms of a disjunction from `p.pos` up to the end of the pattern or a `)`, which is
left for the caller.  `alts` holds the alternatives read so far and `terms` the terms of the
current one, last first. -/
def readTerms (src : Array UInt16) (o : Outline) :
    Nat → List (Nat × Option Text) → List Node → List Node → Progress →
      Except PatternError (Node × Progress)
  | 0, _, _, _, _ => .error .tooLarge
  | fuel + 1, enclosing, alts, terms, p =>
    -- after an atom: a quantifier, then the next term
    let withQuantifier (atom : Node) (follow : Follow) (before : Nat) (q : Progress) :
        Except PatternError (Node × Progress) :=
      match follow with
      | .assertion => readTerms src o fuel enclosing alts (atom :: terms) q
      | _ =>
        match quantifier src q.pos with
        | .error e => .error e
        | .ok none => readTerms src o fuel enclosing alts (atom :: terms) q
        | .ok (some (lo, hi, greedy, j)) =>
          match follow with
          | .lookBehind => .error .invalidQuantifier
          | _ =>
            readTerms src o fuel enclosing alts
              (quantify atom lo hi greedy (before + 1) (q.opened + 1) :: terms) { q with pos := j }
    match src[p.pos]? with
    | none => .ok (choiceOf alts terms, p)
    | some 0x29 => .ok (choiceOf alts terms, p)
    | some 0x7C => readTerms src o fuel enclosing (sequenceOf terms :: alts) [] { p with pos := p.pos + 1 }
    | some 0x2A | some 0x2B | some 0x3F => .error .nothingToRepeat
    | some 0x5E => withQuantifier .lineStart .assertion p.opened { p with pos := p.pos + 1 }
    | some 0x24 => withQuantifier .lineEnd .assertion p.opened { p with pos := p.pos + 1 }
    | some 0x2E => withQuantifier .anyButNewline .atom p.opened { p with pos := p.pos + 1 }
    | some 0x5C =>
      match src[p.pos + 1]? with
      | some 0x62 => withQuantifier (.wordBoundary false) .assertion p.opened { p with pos := p.pos + 2 }
      | some 0x42 => withQuantifier (.wordBoundary true) .assertion p.opened { p with pos := p.pos + 2 }
      | _ =>
        match atomEscape src o enclosing p with
        | .error e => .error e
        | .ok (atom, q) => withQuantifier atom .atom p.opened q
    | some 0x5B =>
      let start := p.pos + 1
      let (negated, start) := if src[start]? == some 0x5E then (true, start + 1) else (false, start)
      match classItems src o.named src.size start [] with
      | .error e => .error e
      | .ok (items, j) => withQuantifier (.set negated items) .atom p.opened { p with pos := j }
    | some 0x7B =>
      match interval src p.pos with
      | some _ => .error .nothingToRepeat
      | none => withQuantifier (.unit 0x7B) .atom p.opened { p with pos := p.pos + 1 }
    | some 0x28 =>
      -- the kind of group: a capture (perhaps named), a plain group or a look-around
      let kind : Except PatternError (Option (Option Text) × Option (Bool × Bool) × Nat) :=
        if src[p.pos + 1]? == some 0x3F then
          match src[p.pos + 2]? with
          | some 0x3A => .ok (none, none, p.pos + 3)
          | some 0x3D => .ok (none, some (true, false), p.pos + 3)
          | some 0x21 => .ok (none, some (true, true), p.pos + 3)
          | some 0x3C =>
            match src[p.pos + 3]? with
            | some 0x3D => .ok (none, some (false, false), p.pos + 4)
            | some 0x21 => .ok (none, some (false, true), p.pos + 4)
            | _ => (readName src (p.pos + 3)).map fun (name, j) => (some (some name), none, j)
          | _ => .error .invalidGroup
        else .ok (some none, none, p.pos + 1)
      match kind with
      | .error e => .error e
      | .ok (capture, look, bodyStart) =>
        let index := p.opened + 1
        let opened := if capture.isSome then index else p.opened
        let inner := match capture with
          | some name => (index, name) :: enclosing
          | none => enclosing
        match readTerms src o fuel inner [] [] { p with pos := bodyStart, opened } with
        | .error e => .error e
        | .ok (body, q) =>
          if src[q.pos]? != some 0x29 then .error .unterminatedGroup
          else
            let q := { q with pos := q.pos + 1 }
            match capture, look with
            | some (some name), _ =>
              match addName q.names name index with
              | .error e => .error e
              | .ok names => withQuantifier (.capture index body) .atom p.opened { q with names }
            | some none, _ => withQuantifier (.capture index body) .atom p.opened q
            | none, some (ahead, negated) =>
              withQuantifier (.look ahead negated body) (if ahead then .atom else .lookBehind) p.opened q
            | none, none => withQuantifier body .atom p.opened q
    | some u => withQuantifier (.unit u) .atom p.opened { p with pos := p.pos + 1 }

end Pattern

/-- Reads a pattern, or says why it is refused. -/
def Pattern.parse (source : Text) : Except PatternError Pattern :=
  let src := source.toArray
  let o := Pattern.outline src
  match Pattern.readTerms src o (src.size + 1) [] [] [] {} with
  | .error e => .error e
  | .ok (root, p) =>
    if src[p.pos]? == some 0x29 then .error .unmatchedParen
    else if p.references.all (fun r => p.names.any (·.1 == r)) then
      .ok { root := root.bindNames p.names, captureCount := p.opened, names := p.names }
    else .error .invalidNamedCaptureReferenced

end LogRouter
