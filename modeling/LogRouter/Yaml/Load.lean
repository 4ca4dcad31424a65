import LogRouter.Yaml.Document
import LogRouter.Yaml.Flow
import LogRouter.Json.Value

/-!
Loading: from YAML text to a value.

A loaded value is what a dynamic language gets from a YAML document: null, booleans, numbers,
strings, arrays and plain objects, and the richer kinds some tags ask for: byte buffers
(`!!binary`), dates (`!!timestamp`), sets (`!!set`), maps with arbitrary keys (`!!omap`), and the
symbol a merge key stands for.

An object's keys are texts: a null key becomes the empty text, other scalars their text, a
buffer or date key its text, and a collection key its YAML text in flow style (`Yaml.Flow`).  Keys
keep the enumeration order of plain objects: array-index keys first in ascending order, then the
others in order of insertion; a repeated key keeps its place and takes the new value.

A merge key (`<<` in a YAML 1.1 document, or any key tagged `!!merge`) does not become a key: its
value, a mapping, an alias of one, or a sequence of such, has its entries added to the object,
each only if the object does not have its key yet.  A merged key is the key's plain text (a null
key is `null`).  Anything else as a merge value is an error.

An alias stands for the last node before it, in document order, that has its anchor; an alias
with no such node cannot be loaded, and one inside the node it names makes the value circular.
Each use of an anchored node is counted, weighted by the alias uses its value itself stands for;
a document whose uses of one node pass a hundred is refused, so that a few lines of aliases
cannot stand for an exponentially large value.

Loading fails in two ways.  A document with errors fails with its first error, told with its line
and column and the line itself, a caret under the place.  Some problems are not YAML errors but
end loading as thrown errors: an escape beyond U+10FFFF, an alias to nothing, aliases used too
often, a key repeated in an ordered map.
-/

namespace LogRouter

/-- A value loaded from YAML. -/
inductive Loaded where
  | null
  | bool (b : Bool)
  | num (x : Double)
  | str (s : Text)
  | arr (items : List Loaded)
  | obj (members : List (Text × Loaded))
  | bytes (b : List UInt8)
  | date (millis : Int)
  | set (items : List Loaded)
  | map (entries : List (Loaded × Loaded))
  | symbol (description : Text)
  | circular
deriving Inhabited

/-- An error that ends loading other than a YAML error: its name and message. -/
structure Thrown where
  name : Text
  message : Text
deriving Inhabited

/-- Why a YAML text could not be loaded. -/
inductive LoadFailure where
  | malformed (message : Text)
  | thrown (error : Thrown)
deriving Inhabited

namespace Loaded

/-- Sets a key of an object: a present key keeps its place, a new array-index key goes among the
index keys in ascending order, any other new key goes last. -/
def setMember (ms : List (Text × Loaded)) (k : Text) (v : Loaded) : List (Text × Loaded) :=
  if ms.any (·.1 == k) then ms.map fun m => if m.1 == k then (k, v) else m
  else
    match Text.arrayIndex? k with
    | some i =>
      let before := ms.takeWhile fun m =>
        match Text.arrayIndex? m.1 with
        | some j => j < i
        | none => false
      before ++ (k, v) :: ms.drop before.length
    | none => ms ++ [(k, v)]

/-- Whether two values are the same for a set or map: primitives by value (not-a-number equal
to itself), other values never. -/
def sameKey : Loaded → Loaded → Bool
  | .null, .null => true
  | .bool a, .bool b => a == b
  | .num a, .num b => Double.numEq a b || (a.isNaN && b.isNaN)
  | .str a, .str b => a == b
  | _, _ => false

/-- A value as string conversion writes it, as it names a property: `null`, numbers in decimal,
an array's items joined by commas (null items empty), a buffer's UTF-8 text, a date's text, and
`[object Object]` and the like for other objects.  `fuel` bounds the depth of arrays. -/
def propertyKey : Nat → Loaded → Text
  | 0, _ => []
  | fuel + 1, v =>
    match v with
    | .null => Text.ofString "null"
    | .bool b => Text.ofString (if b then "true" else "false")
    | .num x => x.toText
    | .str s => s
    | .arr xs => Text.join [0x2C] (xs.map fun x =>
        match x with
        | .null => []
        | x => propertyKey fuel x)
    | .obj _ => Text.ofString "[object Object]"
    | .bytes b => Utf8.decode b
    | .date ms => Yaml.dateText ms
    | .set _ => Text.ofString "[object Set]"
    | .map _ => Text.ofString "[object Map]"
    | .symbol d => Text.ofString "Symbol(" ++ d ++ Text.ofString ")"
    | .circular => []

/-- Whether a value is an object rather than a primitive. -/
def isObject : Loaded → Bool
  | .arr _ | .obj _ | .bytes _ | .date _ | .set _ | .map _ | .circular => true
  | _ => false

end Loaded

namespace Yaml

/-- The number of nodes in a tree. -/
def Node.size : Nat → Node → Nat
  | 0, _ => 1
  | fuel + 1, n =>
    match n with
    | .map pairs .. => pairs.foldl (fun acc (k, v) => acc + size fuel k + (v.map (size fuel)).getD 0) 1
    | .seq items .. => items.foldl (fun acc x => acc + size fuel x) 1
    | _ => 1

/-- The anchored nodes of a tree with their positions in document order, from position `idx`. -/
def anchoredFrom : Nat → Nat → Node → List (Nat × Text × Node)
  | 0, _, _ => []
  | fuel + 1, idx, n =>
    let own := match n.anchor? with
      | some a => [(idx, a, n)]
      | none => []
    let children : List Node := match n with
      | .map pairs .. => pairs.flatMap fun (k, v) => k :: v.toList
      | .seq items .. => items
      | _ => []
    let (_, found) := children.foldl (fun (i, acc) c => (i + Node.size fuel c, acc ++ anchoredFrom fuel i c))
      (idx + 1, [])
    own ++ found

/-- What loading needs to know of the document: its version and tag handles. -/
structure DocInfo where
  version : Version := .v1_2
  handles : List (Text × Text) := defaultHandles
deriving Inhabited

/-- Whether a key is a merge key: a scalar read as the merge key, or in a YAML 1.1 document a
plain `<<`. -/
def isMergeKey (doc : DocInfo) : Node → Bool
  | .scalar .mergeKey .. => true
  | .scalar (.str s) form _ _ => doc.version == .v1_1 && form.style == .plain && s == [0x3C, 0x3C]
  | _ => false

/-- The error of a merge value that is not a mapping. -/
def badMergeSource : Thrown := ⟨Text.ofString "Error", Text.ofString "Merge sources must be maps or map aliases"⟩

/-- The error of a merge that merges a mapping into itself. -/
def stackOverflow : Thrown := ⟨Text.ofString "RangeError", Text.ofString "Maximum call stack size exceeded"⟩

/-- The text a loaded key becomes as the key of an object: nothing for null, a primitive's text,
and for an object the key node's own text (a collection's in flow style). -/
def keyText (doc : DocInfo) (fuel : Nat) (keyNode : Node) (key : Loaded) : Except Thrown Text :=
  match key with
  | .null => .ok []
  | .symbol d => .ok (Text.ofString "Symbol(" ++ d ++ Text.ofString ")")
  | k =>
    if k.isObject then
      match Flow.keyText fuel doc.version doc.handles keyNode with
      | .ok t => .ok t
      | .error msg => .error ⟨Text.ofString "Error", msg⟩
    else .ok (Loaded.propertyKey 1 k)

/-- What loading remembers of an anchored node: how often it was used (loading it counts once),
how many alias uses its value stands for, and its value once loaded. -/
structure AnchorUse where
  count : Nat := 1
  aliasCount : Nat := 0
  value : Option Loaded := none
deriving Inhabited

/-- Loading threads the uses of the anchored nodes, by position, and may fail with an error. -/
abbrev LoadM := StateT (List (Nat × AnchorUse)) (Except Thrown)

/-- The most alias uses a document may make. -/
def maxAliasCount : Nat := 100

/-- The anchored node an alias at position `idx` stands for: the last one before it with its
anchor. -/
def resolveAlias (anchors : List (Nat × Text × Node)) (idx : Nat) (name : Text) :
    Option (Nat × Text × Node) :=
  (anchors.filter fun (i, a, _) => i < idx && a == name).getLast?

/-- The uses recorded for the node at a position. -/
def usesAt (uses : List (Nat × AnchorUse)) (i : Nat) : Option AnchorUse :=
  (uses.find? (·.1 == i)).map (·.2)

/-- Records the uses of the node at a position. -/
def setUses (uses : List (Nat × AnchorUse)) (i : Nat) (u : AnchorUse) : List (Nat × AnchorUse) :=
  (i, u) :: uses.filter (·.1 != i)

/-- The alias uses a tree stands for: an alias its anchor's uses times the anchor's own weight, a
collection the most any of its entries stands for (nothing when empty), anything else one. -/
def aliasWeight (anchors : List (Nat × Text × Node)) (uses : List (Nat × AnchorUse)) :
    Nat → Nat → Node → Nat
  | 0, _, _ => 0
  | fuel + 1, idx, n =>
    match n with
    | .aliasRef name _ _ =>
      match resolveAlias anchors idx name with
      | some (i, _, _) =>
        match usesAt uses i with
        | some u => u.count * u.aliasCount
        | none => 0
      | none => 0
    | .map pairs .. =>
      let (_, w) := pairs.foldl (fun (i, w) (k, v) =>
        let kw := aliasWeight anchors uses fuel i k
        let vi := i + Node.size fuel k
        let vw := match v with
          | some v => aliasWeight anchors uses fuel vi v
          | none => 1
        (vi + (v.map (Node.size fuel)).getD 0, max w (max kw vw))) (idx + 1, 0)
      w
    | .seq items .. =>
      let (_, w) := items.foldl (fun (i, w) x =>
        (i + Node.size fuel x, max w (aliasWeight anchors uses fuel i x))) (idx + 1, 0)
      w
    | _ => 1

/-- The error of a document whose aliases are used too often. -/
def excessiveAliases : Thrown :=
  ⟨Text.ofString "ReferenceError",
    Text.ofString "Excessive alias count indicates a resource exhaustion attack"⟩

/-- Adds entries merged from a mapping to a value being built: to an object by their keys' plain
text, to a map or set by key; a key already there keeps its value. -/
def mergeEntries (target : Loaded) (entries : List (Loaded × Loaded)) : Loaded :=
  entries.foldl (fun acc (k, v) =>
    match acc, k with
    | .obj _, .symbol _ => acc
    | .obj ms, k =>
      let pk := Loaded.propertyKey 64 k
      if ms.any (·.1 == pk) then acc else .obj (Loaded.setMember ms pk v)
    | .map es, k => if es.any (·.1.sameKey k) then acc else .map (es ++ [(k, v)])
    | .set items, k => if items.any (·.sameKey k) then acc else .set (items ++ [k])
    | other, _ => other) target

mutual

/-- Loads the node at position `idx`, whose ancestors being loaded are at `opened`.  An anchored
node's value is kept, and an alias gives the value kept for its anchor, counting the use. -/
def toLoaded (anchors : List (Nat × Text × Node)) (doc : DocInfo) : Nat → List Nat → Nat → Node → LoadM Loaded
  | 0, _, _, _ => pure .null
  | fuel + 1, opened, idx, n => do
    let anchored := n.anchor?.isSome
    if anchored then modify (setUses · idx {})
    let v ← match n with
      | .scalar v .. =>
        pure (match v with
          | .null => .null
          | .bool b => .bool b
          | .num x => .num x
          | .str s => .str s
          | .bytes b => .bytes b
          | .timestamp ms => .date ms
          | .mergeKey => .symbol [0x3C, 0x3C])
      | .aliasRef name _ _ =>
        match resolveAlias anchors idx name with
        | none => throw ⟨Text.ofString "ReferenceError",
            Text.ofString "Unresolved alias (the alias must be set before use): " ++ name⟩
        | some (i, _, target) => do
          let u ← match usesAt (← get) i with
            | some u => pure u
            | none => do
              let _ ← toLoaded anchors doc fuel opened i target
              pure ((usesAt (← get) i).getD {})
          let count := u.count + 1
          let uses ← get
          let aliasCount := if u.aliasCount == 0 then aliasWeight anchors uses fuel i target
            else u.aliasCount
          modify (setUses · i { u with count, aliasCount })
          if count * aliasCount > maxAliasCount then throw excessiveAliases
          pure (if opened.contains i then .circular else u.value.getD .null)
      | .map pairs kind _ _ => do
        let start : Loaded := if kind == .set then .set [] else .obj []
        let (_, v) ← pairs.foldlM (addPair anchors doc fuel (idx :: opened)) (idx + 1, start)
        pure v
      | .seq items kind _ _ => do
        let opened := idx :: opened
        let pairOf (item : Node) : Node × Option Node :=
          match item with
          | .map ((k, v) :: _) .. => (k, v)
          | .map [] _ _ r => (Node.emptyAt r, none)
          | other => (other, none)
        let step (acc : Nat × Loaded) (item : Node) : LoadM (Nat × Loaded) := do
          let (i, coll) := acc
          let next := i + Node.size fuel item
          if kind == .plain || kind == .set then
            let v ← toLoaded anchors doc fuel opened i item
            match coll with
            | .arr xs => pure (next, .arr (xs ++ [v]))
            | other => pure (next, other)
          else
            let (k, v?) := pairOf item
            let ki := match item with
              | .map (_ :: _) .. => i + 1
              | _ => i
            match coll with
            | .map es => do
              let key ← toLoaded anchors doc fuel opened ki k
              let value ← match v? with
                | some v => toLoaded anchors doc fuel opened (ki + Node.size fuel k) v
                | none => pure .null
              if es.any (·.1.sameKey key) then
                throw ⟨Text.ofString "Error", Text.ofString "Ordered maps must not include duplicate keys"⟩
              else pure (next, .map (es ++ [(key, value)]))
            | .arr xs => do
              let (_, entry) ← addPair anchors doc fuel opened (ki, .obj []) (k, v?)
              pure (next, .arr (xs ++ [entry]))
            | other => pure (next, other)
        let start : Loaded := if kind == .orderedMap then .map [] else .arr []
        let (_, v) ← items.foldlM step (idx + 1, start)
        pure v
    if anchored then
      modify fun uses => setUses uses idx { (usesAt uses idx).getD {} with value := some v }
    pure v

/-- Adds a pair at position `i` to an object, set or map being built, and gives the position after
it.  A merge key merges its value; an object takes the key's text, a set the key, a map the key
and value. -/
def addPair (anchors : List (Nat × Text × Node)) (doc : DocInfo) :
    Nat → List Nat → Nat × Loaded → Node × Option Node → LoadM (Nat × Loaded)
  | 0, _, acc, _ => pure acc
  | fuel + 1, opened, (i, coll), (k, v?) => do
    let vi := i + Node.size fuel k
    let next := vi + (v?.map (Node.size fuel)).getD 0
    if isMergeKey doc k then
      let coll ← mergeValue anchors doc fuel opened vi v? coll
      pure (next, coll)
    else
      let key ← toLoaded anchors doc fuel opened i k
      match coll with
      | .set items => pure (next, .set (if items.any (·.sameKey key) then items else items ++ [key]))
      | .obj ms => do
        let kt ← match keyText doc fuel k key with
          | .ok t => pure t
          | .error e => throw e
        let value ← match v? with
          | some v => toLoaded anchors doc fuel opened vi v
          | none => pure .null
        pure (next, .obj (Loaded.setMember ms kt value))
      | .map es => do
        let value ← match v? with
          | some v => toLoaded anchors doc fuel opened vi v
          | none => pure .null
        if es.any (·.1.sameKey key) then
          pure (next, .map (es.map fun e => if e.1.sameKey key then (e.1, value) else e))
        else pure (next, .map (es ++ [(key, value)]))
      | other => pure (next, other)

/-- Merges the value of a merge key at position `i`: a mapping or alias of one, or each item of
a sequence (or of the sequence an alias names).  The items of an ordered map or a list of pairs
are pairs, not mappings, so any item there is a bad source. -/
def mergeValue (anchors : List (Nat × Text × Node)) (doc : DocInfo) :
    Nat → List Nat → Nat → Option Node → Loaded → LoadM Loaded
  | 0, _, _, _, coll => pure coll
  | fuel + 1, opened, i, v?, coll =>
    match v? with
    | none => throw badMergeSource
    | some v =>
      let (si, source) : Nat × Option Node := match v with
        | .aliasRef name _ _ =>
          match resolveAlias anchors i name with
          | some (j, _, target) => (j, some target)
          | none => (i, none)
        | n => (i, some n)
      match source with
      | some (.seq items kind ..) => do
        if kind != .plain && !items.isEmpty then throw badMergeSource
        let (_, coll) ← items.foldlM (fun (acc : Nat × Loaded) item => do
            let (j, coll) := acc
            let coll ← mergeSource anchors doc fuel opened j item coll
            pure (j + Node.size fuel item, coll)) (si + 1, coll)
        pure coll
      | some n => mergeSource anchors doc fuel opened si n coll
      | none => throw badMergeSource

/-- Merges one merge source at position `i`: a mapping, or an alias of one. -/
def mergeSource (anchors : List (Nat × Text × Node)) (doc : DocInfo) :
    Nat → List Nat → Nat → Node → Loaded → LoadM Loaded
  | 0, _, _, _, coll => pure coll
  | fuel + 1, opened, i, n, coll =>
    let (si, source) : Nat × Option Node := match n with
      | .aliasRef name _ _ =>
        match resolveAlias anchors i name with
        | some (j, _, target) => (j, some target)
        | none => (i, none)
      | n => (i, some n)
    match source with
    | some (.map pairs ..) =>
      if opened.contains si then throw stackOverflow
      else do
        let (_, entries) ← pairs.foldlM (addPair anchors doc fuel (si :: opened)) (si + 1, .map [])
        match entries with
        | .map es => pure (mergeEntries coll es)
        | _ => pure coll
    | _ => throw badMergeSource

end

/-! ### Error messages -/

/-- The line and column of an offset, as the line starts place it: the line is the number of line
starts before the offset, or the next one if the offset is itself a line start. -/
def linePos (lineStarts : List Nat) (offset : Nat) : Nat × Nat :=
  let low := (lineStarts.filter (· < offset)).length
  match lineStarts[low]? with
  | some s => if s == offset then (low + 1, 1) else linePosBefore low
  | none => linePosBefore low
where
  linePosBefore (low : Nat) : Nat × Nat :=
    if low == 0 then (0, offset)
    else (low, offset - lineStarts.getD (low - 1) 0 + 1)

/-- The units of a text from `a` to `b` (to the end if `b` is absent). -/
def slice (src : Text) (a : Nat) (b : Option Nat) : Text :=
  match b with
  | some b => (src.drop a).take (b - a)
  | none => src.drop a

/-- The message of an error with its place: `at line L, column C`, then the line (and the line
before it when nothing but spaces stands before the place), and carets under the place. -/
def prettify (src : Text) (lineStarts : List Nat) (e : YamlError) : Text :=
  let (line, col) := linePos lineStarts e.start
  let head := e.message ++ Text.ofString " at line " ++ Text.ofNat line ++ Text.ofString ", column " ++ Text.ofNat col
  let ci := col - 1
  let raw := slice src (lineStarts.getD (line - 1) 0) lineStarts[line]?
  let lineStr := (raw.reverse.dropWhile (fun u => u == 0x0A || u == 0x0D)).reverse
  let ellipsis : UInt16 := 0x2026
  let (lineStr, ci) :=
    if ci ≥ 60 && lineStr.length > 80 then
      let trimStart := min (ci - 39) (lineStr.length - 79)
      (ellipsis :: lineStr.drop trimStart, ci - (trimStart - 1))
    else (lineStr, ci)
  let lineStr := if lineStr.length > 80 then lineStr.take 79 ++ [ellipsis] else lineStr
  let lineStr :=
    if line > 1 && (lineStr.take ci).all (· == 0x20) then
      let prev := slice src (lineStarts.getD (line - 2) 0) (some (lineStarts.getD (line - 1) 0))
      let prev := if prev.length > 80 then prev.take 79 ++ [ellipsis, 0x0A] else prev
      prev ++ lineStr
    else lineStr
  if lineStr.any (· != 0x20) then
    let (endLine, endCol) := linePos lineStarts e.stop
    let count := if endLine == line && endCol > col then max 1 (min (endCol - col) (80 - ci)) else 1
    head ++ Text.ofString ":\n\n" ++ lineStr ++ [0x0A] ++ List.replicate ci 0x20 ++ List.replicate count 0x5E ++ [0x0A]
  else head

/-- The offsets where the lines of a text start: zero, and the offset after each line feed. -/
def lineStartsOf (src : Text) : List Nat :=
  0 :: ((src.zipIdx.filter (·.1 == 0x0A)).map (·.2 + 1))

/-- Loads the first document of a YAML text. -/
def load (src : Text) : Except LoadFailure Loaded :=
  let nodes := parseCst src
  let fuel := 5 * src.length + 10
  let r := readStream fuel src.length nodes
  match r.fatal with
  | some f => .error (.thrown ⟨Text.ofString "RangeError", f⟩)
  | none =>
    match r.errors with
    | e :: _ => .error (.malformed (prettify src (lineStartsOf src) e))
    | [] =>
      let anchors := anchoredFrom fuel 0 r.contents
      let doc : DocInfo := ⟨r.version, r.handles⟩
      match (toLoaded anchors doc fuel [] 0 r.contents).run' [] with
      | .ok v => .ok v
      | .error t => .error (.thrown t)

end Yaml

end LogRouter
