import LogRouter.Json.Value

/-!
Templates: texts with `{{name}}` placeholders.

A placeholder is `{{`, blank units, a name `[A-Za-z_][A-Za-z0-9_]*`, blank units and `}}`, where
blank is `Text.isBlank`.  `Template.compile` cuts a text into literal pieces and placeholders,
reading from left to right and taking at each position the placeholder that starts there, if any;
so `{{{a}}}` is the literal `{`, the placeholder `a` and the literal `}`.  Rendering replaces each
placeholder by what the lookup gives for its name, or by nothing.  A template without placeholders
renders as its source without asking the lookup anything.

A fragment is a JSON value whose string leaves are templates.  Compiling one (`Fragment.compile`)
turns each string leaf with placeholders into its template and keeps every other leaf as a literal,
collecting the placeholder names of all leaves in one list, each once.  Expanding it renders the
templates and rebuilds arrays and objects, an object by setting its members in order into an empty
one.  `Json.expand` does the same leaf by leaf on the value itself.

Rendering and expanding take a lookup that runs in a monad (`Template.renderM`, `FragmentNode.expandM`):
resolving a placeholder may read a clock once and keep the reading, or fail.
-/

namespace LogRouter

/-- A piece of a template: literal text or a placeholder name. -/
inductive Piece where
  | literal (t : Text)
  | placeholder (name : Text)
deriving DecidableEq, Inhabited

/-- A compiled template: its source and its pieces. -/
structure Template where
  source : Text
  pieces : List Piece
deriving Inhabited

/-- The list with `x` added at its end, unless `x` is listed already. -/
def addNew {α : Type} [BEq α] (acc : List α) (x : α) : List α :=
  if acc.contains x then acc else acc ++ [x]

/-- The distinct members of a list, in order of first appearance. -/
def distinct {α : Type} [BEq α] (xs : List α) : List α :=
  xs.foldl (fun acc x => if acc.contains x then acc else acc ++ [x]) []

namespace Template

/-- Units that may start a placeholder name. -/
def isNameStart (u : UInt16) : Bool := Text.isAsciiLetter u || u = 0x5F

/-- The placeholder at the start of a text, as its name and the rest after `}}`. -/
def placeholderAt : Text → Option (Text × Text)
  | 0x7B :: 0x7B :: r =>
    match r.dropWhile Text.isBlank with
    | u :: r' =>
      if isNameStart u then
        let name := u :: r'.takeWhile Text.isWordUnit
        match (r'.dropWhile Text.isWordUnit).dropWhile Text.isBlank with
        | 0x7D :: 0x7D :: rest => some (name, rest)
        | _ => none
      else none
    | [] => none
  | _ => none

/-- The literal collected so far (reversed) as a piece, unless it is empty. -/
def flush (acc : Text) : List Piece := if acc.isEmpty then [] else [.literal acc.reverse]

/-- The pieces of a text, with the literal collected so far reversed in `acc`. -/
def scan : Nat → Text → Text → List Piece
  | 0, acc, _ => flush acc
  | _, acc, [] => flush acc
  | fuel + 1, acc, u :: r =>
    match placeholderAt (u :: r) with
    | some (name, rest) => flush acc ++ .placeholder name :: scan fuel [] rest
    | none => scan fuel (u :: acc) r

/-- Cuts a text into literal pieces and placeholders. -/
def compile (source : Text) : Template := ⟨source, scan (source.length + 1) [] source⟩

/-- The placeholder names, each once, in order of first appearance. -/
def placeholderNames (t : Template) : List Text :=
  distinct (t.pieces.filterMap fun | .placeholder n => some n | .literal _ => none)

/-- The text with every placeholder replaced by its value, or by nothing when the lookup has
none; the source itself when there is no placeholder. -/
def render (t : Template) (lookup : Text → Option Text) : Text :=
  if t.placeholderNames.isEmpty then t.source
  else t.pieces.flatMap fun
    | .literal s => s
    | .placeholder n => (lookup n).getD []

/-- A piece's text with a lookup that runs in a monad: a literal as it is, a placeholder as the
lookup gives it, or nothing. -/
def renderPieceM {m : Type → Type} [Monad m] (lookup : Text → m (Option Text)) :
    Piece → m Text
  | .literal s => pure s
  | .placeholder n => do
    let v ← lookup n
    pure (v.getD [])

/-- The texts of pieces one after the other, from left to right. -/
def renderPiecesM {m : Type → Type} [Monad m] (lookup : Text → m (Option Text)) :
    List Piece → m Text
  | [] => pure []
  | p :: rest => do
    let s ← renderPieceM lookup p
    let r ← renderPiecesM lookup rest
    pure (s ++ r)

/-- Rendering with a lookup that runs in a monad; a template without placeholders gives its source
and does not call the lookup. -/
def renderM {m : Type → Type} [Monad m] (t : Template) (lookup : Text → m (Option Text)) :
    m Text :=
  if t.placeholderNames.isEmpty then pure t.source else renderPiecesM lookup t.pieces

end Template

namespace Json

mutual

/-- The placeholder names of the string leaves, depth first, with repeats. -/
def leafPlaceholders : Json → List Text
  | .str s => (Template.compile s).placeholderNames
  | .arr items => itemsPlaceholders items
  | .obj ms => membersPlaceholders ms
  | _ => []

/-- The placeholder names of array elements, in order. -/
def itemsPlaceholders : List Json → List Text
  | [] => []
  | x :: rest => leafPlaceholders x ++ itemsPlaceholders rest

/-- The placeholder names of member values, in order. -/
def membersPlaceholders : List (Text × Json) → List Text
  | [] => []
  | (_, v) :: rest => leafPlaceholders v ++ membersPlaceholders rest

end

/-- The placeholder names of a fragment, each once, in depth-first order. -/
def placeholders (v : Json) : List Text := distinct v.leafPlaceholders

mutual

/-- A fragment with every string leaf rendered as a template; other leaves are kept, and objects
rebuilt by setting their members in order. -/
def expand (lookup : Text → Option Text) : Json → Json
  | .str s => .str ((Template.compile s).render lookup)
  | .arr items => .arr (expandItems lookup items)
  | .obj ms => .obj (expandMembers lookup ms [])
  | v => v

/-- Array elements, each expanded. -/
def expandItems (lookup : Text → Option Text) : List Json → List Json
  | [] => []
  | x :: rest => expand lookup x :: expandItems lookup rest

/-- Member values, each expanded and set in order into the members built so far. -/
def expandMembers (lookup : Text → Option Text) : List (Text × Json) → Members → Members
  | [], acc => acc
  | (k, v) :: rest, acc => expandMembers lookup rest (acc.set k (expand lookup v))

end

end Json

/-- A compiled fragment node: a leaf kept as it is (a string without placeholders among them), a
string leaf with placeholders as its template, an array, or an object's members in order. -/
inductive FragmentNode where
  | literal (v : Json)
  | text (t : Template)
  | array (items : List FragmentNode)
  | object (entries : List (Text × FragmentNode))
deriving Inhabited

namespace FragmentNode

mutual

/-- Compiles a value, adding the placeholder names of its string leaves to the names met so far,
`vars`, each once. -/
def compile : Json → List Text → FragmentNode × List Text
  | .str s, vars =>
    let t := Template.compile s
    (if t.placeholderNames.isEmpty then .literal (.str s) else .text t,
      t.placeholderNames.foldl addNew vars)
  | .arr items, vars =>
    let c := compileItems items vars
    (.array c.1, c.2)
  | .obj ms, vars =>
    let c := compileEntries ms vars
    (.object c.1, c.2)
  | v, vars => (.literal v, vars)

/-- Compiles array elements in order, the names met accumulating. -/
def compileItems : List Json → List Text → List FragmentNode × List Text
  | [], vars => ([], vars)
  | x :: rest, vars =>
    let c := compile x vars
    let cs := compileItems rest c.2
    (c.1 :: cs.1, cs.2)

/-- Compiles member values in order under their keys, the names met accumulating. -/
def compileEntries : List (Text × Json) → List Text → List (Text × FragmentNode) × List Text
  | [], vars => ([], vars)
  | (k, v) :: rest, vars =>
    let c := compile v vars
    let cs := compileEntries rest c.2
    ((k, c.1) :: cs.1, cs.2)

end

mutual

/-- Expands a node with a lookup that runs in a monad: a literal as it is, a template rendered,
array elements in order, and an object rebuilt by setting its members in order into an empty
one. -/
def expandM {m : Type → Type} [Monad m] (lookup : Text → m (Option Text)) : FragmentNode → m Json
  | .literal v => pure v
  | .text t => do
    let s ← t.renderM lookup
    pure (.str s)
  | .array items => do
    let vs ← expandItemsM lookup items
    pure (.arr vs)
  | .object entries => do
    let ms ← expandEntriesM lookup entries []
    pure (.obj ms)

/-- Expands array elements in order. -/
def expandItemsM {m : Type → Type} [Monad m] (lookup : Text → m (Option Text)) :
    List FragmentNode → m (List Json)
  | [] => pure []
  | n :: rest => do
    let v ← expandM lookup n
    let vs ← expandItemsM lookup rest
    pure (v :: vs)

/-- Expands member values in order, setting each into the members built so far. -/
def expandEntriesM {m : Type → Type} [Monad m] (lookup : Text → m (Option Text)) :
    List (Text × FragmentNode) → Members → m Members
  | [], acc => pure acc
  | (k, n) :: rest, acc => do
    let v ← expandM lookup n
    expandEntriesM lookup rest (acc.set k v)

end

end FragmentNode

/-- A compiled fragment: its tree, and the placeholder names of its string leaves, each once, in
the order the compiler met them. -/
structure Fragment where
  root : FragmentNode
  names : List Text
deriving Inhabited

namespace Fragment

/-- Compiles a fragment, the names of all its leaves collected in one list. -/
def compile (v : Json) : Fragment :=
  let c := FragmentNode.compile v []
  ⟨c.1, c.2⟩

/-- Expands a compiled fragment with a lookup that answers at once. -/
def expand (f : Fragment) (lookup : Text → Option Text) : Json :=
  Id.run (f.root.expandM fun n => pure (lookup n))

end Fragment

end LogRouter
