import LogRouter.Json.Value
import LogRouter.Number.Parse
import LogRouter.Config.Issue

/-!
Query paths into JSON values.

A query path names a value inside a JSON document: `meta.topic`, `items[0].id`,
`labels."app.kubernetes.io/name"`.  Its grammar is

    path    := segment ('.' segment)*
    segment := name ('[' digits ']')*
    name    := [A-Za-z_][A-Za-z0-9_-]*  |  '"' (unit other than '"' and '\' | '\' unit)+ '"'

and it reads to a list of steps: a key for each name (a quoted name unescaped) and an index for each
bracket, the number its digits spell read as a double, so that a very long index is rounded.
`QueryPath.compile` reads a path or reports the first problem with its offset in UTF-16 units;
`Step.resolve` walks a value along the steps.  A key step needs an object with that member, an
index step an array with an element at that whole number.
-/

namespace LogRouter

/-- One step of a query path. -/
inductive Step where
  | key (name : Text)
  | index (x : Double)
deriving DecidableEq, Inhabited

/-- What is wrong with a query path at some offset. -/
inductive PathProblem where
  | unterminatedQuote
  | emptyQuote
  | emptySegment
  | unexpected (u : UInt16)
  | unterminatedIndex
  | invalidIndex (inside : Text)
  | trailingDot
deriving DecidableEq, Inhabited

/-- Why a query path does not read. -/
inductive PathError where
  | blank
  | at (problem : PathProblem) (offset : Nat)
deriving DecidableEq, Inhabited

namespace PathProblem

/-- The words for a problem. -/
def describe : PathProblem → Text
  | .unterminatedQuote => Text.ofString "unterminated quoted segment"
  | .emptyQuote => Text.ofString "empty quoted segment"
  | .emptySegment => Text.ofString "empty segment"
  | .unexpected u => Text.ofString "unexpected character " ++ Text.quoted [u]
  | .unterminatedIndex => Text.ofString "unterminated index"
  | .invalidIndex inside => Text.ofString "invalid index " ++ Text.quoted ([0x5B] ++ inside ++ [0x5D])
  | .trailingDot => Text.ofString "trailing dot"

end PathProblem

namespace PathError

/-- The message for a path that does not read, naming the offset and the path. -/
def message (path : Text) : PathError → Text
  | .blank => Text.ofString "query path must not be empty"
  | .at p i => p.describe ++ Text.ofString " at offset " ++ Text.ofNat i ++ Text.ofString " in " ++
      Text.quoted path

/-- The configuration issue for a path that does not read. -/
def issue (path : Text) (e : PathError) : Issue := Issue.atRoot (e.message path)

end PathError

namespace QueryPath

/-- Units that may start a bare name. -/
def isNameStart (u : UInt16) : Bool := Text.isAsciiLetter u || u = 0x5F

/-- Units that may continue a bare name. -/
def isNamePart (u : UInt16) : Bool := Text.isWordUnit u || u = 0x2D

/-- The body of a quoted name after its opening quote: the unescaped name, the rest after the
closing quote and the number of units read, closing quote included; `none` if no quote closes it. A
backslash takes the next unit as it is; a backslash at the very end is kept. -/
def readQuoted : Text → Option (Text × Text × Nat)
  | [] => none
  | 0x22 :: r => some ([], r, 1)
  | 0x5C :: c :: r => (readQuoted r).map fun (n, r', k) => (c :: n, r', k + 2)
  | u :: r => (readQuoted r).map fun (n, r', k) => (u :: n, r', k + 1)

/-- Index brackets at the start of a text at `offset`: their steps, the rest and its offset. -/
def readIndices (offset : Nat) : Text → Except PathError (List Step × Text × Nat)
  | 0x5B :: r =>
    match r.idxOf? 0x5D with
    | none => .error (.at .unterminatedIndex offset)
    | some j =>
      let inside := r.take j
      if !inside.isEmpty && inside.all Text.isDigit then
        match readIndices (offset + j + 2) (r.drop (j + 1)) with
        | .ok (steps, rest, o) =>
          .ok (.index (Double.ofNumberText inside) :: steps, rest, o)
        | .error e => .error e
      else .error (.at (.invalidIndex inside) offset)
  | t => .ok ([], t, offset)
termination_by t => t.length
decreasing_by simp only [List.length_drop, List.length_cons]; omega

/-- One segment (a name and its indices) at `offset`: its steps, the rest and its offset. -/
def readSegment (total : Nat) (offset : Nat) : Text → Except PathError (List Step × Text × Nat)
  | 0x22 :: r =>
    match readQuoted r with
    | none => .error (.at .unterminatedQuote total)
    | some (name, rest, k) =>
      if name.isEmpty then .error (.at .emptyQuote (offset + 1 + k))
      else (readIndices (offset + 1 + k) rest).map fun (s, r, o) => (.key name :: s, r, o)
  | u :: r =>
    if isNameStart u then
      let name := u :: r.takeWhile isNamePart
      let rest := r.dropWhile isNamePart
      (readIndices (offset + name.length) rest).map fun (s, r, o) => (.key name :: s, r, o)
    else .error (.at (if u = 0x2E then .emptySegment else .unexpected u) offset)
  | [] => .error (.at .emptySegment offset)

/-- Segments from `offset` on, separated by dots, until the text ends. -/
def readSegments (total : Nat) : Nat → Nat → Text → Except PathError (List Step)
  | 0, _, _ => .ok []
  | fuel + 1, offset, t =>
    match readSegment total offset t with
    | .error e => .error e
    | .ok (steps, rest, o) =>
      match rest with
      | [] => .ok steps
      | [0x2E] => .error (.at .trailingDot (o + 1))
      | 0x2E :: r => (readSegments total fuel (o + 1) r).map (steps ++ ·)
      | u :: _ => .error (.at (.unexpected u) o)

/-- The steps of a query path, or the first problem in it. A path of blank units only is refused
before anything else. -/
def compile (path : Text) : Except PathError (List Step) :=
  if (Text.trim path).isEmpty then .error .blank
  else readSegments path.length (path.length + 1) 0 path

end QueryPath

namespace Step

/-- Walks a value along steps: a key step enters an object member, an index step an array
element; `none` as soon as a step does not apply. -/
def resolve : Json → List Step → Option Json
  | v, [] => some v
  | .obj ms, .key k :: rest =>
    match Members.get? ms k with
    | some v => resolve v rest
    | none => none
  | .arr xs, .index x :: rest =>
    -- the index is looked up as the whole number it stands for
    match x.toInt? with
    | some (.ofNat n) =>
      match xs[n]? with
      | some v => resolve v rest
      | none => none
    | _ => none
  | _, _ :: _ => none

end Step

end LogRouter
