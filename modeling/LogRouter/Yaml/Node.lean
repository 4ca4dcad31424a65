import LogRouter.Yaml.Cst
import LogRouter.Number.Double

/-!
YAML nodes: what composing a document gives.

A node is a scalar with its resolved value, an alias naming an anchor, or a mapping or sequence.
Each node keeps its range in the source (start, end of its value, end with trailing comments) and
its properties: anchor, explicit tag, the comment after it and the comment before it, and whether a
blank line stands before it.  A scalar also keeps how it was written (its text, its quoting style,
the notation of a number) so that it can be written again as it stood.  Scalar values are null,
booleans, numbers, strings, and the kinds a document may ask for by tag or by the YAML 1.1 types:
bytes (`!!binary`), timestamps (in milliseconds) and the merge key `<<`.  A mapping records
whether a tag made it a set, and a sequence whether a tag made it an ordered map or a list of
pairs.

`YamlError` is a problem found while composing: its span in the source, whether it is only a
warning, and its message.
-/

namespace LogRouter

namespace Yaml

/-- The value of a scalar node. -/
inductive ScalarValue where
  | null
  | bool (b : Bool)
  | num (x : Double)
  | str (s : Text)
  | bytes (b : List UInt8)
  | timestamp (millis : Int)
  | mergeKey
deriving Inhabited

namespace ScalarValue

/-- Whether two scalar values are the same value, as a strict equality test sees them: numbers
by value (so `NaN` differs from itself), texts by units; byte arrays, times and merge keys are
never the same. -/
def same : ScalarValue → ScalarValue → Bool
  | .null, .null => true
  | .bool a, .bool b => a == b
  | .num a, .num b => Double.numEq a b
  | .str a, .str b => a == b
  | _, _ => false

end ScalarValue

/-- How a scalar was written: plain, in single or double quotes, or as a literal or folded
block. -/
inductive ScalarStyle where
  | plain
  | singleQuoted
  | doubleQuoted
  | literal
  | folded
deriving DecidableEq, Inhabited

/-- The notation a scalar type gives a number, which writing it again keeps: none, binary, octal
or hexadecimal digits, an exponent, or base-60 groups. -/
inductive NumberFormat where
  | none
  | binary
  | octal
  | hex
  | exponent
  | sexagesimal
deriving DecidableEq, Inhabited

/-- How a scalar was written: its text once quotes and escapes are read, its style, the notation
of its type, and the number of fraction digits a float's text shows when it ends in zero. -/
structure ScalarForm where
  source : Text
  style : ScalarStyle
  format : NumberFormat := .none
  minFractionDigits : Nat := 0
deriving Inhabited

/-- The properties of a node: its anchor and explicit tag, the comment after it and the one
before it (empty when absent), and whether a blank line stands before it. -/
structure NodeProps where
  anchor : Option Text := none
  tag : Option Text := none
  comment : Text := []
  commentBefore : Text := []
  spaceBefore : Bool := false
deriving Inhabited

/-- What kind of collection a tag made a mapping or sequence. -/
inductive CollectionKind where
  | plain
  | set
  | orderedMap
  | pairs
deriving DecidableEq, Inhabited

/-- Where a node stands: its start, the end of its value, and its end with trailing comments. -/
structure Range where
  start : Nat
  valueEnd : Nat
  stop : Nat
deriving Inhabited, DecidableEq

/-- A composed YAML node. -/
inductive Node where
  | scalar (value : ScalarValue) (form : ScalarForm) (props : NodeProps) (range : Range)
  | aliasRef (name : Text) (props : NodeProps) (range : Range)
  | map (pairs : List (Node × Option Node)) (kind : CollectionKind) (props : NodeProps) (range : Range)
  | seq (items : List Node) (kind : CollectionKind) (props : NodeProps) (range : Range)
deriving Inhabited

namespace Node

/-- The range of a node. -/
def range : Node → Range
  | scalar _ _ _ r | aliasRef _ _ r | map _ _ _ r | seq _ _ _ r => r

/-- The properties of a node. -/
def props : Node → NodeProps
  | scalar _ _ p _ | aliasRef _ p _ | map _ _ p _ | seq _ _ p _ => p

/-- A node with its properties changed by `f`. -/
def modifyProps (n : Node) (f : NodeProps → NodeProps) : Node :=
  match n with
  | scalar v s p r => scalar v s (f p) r
  | aliasRef a p r => aliasRef a (f p) r
  | map ps k p r => map ps k (f p) r
  | seq is k p r => seq is k (f p) r

/-- A node with its range changed by `f`. -/
def modifyRange (n : Node) (f : Range → Range) : Node :=
  match n with
  | scalar v s p r => scalar v s p (f r)
  | aliasRef a p r => aliasRef a p (f r)
  | map ps k p r => map ps k p (f r)
  | seq is k p r => seq is k p (f r)

/-- Gives a node an anchor; an alias takes none. -/
def withAnchor (n : Node) (a : Option Text) : Node :=
  match a, n with
  | none, n => n
  | some _, aliasRef .. => n
  | some _, n => n.modifyProps fun p => { p with anchor := a }

/-- The anchor of a node. -/
def anchor? (n : Node) : Option Text := n.props.anchor

/-- Whether a node is a collection. -/
def isCollection : Node → Bool
  | map .. | seq .. => true
  | _ => false

/-- Whether a node is a scalar. -/
def isScalar : Node → Bool
  | scalar .. => true
  | _ => false

/-- Whether two keys count as the same key: equal scalar values. -/
def sameKey : Node → Node → Bool
  | scalar a .., scalar b .. => a.same b
  | _, _ => false

/-- A null scalar standing at a range, as an empty key or value reads. -/
def emptyAt (r : Range) : Node := scalar .null ⟨[], .plain, .none, 0⟩ {} r

end Node

/-- A problem found while reading a document: its span, whether it is only a warning, and its
message. -/
structure YamlError where
  start : Nat
  stop : Nat
  warning : Bool := false
  message : Text
deriving Inhabited

namespace YamlError

/-- An error at one offset. -/
def atOffset (offset : Nat) (message : String) : YamlError := ⟨offset, offset + 1, false, Text.ofString message⟩

/-- An error at one offset whose message ends with a text. -/
def withText (offset : Nat) (message : String) (t : Text) : YamlError :=
  ⟨offset, offset + 1, false, Text.ofString message ++ t⟩

/-- An error spanning a source token. -/
def onToken (t : SourceToken) (message : String) : YamlError :=
  ⟨t.offset, t.offset + t.source.length, false, Text.ofString message⟩

/-- An error spanning a range. -/
def onRange (r : Range) (message : String) : YamlError := ⟨r.start, r.valueEnd, false, Text.ofString message⟩

end YamlError

end Yaml

end LogRouter
