import LogRouter.Yaml.Lexer

/-!
YAML concrete syntax: the tokens and the tree the parser builds from lexemes.

A source token is a lexeme with its kind, offset and the indentation of its line.  The tree keeps
every source token: documents with their leading properties and trailing tokens, flow scalars with
what follows them on their line, block scalars with their header, block and flow collections as
lists of items.  An item has the tokens before its key, its key, the tokens between key and value
(`sep`, present once a key or `:` was seen), its value, and whether it began with `?`.
-/

namespace LogRouter

namespace Yaml

/-- The kind of a source token. -/
inductive TokenKind where
  | byteOrderMark
  | docMode
  | flowErrorEnd
  | scalar
  | docStart
  | docEnd
  | newline
  | seqItemInd
  | explicitKeyInd
  | mapValueInd
  | flowMapStart
  | flowMapEnd
  | flowSeqStart
  | flowSeqEnd
  | comma
  | space
  | comment
  | directiveLine
  | aliasRef
  | anchor
  | tag
  | singleQuotedScalar
  | doubleQuotedScalar
  | blockScalarHeader
deriving DecidableEq, Inhabited, Repr

namespace TokenKind

/-- The name of a token kind, as messages give it. -/
def name : TokenKind → String
  | byteOrderMark => "byte-order-mark"
  | docMode => "doc-mode"
  | flowErrorEnd => "flow-error-end"
  | scalar => "scalar"
  | docStart => "doc-start"
  | docEnd => "doc-end"
  | newline => "newline"
  | seqItemInd => "seq-item-ind"
  | explicitKeyInd => "explicit-key-ind"
  | mapValueInd => "map-value-ind"
  | flowMapStart => "flow-map-start"
  | flowMapEnd => "flow-map-end"
  | flowSeqStart => "flow-seq-start"
  | flowSeqEnd => "flow-seq-end"
  | comma => "comma"
  | space => "space"
  | comment => "comment"
  | directiveLine => "directive-line"
  | aliasRef => "alias"
  | anchor => "anchor"
  | tag => "tag"
  | singleQuotedScalar => "single-quoted-scalar"
  | doubleQuotedScalar => "double-quoted-scalar"
  | blockScalarHeader => "block-scalar-header"

/-- The kind of a piece of source, if it is a token at all. -/
def ofPiece (t : Text) : Option TokenKind :=
  match t with
  | [] => some newline
  | [0xFEFF] => some byteOrderMark
  | [0x0A] => some newline
  | [0x0D, 0x0A] => some newline
  | [0x2D, 0x2D, 0x2D] => some docStart
  | [0x2E, 0x2E, 0x2E] => some docEnd
  | [0x2D] => some seqItemInd
  | [0x3F] => some explicitKeyInd
  | [0x3A] => some mapValueInd
  | [0x7B] => some flowMapStart
  | [0x7D] => some flowMapEnd
  | [0x5B] => some flowSeqStart
  | [0x5D] => some flowSeqEnd
  | [0x2C] => some comma
  | u :: _ =>
    if u == 0x20 || u == 0x09 then some space
    else if u == 0x23 then some comment
    else if u == 0x25 then some directiveLine
    else if u == 0x2A then some aliasRef
    else if u == 0x26 then some anchor
    else if u == 0x21 then some tag
    else if u == 0x27 then some singleQuotedScalar
    else if u == 0x22 then some doubleQuotedScalar
    else if u == 0x7C || u == 0x3E then some blockScalarHeader
    else none

/-- Whether a kind is a scalar or an alias written inline. -/
def isFlowScalar : TokenKind → Bool
  | aliasRef | scalar | singleQuotedScalar | doubleQuotedScalar => true
  | _ => false

end TokenKind

/-- A piece of source with its kind, its offset and the indentation of its line. -/
structure SourceToken where
  kind : TokenKind
  offset : Nat
  indent : Nat
  source : Text
deriving Inhabited, Repr

/-- One entry of a collection: the tokens before the key, the key, the tokens between key and
value (present once a key or a `:` was seen), the value, and whether it began with `?`. -/
structure Item (α : Type) where
  start : List SourceToken := []
  key : Option α := none
  sep : Option (List SourceToken) := none
  value : Option α := none
  explicitKey : Bool := false
deriving Inhabited

/-- A node of the concrete syntax tree. -/
inductive Cst where
  | document (offset : Nat) (start : List SourceToken) (value : Option Cst) (finish : Option (List SourceToken))
  | docEnd (offset : Nat) (source : Text) (finish : Option (List SourceToken))
  | flowScalar (kind : TokenKind) (offset indent : Nat) (source : Text) (finish : Option (List SourceToken))
  | blockScalar (offset indent : Nat) (props : List SourceToken) (source : Text)
  | blockMap (offset indent : Nat) (items : List (Item Cst))
  | blockSeq (offset indent : Nat) (items : List (Item Cst))
  | flowCollection (offset indent : Nat) (start : SourceToken) (items : List (Item Cst)) (finish : List SourceToken)
  | error (offset : Nat) (message : Text) (source : Text)
  | directive (offset : Nat) (source : Text)
  | bare (token : SourceToken)
deriving Inhabited

namespace Cst

/-- The offset where a node starts. -/
def offset : Cst → Nat
  | document o .. | docEnd o .. | flowScalar _ o .. | blockScalar o .. | blockMap o .. | blockSeq o ..
  | flowCollection o .. | error o .. | directive o _ => o
  | bare t => t.offset

/-- The indentation of a node, for nodes that have one. -/
def indent? : Cst → Option Nat
  | flowScalar _ _ i .. | blockScalar _ i .. | blockMap _ i _ | blockSeq _ i _ | flowCollection _ i .. => some i
  | _ => none

/-- Whether a node is a scalar, alias or flow collection: a node written inline. -/
def isFlowToken : Cst → Bool
  | flowScalar .. | flowCollection .. => true
  | _ => false

/-- Whether a node is a block collection. -/
def isBlockCollection : Cst → Bool
  | blockMap .. | blockSeq .. => true
  | _ => false

/-- The tokens after a node on its line, for nodes that keep them. -/
def finish? : Cst → Option (List SourceToken)
  | document _ _ _ f | docEnd _ _ f | flowScalar _ _ _ _ f => f
  | flowCollection _ _ _ _ f => some f
  | _ => none

/-- Appends tokens after a node; nodes without such a list are left alone. -/
def appendFinish (c : Cst) (ts : List SourceToken) : Cst :=
  match c with
  | document o s v f => document o s v (some (f.getD [] ++ ts))
  | docEnd o s f => docEnd o s (some (f.getD [] ++ ts))
  | flowScalar k o i s f => flowScalar k o i s (some (f.getD [] ++ ts))
  | flowCollection o i s items f => flowCollection o i s items (f ++ ts)
  | c => c

end Cst

/-- Whether a list has a token of a kind. -/
def hasKind (ts : List SourceToken) (k : TokenKind) : Bool := ts.any (·.kind == k)

/-- Whether a list has a token other than space, comments and line breaks. -/
def hasContent (ts : List SourceToken) : Bool :=
  ts.any fun t => !(t.kind == .space || t.kind == .comment || t.kind == .newline)

end Yaml

end LogRouter
