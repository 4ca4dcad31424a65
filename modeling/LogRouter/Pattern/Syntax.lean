import LogRouter.Text.Basic

/-!
Regular expressions: syntax.

A pattern is read into a tree of nodes over UTF-16 units (no flags: case matters, `^` and `$` are
the ends of the text, `.` stops at line terminators).  Captures are numbered from 1 in the order of
their opening parentheses; a repetition records the numbers of the captures inside it, which are
cleared at the start of every round.  A back reference by name is kept by name until the whole
pattern is read, then tied to its capture.

`PatternError` lists the ways a pattern can be refused, each with its message.
-/

namespace LogRouter

/-- One item of a character class: a unit, a range of units, or a class escape. -/
inductive ClassItem where
  | unit (u : UInt16)
  | range (lo hi : UInt16)
  /-- `\d`, `\s`, `\w` (or their complements when `negated`) -/
  | escape (kind : Char) (negated : Bool)
deriving DecidableEq, Inhabited, Repr

/-- A node of a pattern. -/
inductive Node where
  | empty
  | unit (u : UInt16)
  | anyButNewline
  | set (negated : Bool) (items : List ClassItem)
  | seq (items : List Node)
  | alt (choices : List Node)
  /-- a capture with its number -/
  | capture (index : Nat) (body : Node)
  /-- a repetition: at least `min`, at most `max` (none: no bound), greedy or lazy, clearing the
  captures numbered `first` up to but not including `stop` at each round -/
  | repeat (min : Nat) (max : Option Nat) (greedy : Bool) (first stop : Nat) (body : Node)
  | lineStart
  | lineEnd
  | wordBoundary (negated : Bool)
  /-- a look-around: ahead or behind, positive or negative -/
  | look (ahead : Bool) (negated : Bool) (body : Node)
  | backref (index : Nat)
  | namedBackref (name : Text)
deriving Inhabited, Repr

/-- Why a pattern is refused. -/
inductive PatternError where
  | unterminatedGroup
  | unmatchedParen
  | escapeAtEnd
  | nothingToRepeat
  | rangeOutOfOrder
  | invalidQuantifier
  | invalidGroup
  | invalidCaptureGroupName
  | duplicateCaptureGroupName
  | invalidNamedReference
  | invalidNamedCaptureReferenced
  | invalidUnicodeEscape
  | invalidEscape
  | unterminatedCharacterClass
  | classRangeOutOfOrder
  | tooLarge
deriving DecidableEq, Inhabited, Repr

namespace PatternError

/-- The words for a refusal. -/
def describe : PatternError → String
  | .unterminatedGroup => "Unterminated group"
  | .unmatchedParen => "Unmatched ')'"
  | .escapeAtEnd => "\\ at end of pattern"
  | .nothingToRepeat => "Nothing to repeat"
  | .rangeOutOfOrder => "numbers out of order in {} quantifier"
  | .invalidQuantifier => "Invalid quantifier"
  | .invalidGroup => "Invalid group"
  | .invalidCaptureGroupName => "Invalid capture group name"
  | .duplicateCaptureGroupName => "Duplicate capture group name"
  | .invalidNamedReference => "Invalid named reference"
  | .invalidNamedCaptureReferenced => "Invalid named capture referenced"
  | .invalidUnicodeEscape => "Invalid Unicode escape"
  | .invalidEscape => "Invalid escape"
  | .unterminatedCharacterClass => "Unterminated character class"
  | .classRangeOutOfOrder => "Range out of order in character class"
  | .tooLarge => "Regular expression too large"

/-- The message for a refused pattern, which quotes the pattern between slashes. -/
def message (source : Text) (e : PatternError) : Text :=
  Text.ofString "Invalid regular expression: /" ++ source ++ Text.ofString "/: " ++
    Text.ofString e.describe

end PatternError

/-- A pattern read in full: its tree, its number of captures and the names of the named ones. -/
structure Pattern where
  root : Node
  captureCount : Nat
  names : List (Text × Nat)
deriving Inhabited

namespace Node

mutual
/-- Whether a node can only ever match the empty text. -/
def onlyEmpty : Node → Bool
  | .empty | .lineStart | .lineEnd | .wordBoundary _ | .look .. => true
  | .unit _ | .anyButNewline | .set .. | .backref _ | .namedBackref _ => false
  | .seq items => allOnlyEmpty items
  | .alt choices => allOnlyEmpty choices
  | .capture _ body => body.onlyEmpty
  | .repeat _ max _ _ _ body => max == some 0 || body.onlyEmpty

/-- Whether every node of a list can only match the empty text. -/
def allOnlyEmpty : List Node → Bool
  | [] => true
  | n :: ns => n.onlyEmpty && allOnlyEmpty ns
end

mutual
/-- Ties every named back reference to the number of the capture of that name. -/
def bindNames (names : List (Text × Nat)) : Node → Node
  | .namedBackref name =>
    match names.find? (·.1 == name) with
    | some (_, i) => .backref i
    | none => .empty
  | .seq items => .seq (bindNamesAll names items)
  | .alt choices => .alt (bindNamesAll names choices)
  | .capture i body => .capture i (body.bindNames names)
  | .repeat lo hi greedy first stop body => .repeat lo hi greedy first stop (body.bindNames names)
  | .look ahead negated body => .look ahead negated (body.bindNames names)
  | n => n

/-- Ties the named back references of a list of nodes. -/
def bindNamesAll (names : List (Text × Nat)) : List Node → List Node
  | [] => []
  | n :: ns => n.bindNames names :: bindNamesAll names ns
end

end Node

end LogRouter
