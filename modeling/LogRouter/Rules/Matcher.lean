import LogRouter.Record.State
import LogRouter.Query.Path
import LogRouter.Json.Write
import LogRouter.Pattern.Match
import LogRouter.Pattern.Names

/-!
Matchers: the condition of a rule.

A matcher tests one field of a record.  A query matcher reads the field's JSON view and matches
when its path leads to a value other than `null`; it captures that value as `value`, a string as
it is and anything else as JSON text.  A pattern matcher searches the field's text for a regular
expression anywhere in it and captures the named groups that took part in the match, in the order
of their numbers; a group named `__proto__` is never kept, since a plain object cannot hold a
member of that name.  A record without the field never matches.

A matcher announces the names it may capture: `value` for a query, and for a pattern the names its
text declares (`Pattern.declaredNames`).
-/

namespace LogRouter

/-- What a successful match captured: names and texts, in order. -/
abbrev Captures := List (Text × Text)

/-- The condition of a rule: a query into the JSON view of a field, or a pattern searched in its
text. -/
inductive Matcher where
  | query (field : FieldName) (source : Text) (steps : List Step)
  | pattern (field : FieldName) (source : Text) (pattern : Pattern)
deriving Inhabited

namespace Matcher

/-- The field a matcher tests. -/
def field : Matcher → FieldName
  | .query f .. => f
  | .pattern f .. => f

/-- The expression as configured. -/
def source : Matcher → Text
  | .query _ s _ => s
  | .pattern _ s _ => s

/-- The kind of a matcher, as reports name it. -/
def kindText : Matcher → Text
  | .query .. => Text.ofString "query"
  | .pattern .. => Text.ofString "pattern"

/-- The names a matcher may capture. -/
def captureNames : Matcher → List Text
  | .query .. => [Text.ofString "value"]
  | .pattern _ s _ => Pattern.declaredNames s

/-- A query matcher, or the problem with its path. -/
def compileQuery (source : Text) (field : FieldName) : Except Issue Matcher :=
  match QueryPath.compile source with
  | .ok steps => .ok (.query field source steps)
  | .error e => .error (e.issue source)

/-- The issue for a pattern that does not read. -/
def patternIssue (source : Text) (e : PatternError) : Issue :=
  Issue.atRoot (Text.ofString "invalid regular expression: " ++ e.message source)

/-- A pattern matcher, or why its pattern is refused. -/
def compilePattern (source : Text) (field : FieldName) : Except Issue Matcher :=
  match Pattern.parse source with
  | .ok p => .ok (.pattern field source p)
  | .error e => .error (patternIssue source e)

/-- The text a query captures: a string as it is, anything else as JSON text. -/
def valueText : Json → Text
  | .str s => s
  | v => v.render

/-- The name a plain object cannot hold as a member. -/
def protoName : Text := Text.ofString "__proto__"

/-- Tests a record: the captures of a match, or `none`. -/
def evaluate (m : Matcher) (r : LogRecord) : Option Captures :=
  match m with
  | .query f _ steps =>
    match (r.view f).bind (Step.resolve · steps) with
    | none | some .null => none
    | some v => some [(Text.ofString "value", valueText v)]
  | .pattern f _ p =>
    match r.field f with
    | none => none
    | some text =>
      (p.search text).map fun found =>
        (p.namedSpans text found).filter (·.1 != protoName)

end Matcher

end LogRouter
