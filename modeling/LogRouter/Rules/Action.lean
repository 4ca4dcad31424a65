import LogRouter.Rules.Matcher
import LogRouter.Template
import LogRouter.Json.Merge
import LogRouter.Time.Instant
import LogRouter.Config.Document
import LogRouter.Yaml.Load

/-!
Actions: what a matched rule does to a record.

`merge` expands its fragment and merges it into the record's structured payload: the payload built
so far, else the message read as JSON, else an empty object.  `stop` ends the evaluation of the
record.  `forward` renders its topic, trims it, and routes the record there unless the result is
blank.  `replace` renders its template as the outgoing payload.

Placeholders are resolved, in order, from the built-in variables (`version`, and `iso8601`, the
clock's reading at second precision), then from the match's captures, then from the record's
fields.  The captures are held in a plain object, so a name the object inherits (`toString`,
`constructor`, ...) that the match did not capture resolves to the inherited member's text before
the fields are consulted.

An action runs with a lookup that may read a clock (`Action.applyM`): the first `{{iso8601}}` its
templates render reads it, and every later one renders that reading.  `Action.apply` is the action
with a lookup that answers at once, the clock's text fixed in the context.
-/

namespace LogRouter

/-- What a matched rule does to a record. -/
inductive Action where
  | merge (fragment : Json)
  | stop
  | forward (topic : Template)
  | replace (template : Template)
deriving Inhabited

namespace Action

/-- The action for its configuration. -/
def ofSpec : ActionSpec → Action
  | .merge f => merge f
  | .stop => stop
  | .forward t => forward (Template.compile t)
  | .replace t => replace (Template.compile t)

/-- The kind of an action, as configuration names it. -/
def kindText : Action → Text
  | merge _ => Text.ofString "merge"
  | stop => Text.ofString "stop"
  | forward _ => Text.ofString "forward"
  | replace _ => Text.ofString "replace"

/-- The placeholder names an action's templates use, each once, in order. -/
def placeholderNames : Action → List Text
  | merge f => (Fragment.compile f).names
  | stop => []
  | forward t | replace t => t.placeholderNames

/-- Whether an action reads the clock when it runs. -/
def readsClock (a : Action) : Bool := a.placeholderNames.contains (Text.ofString "iso8601")

end Action

/-- The names a plain object inherits, with the text each member becomes in a string: the
methods print as native functions, and the prototype link as an object. -/
def inheritedMembers : List (String × String) :=
  let native (n : String) : String := "function " ++ n ++ "() \x7b [native code] \x7d"
  [("constructor", native "Object"), ("__defineGetter__", native "__defineGetter__"),
   ("__defineSetter__", native "__defineSetter__"), ("hasOwnProperty", native "hasOwnProperty"),
   ("__lookupGetter__", native "__lookupGetter__"), ("__lookupSetter__", native "__lookupSetter__"),
   ("isPrototypeOf", native "isPrototypeOf"), ("propertyIsEnumerable", native "propertyIsEnumerable"),
   ("toString", native "toString"), ("valueOf", native "valueOf"), ("__proto__", "[object Object]"),
   ("toLocaleString", native "toLocaleString")]

/-- The text of an inherited member of a plain object, if the name is one. -/
def inheritedText? (name : Text) : Option Text :=
  (inheritedMembers.find? (fun p => Text.ofString p.1 == name)).map (Text.ofString ·.2)

/-- What an action may read while it runs: the match's captures, the version, and the clock's
reading as the `iso8601` text (only taken when the action reads the clock). -/
structure ActionContext where
  captures : Captures
  version : Text
  iso8601 : Text := []
deriving Inhabited

namespace ActionContext

/-- Resolves a placeholder name: built-ins, then captures (and what a plain object inherits),
then the record's fields. -/
def lookup (ctx : ActionContext) (r : LogRecord) (name : Text) : Option Text :=
  if name == Text.ofString "version" then some ctx.version
  else if name == Text.ofString "iso8601" then some ctx.iso8601
  else
    match ctx.captures.lookup name with
    | some v => some v
    | none =>
      match inheritedText? name with
      | some v => some v
      | none => (FieldName.ofText? name).bind r.field

end ActionContext

namespace LogRecord

/-- The base a merge starts from: the payload built so far (even `null`), else the message read
as JSON; `null` and an absent view give an empty object. -/
def mergeBase (r : LogRecord) : Json :=
  match r.view .msg with
  | some .null | none => .obj []
  | some v => v

end LogRecord

namespace Action

/-- Applies an action to a record with a lookup that runs in a monad: the fragment is compiled and
expanded, or the template rendered, resolving placeholders through the lookup as it goes; the
record is changed once that is done. -/
def applyM {m : Type → Type} [Monad m] (a : Action) (lookup : Text → m (Option Text))
    (r : LogRecord) : m LogRecord :=
  match a with
  | merge f => do
    let patch ← (Fragment.compile f).root.expandM lookup
    pure { r with structured := some (Json.merge r.mergeBase patch) }
  | stop => pure { r with terminated := true }
  | forward t => do
    let rendered ← t.renderM lookup
    let topic := Text.trim rendered
    pure (if topic.isEmpty then r else { r with destination := some topic })
  | replace t => do
    let text ← t.renderM lookup
    pure { r with replacement := some text }

/-- Applies an action to a record, its placeholders resolved in `ctx`. -/
def apply (a : Action) (ctx : ActionContext) (r : LogRecord) : LogRecord :=
  let lookup := ctx.lookup r
  match a with
  | merge f => { r with structured := some (Json.merge r.mergeBase (Json.expand lookup f)) }
  | stop => { r with terminated := true }
  | forward t =>
    let rendered := Text.trim (t.render lookup)
    if rendered.isEmpty then r else { r with destination := some rendered }
  | replace t => { r with replacement := some (t.render lookup) }

end Action

/-- The error of formatting a time that is not valid. -/
def invalidTime : Thrown := ⟨Text.ofString "RangeError", Text.ofString "Invalid time value"⟩

end LogRouter
