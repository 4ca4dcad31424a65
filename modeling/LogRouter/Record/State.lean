import LogRouter.Record.Fields
import LogRouter.Json.Read

/-!
A log record under evaluation.

A record carries the bytes it came from, its fields, and what the rules have done to it so far:
the structured payload a merge built, the topic a forward chose, the text a replace set, and
whether a stop ended the evaluation.  Only the message has a structured view that rules change:
once a merge has built a payload, the message's view is that payload (even when it is `null`);
before that, and for every other field, the view is the field's text read as JSON, if it is JSON.
-/

namespace LogRouter

/-- A log record and the effect of the rules on it so far. -/
structure LogRecord where
  raw : List UInt8
  fields : Fields
  structured : Option Json := none
  destination : Option Text := none
  replacement : Option Text := none
  terminated : Bool := false
deriving Inhabited

namespace LogRecord

/-- The value of a field, if the record has it. -/
def field (r : LogRecord) (name : FieldName) : Option Text := r.fields.get name

/-- The JSON view of a field: the payload built so far for the message, else the field's text
read as JSON. -/
def view (r : LogRecord) (name : FieldName) : Option Json :=
  match name, r.structured with
  | .msg, some v => some v
  | _, _ => (r.field name).bind Json.parse?

end LogRecord

end LogRouter
