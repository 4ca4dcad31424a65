import LogRouter.Config.Schema
import LogRouter.Record.Fields

/-!
The configuration document.

A configuration has two sections.  `global` holds the listener (address, default `127.0.0.1`, a
port from 0 to 65535, and optional TLS files), the status endpoint (address and port), the broker
(a buffer size, default 1024; client settings, an open mapping whose known keys are typed; and the
default topic) and metrics (an optional statsd `host:port`).  `rules` is a list of rules, each
with exactly one of a query (`jmespath`) or a pattern (`regex`), the field it tests (default
`msg`), and its actions: `merge` a JSON fragment, `stop`, `forward` to a topic template, or
`replace` the payload with a template.  Every object refuses keys it does not know, except the
client settings, which keep them.

`RuleSpec` is a rule as the validated document gives it.
-/

namespace LogRouter

namespace ConfigDocument

/-- Text from a string. -/
def t (s : String) : Text := Text.ofString s

/-- A port number. -/
def port : Schema := .number [.integer, .atLeast 0, .atMost 65535]

/-- A non-empty string. -/
def nonEmpty : Schema := .string [.minLength 1]

/-- An address with its default. -/
def address : Schema := .withDefault nonEmpty (.str (t "127.0.0.1"))

/-- The listener. -/
def listen : Schema :=
  .object [(t "address", address), (t "port", port),
    (t "tls", .optional (.object [(t "cert", nonEmpty), (t "key", nonEmpty)] .refuse))] .refuse

/-- The status endpoint. -/
def status : Schema := .object [(t "address", address), (t "port", port)] .refuse

/-- The broker client settings: known keys typed, other keys kept. -/
def sinkConf : Schema :=
  .object [(t "bootstrap.servers", .optional nonEmpty), (t "host", .optional nonEmpty),
    (t "port", .optional port), (t "username", .optional (.string [])),
    (t "password", .optional (.string [])), (t "db", .optional (.number [.integer, .atLeast 0])),
    (t "tls", .optional .boolean), (t "connectTimeout", .optional (.number [.integer, .above 0])),
    (t "maxlen", .optional (.number [.integer, .above 0]))] .keep

/-- The broker. -/
def kafka : Schema :=
  .object [(t "buffer", .withDefault (.number [.integer, .above 0]) (.num (Double.ofNat 1024))),
    (t "conf", .withDefault sinkConf (.obj [])), (t "topic", nonEmpty)] .refuse

/-- Metrics. -/
def metrics : Schema := .object [(t "statsd", .optional (.string [.hostPort]))] .refuse

/-- An action, told apart by its `type`. -/
def action : Schema :=
  .tagged (t "type")
    [(t "merge", .object [(t "type", .oneOf [t "merge"]), (t "json", .json)] .refuse),
     (t "stop", .object [(t "type", .oneOf [t "stop"])] .refuse),
     (t "forward", .object [(t "type", .oneOf [t "forward"]), (t "topic", nonEmpty)] .refuse),
     (t "replace", .object [(t "type", .oneOf [t "replace"]), (t "template", .string [])] .refuse)]

/-- The refusal of a rule without exactly one matcher. -/
def exactlyOneMatcher (rule : Json) : Option Text :=
  let given := [t "jmespath", t "regex"].filter fun k => (rule.get? k).isSome
  if given.length == 1 then none
  else some (t "Exactly one of \"jmespath\" or \"regex\" is required")

/-- A rule. -/
def rule : Schema :=
  .refined (.object [(t "jmespath", .optional (.string [])), (t "regex", .optional (.string [])),
    (t "field", .withDefault (.oneOf (FieldName.all.map FieldName.text)) (.str (t "msg"))),
    (t "actions", .withDefault (.array action) (.arr []))] .refuse) exactlyOneMatcher

/-- The global settings. -/
def global : Schema :=
  .object [(t "listen", listen), (t "status", status), (t "kafka", kafka),
    (t "metrics", .withDefault metrics (.obj []))] .refuse

/-- The whole document. -/
def document : Schema :=
  .object [(t "global", global), (t "rules", .withDefault (.array rule) (.arr []))] .refuse

end ConfigDocument

/-- The matcher a rule asks for. -/
inductive MatcherSpec where
  | query (path : Text)
  | pattern (source : Text)
deriving Inhabited

/-- An action as configured. -/
inductive ActionSpec where
  | merge (fragment : Json)
  | stop
  | forward (topic : Text)
  | replace (template : Text)
deriving Inhabited

/-- A rule as configured. -/
structure RuleSpec where
  matcher : MatcherSpec
  field : FieldName
  actions : List ActionSpec
deriving Inhabited

namespace ActionSpec

/-- The action a validated action object gives. -/
def ofJson? (v : Json) : Option ActionSpec :=
  let text? (k : String) : Option Text :=
    match v.get? (Text.ofString k) with
    | some (.str s) => some s
    | _ => none
  match text? "type" with
  | some ty =>
    if ty == Text.ofString "merge" then (v.get? (Text.ofString "json")).map merge
    else if ty == Text.ofString "stop" then some stop
    else if ty == Text.ofString "forward" then (text? "topic").map forward
    else if ty == Text.ofString "replace" then (text? "template").map replace
    else none
  | none => none

end ActionSpec

namespace RuleSpec

/-- The rule a validated rule object gives. -/
def ofJson? (v : Json) : Option RuleSpec := do
  let text? (k : String) : Option Text :=
    match v.get? (Text.ofString k) with
    | some (.str s) => some s
    | _ => none
  let matcher ← match text? "jmespath", text? "regex" with
    | some p, _ => some (MatcherSpec.query p)
    | none, some r => some (MatcherSpec.pattern r)
    | none, none => none
  let field ← (text? "field").bind FieldName.ofText?
  let actions ← match v.get? (Text.ofString "actions") with
    | some (.arr items) => items.mapM ActionSpec.ofJson?
    | _ => none
  pure ⟨matcher, field, actions⟩

end RuleSpec

end LogRouter
