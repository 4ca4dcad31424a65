import LogRouter.Rules.Compile
import LogRouter.Yaml.Load

/-!
Loading a configuration from YAML text.

The text is read as YAML; a YAML error becomes one issue at the document, `YAML syntax error: `
and the error with its place.  An empty document counts as an empty mapping.  The document is then
validated against the configuration schema, every issue reported; then its rules are compiled,
every issue across all rules reported.  A loaded configuration holds the validated global settings
(defaults filled in) and the compiled rules.

Some failures are not issues but errors that end loading, such as a YAML alias to nothing; they
are kept apart.
-/

namespace LogRouter

/-- Why a configuration was refused: its issues, or an error that ended loading. -/
inductive ConfigFailure where
  | invalid (issues : List Issue)
  | thrown (error : Thrown)
deriving Inhabited

/-- A loaded configuration: the validated global settings and the compiled rules. -/
structure Configuration where
  settings : Json
  rules : List Rule
deriving Inhabited

namespace Configuration

/-- The topic for records no forward routed: the broker's topic. -/
def defaultTopic (c : Configuration) : Text :=
  match (c.settings.get? (Text.ofString "kafka")).bind (·.get? (Text.ofString "topic")) with
  | some (.str t) => t
  | _ => []

/-- The configuration a validated document gives, or the issues of compiling its rules. -/
def ofDocument (doc : Json) : Except ConfigFailure Configuration :=
  let settings := (doc.get? (Text.ofString "global")).getD .null
  let specs := match doc.get? (Text.ofString "rules") with
    | some (.arr items) => items.filterMap RuleSpec.ofJson?
    | _ => []
  match compileRules specs with
  | .ok rules => .ok ⟨settings, rules⟩
  | .error issues => .error (.invalid issues)

/-- Loads a configuration from YAML text. -/
def parse (text : Text) : Except ConfigFailure Configuration :=
  match Yaml.load text with
  | .error (.malformed m) => .error (.invalid [Issue.atRoot (Text.ofString "YAML syntax error: " ++ m)])
  | .error (.thrown t) => .error (.thrown t)
  | .ok loaded =>
    let loaded := match loaded with
      | .null => Loaded.obj []
      | v => v
    match ConfigDocument.document.validate loaded with
    | .error t => .error (.thrown t)
    | .ok (.valid (some doc), []) => ofDocument doc
    | .ok (_, issues) => .error (.invalid issues)

end Configuration

end LogRouter
