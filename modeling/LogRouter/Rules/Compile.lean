import LogRouter.Rules.Action

/-!
Compiling rules.

A rule is a matcher and the actions it runs.  Compiling the configured rules checks every rule and
reports all problems at once: a query path or a pattern that does not compile (under
`rules.N.jmespath` or `rules.N.regex`; the rule's actions are then not looked at), and an action
whose templates use a placeholder the rule cannot fill (under `rules.N.actions.M`, naming every
such placeholder).  A rule can fill the built-in variables `version` and `iso8601`, the field names,
and the names its matcher captures.  Rules are kept in order.
-/

namespace LogRouter

/-- A compiled rule: a matcher and its actions, in order. -/
structure Rule where
  matcher : Matcher
  actions : List Action
deriving Inhabited

namespace Rule

/-- The variables every template may use besides fields and captures. -/
def builtinVariables : List Text := [Text.ofString "version", Text.ofString "iso8601"]

/-- The placeholder names a rule with this matcher can fill. -/
def allowedNames (m : Matcher) : List Text :=
  builtinVariables ++ FieldName.all.map FieldName.text ++ m.captureNames

/-- A placeholder as written in a message: the name between double braces. -/
def braced (name : Text) : Text := Text.ofString "\x7b\x7b" ++ name ++ Text.ofString "\x7d\x7d"

/-- The issue for actions that use names the rule cannot fill. -/
def unknownPlaceholders (path : Text) (names : List Text) : Issue :=
  ⟨path, Text.ofString "Unknown placeholder " ++ Text.join (Text.ofString ", ") (names.map braced)⟩

/-- The matcher of a rule, or its issue under the rule's matcher path. -/
def compileMatcher (base : Text) (spec : RuleSpec) : Except Issue Matcher :=
  match spec.matcher with
  | .query p => (Matcher.compileQuery p spec.field).mapError (Issue.under (base ++ Text.ofString ".jmespath"))
  | .pattern s => (Matcher.compilePattern s spec.field).mapError (Issue.under (base ++ Text.ofString ".regex"))

/-- The actions of a rule whose placeholders it can fill, and an issue for each other action. -/
def compileActions (base : Text) (allowed : List Text) (specs : List ActionSpec) : List Action × List Issue :=
  specs.zipIdx.foldl (fun (kept, issues) (spec, j) =>
    let a := Action.ofSpec spec
    let unknown := a.placeholderNames.filter (!allowed.contains ·)
    if unknown.isEmpty then (kept ++ [a], issues)
    else (kept, issues ++ [unknownPlaceholders (base ++ Text.ofString ".actions." ++ Text.ofNat j) unknown]))
    ([], [])

/-- Compiles the rule at an index: the rule if its matcher compiles, and the issues found. -/
def compile (index : Nat) (spec : RuleSpec) : Option Rule × List Issue :=
  let base := Text.ofString "rules." ++ Text.ofNat index
  match compileMatcher base spec with
  | .error issue => (none, [issue])
  | .ok m =>
    let (actions, issues) := compileActions base (allowedNames m) spec.actions
    (some ⟨m, actions⟩, issues)

end Rule

/-- Compiles configured rules: all of them, or every issue found across them. -/
def compileRules (specs : List RuleSpec) : Except (List Issue) (List Rule) :=
  let (rules, issues) := specs.zipIdx.foldl (fun (rules, issues) (spec, i) =>
    let (r, is) := Rule.compile i spec
    (rules ++ r.toList, issues ++ is)) ([], [])
  if issues.isEmpty then .ok rules else .error issues

end LogRouter
