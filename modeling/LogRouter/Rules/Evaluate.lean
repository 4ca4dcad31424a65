import LogRouter.Rules.Compile

/-!
Evaluating a rule set on a record.

Rules run in order while the record is not stopped.  A rule whose matcher does not match is
skipped; a rule that matches is noted and runs its actions in order, with the captures of its
match, until one stops the record.  The topic is the one a forward chose, else the set's default
topic.

A clock is the sequence of its readings, `none` where a reading is not a valid time.  An action
reads it when the first `{{iso8601}}` it renders asks for it, and renders every later one from
that reading (`ActionContext.lazyLookup`).  An invalid reading stops the evaluation with a range
error; the record then holds what the actions before it did.
-/

namespace LogRouter

/-- A clock: its reading at each call, in order; `none` where a reading is not a valid time. -/
abbrev Clock := Nat → Option Instant

/-- A clock that always reads the same. -/
def Clock.fixed (reading : Option Instant) : Clock := fun _ => reading

/-- Rules with the topic for records no forward routed, and the version templates see. -/
structure RuleSet where
  rules : List Rule
  defaultTopic : Text
  version : Text
deriving Inhabited

/-- What an evaluation reports: the topic, the rules that matched, and whether a stop ran. -/
structure Evaluation where
  topic : Text
  matched : List Nat
  stopped : Bool
deriving Inhabited

/-- An evaluation under way: the record, the rules matched so far, and the clock reads so far. -/
structure Progress where
  record : LogRecord
  matched : List Nat := []
  reads : Nat := 0
deriving Inhabited

/-- One run of an action: the clock's text once it has been read, and failure when the reading
is not a valid time. -/
abbrev ActionRun := StateT (Option Text) (Except Unit)

namespace ActionContext

/-- Resolves a placeholder name while an action runs: `iso8601` takes the clock's reading
`reading` the first time it is asked for and gives the same text every time after, failing if
the reading is not a valid time; any other name resolves as `lookup` resolves it. -/
def lazyLookup (ctx : ActionContext) (reading : Option Instant) (r : LogRecord) (name : Text) :
    ActionRun (Option Text) :=
  if name == Text.ofString "iso8601" then do
    match ← get with
    | some text => pure (some text)
    | none =>
      match reading with
      | none => throw ()
      | some now =>
        set (some now.secondsText)
        pure (some now.secondsText)
  else pure (ctx.lookup r name)

end ActionContext

namespace Progress

/-- Runs one action, the clock's next reading taken only if a placeholder asks for it. -/
def runAction (clock : Clock) (caps : Captures) (version : Text) (p : Progress) (a : Action) :
    Except (Thrown × Progress) Progress :=
  let lookup := (⟨caps, version, []⟩ : ActionContext).lazyLookup (clock p.reads) p.record
  match (a.applyM lookup p.record).run none with
  | .error _ => .error (invalidTime, { p with reads := p.reads + 1 })
  | .ok (r, taken) => .ok { p with record := r, reads := p.reads + if taken.isSome then 1 else 0 }

/-- Runs actions in order until one stops the record. -/
def runActions (clock : Clock) (caps : Captures) (version : Text) :
    List Action → Progress → Except (Thrown × Progress) Progress
  | [], p => .ok p
  | a :: rest, p => do
    let p ← runAction clock caps version p a
    if p.record.terminated then .ok p else runActions clock caps version rest p

/-- Runs numbered rules in order while the record is not stopped. -/
def runRules (clock : Clock) (version : Text) :
    List (Rule × Nat) → Progress → Except (Thrown × Progress) Progress
  | [], p => .ok p
  | (rule, i) :: rest, p =>
    if p.record.terminated then .ok p
    else
      match rule.matcher.evaluate p.record with
      | none => runRules clock version rest p
      | some caps => do
        let p ← runActions clock caps version rule.actions { p with matched := p.matched ++ [i] }
        runRules clock version rest p

end Progress

namespace RuleSet

/-- Evaluates the rules on a record: the record as the rules left it, with its topic set, and
what the evaluation reports; or the error that ended it, with the record as it was then. -/
def evaluate (s : RuleSet) (clock : Clock) (r : LogRecord) :
    Except (Thrown × LogRecord) (LogRecord × Evaluation) :=
  match Progress.runRules clock s.version s.rules.zipIdx { record := r } with
  | .error (e, p) => .error (e, p.record)
  | .ok p =>
    let topic := p.record.destination.getD s.defaultTopic
    .ok ({ p.record with destination := some topic }, ⟨topic, p.matched, p.record.terminated⟩)

end RuleSet

end LogRouter
