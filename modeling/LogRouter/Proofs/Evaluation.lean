import LogRouter.Proofs.ActionRun

/-!
Evaluation as a fold over the state of a record.

While the rules run, a record's bytes and fields never change.  What changes is a small state:
the structured view a merge built, the topic a forward chose, the text a replace set, and whether
a stop ran.  `Pass` is that state, together with the rules matched, the clock readings taken and
the actions applied so far, and `Pass.run` folds the rules over it, each rule and each action a
plain function of the state:

  * a rule is passed over once the state is terminated, and when its matcher does not match;
  * a matcher is shown only what `Pass.sees` gives it: a query on the message sees the
    structured view, every other matcher sees the fields alone;
  * a merge starts from the structured view, else the message read as JSON, and from an empty
    object where that is absent or `null`; a forward whose topic comes out blank changes
    nothing; a stop ends both the rule and the pass.

`RuleSet.evaluate_eq_run` shows that evaluating a rule set with a clock that always reads a valid
time is this fold: the evaluation never fails, and it reports the fold's topic, matches and stop.
The proof is a simulation: `Pass.toProgress` maps the fold's state to the evaluator's, and each of
the evaluator's loops is shown to take the image of a state to the image of the folded state.
-/

namespace LogRouter

/-- What an action did when it ran: the structured view a merge left, a stop, the trimmed topic a
forward rendered, or the text a replace set. -/
inductive Applied where
  | merge (view : Json)
  | stop
  | forward (topic : Text)
  | replace (text : Text)
deriving Inhabited

/-- The part of a record the rules change, with what a pass over the rules has noted so far: the
rules matched, the clock readings taken and the actions applied, in order. -/
structure Pass where
  structured : Option Json
  destination : Option Text
  replacement : Option Text
  terminated : Bool
  matched : List Nat := []
  readings : Nat := 0
  applied : List Applied := []
deriving Inhabited

namespace Pass

/-- The state of a record before any rule has run. -/
def start (r : LogRecord) : Pass :=
  { structured := r.structured, destination := r.destination, replacement := r.replacement,
    terminated := r.terminated }

/-- The record a matcher is shown in state `st`: a query on the message sees the structured view,
any other matcher the fields alone. -/
def sees (fields : Fields) (st : Pass) : Matcher → LogRecord
  | .query .msg .. => { raw := [], fields, structured := st.structured }
  | _ => { raw := [], fields }

/-- The value a merge starts from: the structured view when one is set, else the message read as
JSON; an empty object when that is absent or `null`. -/
def mergeBase (fields : Fields) (st : Pass) : Json :=
  match st.structured.or (fields.msg.bind Json.parse?) with
  | some .null | none => .obj []
  | some v => v

/-- What an action does to the state, with the placeholders resolved in `ctx` and the fields. -/
def perform (fields : Fields) (ctx : ActionContext) (st : Pass) : Action → Pass
  | .merge f =>
    let v := Json.merge (mergeBase fields st) (Json.expand (ctx.lookup { raw := [], fields }) f)
    { st with structured := some v, applied := st.applied ++ [.merge v] }
  | .stop => { st with terminated := true, applied := st.applied ++ [.stop] }
  | .forward t =>
    let topic := Text.trim (t.render (ctx.lookup { raw := [], fields }))
    { st with destination := if topic.isEmpty then st.destination else some topic,
              applied := st.applied ++ [.forward topic] }
  | .replace t =>
    let text := t.render (ctx.lookup { raw := [], fields })
    { st with replacement := some text, applied := st.applied ++ [.replace text] }

/-- What an action may read: the captures, the version, and the clock's next reading when the
action uses `{{iso8601}}`. -/
def context (clock : Nat → Instant) (version : Text) (caps : Captures) (st : Pass) (a : Action) :
    ActionContext :=
  ⟨caps, version, if a.readsClock then (clock st.readings).secondsText else []⟩

/-- Runs one action; an action that uses `{{iso8601}}` takes one reading of the clock. -/
def act (fields : Fields) (clock : Nat → Instant) (version : Text) (caps : Captures) (st : Pass)
    (a : Action) : Pass :=
  let st' := perform fields (context clock version caps st a) st a
  if a.readsClock then { st' with readings := st.readings + 1 } else st'

/-- Runs a matched rule's actions in order, doing nothing once the state is terminated. -/
def actAll (fields : Fields) (clock : Nat → Instant) (version : Text) (caps : Captures)
    (st : Pass) (actions : List Action) : Pass :=
  actions.foldl (fun st a => if st.terminated then st else act fields clock version caps st a) st

/-- Visits rule number `i`: passed over once the state is terminated or when its matcher does not
match, else noted as matched and its actions run with the captures of the match. -/
def visit (fields : Fields) (clock : Nat → Instant) (version : Text) (st : Pass)
    (ri : Rule × Nat) : Pass :=
  if st.terminated then st
  else
    match ri.1.matcher.evaluate (sees fields st ri.1.matcher) with
    | none => st
    | some caps =>
      actAll fields clock version caps { st with matched := st.matched ++ [ri.2] } ri.1.actions

/-- The pass of a rule set over a record: its rules visited in index order. -/
def run (s : RuleSet) (clock : Nat → Instant) (r : LogRecord) : Pass :=
  s.rules.zipIdx.foldl (visit r.fields clock s.version) (start r)

/-- The record a pass over `r` leaves, its topic settled, and what the evaluation reports: the
topic (the last non-blank forward, else the default topic), the rules matched and whether a stop
ran. -/
def outcome (p : Pass) (defaultTopic : Text) (r : LogRecord) : LogRecord × Evaluation :=
  let topic := p.destination.getD defaultTopic
  ({ r with structured := p.structured, destination := some topic, replacement := p.replacement,
            terminated := p.terminated }, ⟨topic, p.matched, p.terminated⟩)

/-- The evaluator's state for the fold's state `st` over the record `r`. -/
def toProgress (r : LogRecord) (st : Pass) : Progress :=
  ⟨{ r with structured := st.structured, destination := st.destination,
            replacement := st.replacement, terminated := st.terminated },
    st.matched, st.readings⟩

end Pass

end LogRouter

namespace LogRouter

namespace Pass

variable {fields : Fields} {clock : Nat → Instant} {version : Text} {caps : Captures}

/-! ### The three ways a rule is visited -/

theorem visit_of_terminated {st : Pass} (h : st.terminated = true) (ri : Rule × Nat) :
    visit fields clock version st ri = st := by
  simp [visit, h]

theorem visit_of_none {st : Pass} (ri : Rule × Nat) (h : st.terminated = false)
    (hm : ri.1.matcher.evaluate (sees fields st ri.1.matcher) = none) :
    visit fields clock version st ri = st := by
  simp [visit, h, hm]

theorem visit_of_some {st : Pass} (ri : Rule × Nat) (h : st.terminated = false)
    (hm : ri.1.matcher.evaluate (sees fields st ri.1.matcher) = some caps) :
    visit fields clock version st ri =
      actAll fields clock version caps { st with matched := st.matched ++ [ri.2] } ri.1.actions := by
  simp [visit, h, hm]

/-! ### A terminated state stays as it is -/

theorem actAll_of_terminated {st : Pass} (h : st.terminated = true) (actions : List Action) :
    actAll fields clock version caps st actions = st := by
  induction actions with
  | nil => rfl
  | cons a rest ih =>
      simp only [actAll, List.foldl_cons, h, if_true]
      exact ih

theorem foldl_visit_of_terminated {st : Pass} (h : st.terminated = true) (rules : List (Rule × Nat)) :
    rules.foldl (visit fields clock version) st = st := by
  induction rules with
  | nil => rfl
  | cons ri rest ih =>
      rw [List.foldl_cons, visit_of_terminated h]
      exact ih

/-! ### What every step keeps, the whole pass keeps -/

/-- A property of the state that every action keeps holds after a rule's actions. -/
theorem actAll_induction (P : Pass → Prop) (hact : ∀ st a, P st → P (act fields clock version caps st a))
    (actions : List Action) {st : Pass} (h : P st) : P (actAll fields clock version caps st actions) := by
  induction actions generalizing st with
  | nil => exact h
  | cons a rest ih =>
      simp only [actAll, List.foldl_cons]
      split
      · exact ih h
      · exact ih (hact st a h)

/-- A property of the state that every action and every noted match keep holds after any run of
the rules. -/
theorem foldl_visit_induction (P : Pass → Prop)
    (hact : ∀ caps st a, P st → P (act fields clock version caps st a))
    (hnote : ∀ (st : Pass) i, P st → P { st with matched := st.matched ++ [i] })
    (rules : List (Rule × Nat)) {st : Pass} (h : P st) :
    P (rules.foldl (visit fields clock version) st) := by
  induction rules generalizing st with
  | nil => exact h
  | cons ri rest ih =>
      rw [List.foldl_cons]
      refine ih ?_
      unfold visit
      split
      · exact h
      · split
        · exact h
        · exact actAll_induction P (hact _) _ (hnote _ _ h)

/-! ### The evaluator's record is the fold's state over the same fields -/

@[simp] theorem perform_matched (ctx : ActionContext) (st : Pass) (a : Action) :
    (perform fields ctx st a).matched = st.matched := by
  cases a <;> rfl

@[simp] theorem perform_readings (ctx : ActionContext) (st : Pass) (a : Action) :
    (perform fields ctx st a).readings = st.readings := by
  cases a <;> rfl

@[simp] theorem toProgress_terminated (r : LogRecord) (st : Pass) :
    (toProgress r st).record.terminated = st.terminated :=
  rfl

theorem view_msg (r : LogRecord) : r.view .msg = r.structured.or (r.fields.msg.bind Json.parse?) := by
  rcases r with ⟨raw, fields, structured, destination, replacement, terminated⟩
  cases structured <;> rfl

theorem mergeBase_toProgress (r : LogRecord) (st : Pass) :
    (toProgress r st).record.mergeBase = mergeBase r.fields st := by
  unfold LogRecord.mergeBase mergeBase
  rw [view_msg]
  rfl

/-- Placeholders resolve from the fields alone, never from what the rules changed. -/
theorem lookup_toProgress (ctx : ActionContext) (r : LogRecord) (st : Pass) :
    ctx.lookup (toProgress r st).record = ctx.lookup { raw := [], fields := r.fields } :=
  rfl

/-- A matcher reads no more of the record than `sees` shows it. -/
theorem evaluate_sees (m : Matcher) (r : LogRecord) (st : Pass) :
    m.evaluate (toProgress r st).record = m.evaluate (sees r.fields st m) := by
  cases m with
  | query f source steps => cases f <;> rfl
  | pattern f source p => rfl

theorem apply_toProgress (r : LogRecord) (ctx : ActionContext) (st : Pass) (a : Action) :
    a.apply ctx (toProgress r st).record = (toProgress r (perform r.fields ctx st a)).record := by
  cases a with
  | merge f =>
      simp only [Action.apply, perform, mergeBase_toProgress]
      rfl
  | stop => rfl
  | forward t =>
      simp only [Action.apply, perform, lookup_toProgress]
      split <;> simp_all [toProgress]
  | replace t => rfl

theorem toProgress_start (r : LogRecord) : ({ record := r } : Progress) = toProgress r (start r) :=
  rfl

theorem toProgress_noteMatch (r : LogRecord) (st : Pass) (i : Nat) :
    ({ toProgress r st with matched := (toProgress r st).matched ++ [i] } : Progress) =
      toProgress r { st with matched := st.matched ++ [i] } :=
  rfl

/-! ### Each loop of the evaluator follows the fold

Under a clock that always reads a valid time nothing fails, so each loop of the evaluator returns
`.ok`, and what it returns is the image of the fold's state.  The action loop stops right after a
stop while the fold goes on doing nothing (`actAll_of_terminated`); the rule loop returns as soon
as the record is terminated while the fold passes over the rules left
(`foldl_visit_of_terminated`).
-/

/-- Running an action with a valid clock succeeds, and is the fold's `act`. -/
theorem runAction_toProgress (r : LogRecord) (c : Nat → Instant) (version : Text)
    (caps : Captures) (st : Pass) (a : Action) :
    Progress.runAction (fun n => some (c n)) caps version (toProgress r st) a =
      .ok (toProgress r (act r.fields c version caps st a)) := by
  rw [Progress.runAction_eq_eagerly]
  unfold Progress.runActionEagerly act context
  cases a.readsClock
  · simp only [Bool.false_eq_true, if_false, apply_toProgress]
    simp [toProgress]
  · simp only [if_true, apply_toProgress]
    simp [toProgress]

/-- A live rule's actions run with a valid clock as the fold runs them. -/
theorem runActions_toProgress (r : LogRecord) (c : Nat → Instant) (version : Text)
    (caps : Captures) (actions : List Action) (st : Pass) (h : st.terminated = false) :
    Progress.runActions (fun n => some (c n)) caps version actions (toProgress r st) =
      .ok (toProgress r (actAll r.fields c version caps st actions)) := by
  induction actions generalizing st with
  | nil => rfl
  | cons a rest ih =>
      have hfold : actAll r.fields c version caps st (a :: rest) =
          actAll r.fields c version caps (act r.fields c version caps st a) rest := by
        simp [actAll, h]
      rw [hfold]
      simp only [Progress.runActions, runAction_toProgress, bind, Except.bind]
      cases ht : (act r.fields c version caps st a).terminated
      · simp only [toProgress_terminated, ht, Bool.false_eq_true, if_false]
        exact ih _ ht
      · simp only [toProgress_terminated, ht, if_true, actAll_of_terminated ht]

/-- With a valid clock the rule loop succeeds, and is the fold over the rules. -/
theorem runRules_toProgress (r : LogRecord) (c : Nat → Instant) (version : Text)
    (rules : List (Rule × Nat)) (st : Pass) :
    Progress.runRules (fun n => some (c n)) version rules (toProgress r st) =
      .ok (toProgress r (rules.foldl (visit r.fields c version) st)) := by
  induction rules generalizing st with
  | nil => rfl
  | cons ri rest ih =>
      obtain ⟨rule, i⟩ := ri
      rw [List.foldl_cons]
      cases ht : st.terminated
      · simp only [Progress.runRules, toProgress_terminated, ht, Bool.false_eq_true, if_false,
          evaluate_sees]
        cases hm : rule.matcher.evaluate (sees r.fields st rule.matcher) with
        | none =>
            rw [visit_of_none (rule, i) ht hm]
            exact ih st
        | some caps =>
            have hlive : ({ st with matched := st.matched ++ [i] } : Pass).terminated = false := ht
            dsimp only
            rw [visit_of_some (rule, i) ht hm, toProgress_noteMatch,
              runActions_toProgress r c version caps rule.actions _ hlive]
            exact ih _
      · simp only [Progress.runRules, toProgress_terminated, ht, if_true]
        rw [visit_of_terminated ht, foldl_visit_of_terminated ht]

end Pass

end LogRouter

namespace LogRouter

namespace RuleSet

/-- **Evaluation is the fold over the record's state.**  With a clock that always reads a valid
time, evaluating a rule set on any record succeeds, and what it gives is the outcome of
`Pass.run`: its rules visited in index order while the state is not terminated, each matched rule
noted and its actions applied until a stop. -/
theorem evaluate_eq_run (s : RuleSet) (c : Nat → Instant) (r : LogRecord) :
    s.evaluate (fun n => some (c n)) r = .ok ((Pass.run s c r).outcome s.defaultTopic r) := by
  unfold evaluate Pass.run
  rw [Pass.toProgress_start, Pass.runRules_toProgress]
  rfl

end RuleSet

end LogRouter
