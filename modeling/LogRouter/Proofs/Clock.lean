import LogRouter.Proofs.ActionRun

/-!
When an evaluation reads the clock.

A clock is the sequence of its readings, and a run keeps count of the readings it has taken in
`Progress.reads`, so the reading a run takes next is always the one after those it took before.
Only an action reads the clock, and only one that uses `{{iso8601}}`: it takes the reading at its
first `{{iso8601}}` and renders every later one from the same text, which comes to taking one
reading before it changes anything (`runAction_eq_eagerly`); it fails with a range error, leaving
the record as it found it, when the reading is not a valid time.

To say which actions a run executes, `Progress.actionsRun` and `Progress.rulesRun` follow the two
loops of the evaluator and list every action they hand to `runAction`, with the state it starts
from.  `Accounts` is what such a list says about the run it comes from: the run took one reading
per listed action that reads the clock (`reads`), each listed action started from the readings of
those before it (`inTurn`), and the run failed exactly when its last action found no valid time
(`fails`, `lastInvalid`).  One action accounts for itself (`accounts_runAction`), and a run that
goes on from where an accounted run finished is accounted for by the two lists one after the
other (`Accounts.append`); both loops are such sequences (`accounts_runActions`,
`accounts_runRules`).

From the count it follows that a run depends on no reading past those it took
(`runRules_congr`): with no action that uses `{{iso8601}}`, it does not depend on the clock at all.
-/

namespace LogRouter

namespace Progress

/-- Where a run ended: the state it finished in, or the state it failed in. -/
def ended : Except (Thrown × Progress) Progress → Progress
  | .ok p => p
  | .error (_, p) => p

/-- The actions one rule's loop runs, in order, each with the state it starts from: every action
up to the first that fails or stops the record. -/
def actionsRun (clock : Clock) (caps : Captures) (version : Text) :
    List Action → Progress → List (Action × Progress)
  | [], _ => []
  | a :: rest, p =>
    (a, p) :: match runAction clock caps version p a with
      | .ok q => if q.record.terminated then [] else actionsRun clock caps version rest q
      | .error _ => []

/-- The actions a run of numbered rules executes, in order, each with the state it starts from. -/
def rulesRun (clock : Clock) (version : Text) :
    List (Rule × Nat) → Progress → List (Action × Progress)
  | [], _ => []
  | (rule, i) :: rest, p =>
    if p.record.terminated then []
    else
      match rule.matcher.evaluate p.record with
      | none => rulesRun clock version rest p
      | some caps =>
        actionsRun clock caps version rule.actions { p with matched := p.matched ++ [i] } ++
          match runActions clock caps version rule.actions { p with matched := p.matched ++ [i] } with
          | .ok q => rulesRun clock version rest q
          | .error _ => []

/-- How many of the actions run read the clock. -/
def clockReaders (trace : List (Action × Progress)) : Nat := trace.countP fun x => x.1.readsClock

@[simp] theorem clockReaders_nil : clockReaders [] = 0 := rfl

@[simp] theorem clockReaders_append (t₁ t₂ : List (Action × Progress)) :
    clockReaders (t₁ ++ t₂) = clockReaders t₁ + clockReaders t₂ :=
  List.countP_append

@[simp] theorem clockReaders_cons (x : Action × Progress) (t : List (Action × Progress)) :
    clockReaders (x :: t) = clockReaders t + (if x.1.readsClock then 1 else 0) := by
  simp [clockReaders, List.countP_cons]

/-! ### What a trace accounts for -/

/-- What the list `trace` of actions run says about a run that started with `n` readings taken
and ended in `res`. -/
structure Accounts (clock : Clock) (n : Nat) (res : Except (Thrown × Progress) Progress)
    (trace : List (Action × Progress)) : Prop where
  /-- The run took one reading for each action run that reads the clock, and no other. -/
  reads : (ended res).reads = n + clockReaders trace
  /-- Each action run started from the readings taken by those run before it. -/
  inTurn : ∀ before x after, trace = before ++ x :: after → x.2.reads = n + clockReaders before
  /-- The run failed exactly when its last action read the clock and found no valid time: with
  a range error, in the state that action started from, one reading on. -/
  fails : ∀ e q, res = .error (e, q) ↔ e = invalidTime ∧ ∃ x, trace.getLast? = some x ∧
    x.1.readsClock = true ∧ clock x.2.reads = none ∧ q = { x.2 with reads := x.2.reads + 1 }
  /-- An action run that found no valid time is the last one run. -/
  lastInvalid : ∀ x ∈ trace, x.1.readsClock = true → clock x.2.reads = none →
    trace.getLast? = some x

variable {clock : Clock} {caps : Captures} {version : Text}

theorem Accounts.finished (p : Progress) : Accounts clock p.reads (.ok p) [] where
  reads := rfl
  inTurn := by simp
  fails := by simp
  lastInvalid := by simp

theorem runAction_eq_error {p q : Progress} {a : Action} {e : Thrown} :
    runAction clock caps version p a = .error (e, q) ↔ e = invalidTime ∧ a.readsClock = true ∧
      clock p.reads = none ∧ q = { p with reads := p.reads + 1 } := by
  rw [runAction_eq_eagerly]
  unfold runActionEagerly
  split
  · rename_i hreads
    split
    · rename_i hnone
      simp only [Except.error.injEq, Prod.mk.injEq, hreads, hnone, true_and]
      constructor
      · rintro ⟨rfl, rfl⟩
        exact ⟨rfl, rfl⟩
      · rintro ⟨rfl, rfl⟩
        exact ⟨rfl, rfl⟩
    · rename_i now hnow
      simp [hnow]
  · simp_all

theorem ended_runAction_reads (p : Progress) (a : Action) :
    (ended (runAction clock caps version p a)).reads = p.reads + if a.readsClock then 1 else 0 := by
  rw [runAction_eq_eagerly]
  unfold runActionEagerly
  split
  · split <;> simp [ended]
  · simp [ended]

theorem accounts_runAction (p : Progress) (a : Action) :
    Accounts clock p.reads (runAction clock caps version p a) [(a, p)] where
  reads := by simp [ended_runAction_reads]
  inTurn := by
    intro before x after h
    -- a one-element list splits only around its element
    obtain ⟨rfl, rfl, -⟩ : before = [] ∧ (a, p) = x ∧ [] = after := by
      cases before with
      | nil => simpa using h
      | cons y ys => simp at h
    simp
  fails := by
    intro e q
    rw [runAction_eq_error]
    simp only [List.getLast?_singleton, Option.some.injEq]
    constructor
    · rintro ⟨rfl, hreads, hnone, rfl⟩
      exact ⟨rfl, _, rfl, hreads, hnone, rfl⟩
    · rintro ⟨rfl, x, rfl, hreads, hnone, rfl⟩
      exact ⟨rfl, hreads, hnone, rfl⟩
  lastInvalid := by
    intro x hx _ _
    rw [List.mem_singleton] at hx
    simp [hx]

/-- A run that goes on from where an accounted run finished is accounted for by the two lists,
one after the other. -/
theorem Accounts.append {n : Nat} {q : Progress} {res : Except (Thrown × Progress) Progress}
    {t₁ t₂ : List (Action × Progress)} (h₁ : Accounts clock n (.ok q) t₁)
    (h₂ : Accounts clock q.reads res t₂) : Accounts clock n res (t₁ ++ t₂) := by
  have hq : q.reads = n + clockReaders t₁ := h₁.reads
  -- the first run finished, so none of its actions found an invalid reading
  have hvalid : ∀ x ∈ t₁, x.1.readsClock = true → clock x.2.reads = none → False := by
    intro x hx hreads hnone
    have hlast := h₁.lastInvalid x hx hreads hnone
    have := (h₁.fails invalidTime { x.2 with reads := x.2.reads + 1 }).2
      ⟨rfl, x, hlast, hreads, hnone, rfl⟩
    cases this
  refine ⟨?_, ?_, ?_, ?_⟩
  · rw [h₂.reads, hq, clockReaders_append, Nat.add_assoc]
  · intro before x after h
    rcases List.append_eq_append_iff.1 h with ⟨mid, rfl, h₂eq⟩ | ⟨mid, h₁eq, hafter⟩
    · -- `x` is an action of the second run
      rw [h₂.inTurn mid x after h₂eq, hq, clockReaders_append, Nat.add_assoc]
    · cases mid with
      | nil =>
        -- `x` opens the second run
        rw [List.append_nil] at h₁eq
        subst h₁eq
        have := h₂.inTurn [] x after (by simpa using hafter.symm)
        simpa [hq] using this
      | cons y ys =>
        -- `x` is an action of the first run
        obtain ⟨rfl, -⟩ := List.cons.inj hafter
        exact h₁.inTurn before x ys h₁eq
  · intro e q'
    rw [h₂.fails, List.getLast?_append]
    constructor
    · rintro ⟨rfl, x, hx, hx'⟩
      exact ⟨rfl, x, by simp [hx], hx'⟩
    · rintro ⟨rfl, x, hx, hreads, hnone, rfl⟩
      cases hlast : t₂.getLast? with
      | some y =>
        rw [hlast] at hx
        exact ⟨rfl, x, by simpa using hx, hreads, hnone, rfl⟩
      | none =>
        rw [hlast, Option.none_or] at hx
        exact (hvalid x (List.mem_of_getLast? hx) hreads hnone).elim
  · intro x hx hreads hnone
    rcases List.mem_append.1 hx with hx₁ | hx₂
    · exact (hvalid x hx₁ hreads hnone).elim
    · rw [List.getLast?_append, h₂.lastInvalid x hx₂ hreads hnone]
      rfl

/-! ### Both loops are accounted for -/

theorem actionsRun_cons (a : Action) (rest : List Action) (p : Progress) :
    actionsRun clock caps version (a :: rest) p =
      [(a, p)] ++ (match runAction clock caps version p a with
        | .ok q => if q.record.terminated then [] else actionsRun clock caps version rest q
        | .error _ => []) :=
  rfl

theorem accounts_runActions (actions : List Action) (p : Progress) :
    Accounts clock p.reads (runActions clock caps version actions p)
      (actionsRun clock caps version actions p) := by
  induction actions generalizing p with
  | nil => exact Accounts.finished p
  | cons a rest ih =>
    have hstep : Accounts clock p.reads (runAction clock caps version p a) [(a, p)] :=
      accounts_runAction p a
    rw [actionsRun_cons]
    cases hrun : runAction clock caps version p a with
    | error e =>
      -- the action failed: the loop fails with it
      rw [hrun] at hstep
      simpa [runActions, hrun, bind, Except.bind] using hstep
    | ok q =>
      rw [hrun] at hstep
      by_cases hstop : q.record.terminated = true
      · -- the action stopped the record: the loop ends with it
        simpa [runActions, hrun, bind, Except.bind, hstop] using hstep
      · -- the loop goes on from where the action finished
        simpa [runActions, hrun, bind, Except.bind, hstop] using hstep.append (ih q)

theorem accounts_runRules (rules : List (Rule × Nat)) (p : Progress) :
    Accounts clock p.reads (runRules clock version rules p) (rulesRun clock version rules p) := by
  induction rules generalizing p with
  | nil => exact Accounts.finished p
  | cons ri rest ih =>
    obtain ⟨rule, i⟩ := ri
    by_cases hstop : p.record.terminated = true
    · have hdone : Accounts clock p.reads (.ok p) [] := Accounts.finished p
      simpa [runRules, rulesRun, hstop] using hdone
    · cases hm : rule.matcher.evaluate p.record with
      | none => simpa [runRules, rulesRun, hstop, hm] using ih p
      | some caps =>
        -- the rule's actions run from the state that notes the match, with the same readings
        have hrule : Accounts clock p.reads
            (runActions clock caps version rule.actions { p with matched := p.matched ++ [i] })
            (actionsRun clock caps version rule.actions { p with matched := p.matched ++ [i] }) :=
          accounts_runActions rule.actions { p with matched := p.matched ++ [i] }
        cases hrun : runActions clock caps version rule.actions
            { p with matched := p.matched ++ [i] } with
        | error e =>
          rw [hrun] at hrule
          simpa [runRules, rulesRun, hstop, hm, hrun, bind, Except.bind] using hrule
        | ok q =>
          rw [hrun] at hrule
          simpa [runRules, rulesRun, hstop, hm, hrun, bind, Except.bind] using hrule.append (ih q)

/-! ### A run depends on the readings it took and on no other -/

/-- An action that does not read the clock does not depend on it; one that does depends on the
reading it takes. -/
theorem runAction_congr {clock' : Clock} {p : Progress} {a : Action}
    (h : a.readsClock = true → clock' p.reads = clock p.reads) :
    runAction clock' caps version p a = runAction clock caps version p a := by
  rw [runAction_eq_eagerly, runAction_eq_eagerly]
  unfold runActionEagerly
  split
  · rw [h ‹_›]
  · rfl

theorem runActions_congr {clock' : Clock} (actions : List Action) (p : Progress)
    (h : ∀ k < (ended (runActions clock caps version actions p)).reads, clock' k = clock k) :
    runActions clock' caps version actions p = runActions clock caps version actions p := by
  induction actions generalizing p with
  | nil => rfl
  | cons a rest ih =>
    -- the run's readings reach past the one the first action takes
    have hlater : p.reads + (if a.readsClock then 1 else 0) ≤
        (ended (runActions clock caps version (a :: rest) p)).reads := by
      have hacc : Accounts clock p.reads (runActions clock caps version (a :: rest) p)
          (actionsRun clock caps version (a :: rest) p) :=
        accounts_runActions (a :: rest) p
      rw [hacc.reads, actionsRun_cons, clockReaders_append, clockReaders_cons]
      simp only [clockReaders_nil, Nat.zero_add]
      omega
    have hfirst : runAction clock' caps version p a = runAction clock caps version p a :=
      runAction_congr fun hreads => h _ (by simp [hreads] at hlater; omega)
    cases hrun : runAction clock caps version p a with
    | error e => simp [runActions, hfirst, hrun, bind, Except.bind]
    | ok q =>
      by_cases hstop : q.record.terminated = true
      · simp [runActions, hfirst, hrun, bind, Except.bind, hstop]
      · have hrest : runActions clock caps version (a :: rest) p =
            runActions clock caps version rest q := by
          simp [runActions, hrun, bind, Except.bind, hstop]
        simp only [runActions, hfirst, hrun, bind, Except.bind, hstop, Bool.false_eq_true,
          if_false]
        exact ih q (hrest ▸ h)

theorem runRules_congr {clock' : Clock} (rules : List (Rule × Nat)) (p : Progress)
    (h : ∀ k < (ended (runRules clock version rules p)).reads, clock' k = clock k) :
    runRules clock' version rules p = runRules clock version rules p := by
  induction rules generalizing p with
  | nil => rfl
  | cons ri rest ih =>
    obtain ⟨rule, i⟩ := ri
    by_cases hstop : p.record.terminated = true
    · simp [runRules, hstop]
    · cases hm : rule.matcher.evaluate p.record with
      | none =>
        simp only [runRules, hstop, hm, Bool.false_eq_true, if_false] at h ⊢
        exact ih p h
      | some caps =>
        -- the rule's actions end before the rest of the run, so they took fewer readings
        have hrule : ∀ k < (ended (runActions clock caps version rule.actions
            { p with matched := p.matched ++ [i] })).reads, clock' k = clock k := by
          intro k hk
          apply h k
          cases hrun : runActions clock caps version rule.actions
              { p with matched := p.matched ++ [i] } with
          | error e =>
            simpa [runRules, hstop, hm, hrun, bind, Except.bind] using hk
          | ok q =>
            have hmore : (ended (runRules clock version rest q)).reads =
                q.reads + clockReaders (rulesRun clock version rest q) :=
              (accounts_runRules rest q).reads
            simp only [hrun, ended] at hk
            simp only [runRules, hstop, hm, hrun, bind, Except.bind, Bool.false_eq_true,
              if_false]
            omega
        simp only [runRules, hstop, hm, Bool.false_eq_true, if_false,
          runActions_congr rule.actions _ hrule]
        cases hrun : runActions clock caps version rule.actions
            { p with matched := p.matched ++ [i] } with
        | error e =>
          -- reduce both binds first: comparing the two continuations would unfold the run
          simp only [bind, Except.bind]
        | ok q =>
          simp only [bind, Except.bind]
          apply ih q
          simpa [runRules, hstop, hm, hrun, bind, Except.bind] using h

end Progress

namespace RuleSet

/-- The actions an evaluation of the rules on a record executes, in order, each with the
evaluation's state when it starts. -/
def executed (s : RuleSet) (clock : Clock) (r : LogRecord) : List (Action × Progress) :=
  Progress.rulesRun clock s.version s.rules.zipIdx { record := r }

theorem evaluate_eq_error_iff {s : RuleSet} {clock : Clock} {r : LogRecord} {e : Thrown}
    {rec : LogRecord} :
    s.evaluate clock r = .error (e, rec) ↔
      ∃ q, Progress.runRules clock s.version s.rules.zipIdx { record := r } = .error (e, q) ∧
        rec = q.record := by
  unfold evaluate
  split
  · rename_i e' q hrun
    rw [hrun]
    constructor
    · intro h
      cases h
      exact ⟨q, rfl, rfl⟩
    · rintro ⟨q', hq', rfl⟩
      cases hq'
      rfl
  · rename_i q hrun
    rw [hrun]
    simp

/-- **An evaluation reads the clock once for each action it runs that uses `{{iso8601}}`.**  An
action resolves `{{iso8601}}` when its rendering first asks for it and keeps the text, which is
running it with one reading taken up front exactly when it uses `{{iso8601}}`, every
`{{iso8601}}` of it rendering that reading's text.  For every rule set, record and clock, the
evaluation takes one reading for each action it executes whose templates or fragment use
`{{iso8601}}` and takes no other; each such action takes the reading after those taken before it.
What the evaluation gives depends on no other reading, so with no such action it does not depend
on the clock at all.  It fails exactly when an action it executes finds no valid time: then with a
range error, that action is the last one run, and the record is as that action found it. -/
theorem evaluate_reads_clock_once_per_action (s : RuleSet) (clock : Clock) (r : LogRecord) :
    (∀ caps version p a, Progress.runAction clock caps version p a =
        Progress.runActionEagerly clock caps version p a) ∧
    (Progress.ended (Progress.runRules clock s.version s.rules.zipIdx { record := r })).reads =
        Progress.clockReaders (s.executed clock r) ∧
    (∀ before x after, s.executed clock r = before ++ x :: after →
        x.2.reads = Progress.clockReaders before) ∧
    (∀ clock' : Clock, (∀ k < Progress.clockReaders (s.executed clock r), clock' k = clock k) →
        s.evaluate clock' r = s.evaluate clock r) ∧
    (∀ e rec, s.evaluate clock r = .error (e, rec) ↔ e = invalidTime ∧
        ∃ x ∈ s.executed clock r, x.1.readsClock = true ∧ clock x.2.reads = none ∧
          rec = x.2.record) ∧
    (∀ x ∈ s.executed clock r, x.1.readsClock = true → clock x.2.reads = none →
        (s.executed clock r).getLast? = some x) := by
  -- the evaluation starts with no reading taken
  have hacc : Progress.Accounts clock 0
      (Progress.runRules clock s.version s.rules.zipIdx { record := r }) (s.executed clock r) :=
    Progress.accounts_runRules s.rules.zipIdx { record := r }
  have hreads : (Progress.ended (Progress.runRules clock s.version s.rules.zipIdx
      { record := r })).reads = Progress.clockReaders (s.executed clock r) := by
    simpa using hacc.reads
  refine ⟨Progress.runAction_eq_eagerly clock, hreads,
    fun before x after h => by simpa using hacc.inTurn before x after h, ?_, ?_, hacc.lastInvalid⟩
  · intro clock' h
    unfold evaluate
    rw [Progress.runRules_congr _ _ (hreads ▸ h)]
  · intro e rec
    rw [evaluate_eq_error_iff]
    constructor
    · rintro ⟨q, hq, rfl⟩
      obtain ⟨rfl, x, hlast, hx, hnone, rfl⟩ := (hacc.fails e q).1 hq
      exact ⟨rfl, x, List.mem_of_getLast? hlast, hx, hnone, rfl⟩
    · rintro ⟨rfl, x, hmem, hx, hnone, rfl⟩
      exact ⟨_, (hacc.fails _ _).2 ⟨rfl, x, hacc.lastInvalid x hmem hx hnone, hx, hnone, rfl⟩,
        rfl⟩

end RuleSet

end LogRouter
