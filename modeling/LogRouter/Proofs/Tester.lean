import LogRouter.Rules.Report
import LogRouter.Proofs.Envelope

/-!
The rule tester lists the rules the route acts on.

The tester tries every rule's matcher on a line's record and runs no action.  The route runs the
rules in order and passes over the rest once a rule with a stop has matched.  Without merges,
nothing the route does changes what a matcher reads: a matcher reads the fields, which no action
touches, and the structured view, which only a merge sets.  So a forward, a replace or a stop
leaves every later matcher seeing the record the tester saw (`Pass.actAll_frame`,
`Pass.hitsFrom_of_structured`), and the rules the route notes are the tester's hits, up to and
including the first hit whose rule has a stop (`RuleSet.tester_hits_through_first_stop`).  The
argument runs over the fold `Pass.run`, which evaluation follows under a clock that always reads a
valid time.
-/

namespace LogRouter

/-- Whether an action is a stop. -/
def Action.isStop : Action → Bool
  | .stop => true
  | _ => false

/-- Whether a rule has a stop among its actions. -/
def Rule.stops (rule : Rule) : Bool := rule.actions.any Action.isStop

namespace Pass

variable {fields : Fields} {clock : Nat → Instant} {version : Text} {caps : Captures}

/-! ### What an action other than a merge changes -/

theorem perform_structured (ctx : ActionContext) (st : Pass) {a : Action}
    (h : ∀ f, a ≠ .merge f) : (perform fields ctx st a).structured = st.structured := by
  cases a with
  | merge f => exact absurd rfl (h f)
  | stop | forward _ | replace _ => rfl

theorem perform_terminated (ctx : ActionContext) (st : Pass) (a : Action) :
    (perform fields ctx st a).terminated = (st.terminated || a.isStop) := by
  cases a <;> simp [perform, Action.isStop]

theorem act_structured (st : Pass) {a : Action} (h : ∀ f, a ≠ .merge f) :
    (act fields clock version caps st a).structured = st.structured := by
  unfold act
  split <;> exact perform_structured _ st h

theorem act_terminated (st : Pass) (a : Action) :
    (act fields clock version caps st a).terminated = (st.terminated || a.isStop) := by
  unfold act
  split <;> exact perform_terminated _ st a

theorem act_matched (st : Pass) (a : Action) :
    (act fields clock version caps st a).matched = st.matched := by
  unfold act
  split <;> exact perform_matched _ st a

/-- A live state's rule without a merge keeps the structured view and the matches noted, and ends
the pass exactly when the rule has a stop. -/
theorem actAll_frame (actions : List Action) (hno : ∀ f, Action.merge f ∉ actions) {st : Pass}
    (hst : st.terminated = false) :
    (actAll fields clock version caps st actions).structured = st.structured ∧
      (actAll fields clock version caps st actions).matched = st.matched ∧
      (actAll fields clock version caps st actions).terminated = actions.any Action.isStop := by
  induction actions generalizing st with
  | nil => exact ⟨rfl, rfl, hst⟩
  | cons a rest ih =>
    have ha : ∀ f, a ≠ .merge f := fun f e => hno f (e ▸ List.mem_cons_self ..)
    have hrest : ∀ f, Action.merge f ∉ rest := fun f hf => hno f (List.mem_cons_of_mem _ hf)
    have hstep : actAll fields clock version caps st (a :: rest) =
        actAll fields clock version caps (act fields clock version caps st a) rest := by
      simp [actAll, hst]
    have hs : (act fields clock version caps st a).structured = st.structured := act_structured st ha
    have hm : (act fields clock version caps st a).matched = st.matched := act_matched st a
    have ht : (act fields clock version caps st a).terminated = (st.terminated || a.isStop) :=
      act_terminated st a
    rw [hstep]
    cases hstop : a.isStop
    · -- the pass goes on with the rest of the actions
      rw [hst, hstop, Bool.false_or] at ht
      obtain ⟨hs', hm', ht'⟩ := ih hrest ht
      refine ⟨hs'.trans hs, hm'.trans hm, ?_⟩
      simp [ht', hstop]
    · -- a stop ends the rule's actions
      rw [hstop, Bool.or_true] at ht
      rw [actAll_of_terminated ht]
      exact ⟨hs, hm, by simp [ht, hstop]⟩

/-! ### What a matcher sees does not change without merges -/

theorem sees_of_structured {st st' : Pass} (h : st'.structured = st.structured) :
    sees fields st' = sees fields st := by
  funext m
  cases m with
  | query f source steps => cases f <;> simp [sees, h]
  | pattern f source p => rfl

/-- The numbered rules whose matchers match what the state `st` shows them. -/
def hitsFrom (fields : Fields) (st : Pass) (rules : List (Rule × Nat)) : List (Rule × Nat) :=
  rules.filter fun ri => (ri.1.matcher.evaluate (sees fields st ri.1.matcher)).isSome

theorem hitsFrom_of_structured {st st' : Pass} (h : st'.structured = st.structured) :
    hitsFrom fields st' = hitsFrom fields st := by
  unfold hitsFrom
  rw [sees_of_structured h]

/-- **Without merges, the pass notes the hits up to the first that stops.**  From a live state,
visiting rules none of which merges notes the numbers of the rules whose matchers match what the
state shows, in order, up to and including the first such rule that has a stop. -/
theorem foldl_visit_matched (rules : List (Rule × Nat))
    (hno : ∀ ri ∈ rules, ∀ f, Action.merge f ∉ ri.1.actions) {st : Pass}
    (hst : st.terminated = false) :
    (rules.foldl (visit fields clock version) st).matched =
      st.matched ++ ((hitsFrom fields st rules).take
        ((hitsFrom fields st rules).findIdx (·.1.stops) + 1)).map (·.2) := by
  induction rules generalizing st with
  | nil => simp [hitsFrom]
  | cons ri rest ih =>
    obtain ⟨rule, i⟩ := ri
    have hrule := hno (rule, i) (List.mem_cons_self ..)
    have hrest : ∀ ri ∈ rest, ∀ f, Action.merge f ∉ ri.1.actions :=
      fun ri h => hno ri (List.mem_cons_of_mem _ h)
    rw [List.foldl_cons]
    cases hm : rule.matcher.evaluate (sees fields st rule.matcher) with
    | none =>
      have hhits : hitsFrom fields st ((rule, i) :: rest) = hitsFrom fields st rest := by
        simp [hitsFrom, hm]
      rw [visit_of_none (rule, i) hst hm, hhits]
      exact ih hrest hst
    | some caps =>
      have hhits : hitsFrom fields st ((rule, i) :: rest) = (rule, i) :: hitsFrom fields st rest := by
        simp [hitsFrom, hm]
      have hnote : ({ st with matched := st.matched ++ [i] } : Pass).terminated = false := hst
      obtain ⟨hs, hmt, ht⟩ : (actAll fields clock version caps _ rule.actions).structured = _ ∧
          (actAll fields clock version caps _ rule.actions).matched = _ ∧
          (actAll fields clock version caps _ rule.actions).terminated = _ :=
        actAll_frame rule.actions hrule hnote
      rw [visit_of_some (rule, i) hst hm, hhits, List.findIdx_cons]
      cases hstop : rule.stops
      · -- the rule has no stop: the pass goes on, and what matchers see has not changed
        have hlive : (actAll fields clock version caps { st with matched := st.matched ++ [i] }
            rule.actions).terminated = false := ht.trans hstop
        have hsees : hitsFrom fields (actAll fields clock version caps
            { st with matched := st.matched ++ [i] } rule.actions) = hitsFrom fields st :=
          hitsFrom_of_structured hs
        rw [ih hrest hlive, hmt, hsees]
        simp
      · -- the rule stops: the rules after it are passed over
        have hdead : (actAll fields clock version caps { st with matched := st.matched ++ [i] }
            rule.actions).terminated = true := ht.trans hstop
        rw [foldl_visit_of_terminated hdead, hmt]
        simp

theorem evaluate_start (m : Matcher) (r : LogRecord) :
    m.evaluate (sees r.fields (start r) m) = m.evaluate r := by
  rw [← evaluate_sees, ← toProgress_start]

end Pass

theorem findIdx_congr_mem {α : Type} {p q : α → Bool} :
    ∀ {xs : List α}, (∀ x ∈ xs, p x = q x) → xs.findIdx p = xs.findIdx q
  | [], _ => rfl
  | x :: xs, h => by
    rw [List.findIdx_cons, List.findIdx_cons, h x (List.mem_cons_self ..),
      findIdx_congr_mem fun y hy => h y (List.mem_cons_of_mem _ hy)]

theorem LogRecord.ofLine_terminated (line : List UInt8) : (LogRecord.ofLine line).1.terminated = false := by
  simp only [LogRecord.ofLine]
  split <;> rfl

/-- The tester's hits on a line are the numbered rules whose matchers match the line's record, at
the start of a pass over it. -/
theorem hitsOn_eq (rules : List Rule) (line : Text) :
    hitsOn rules line =
      (Pass.hitsFrom (LogRecord.ofLine (Utf8.encode line)).1.fields
          (Pass.start (LogRecord.ofLine (Utf8.encode line)).1) rules.zipIdx).map
        fun ri => ⟨ri.2, ri.1.matcher.kindText, ri.1.matcher.source⟩ := by
  unfold hitsOn Pass.hitsFrom
  simp only [Pass.evaluate_start]
  induction rules.zipIdx with
  | nil => rfl
  | cons ri rest ih =>
    obtain ⟨rule, i⟩ := ri
    cases hm : rule.matcher.evaluate (LogRecord.ofLine (Utf8.encode line)).1 <;> simp_all

/-- The tester reports a line, numbered from 1, exactly when some rule matches it, with the rules
that do. -/
theorem mem_testRules (rules : List Rule) (lines : List Text) (rep : LineReport) :
    rep ∈ testRules rules lines ↔
      ∃ i line, lines[i]? = some line ∧ hitsOn rules line ≠ [] ∧ rep = ⟨i + 1, hitsOn rules line⟩ := by
  unfold testRules
  rw [List.mem_filterMap]
  constructor
  · rintro ⟨⟨line, i⟩, hmem, hrep⟩
    refine ⟨i, line, List.mem_zipIdx_iff_getElem?.1 hmem, ?_⟩
    cases hh : hitsOn rules line with
    | nil => simp [hh] at hrep
    | cons h t =>
      simp only [hh] at hrep
      exact ⟨List.cons_ne_nil h t, (Option.some.inj hrep).symm⟩
  · rintro ⟨i, line, hline, hne, rfl⟩
    refine ⟨(line, i), List.mem_zipIdx_iff_getElem?.2 hline, ?_⟩
    cases hh : hitsOn rules line with
    | nil => exact absurd hh hne
    | cons h t => simp [hh]

namespace RuleSet

/-- **The tester lists the rules the route acts on.**  For rules without merges and a clock that
always reads a valid time, evaluating a line's record succeeds and notes exactly the rules the
tester hits on the line, in order, up to and including the first hit whose rule has a stop (all of
them when none has); and the tester reports a line, numbered from 1, exactly when it has a hit. -/
theorem tester_hits_through_first_stop (s : RuleSet) (c : Nat → Instant)
    (hno : ∀ rule ∈ s.rules, ∀ f, Action.merge f ∉ rule.actions) :
    (∀ line : Text, ∃ r ev,
      s.evaluate (fun n => some (c n)) (LogRecord.ofLine (Utf8.encode line)).1 = .ok (r, ev) ∧
        ev.matched = ((hitsOn s.rules line).take ((hitsOn s.rules line).findIdx
          (fun h => (s.rules[h.index]?).any Rule.stops) + 1)).map Hit.index) ∧
    ∀ (lines : List Text) (rep : LineReport), rep ∈ testRules s.rules lines ↔
      ∃ i line, lines[i]? = some line ∧ hitsOn s.rules line ≠ [] ∧
        rep = ⟨i + 1, hitsOn s.rules line⟩ := by
  refine ⟨fun line => ?_, mem_testRules s.rules⟩
  rw [hitsOn_eq]
  have hlive := LogRecord.ofLine_terminated (Utf8.encode line)
  generalize (LogRecord.ofLine (Utf8.encode line)).1 = r at hlive ⊢
  have heval : s.evaluate (fun n => some (c n)) r = .ok ((Pass.run s c r).outcome s.defaultTopic r) := by
    unfold evaluate Pass.run
    rw [Pass.toProgress_start, Pass.runRules_toProgress]
    rfl
  refine ⟨_, _, heval, ?_⟩
  have hzip : ∀ ri ∈ s.rules.zipIdx, ∀ f, Action.merge f ∉ ri.1.actions :=
    fun ri h => hno ri.1 (List.mem_of_getElem? (List.mem_zipIdx_iff_getElem?.1 h))
  -- a hit's index names its own rule, so asking the rule set whether it stops asks the rule
  have hstops : ∀ ri ∈ Pass.hitsFrom r.fields (Pass.start r) s.rules.zipIdx,
      (s.rules[ri.2]?).any Rule.stops = ri.1.stops := by
    intro ri hri
    rw [List.mem_zipIdx_iff_getElem?.1 (List.mem_filter.1 hri).1]
    rfl
  have hfind : ((Pass.hitsFrom r.fields (Pass.start r) s.rules.zipIdx).map
      fun ri => (⟨ri.2, ri.1.matcher.kindText, ri.1.matcher.source⟩ : Hit)).findIdx
        (fun h => (s.rules[h.index]?).any Rule.stops) =
      (Pass.hitsFrom r.fields (Pass.start r) s.rules.zipIdx).findIdx (·.1.stops) := by
    rw [List.findIdx_map]
    exact findIdx_congr_mem hstops
  show (s.rules.zipIdx.foldl (Pass.visit r.fields c s.version) (Pass.start r)).matched = _
  rw [Pass.foldl_visit_matched _ hzip hlive, hfind, List.map_take, List.map_take, List.map_map]
  rfl

/-- A rule that forwards and stops, before one that matches the same lines: the route notes the
tester's hits up to the first, which stops. -/
theorem stopping_rule_hides_the_next :
    let rules : List Rule :=
      [⟨.query .msg (Text.ofString "a") [.key (Text.ofString "a")],
          [.forward (Template.compile (Text.ofString "seen")), .stop]⟩,
        ⟨.query .msg (Text.ofString "a") [.key (Text.ofString "a")], []⟩]
    let line := Text.ofString "\x7b\"a\":1\x7d"
    (∀ rule ∈ rules, ∀ f, Action.merge f ∉ rule.actions) ∧
      ∃ r ev, RuleSet.evaluate ⟨rules, Text.ofString "logs", Text.ofString "0.3.0"⟩
          (fun _ => some default) (LogRecord.ofLine (Utf8.encode line)).1 = .ok (r, ev) ∧
        ev.matched = ((hitsOn rules line).take ((hitsOn rules line).findIdx
          (fun h => (rules[h.index]?).any Rule.stops) + 1)).map Hit.index := by
  intro rules line
  have hno : ∀ rule ∈ rules, ∀ f, Action.merge f ∉ rule.actions := by
    simp [rules]
  exact ⟨hno, (tester_hits_through_first_stop ⟨rules, Text.ofString "logs", Text.ofString "0.3.0"⟩
    (fun _ => default) hno).1 line⟩

end RuleSet

end LogRouter
