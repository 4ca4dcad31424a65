import LogRouter.Rules.Compile

/-!
Compiling rules reports every issue at once.

Each rule is compiled on its own: its matcher, then, if that compiles, each of its actions against
the names the rule can fill.  What a rule contributes is stated here without the accumulators of
the compiler (`RuleSpec.issues`): its matcher's issue moved under `rules.i.jmespath` or
`rules.i.regex`, its actions then not looked at; or else one issue per action that uses names the
rule cannot fill, at `rules.i.actions.j`, naming those placeholders in the order the action first
uses them.

Both folds of the compiler only append what one rule, or one action, gives
(`foldl_append_pair`), so the issues of the whole list are those of the rules in order, and the
rules kept are those whose matcher compiled.  Compiling therefore succeeds exactly when no rule has
an issue, and then keeps every rule with all of its actions, in order
(`compileRules_reports_every_issue`).
-/

namespace LogRouter

theorem foldl_append_pair {α β γ : Type} (f : α → List β × List γ) (xs : List α) (b : List β)
    (c : List γ) :
    xs.foldl (fun acc x => (acc.1 ++ (f x).1, acc.2 ++ (f x).2)) (b, c) =
      (b ++ xs.flatMap fun x => (f x).1, c ++ xs.flatMap fun x => (f x).2) := by
  induction xs generalizing b c with
  | nil => simp
  | cons x rest ih =>
    rw [List.foldl_cons, ih, List.flatMap_cons, List.flatMap_cons, List.append_assoc,
      List.append_assoc]

namespace RuleSpec

/-- The matcher a rule's configuration describes, or the issue that refuses it, at the root. -/
def matcher? (s : RuleSpec) : Except Issue Matcher :=
  match s.matcher with
  | .query p => Matcher.compileQuery p s.field
  | .pattern src => Matcher.compilePattern src s.field

/-- Where the rule at index `i` configures its matcher: `rules.i.jmespath` or `rules.i.regex`. -/
def matcherPath (i : Nat) (s : RuleSpec) : Text :=
  Text.ofString "rules." ++ Text.ofNat i ++
    match s.matcher with
    | .query _ => Text.ofString ".jmespath"
    | .pattern _ => Text.ofString ".regex"

/-- The placeholders of an action that a rule with matcher `m` cannot fill, each once, in the
order the action first uses them. -/
def unknownNames (m : Matcher) (a : ActionSpec) : List Text :=
  (Action.ofSpec a).placeholderNames.filter fun n => n ∉ Rule.allowedNames m

/-- The issue of the action at `rules.i.actions.j` that uses the placeholders `names`:
`Unknown placeholder {{a}}, {{b}}`. -/
def unknownPlaceholderIssue (i j : Nat) (names : List Text) : Issue :=
  ⟨Text.ofString "rules." ++ Text.ofNat i ++ Text.ofString ".actions." ++ Text.ofNat j,
    Text.ofString "Unknown placeholder " ++ Text.join (Text.ofString ", ")
      (names.map fun n => Text.ofString "\x7b\x7b" ++ n ++ Text.ofString "\x7d\x7d")⟩

/-- The issues of the rule at index `i`, in order: its matcher's issue moved under the matcher's
path, without a look at its actions; else an issue for each action that uses placeholders the
rule cannot fill. -/
def issues (i : Nat) (s : RuleSpec) : List Issue :=
  match s.matcher? with
  | .error e => [e.under (s.matcherPath i)]
  | .ok m => s.actions.zipIdx.flatMap fun p =>
    if unknownNames m p.1 = [] then [] else [unknownPlaceholderIssue i p.2 (unknownNames m p.1)]

end RuleSpec

namespace Rule

theorem compileMatcher_eq (i : Nat) (s : RuleSpec) :
    compileMatcher (Text.ofString "rules." ++ Text.ofNat i) s =
      s.matcher?.mapError (Issue.under (s.matcherPath i)) := by
  unfold compileMatcher RuleSpec.matcher? RuleSpec.matcherPath
  cases s.matcher <;> rfl

theorem compileActions_eq (i : Nat) (m : Matcher) (specs : List ActionSpec) :
    compileActions (Text.ofString "rules." ++ Text.ofNat i) (allowedNames m) specs =
      (specs.zipIdx.flatMap fun p =>
          if RuleSpec.unknownNames m p.1 = [] then [Action.ofSpec p.1] else [],
        specs.zipIdx.flatMap fun p =>
          if RuleSpec.unknownNames m p.1 = [] then []
          else [RuleSpec.unknownPlaceholderIssue i p.2 (RuleSpec.unknownNames m p.1)]) := by
  have hunknown : ∀ a : ActionSpec,
      (Action.ofSpec a).placeholderNames.filter (!(allowedNames m).contains ·) =
        RuleSpec.unknownNames m a := by
    intro a
    simp [RuleSpec.unknownNames]
  -- one action gives itself or its issue
  let each : ActionSpec × Nat → List Action × List Issue := fun p =>
    if RuleSpec.unknownNames m p.1 = [] then ([Action.ofSpec p.1], [])
    else ([], [RuleSpec.unknownPlaceholderIssue i p.2 (RuleSpec.unknownNames m p.1)])
  have hfold : compileActions (Text.ofString "rules." ++ Text.ofNat i) (allowedNames m) specs =
      specs.zipIdx.foldl (fun acc p => (acc.1 ++ (each p).1, acc.2 ++ (each p).2)) ([], []) := by
    unfold compileActions
    congr 1
    funext acc p
    obtain ⟨kept, issues⟩ := acc
    obtain ⟨a, j⟩ := p
    simp only [each, hunknown, List.isEmpty_iff]
    split
    · simp
    · -- the issue the compiler builds is the one the specification names
      simp only [List.append_nil]
      rfl
  rw [hfold, foldl_append_pair]
  simp only [List.nil_append, Prod.mk.injEq]
  constructor <;>
  · congr 1
    funext p
    simp only [each]
    split <;> rfl

/-- A rule gives its issues, and a rule exactly when its matcher compiles. -/
theorem compile_eq (i : Nat) (s : RuleSpec) :
    (compile i s).2 = s.issues i ∧
      (compile i s).1 = match s.matcher? with
        | .error _ => none
        | .ok m => some ⟨m, (compileActions (Text.ofString "rules." ++ Text.ofNat i)
            (allowedNames m) s.actions).1⟩ := by
  unfold compile RuleSpec.issues
  dsimp only
  rw [compileMatcher_eq]
  cases s.matcher? with
  | error e => exact ⟨rfl, rfl⟩
  | ok m =>
    refine ⟨?_, rfl⟩
    show (compileActions (Text.ofString "rules." ++ Text.ofNat i) (allowedNames m) s.actions).2 = _
    rw [compileActions_eq]

end Rule

namespace RuleSpec

/-- An action fits a rule when the rule can fill each of its placeholders. -/
theorem unknownNames_eq_nil_iff (m : Matcher) (a : ActionSpec) :
    unknownNames m a = [] ↔ ∀ n ∈ (Action.ofSpec a).placeholderNames, n ∈ Rule.allowedNames m := by
  simp [unknownNames]

/-- A rule has no issue exactly when its matcher compiles and every placeholder of every action
is one it can fill. -/
theorem issues_eq_nil_iff (i : Nat) (s : RuleSpec) :
    s.issues i = [] ↔ ∃ m, s.matcher? = .ok m ∧
      ∀ a ∈ s.actions, ∀ n ∈ (Action.ofSpec a).placeholderNames, n ∈ Rule.allowedNames m := by
  unfold issues
  cases s.matcher? with
  | error e => simp
  | ok m =>
    simp only [List.flatMap_eq_nil_iff, ite_eq_left_iff, List.cons_ne_nil, imp_false,
      Decidable.not_not, Except.ok.injEq, exists_eq_left']
    constructor
    · intro h a ha
      obtain ⟨p, hp, rfl⟩ := List.mem_map.1 ((List.zipIdx_map_fst 0 s.actions).symm ▸ ha)
      exact (unknownNames_eq_nil_iff m p.1).1 (h p hp)
    · intro h p hp
      exact (unknownNames_eq_nil_iff m p.1).2
        (h p.1 (List.zipIdx_map_fst 0 s.actions ▸ List.mem_map_of_mem hp))

theorem kept_of_fit {m : Matcher} :
    ∀ l : List (ActionSpec × Nat), (∀ p ∈ l, unknownNames m p.1 = []) →
      (l.flatMap fun p => if unknownNames m p.1 = [] then [Action.ofSpec p.1] else []) =
        (l.map Prod.fst).map Action.ofSpec
  | [], _ => rfl
  | p :: rest, hl => by
    simp only [List.flatMap_cons, List.map_cons, if_pos (hl p (List.mem_cons_self ..))]
    rw [kept_of_fit rest fun q hq => hl q (List.mem_cons_of_mem _ hq)]
    rfl

theorem compile_of_issues_eq_nil {i : Nat} {s : RuleSpec} (h : s.issues i = []) :
    ∃ m, s.matcher? = .ok m ∧ Rule.compile i s = (some ⟨m, s.actions.map Action.ofSpec⟩, []) := by
  obtain ⟨m, hm, hall⟩ := (issues_eq_nil_iff i s).1 h
  obtain ⟨hissues, hrule⟩ := Rule.compile_eq i s
  rw [hm] at hrule
  dsimp only at hrule
  rw [Rule.compileActions_eq] at hrule
  have hfit : ∀ p ∈ s.actions.zipIdx, unknownNames m p.1 = [] := fun p hp =>
    (unknownNames_eq_nil_iff m p.1).2
      (hall p.1 (List.zipIdx_map_fst 0 s.actions ▸ List.mem_map_of_mem hp))
  refine ⟨m, hm, ?_⟩
  ext1
  · rw [hrule, kept_of_fit _ hfit, List.zipIdx_map_fst]
  · rw [hissues, h]

end RuleSpec

/-- Compiling the configured rules keeps what each rule gives and reports the issues of every
rule, in order. -/
theorem compileRules_eq (specs : List RuleSpec) :
    compileRules specs =
      if (specs.zipIdx.flatMap fun p => p.1.issues p.2).isEmpty then
        .ok (specs.zipIdx.flatMap fun p => (Rule.compile p.2 p.1).1.toList)
      else .error (specs.zipIdx.flatMap fun p => p.1.issues p.2) := by
  let each : RuleSpec × Nat → List Rule × List Issue := fun p =>
    ((Rule.compile p.2 p.1).1.toList, (Rule.compile p.2 p.1).2)
  have hfold : compileRules specs =
      (fun found : List Rule × List Issue =>
        if found.2.isEmpty then .ok found.1 else .error found.2)
        (specs.zipIdx.foldl (fun acc p => (acc.1 ++ (each p).1, acc.2 ++ (each p).2)) ([], [])) :=
    rfl
  have hissues : (fun p : RuleSpec × Nat => (each p).2) = fun p => p.1.issues p.2 :=
    funext fun p => (Rule.compile_eq p.2 p.1).1
  rw [hfold, foldl_append_pair, hissues]
  rfl

theorem flatMap_issues_eq_nil_iff (specs : List RuleSpec) :
    (specs.zipIdx.flatMap fun p => p.1.issues p.2) = [] ↔
      ∀ s ∈ specs, ∃ m, s.matcher? = .ok m ∧
        ∀ a ∈ s.actions, ∀ n ∈ (Action.ofSpec a).placeholderNames, n ∈ Rule.allowedNames m := by
  rw [List.flatMap_eq_nil_iff]
  constructor
  · intro h s hs
    obtain ⟨p, hp, rfl⟩ := List.mem_map.1 ((List.zipIdx_map_fst 0 specs).symm ▸ hs)
    exact (RuleSpec.issues_eq_nil_iff p.2 p.1).1 (h p hp)
  · intro h p hp
    exact (RuleSpec.issues_eq_nil_iff p.2 p.1).2
      (h p.1 (List.zipIdx_map_fst 0 specs ▸ List.mem_map_of_mem hp))

theorem kept_rules_of_no_issues :
    ∀ (specs : List RuleSpec) (n : Nat), (∀ p ∈ specs.zipIdx n, p.1.issues p.2 = []) →
      specs.map RuleSpec.matcher? =
          ((specs.zipIdx n).flatMap fun p => (Rule.compile p.2 p.1).1.toList).map
            (fun r => .ok r.matcher) ∧
        ((specs.zipIdx n).flatMap fun p => (Rule.compile p.2 p.1).1.toList).map Rule.actions =
          specs.map fun s => s.actions.map Action.ofSpec
  | [], _, _ => ⟨rfl, rfl⟩
  | s :: rest, n, h => by
    obtain ⟨m, hm, hcompile⟩ := RuleSpec.compile_of_issues_eq_nil (h (s, n) (by simp))
    obtain ⟨hmatchers, hactions⟩ :=
      kept_rules_of_no_issues rest (n + 1) fun p hp => h p (by simp [hp])
    simp only [List.zipIdx_cons, List.flatMap_cons, hcompile, Option.toList_some,
      List.singleton_append, List.map_cons, hm]
    exact ⟨congrArg _ hmatchers, congrArg _ hactions⟩

/-- **Compiling rules reports every issue at once.**  For every list of configured rules,
compiling succeeds exactly when every matcher compiles and every placeholder of every action is a
built-in variable, a field name or a name the rule's matcher captures.  Then it gives one rule per
configured rule, in order, with the compiled matcher and every action in order.  Otherwise it
fails with the issues of every rule, in rule order and then action order: a matcher's issue
moved under `rules.i.jmespath` or `rules.i.regex`, that rule's actions unexamined; and for each
action that uses placeholders its rule cannot fill, one issue at `rules.i.actions.j` saying
`Unknown placeholder ` and those names as `{{name}}`, joined by `, `, in order of first use. -/
theorem compileRules_reports_every_issue (specs : List RuleSpec) :
    ((∃ rules, compileRules specs = .ok rules) ↔
        ∀ s ∈ specs, ∃ m, s.matcher? = .ok m ∧
          ∀ a ∈ s.actions, ∀ n ∈ (Action.ofSpec a).placeholderNames, n ∈ Rule.allowedNames m) ∧
      (∀ rules, compileRules specs = .ok rules →
        specs.map RuleSpec.matcher? = rules.map (fun r => .ok r.matcher) ∧
          rules.map Rule.actions = specs.map fun s => s.actions.map Action.ofSpec) ∧
      (∀ issues, compileRules specs = .error issues ↔
        issues ≠ [] ∧ issues = specs.zipIdx.flatMap fun p => p.1.issues p.2) := by
  rw [compileRules_eq]
  refine ⟨?_, fun rules h => ?_, fun issues => ?_⟩
  · rw [← flatMap_issues_eq_nil_iff]
    split
    · rename_i hnone
      exact ⟨fun _ => List.isEmpty_iff.1 hnone, fun _ => ⟨_, rfl⟩⟩
    · rename_i hsome
      exact ⟨fun ⟨_, h⟩ => (by cases h), fun h => absurd (List.isEmpty_iff.2 h) hsome⟩
  · split at h
    · rename_i hnone
      cases h
      exact kept_rules_of_no_issues specs 0 (List.flatMap_eq_nil_iff.1 (List.isEmpty_iff.1 hnone))
    · cases h
  · split
    · rename_i hnone
      exact ⟨fun h => (by cases h), fun ⟨hne, heq⟩ => absurd (heq ▸ List.isEmpty_iff.1 hnone) hne⟩
    · rename_i hsome
      constructor
      · intro h
        cases h
        exact ⟨fun h => hsome (List.isEmpty_iff.2 h), rfl⟩
      · rintro ⟨-, rfl⟩
        rfl

/-- A broken pattern and an action with a placeholder its rule cannot fill are both reported,
in rule order. -/
example :
    (match compileRules [⟨.pattern (Text.ofString "(a"), .msg, [.stop]⟩,
        ⟨.query (Text.ofString "level"), .msg, [.stop, .forward (Text.ofString "\x7b\x7buser\x7d\x7d")]⟩] with
      | .error issues => issues
      | .ok _ => []) =
      [⟨Text.ofString "rules.0.regex",
          Text.ofString "invalid regular expression: Invalid regular expression: /(a/: Unterminated group"⟩,
        ⟨Text.ofString "rules.1.actions.1", Text.ofString "Unknown placeholder \x7b\x7buser\x7d\x7d"⟩] := by
  decide +kernel

/-- A rule whose replace uses the group its pattern captures and a field compiles, with its
pattern and its action. -/
theorem user_and_host_placeholders_compile :
    ∃ rules, compileRules [⟨.pattern (Text.ofString "(?<user>[a-z]+)"), .msg,
        [.replace (Text.ofString "\x7b\x7buser\x7d\x7d@\x7b\x7bhostname\x7d\x7d")]⟩] = .ok rules ∧
      [(⟨.pattern (Text.ofString "(?<user>[a-z]+)"), .msg,
        [.replace (Text.ofString "\x7b\x7buser\x7d\x7d@\x7b\x7bhostname\x7d\x7d")]⟩ : RuleSpec)].map
          RuleSpec.matcher? = rules.map (fun r => .ok r.matcher) ∧
      rules.map Rule.actions =
        [[Action.ofSpec (.replace (Text.ofString "\x7b\x7buser\x7d\x7d@\x7b\x7bhostname\x7d\x7d"))]] :=
  ⟨_, rfl, (compileRules_reports_every_issue _).2.1 _ rfl⟩

end LogRouter
