import LogRouter.Rules.Compile

/-!
What a placeholder of a pattern rule renders as.

A pattern matcher captures the named groups that took part in its match, each with the text it
took, except a group named `__proto__`: the captures are held in a plain object, and assigning a
text to its `__proto__` member stores nothing.  A placeholder is then resolved from the built-in
variables, the captures, what a plain object inherits, and the record's fields, in that order.  So
a name that a plain object does not inherit renders as the text of the group of that name if it
took part in the match, else as the record's field of that name, else as nothing
(`pattern_placeholder_reads_group_then_field`).  A name a plain object does inherit renders as the
inherited member whenever the match did not set it: a placeholder `{{toString}}` of a rule with a
group `toString` that did not take part renders as the text of a native function
(`inherited_member_fills_placeholder`).
-/

namespace LogRouter

namespace Pattern

theorem mem_namedSpans {p : Pattern} {text : Text} {m : PatternMatch} {name v : Text} :
    (name, v) ∈ p.namedSpans text m ↔
      ∃ i s e, (name, i) ∈ p.names ∧ m.captures[i]? = some (some (s, e)) ∧
        v = (text.drop s).take (e - s) := by
  unfold namedSpans
  rw [List.mem_filterMap]
  constructor
  · rintro ⟨⟨name', i⟩, hmem, hspan⟩
    obtain ⟨⟨s, e⟩, hse, hpair⟩ := Option.map_eq_some_iff.1 hspan
    obtain ⟨rfl, rfl⟩ := Prod.mk.inj hpair
    exact ⟨i, s, e, hmem, Option.join_eq_some_iff.1 hse, rfl⟩
  · rintro ⟨i, s, e, hmem, hse, rfl⟩
    exact ⟨(name, i), hmem, by simp [hse]⟩

end Pattern

namespace Matcher

theorem lookup_filter_protoName {entries : List (Text × Text)} {n : Text} (hn : n ≠ protoName) :
    (entries.filter (·.1 != protoName)).lookup n = entries.lookup n := by
  induction entries with
  | nil => rfl
  | cons e rest ih =>
    obtain ⟨name, v⟩ := e
    by_cases hname : n = name
    · subst hname
      simp [hn]
    · have hne : (n == name) = false := beq_false_of_ne hname
      by_cases hproto : name = protoName
      · subst hproto
        simp [List.lookup_cons, hne, ih]
      · simp [hproto, List.lookup_cons, hne, ih]

theorem ne_protoName_of_not_inherited {n : Text} (h : inheritedText? n = none) : n ≠ protoName := by
  rintro rfl
  exact absurd h (by decide)

/-- A pattern matcher that finds its pattern in the field captures the named groups that took part,
less one named `__proto__`. -/
theorem evaluate_pattern {f : FieldName} {source : Text} {p : Pattern} {r : LogRecord} {text : Text}
    {m : PatternMatch} (ht : r.field f = some text) (hs : p.search text = some m) :
    (Matcher.pattern f source p).evaluate r = some ((p.namedSpans text m).filter (·.1 != protoName)) := by
  simp [evaluate, ht, hs]

end Matcher

namespace ActionContext

/-- A name that is neither a built-in variable nor inherited by a plain object resolves to its
capture, else to the record's field of that name. -/
theorem lookup_of_not_inherited (ctx : ActionContext) (r : LogRecord) {n : Text}
    (hv : n ≠ Text.ofString "version") (hi : n ≠ Text.ofString "iso8601")
    (hinh : inheritedText? n = none) :
    ctx.lookup r n = (ctx.captures.lookup n).or ((FieldName.ofText? n).bind r.field) := by
  unfold lookup
  rw [if_neg (by simpa using hv), if_neg (by simpa using hi)]
  cases ctx.captures.lookup n <;> simp [hinh]

end ActionContext

/-- **A placeholder of a pattern rule reads the group of its name, then the field.**  When a
pattern matcher finds its pattern in the field, its captures are exactly the named groups that
took part in the match, each with the text it took, less one named `__proto__`.  A placeholder
whose name is neither a built-in variable nor inherited by a plain object then renders as the text
of the group of that name if it took part, else the record's field of that name, else nothing. -/
theorem pattern_placeholder_reads_group_then_field {f : FieldName} {source : Text} {p : Pattern}
    {r : LogRecord} {text : Text} {m : PatternMatch} (ht : r.field f = some text)
    (hs : p.search text = some m) :
    ∃ caps, (Matcher.pattern f source p).evaluate r = some caps ∧
      (∀ name v, (name, v) ∈ caps ↔ name ≠ Matcher.protoName ∧
        ∃ i s e, (name, i) ∈ p.names ∧ m.captures[i]? = some (some (s, e)) ∧
          v = (text.drop s).take (e - s)) ∧
      ∀ version iso8601 n : Text, n ≠ Text.ofString "version" → n ≠ Text.ofString "iso8601" →
        inheritedText? n = none →
        (ActionContext.lookup ⟨caps, version, iso8601⟩ r n).getD [] =
          ((p.namedSpans text m).lookup n).getD (((FieldName.ofText? n).bind r.field).getD []) := by
  refine ⟨_, Matcher.evaluate_pattern ht hs, fun name v => ?_, fun version iso8601 n hv hi hinh => ?_⟩
  · rw [List.mem_filter, Pattern.mem_namedSpans]
    simp [and_comm]
  · rw [ActionContext.lookup_of_not_inherited _ r hv hi hinh]
    dsimp only
    rw [Matcher.lookup_filter_protoName (Matcher.ne_protoName_of_not_inherited hinh)]
    cases (p.namedSpans text m).lookup n <;> rfl

/-- A group that took part fills the placeholder of its name. -/
theorem user_group_fills_placeholder :
    ∃ p m, Pattern.parse (Text.ofString "(?<user>[a-z]+)") = .ok p ∧
      ({ raw := [], fields := { msg := some (Text.ofString "bob") } } : LogRecord).field .msg =
        some (Text.ofString "bob") ∧
      p.search (Text.ofString "bob") = some m ∧
      ∃ caps, (Matcher.pattern .msg (Text.ofString "(?<user>[a-z]+)") p).evaluate
          { raw := [], fields := { msg := some (Text.ofString "bob") } } = some caps ∧
        (ActionContext.lookup ⟨caps, Text.ofString "0.3.0", []⟩
          { raw := [], fields := { msg := some (Text.ofString "bob") } } (Text.ofString "user")).getD [] =
          Text.ofString "bob" := by
  refine ⟨_, _, rfl, rfl, rfl, ?_⟩
  exact (pattern_placeholder_reads_group_then_field rfl rfl).imp fun caps h =>
    ⟨h.1, by rw [h.2.2 _ _ _ (by decide) (by decide) (by decide)]; decide⟩

/-- A group named after a member a plain object inherits, that does not take part in the match,
fills its placeholder with that member: `{{toString}}` renders as the text of a native function,
not as an empty text. -/
theorem inherited_member_fills_placeholder :
    ∃ rule caps, compileRules [⟨.pattern (Text.ofString "(?<toString>x)?y"), .msg,
        [.replace (Text.ofString "\x7b\x7btoString\x7d\x7d")]⟩] = .ok [rule] ∧
      rule.matcher.evaluate { raw := [], fields := { msg := some (Text.ofString "y") } } = some caps ∧
      caps = [] ∧
      (rule.actions.map fun a =>
        (a.apply ⟨caps, Text.ofString "0.3.0", []⟩
          { raw := [], fields := { msg := some (Text.ofString "y") } }).replacement) =
        [some (Text.ofString "function toString() \x7b [native code] \x7d")] := by
  refine ⟨_, _, rfl, rfl, ?_⟩
  decide

end LogRouter
