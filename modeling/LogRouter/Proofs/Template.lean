import LogRouter.Template

/-!
Templates render as a global replace.

A template renders the way a global replace with the placeholder pattern
`\{\{\s*([A-Za-z_][A-Za-z0-9_]*)\s*\}\}` rewrites its text, the lookup giving each match's value:
the leftmost match is replaced by the value of its name (nothing when the lookup has none), and the
search goes on after it (`Replaces`).  Its variables are the names of those matches, each once, in
order of first match; and a text with no match renders as itself whatever the lookup.

`Template.compile` finds the same matches.  At each position it asks `placeholderAt`, which reads
exactly a match of the pattern starting there (`placeholderAt_eq_some_iff`); so the literal it
collects never holds the start of a match, and each placeholder piece is the leftmost match after
the previous one (`replaces_scan`).  Blanks, name units and braces exclude one another, so a match
at a position is unique and the replace is a function of the text (`Replaces.unique`).
-/

namespace LogRouter

namespace Text

theorem isBlank_of_visible {u : UInt16} (h₁ : 0x21 ≤ u.toNat) (h₂ : u.toNat ≤ 0x7E) :
    isBlank u = false := by
  unfold isBlank
  split
  -- the listed blanks lie outside the visible range
  any_goals omega
  -- and so do the space separators
  simp only [Bool.and_eq_false_iff, decide_eq_false_iff_not]
  omega

theorem isBlank_of_isWordUnit {u : UInt16} (h : isWordUnit u = true) : isBlank u = false := by
  simp only [isWordUnit, isAsciiLetter, isDigit, Bool.or_eq_true, Bool.and_eq_true,
    decide_eq_true_eq, ← UInt16.toNat_inj, UInt16.reduceToNat] at h
  exact isBlank_of_visible (by omega) (by omega)

end Text

namespace Template

theorem isWordUnit_of_isNameStart {u : UInt16} (h : isNameStart u = true) :
    Text.isWordUnit u = true := by
  simp only [isNameStart, Bool.or_eq_true, decide_eq_true_eq] at h
  rcases h with h | h <;> simp [Text.isWordUnit, h]

theorem pred_of_mem_takeWhile {p : UInt16 → Bool} {l : Text} {u : UInt16}
    (h : u ∈ l.takeWhile p) : p u = true :=
  List.all_eq_true.1 List.all_takeWhile u h

/-! ### Matches of the placeholder pattern -/

/-- `m` is a whole match of `\{\{\s*([A-Za-z_][A-Za-z0-9_]*)\s*\}\}` whose group took `name`. -/
inductive Matches : Text → Text → Prop
  | mk {pad₁ pad₂ tail : Text} {c : UInt16} :
      (∀ u ∈ pad₁, Text.isBlank u = true) → isNameStart c = true →
      (∀ u ∈ tail, Text.isWordUnit u = true) → (∀ u ∈ pad₂, Text.isBlank u = true) →
      Matches ([0x7B, 0x7B] ++ pad₁ ++ c :: tail ++ pad₂ ++ [0x7D, 0x7D]) (c :: tail)

/-- A match of the placeholder pattern starts the text. -/
def OpensPlaceholder (t : Text) : Prop := ∃ m name rest, t = m ++ rest ∧ Matches m name

/-- The placeholder `placeholderAt` reads is a match of the pattern, and the rest follows it. -/
theorem matches_of_placeholderAt {t name rest : Text} (h : placeholderAt t = some (name, rest)) :
    ∃ m, t = m ++ rest ∧ Matches m name := by
  unfold placeholderAt at h
  split at h
  case h_2 => cases h
  rename_i r
  split at h
  case h_2 => cases h
  rename_i c r' hc
  split at h
  case isFalse => cases h
  rename_i hstart
  split at h
  case h_2 => cases h
  rename_i rest' hclose
  obtain ⟨rfl, rfl⟩ := Prod.mk.inj (Option.some.inj h)
  -- cut the text at each boundary the reader found
  have hr : r = r.takeWhile Text.isBlank ++ c :: r' := by
    rw [← hc, List.takeWhile_append_dropWhile]
  have hr' : r' = r'.takeWhile Text.isWordUnit ++ r'.dropWhile Text.isWordUnit :=
    List.takeWhile_append_dropWhile.symm
  have hq : r'.dropWhile Text.isWordUnit =
      (r'.dropWhile Text.isWordUnit).takeWhile Text.isBlank ++ 0x7D :: 0x7D :: rest' := by
    rw [← hclose, List.takeWhile_append_dropWhile]
  refine ⟨[0x7B, 0x7B] ++ r.takeWhile Text.isBlank ++ c :: r'.takeWhile Text.isWordUnit ++
      (r'.dropWhile Text.isWordUnit).takeWhile Text.isBlank ++ [0x7D, 0x7D], ?_,
    .mk (fun _ hu => pred_of_mem_takeWhile hu) hstart (fun _ hu => pred_of_mem_takeWhile hu)
      (fun _ hu => pred_of_mem_takeWhile hu)⟩
  calc 0x7B :: 0x7B :: r
      = 0x7B :: 0x7B :: (r.takeWhile Text.isBlank ++
          c :: (r'.takeWhile Text.isWordUnit ++ r'.dropWhile Text.isWordUnit)) := by
        rw [← hr', ← hr]
    _ = _ := by
        conv => lhs; rw [hq]
        simp

/-- A match of the pattern at the start of a text is what `placeholderAt` reads there. -/
theorem placeholderAt_of_matches {m name : Text} (h : Matches m name) (rest : Text) :
    placeholderAt (m ++ rest) = some (name, rest) := by
  obtain ⟨hpad₁, hstart, htail, hpad₂⟩ := h
  rename_i pad₁ pad₂ tail c
  -- each run ends at a unit of another kind: a name start, a blank or a closing brace
  have hc : Text.isBlank c = false := Text.isBlank_of_isWordUnit (isWordUnit_of_isNameStart hstart)
  have hbrace : Text.isWordUnit 0x7D = false ∧ Text.isBlank 0x7D = false := by decide
  have hpad₂_word : (pad₂ ++ 0x7D :: 0x7D :: rest).takeWhile Text.isWordUnit = [] ∧
      (pad₂ ++ 0x7D :: 0x7D :: rest).dropWhile Text.isWordUnit = pad₂ ++ 0x7D :: 0x7D :: rest := by
    cases pad₂ with
    | nil => simp [hbrace.1]
    | cons u r =>
      have hu : Text.isWordUnit u = false := by
        cases hw : Text.isWordUnit u
        · rfl
        · have := Text.isBlank_of_isWordUnit hw
          simp [hpad₂ u (by simp)] at this
      simp [hu]
  have hsplit : [0x7B, 0x7B] ++ pad₁ ++ c :: tail ++ pad₂ ++ [0x7D, 0x7D] ++ rest =
      0x7B :: 0x7B :: (pad₁ ++ c :: (tail ++ (pad₂ ++ 0x7D :: 0x7D :: rest))) := by
    simp
  rw [hsplit]
  simp only [placeholderAt, List.dropWhile_append_of_pos hpad₁, List.dropWhile_cons, hc,
    Bool.false_eq_true, if_false, hstart, if_true, List.takeWhile_append_of_pos htail,
    hpad₂_word.1, List.append_nil, List.dropWhile_append_of_pos htail, hpad₂_word.2,
    List.dropWhile_append_of_pos hpad₂, hbrace.2]

/-- `placeholderAt` reads a placeholder exactly where a match of the pattern starts the text. -/
theorem placeholderAt_eq_some_iff {t name rest : Text} :
    placeholderAt t = some (name, rest) ↔ ∃ m, t = m ++ rest ∧ Matches m name := by
  refine ⟨matches_of_placeholderAt, ?_⟩
  rintro ⟨m, rfl, hm⟩
  exact placeholderAt_of_matches hm rest

theorem placeholderAt_eq_none_iff {t : Text} : placeholderAt t = none ↔ ¬ OpensPlaceholder t := by
  constructor
  · rintro h ⟨m, name, rest, rfl, hm⟩
    rw [placeholderAt_of_matches hm] at h
    cases h
  · intro h
    cases hat : placeholderAt t with
    | none => rfl
    | some p => exact absurd ⟨_, _, _, (matches_of_placeholderAt hat).choose_spec.1,
        (matches_of_placeholderAt hat).choose_spec.2⟩ h

/-- No match starts anywhere in a text when `placeholderAt` reads none at any of its positions. -/
theorem not_opens_drop_of_placeholderAt (s : Text)
    (h : ∀ i ≤ s.length, placeholderAt (s.drop i) = none) (i : Nat) :
    ¬ OpensPlaceholder (s.drop i) := by
  rcases Nat.lt_or_ge s.length i with hi | hi
  · rw [List.drop_eq_nil_of_le (Nat.le_of_lt hi)]
    exact placeholderAt_eq_none_iff.1 rfl
  · exact placeholderAt_eq_none_iff.1 (h i hi)

theorem Matches.ne_nil {m name : Text} (h : Matches m name) : m ≠ [] := by
  cases h
  simp

theorem Matches.unique {m m' name name' rest rest' : Text} (h : Matches m name)
    (h' : Matches m' name') (heq : m ++ rest = m' ++ rest') :
    m = m' ∧ name = name' ∧ rest = rest' := by
  have hat := placeholderAt_of_matches h rest
  rw [heq, placeholderAt_of_matches h' rest'] at hat
  obtain ⟨rfl, rfl⟩ := Prod.mk.inj (Option.some.inj hat)
  exact ⟨List.append_cancel_right heq, rfl, rfl⟩

/-! ### The global replace -/

/-- What a global replace of the placeholder pattern makes of a text, and the names it matched, in
order: the leftmost match is replaced by the value of its name (nothing when the lookup has none),
and the search goes on after it. -/
inductive Replaces (lookup : Text → Option Text) : Text → Text → List Text → Prop
  | noMatch {s : Text} : (∀ i, ¬ OpensPlaceholder (s.drop i)) → Replaces lookup s s []
  | leftmost {pre m rest out name : Text} {names : List Text} :
      (∀ i < pre.length, ¬ OpensPlaceholder ((pre ++ m ++ rest).drop i)) → Matches m name →
      Replaces lookup rest out names →
      Replaces lookup (pre ++ m ++ rest) (pre ++ (lookup name).getD [] ++ out) (name :: names)

theorem opens_drop_length {pre m rest name : Text} (hm : Matches m name) :
    OpensPlaceholder ((pre ++ m ++ rest).drop pre.length) :=
  ⟨m, name, rest, by simp, hm⟩

/-- A global replace is a function of the text: two leftmost matches start at the same place and
are the same. -/
theorem Replaces.unique {lookup : Text → Option Text} {s out out' : Text} {names names' : List Text}
    (h : Replaces lookup s out names) (h' : Replaces lookup s out' names') :
    out = out' ∧ names = names' := by
  induction h generalizing out' names' with
  | noMatch hno =>
    cases h' with
    | noMatch _ => exact ⟨rfl, rfl⟩
    | leftmost _ hm' _ => exact absurd (opens_drop_length hm') (hno _)
  | @leftmost pre m rest out name names hpre hm _ ih =>
    generalize hs : pre ++ m ++ rest = s at h'
    cases h' with
    | noMatch hno => exact absurd (hs ▸ opens_drop_length hm) (hno _)
    | @leftmost pre' m' rest' out'' name' names'' hpre' hm' hrest' =>
      -- neither match may start inside the text the other skipped
      have hlen : pre.length = pre'.length := by
        rcases Nat.lt_trichotomy pre.length pre'.length with hlt | heq | hgt
        · exact absurd (hs ▸ opens_drop_length hm) (hpre' _ hlt)
        · exact heq
        · exact absurd (hs.symm ▸ opens_drop_length hm') (hpre _ hgt)
      rw [List.append_assoc, List.append_assoc] at hs
      obtain ⟨rfl, hrest⟩ := List.append_inj hs hlen
      obtain ⟨rfl, rfl, rfl⟩ := Matches.unique hm hm' hrest
      obtain ⟨rfl, rfl⟩ := ih hrest'
      exact ⟨rfl, rfl⟩

theorem Replaces.eq_of_nil {lookup : Text → Option Text} {s out : Text}
    (h : Replaces lookup s out []) : out = s := by
  cases h
  rfl

/-! ### The compiled pieces -/

/-- The text a piece renders as. -/
def fill (lookup : Text → Option Text) : Piece → Text
  | .literal s => s
  | .placeholder n => (lookup n).getD []

/-- The name of a placeholder piece. -/
def Piece.name? : Piece → Option Text
  | .placeholder n => some n
  | .literal _ => none

theorem render_eq (t : Template) (lookup : Text → Option Text) :
    t.render lookup = if t.placeholderNames.isEmpty then t.source else t.pieces.flatMap (fill lookup) := by
  unfold render
  congr 2

theorem placeholderNames_eq (t : Template) : t.placeholderNames = distinct (t.pieces.filterMap Piece.name?) := by
  unfold placeholderNames
  congr 2

theorem renderPiecesM_id (lookup : Text → Option Text) (ps : List Piece) :
    Id.run (renderPiecesM (fun n => pure (lookup n)) ps) = ps.flatMap (fill lookup) := by
  induction ps with
  | nil => rfl
  | cons p rest ih =>
    rw [List.flatMap_cons, ← ih]
    cases p <;> rfl

theorem renderM_id (t : Template) (lookup : Text → Option Text) :
    Id.run (t.renderM fun n => pure (lookup n)) = t.render lookup := by
  rw [renderM, render_eq]
  split
  · rfl
  · exact renderPiecesM_id lookup t.pieces

@[simp] theorem flatMap_flush (lookup : Text → Option Text) (acc : Text) :
    (flush acc).flatMap (fill lookup) = acc.reverse := by
  unfold flush
  split <;> simp_all [fill]

@[simp] theorem filterMap_flush (acc : Text) : (flush acc).filterMap Piece.name? = [] := by
  unfold flush
  split <;> simp [Piece.name?]

/-- The scan from a literal `acc` (reversed) that holds no start of a match, with enough fuel,
replaces the rest of the text as a global replace does. -/
theorem replaces_scan (lookup : Text → Option Text) :
    ∀ (fuel : Nat) (acc s : Text), s.length < fuel →
      (∀ i < acc.length, ¬ OpensPlaceholder ((acc.reverse ++ s).drop i)) →
      Replaces lookup (acc.reverse ++ s) ((scan fuel acc s).flatMap (fill lookup))
        ((scan fuel acc s).filterMap Piece.name?)
  | 0, _, _, hfuel, _ => absurd hfuel (Nat.not_lt_zero _)
  | fuel + 1, acc, [], _, hacc => by
    simp only [scan, flatMap_flush, filterMap_flush, List.append_nil]
    refine .noMatch fun i => ?_
    rcases Nat.lt_or_ge i acc.length with hi | hi
    · simpa using hacc i hi
    · rw [List.drop_eq_nil_of_le (by simpa using hi)]
      rintro ⟨m, _, _, hnil, hm⟩
      exact hm.ne_nil (List.append_eq_nil_iff.1 hnil.symm).1
  | fuel + 1, acc, u :: r, hfuel, hacc => by
    cases hat : placeholderAt (u :: r) with
    | some found =>
      -- a match starts here: the literal so far is what the replace skips
      obtain ⟨name, rest⟩ := found
      obtain ⟨m, hsplit, hm⟩ := matches_of_placeholderAt hat
      have hlen : rest.length < fuel := by
        have := congrArg List.length hsplit
        have := List.length_pos_iff.2 hm.ne_nil
        simp only [List.length_cons, List.length_append] at *
        omega
      have hnext := replaces_scan lookup fuel [] rest hlen (by simp)
      simp only [scan, hat, List.flatMap_append, List.flatMap_cons, List.filterMap_append,
        List.filterMap_cons, flatMap_flush, filterMap_flush, fill, Piece.name?, List.nil_append,
        List.reverse_nil] at hnext ⊢
      rw [hsplit, ← List.append_assoc, ← List.append_assoc]
      exact .leftmost (by rw [List.append_assoc, ← hsplit]; simpa using hacc) hm hnext
    | none =>
      -- no match starts here: the unit joins the literal
      have hnext := replaces_scan lookup fuel (u :: acc) r (by simpa using hfuel) (by
        intro i hi
        simp only [List.reverse_cons, List.append_assoc, List.singleton_append]
        rcases Nat.lt_or_ge i acc.length with hlt | hge
        · exact hacc i hlt
        · have hi' : i = acc.length := by simp at hi; omega
          subst hi'
          simpa using placeholderAt_eq_none_iff.1 hat)
      simp only [scan, hat]
      simpa using hnext

/-- Compiling finds the matches of a global replace. -/
theorem replaces_compile (lookup : Text → Option Text) (source : Text) :
    Replaces lookup source ((compile source).pieces.flatMap (fill lookup))
      ((compile source).pieces.filterMap Piece.name?) := by
  simpa [compile] using
    replaces_scan lookup (source.length + 1) [] source (Nat.lt_succ_self _) (by simp)

theorem distinct_eq_nil {α : Type} [BEq α] {xs : List α} : distinct xs = [] ↔ xs = [] := by
  constructor
  · intro h
    cases xs with
    | nil => rfl
    | cons x rest =>
      -- the fold only ever appends, and it starts from `[x]`
      have grows : ∀ (ys : List α) (acc : List α), acc ≠ [] →
          ys.foldl (fun acc x => if acc.contains x then acc else acc ++ [x]) acc ≠ [] := by
        intro ys
        induction ys with
        | nil => exact fun _ h => h
        | cons y ys ih =>
          intro acc hacc
          apply ih
          dsimp only
          split
          · exact hacc
          · simp
      exact absurd h (grows rest [x] (by simp))
  · rintro rfl
    rfl

/-- A compiled template renders as its pieces do, each literal as itself and each placeholder as
its value. -/
theorem render_compile (source : Text) (lookup : Text → Option Text) :
    (compile source).render lookup = (compile source).pieces.flatMap (fill lookup) := by
  rw [render_eq, placeholderNames_eq]
  split
  · rename_i hnone
    have hnil : (compile source).pieces.filterMap Piece.name? = [] :=
      distinct_eq_nil.1 (List.isEmpty_iff.1 hnone)
    have h := replaces_compile lookup source
    rw [hnil] at h
    exact (Replaces.eq_of_nil h).symm
  · rfl

/-- **A template renders as the global replace of its placeholders.**  For every source text, the
global replace with the placeholder pattern finds the same names for every lookup; the template's
variables are those names, each once, in order of first match; and for every lookup it rewrites the
source into the template's rendering and nothing else.  A source in which no match starts renders
as itself, whatever the lookup. -/
theorem render_is_global_replace (source : Text) :
    ∃ names : List Text, (compile source).placeholderNames = distinct names ∧
      (∀ lookup out found, Replaces lookup source out found ↔
        out = (compile source).render lookup ∧ found = names) ∧
      ((∀ i, ¬ OpensPlaceholder (source.drop i)) →
        ∀ lookup, (compile source).render lookup = source) := by
  refine ⟨_, placeholderNames_eq _, fun lookup out found => ⟨fun h => ?_, ?_⟩, fun hno lookup => ?_⟩
  · rw [render_compile]
    exact (Replaces.unique h (replaces_compile lookup source)).imp id id
  · rintro ⟨rfl, rfl⟩
    rw [render_compile]
    exact replaces_compile lookup source
  · rw [render_compile]
    exact (Replaces.unique (replaces_compile lookup source) (.noMatch hno)).1

/-- `{{{a}}}` is a brace, the placeholder `a` and a brace. -/
example : (compile (Text.ofString "\x7b\x7b\x7ba\x7d\x7d\x7d")).render (fun _ => some (Text.ofString "X")) =
    Text.ofString "\x7bX\x7d" := by decide

/-- A no-break space and a byte order mark are blanks of the pattern. -/
example : (compile (Text.ofString "\x7b\x7b\u00A0user\uFEFF\x7d\x7d")).placeholderNames =
    [Text.ofString "user"] := by decide

/-- Braces that hold no placeholder render as they are, whatever the lookup: `{{ 1x }}` has no
name and `{{a b}}` two. -/
theorem braces_without_placeholder_render_as_is :
    (∀ i, ¬ OpensPlaceholder
      ((Text.ofString "\x7b\x7b 1x \x7d\x7d \x7b\x7ba b\x7d\x7d").drop i)) ∧
    ∀ lookup, (compile (Text.ofString "\x7b\x7b 1x \x7d\x7d \x7b\x7ba b\x7d\x7d")).render lookup =
      Text.ofString "\x7b\x7b 1x \x7d\x7d \x7b\x7ba b\x7d\x7d" := by
  have hno := not_opens_drop_of_placeholderAt
    (Text.ofString "\x7b\x7b 1x \x7d\x7d \x7b\x7ba b\x7d\x7d") (by decide)
  obtain ⟨_, -, -, hrender⟩ :=
    render_is_global_replace (Text.ofString "\x7b\x7b 1x \x7d\x7d \x7b\x7ba b\x7d\x7d")
  exact ⟨hno, hrender hno⟩

end Template

end LogRouter
