import LogRouter.Rules.Matcher
import LogRouter.Proofs.Decimal

/-!
The query paths `QueryPath.compile` reads, as a grammar.

A path is read exactly when it is

    path    := segment ('.' segment)*
    segment := name ('[' digit+ ']')*
    name    := [A-Za-z_][A-Za-z0-9_-]*  |  '"' (unit other than '"' and '\' | '\' unit)+ '"'

and it reads as the key and index steps of that derivation, in order: a key for each name, a quoted
name unescaped, and an index for each bracket, the double nearest to the number its digits denote.
`Path` is that grammar with the steps it reads as; `QueryPath.compile_accepts_exactly_the_grammar`
says a path reads as some steps exactly when the grammar gives them, that every path that does not
read is reported at the root of the configuration, and that writing steps out as a path reads them
back.  An index is written as the whole number it holds, so it reads back as itself only when it is
the double of that number: for the natural numbers up to `2^53`, which doubles hold exactly.

The reader scans a segment at a time, so each reader gets a soundness lemma (what it read is a
piece of the grammar, and where the rest starts) and a completeness lemma (a piece of the grammar
followed by what may follow it is read in full).  The segment reader runs on fuel, one unit of it
per segment; the path's length is always enough.
-/

namespace LogRouter

namespace QueryPath

/-! ### The grammar of a path -/

/-- The body of a quoted name and the name it spells: a unit other than a quote and a backslash
stands for itself, and a backslash for the unit after it. -/
inductive Unescapes : Text → Text → Prop
  | nil : Unescapes [] []
  | plain {u : UInt16} {raw name : Text} :
      u ≠ 0x22 → u ≠ 0x5C → Unescapes raw name → Unescapes (u :: raw) (u :: name)
  | escape (c : UInt16) {raw name : Text} :
      Unescapes raw name → Unescapes (0x5C :: c :: raw) (c :: name)

/-- A name and the key it spells: bare, a letter or underscore and then letters, digits,
underscores and dashes; or a nonempty body between double quotes. -/
inductive Name : Text → Text → Prop
  | bare {u : UInt16} {rest : Text} :
      isNameStart u = true → (∀ c ∈ rest, isNamePart c = true) → Name (u :: rest) (u :: rest)
  | quoted {raw name : Text} : Unescapes raw name → name ≠ [] → Name (0x22 :: (raw ++ [0x22])) name

/-- Index brackets, each around one or more decimal digits, and the index steps they read as. -/
inductive Indices : Text → List Step → Prop
  | nil : Indices [] []
  | cons {ds rest : Text} {steps : List Step} :
      ds ≠ [] → (∀ c ∈ ds, Text.isDigit c = true) → Indices rest steps →
      Indices (0x5B :: (ds ++ 0x5D :: rest)) (.index (Double.ofNat (Syslog.digitsValue ds)) :: steps)

/-- A segment, a name and its indices, and the key step and index steps it reads as. -/
inductive Segment : Text → List Step → Prop
  | mk {nsrc isrc name : Text} {steps : List Step} :
      Name nsrc name → Indices isrc steps → Segment (nsrc ++ isrc) (.key name :: steps)

/-- A path, segments separated by dots, and the steps it reads as, in order. -/
inductive Path : Text → List Step → Prop
  | one {src : Text} {steps : List Step} : Segment src steps → Path src steps
  | cons {src src' : Text} {steps steps' : List Step} :
      Segment src steps → Path src' steps' → Path (src ++ 0x2E :: src') (steps ++ steps')

/-! ### Quoted names -/

theorem readQuoted_unescapes {raw name : Text} (h : Unescapes raw name) (rest : Text) :
    readQuoted (raw ++ 0x22 :: rest) = some (name, rest, raw.length + 1) := by
  induction h with
  | nil => rfl
  | plain _ hb _ ih => simp [readQuoted, hb, ih]
  | escape c _ ih => simp [readQuoted, ih]

theorem unescapes_of_readQuoted {r name rest : Text} {k : Nat}
    (h : readQuoted r = some (name, rest, k)) :
    ∃ raw, r = raw ++ 0x22 :: rest ∧ Unescapes raw name ∧ k = raw.length + 1 := by
  fun_induction readQuoted r generalizing name rest k with
  | case1 => cases h
  | case2 r =>
      cases h
      exact ⟨[], rfl, .nil, rfl⟩
  | case3 c r ih =>
      obtain ⟨⟨n, r', k'⟩, hr, heq⟩ := Option.map_eq_some_iff.1 h
      cases heq
      obtain ⟨raw, rfl, hu, rfl⟩ := ih hr
      exact ⟨0x5C :: c :: raw, rfl, .escape c hu, by simp⟩
  | case4 u r hq hb ih =>
      obtain ⟨⟨n, r', k'⟩, hr, heq⟩ := Option.map_eq_some_iff.1 h
      cases heq
      obtain ⟨raw, rfl, hu, rfl⟩ := ih hr
      refine ⟨u :: raw, rfl, .plain hq ?_ hu, by simp⟩
      -- a backslash with a unit after it is an escape, and the closing quote comes after it
      rintro rfl
      cases raw <;> exact hb _ _ rfl rfl

/-! ### Index brackets -/

theorem idxOf?_close {ds : Text} (hd : ∀ c ∈ ds, Text.isDigit c = true) (rest : Text) :
    (ds ++ 0x5D :: rest).idxOf? 0x5D = some ds.length := by
  induction ds with
  | nil => simp [List.idxOf?_cons]
  | cons c ds ih =>
      have hc : c ≠ 0x5D := by
        rintro rfl
        simpa [Text.isDigit] using hd 0x5D (List.mem_cons_self ..)
      rw [List.cons_append, List.idxOf?_cons, ih fun x hx => hd x (List.mem_cons_of_mem c hx)]
      simp [hc]

theorem readIndices_indices {isrc : Text} {steps : List Step} (h : Indices isrc steps)
    {rest : Text} (hrest : rest.head? ≠ some 0x5B) (o : Nat) :
    readIndices o (isrc ++ rest) = .ok (steps, rest, o + isrc.length) := by
  induction h generalizing o with
  | nil =>
      rw [List.nil_append, readIndices.eq_2 o rest (by rintro r rfl; simp at hrest)]
      rfl
  | @cons ds isrc' steps' hne hd _ ih =>
      -- the first closing bracket ends the digits, and the brackets after them are read on
      have hdigits : (!(ds.isEmpty) && ds.all Text.isDigit) = true := by
        simp [hne, List.all_eq_true.2 hd]
      have hdrop : (ds ++ 0x5D :: (isrc' ++ rest)).drop (ds.length + 1) = isrc' ++ rest := by
        simp
      rw [List.cons_append, readIndices.eq_1, List.append_assoc, List.cons_append,
        idxOf?_close hd]
      simp only [List.take_left', hdigits, if_true]
      rw [hdrop, ih, Double.ofNumberText_of_digits hne hd]
      simp only [Except.ok.injEq, Prod.mk.injEq, true_and, List.length_cons, List.length_append]
      omega

theorem indices_of_readIndices {o o' : Nat} {t rest : Text} {steps : List Step}
    (h : readIndices o t = .ok (steps, rest, o')) : ∃ isrc, t = isrc ++ rest ∧ Indices isrc steps := by
  fun_induction readIndices o t generalizing steps rest o' with
  | case1 => cases h
  | case2 o r j hj inside hcond steps' rest' o'' hrec =>
      rename_i ih
      cases h
      obtain ⟨isrc, hsplit, hidx⟩ := ih hrec
      -- the digits run up to the first closing bracket
      obtain ⟨hlt, hclose, -⟩ := List.idxOf?_eq_some_iff.1 hj
      have hr : r = r.take j ++ 0x5D :: r.drop (j + 1) := by
        rw [← hclose, List.getElem_cons_drop, List.take_append_drop]
      simp only [Bool.and_eq_true, Bool.not_eq_true', List.isEmpty_eq_false_iff,
        List.all_eq_true] at hcond
      rw [Double.ofNumberText_of_digits hcond.1 hcond.2]
      refine ⟨0x5B :: (r.take j ++ 0x5D :: isrc), ?_, .cons hcond.1 hcond.2 hidx⟩
      conv => lhs; rw [hr, hsplit]
      simp
  | case3 => cases h
  | case4 => cases h
  | case5 t _ =>
      cases h
      exact ⟨[], rfl, .nil⟩

theorem Indices.head {isrc : Text} {steps : List Step} (h : Indices isrc steps) :
    ∀ u, isrc.head? = some u → u = 0x5B := by
  cases h with
  | nil =>
      intro u hu
      cases hu
  | cons => simp

/-! ### Segments -/

theorem takeWhile_namePart {x : Text} (hx : ∀ u, x.head? = some u → u = 0x5B ∨ u = 0x2E) :
    x.takeWhile isNamePart = [] ∧ x.dropWhile isNamePart = x := by
  cases x with
  | nil => exact ⟨rfl, rfl⟩
  | cons u x =>
      have hu : isNamePart u = false := by
        rcases hx u rfl with rfl | rfl <;> rfl
      exact ⟨List.takeWhile_cons_of_neg (by simp [hu]), List.dropWhile_cons_of_neg (by simp [hu])⟩

theorem readSegment_segment {ssrc : Text} {steps : List Step} (h : Segment ssrc steps)
    {rest : Text} (hrest : ∀ u, rest.head? = some u → u = 0x2E) (total o : Nat) :
    ∃ o', readSegment total o (ssrc ++ rest) = .ok (steps, rest, o') := by
  obtain ⟨hname, hidx⟩ := h
  rename_i nsrc isrc name isteps
  have hbracket : rest.head? ≠ some 0x5B := fun h5 => by cases hrest _ h5
  cases hname with
  | @bare u nrest hu hpart =>
      -- the name runs up to the brackets, or to what follows the segment
      have hu' : u ≠ 0x22 := by
        rintro rfl
        cases hu
      have hnext : ∀ v, (isrc ++ rest).head? = some v → v = 0x5B ∨ v = 0x2E := by
        intro v hv
        cases isrc with
        | nil => exact .inr (hrest v (by simpa using hv))
        | cons w isrc => exact .inl (hidx.head v (by simpa using hv))
      obtain ⟨htake, hdrop⟩ := takeWhile_namePart hnext
      simp only [List.cons_append, List.append_assoc]
      rw [readSegment.eq_2 total o u _ hu', if_pos hu, List.takeWhile_append_of_pos hpart,
        List.dropWhile_append_of_pos hpart, htake, hdrop, List.append_nil]
      simp only [readIndices_indices hidx hbracket]
      exact ⟨_, rfl⟩
  | @quoted raw name hu hne =>
      have hnonempty : name.isEmpty = false := by
        cases name with
        | nil => exact absurd rfl hne
        | cons => rfl
      simp only [List.cons_append, List.append_assoc, List.nil_append]
      rw [readSegment.eq_1, readQuoted_unescapes hu]
      simp only [hnonempty, Bool.false_eq_true, if_false]
      rw [readIndices_indices hidx hbracket]
      exact ⟨_, rfl⟩

theorem ok_of_map_eq_ok {α β : Type} {f : α → β} {x : Except PathError α} {y : β}
    (h : x.map f = .ok y) : ∃ z, x = .ok z ∧ f z = y := by
  cases x with
  | error e => cases h
  | ok z =>
      cases h
      exact ⟨z, rfl, rfl⟩

theorem segment_of_readSegment {total o o' : Nat} {t rest : Text} {steps : List Step}
    (h : readSegment total o t = .ok (steps, rest, o')) :
    ∃ ssrc, t = ssrc ++ rest ∧ Segment ssrc steps := by
  cases t with
  | nil =>
      rw [readSegment.eq_3] at h
      cases h
  | cons u r =>
      by_cases hq : u = 0x22
      · -- a quoted name, then its brackets
        subst hq
        rw [readSegment.eq_1] at h
        cases hquote : readQuoted r with
        | none => simp [hquote] at h
        | some q =>
            obtain ⟨name, r', k⟩ := q
            obtain ⟨raw, rfl, hu, -⟩ := unescapes_of_readQuoted hquote
            simp only [hquote] at h
            split at h
            · cases h
            · rename_i hne
              obtain ⟨⟨isteps, rest', o''⟩, hr, heq⟩ := ok_of_map_eq_ok h
              cases heq
              obtain ⟨isrc, rfl, hidx⟩ := indices_of_readIndices hr
              exact ⟨0x22 :: (raw ++ [0x22]) ++ isrc, by simp,
                .mk (.quoted hu fun h0 => hne (by simp [h0])) hidx⟩
      · -- a bare name, as long as the units allow, then its brackets
        rw [readSegment.eq_2 total o u r hq] at h
        split at h
        · rename_i hu
          obtain ⟨⟨isteps, rest', o''⟩, hr, heq⟩ := ok_of_map_eq_ok h
          cases heq
          obtain ⟨isrc, hsplit, hidx⟩ := indices_of_readIndices hr
          refine ⟨(u :: r.takeWhile isNamePart) ++ isrc, ?_, .mk (.bare hu ?_) hidx⟩
          · calc u :: r = u :: (r.takeWhile isNamePart ++ r.dropWhile isNamePart) := by
                  rw [List.takeWhile_append_dropWhile]
              _ = (u :: r.takeWhile isNamePart) ++ isrc ++ rest := by
                  rw [hsplit]
                  simp
          · exact List.all_eq_true.1 List.all_takeWhile
        · cases h

theorem Segment.ne_nil {ssrc : Text} {steps : List Step} (h : Segment ssrc steps) : ssrc ≠ [] := by
  obtain ⟨hname, -⟩ := h
  cases hname <;> simp

theorem Path.ne_nil {t : Text} {steps : List Step} (h : Path t steps) : t ≠ [] := by
  cases h with
  | one hs => exact hs.ne_nil
  | cons hs _ => simp

/-! ### Paths -/

/-- What the reader of dotted segments read is a path, given one unit of fuel per unit of text. -/
theorem path_of_readSegments {total : Nat} :
    ∀ {fuel o : Nat} {t : Text} {steps : List Step}, t.length < fuel →
      readSegments total fuel o t = .ok steps → Path t steps := by
  intro fuel
  induction fuel with
  | zero => intro o t steps hlen; omega
  | succ fuel ih =>
      intro o t steps hlen h
      rw [readSegments.eq_2] at h
      split at h
      · cases h
      · rename_i seg rest o' hseg
        obtain ⟨ssrc, rfl, hs⟩ := segment_of_readSegment hseg
        have hne := hs.ne_nil
        split at h
        · cases h
          simpa using Path.one hs
        · cases h
        · -- a dot and more: the rest is a path, read on the fuel that is left
          rename_i r hr
          obtain ⟨steps', hrest, rfl⟩ := ok_of_map_eq_ok h
          have hlen' : r.length < fuel := by
            have : ssrc.length ≠ 0 := by simpa using hne
            simp at hlen
            omega
          exact .cons hs (ih hlen' hrest)
        · cases h

/-- A path is read in full, given one unit of fuel per unit of text. -/
theorem readSegments_path {total : Nat} {t : Text} {steps : List Step} (h : Path t steps) :
    ∀ {fuel : Nat}, t.length < fuel → ∀ o, readSegments total fuel o t = .ok steps := by
  induction h with
  | @one src steps hs =>
      intro fuel hlen o
      obtain ⟨fuel, rfl⟩ : ∃ k, fuel = k + 1 := ⟨fuel - 1, by omega⟩
      obtain ⟨o', hseg⟩ := readSegment_segment hs
        (show ∀ u, ([] : Text).head? = some u → u = 0x2E from fun _ hu => (by cases hu)) total o
      rw [List.append_nil] at hseg
      rw [readSegments.eq_2, hseg]
  | @cons src src' steps steps' hs hp ih =>
      intro fuel hlen o
      obtain ⟨fuel, rfl⟩ : ∃ k, fuel = k + 1 := ⟨fuel - 1, by omega⟩
      obtain ⟨o', hseg⟩ := readSegment_segment hs
        (show ∀ u, (0x2E :: src').head? = some u → u = 0x2E by simp) total o
      -- the segment leaves a dot and a nonempty path, read on the fuel that is left
      obtain ⟨v, src'', rfl⟩ := List.exists_cons_of_ne_nil hp.ne_nil
      have hlen' : (v :: src'').length < fuel := by
        simp at hlen ⊢
        omega
      rw [readSegments.eq_2, hseg]
      simp [ih hlen' (o' + 1), Except.map]

/-! ### Paths are not blank -/

theorem isBlank_of_opens_name {u : UInt16} (h : isNameStart u = true ∨ u = 0x22) :
    Text.isBlank u = false := by
  have hu : 0x22 ≤ u.toNat ∧ u.toNat ≤ 0x7A := by
    rcases h with h | rfl
    · simp [isNameStart, Text.isAsciiLetter] at h
      rcases h with (⟨h1, h2⟩ | ⟨h1, h2⟩) | rfl
      · omega
      · omega
      · decide
    · decide
  -- every blank unit lies below the quote or far above the letters
  unfold Text.isBlank
  split <;> simp_all
  omega

theorem dropWhile_ne_nil {p : UInt16 → Bool} {l : Text} {u : UInt16} (hu : u ∈ l)
    (hp : p u = false) : l.dropWhile p ≠ [] := by
  induction l with
  | nil => cases hu
  | cons x l ih =>
      by_cases hx : p x = true
      · have hul : u ∈ l := by
          rcases List.mem_cons.1 hu with rfl | hul
          · simp [hp] at hx
          · exact hul
        rw [List.dropWhile_cons_of_pos hx]
        exact ih hul
      · rw [List.dropWhile_cons_of_neg hx]
        simp

theorem trim_isEmpty_of_head {u : UInt16} {r : Text} (hu : Text.isBlank u = false) :
    (Text.trim (u :: r)).isEmpty = false := by
  have hstart : Text.trimStart (u :: r) = u :: r := List.dropWhile_cons_of_neg (by simp [hu])
  have hend := dropWhile_ne_nil (show u ∈ (u :: r).reverse by simp) hu
  simpa [Text.trim, Text.trimEnd, hstart] using hend

theorem Segment.head_not_blank {ssrc : Text} {steps : List Step} (h : Segment ssrc steps) :
    ∃ u r, ssrc = u :: r ∧ Text.isBlank u = false := by
  obtain ⟨hname, -⟩ := h
  cases hname with
  | bare hu _ => exact ⟨_, _, rfl, isBlank_of_opens_name (.inl hu)⟩
  | quoted _ _ => exact ⟨_, _, rfl, isBlank_of_opens_name (.inr rfl)⟩

theorem Path.trim_isEmpty {t : Text} {steps : List Step} (h : Path t steps) :
    (Text.trim t).isEmpty = false := by
  cases h with
  | one hs =>
      obtain ⟨u, r, rfl, hu⟩ := hs.head_not_blank
      exact trim_isEmpty_of_head hu
  | cons hs _ =>
      obtain ⟨u, r, rfl, hu⟩ := hs.head_not_blank
      exact trim_isEmpty_of_head hu

/-! ### The compiler -/

/-- A path compiles to some steps exactly when the grammar derives them. -/
theorem compile_eq_ok_iff {p : Text} {steps : List Step} : compile p = .ok steps ↔ Path p steps := by
  constructor
  · intro h
    unfold compile at h
    split at h
    · cases h
    · exact path_of_readSegments (Nat.lt_succ_self _) h
  · intro h
    rw [compile, if_neg (by rw [h.trim_isEmpty]; decide)]
    exact readSegments_path h (Nat.lt_succ_self _) 0

/-- A query matcher is refused, with an issue at the root, exactly when its path is not in the
grammar. -/
theorem compileQuery_error_iff {p : Text} {field : FieldName} :
    (∃ i, Matcher.compileQuery p field = .error i ∧ i.path = []) ↔ ¬∃ steps, Path p steps := by
  constructor
  · rintro ⟨i, hi, -⟩ ⟨steps, hp⟩
    rw [Matcher.compileQuery, compile_eq_ok_iff.2 hp] at hi
    cases hi
  · intro hp
    cases hc : compile p with
    | ok steps => exact absurd ⟨steps, compile_eq_ok_iff.1 hc⟩ hp
    | error e => exact ⟨e.issue p, by rw [Matcher.compileQuery, hc], rfl⟩

/-- The grammar derives one list of steps from a path at most. -/
theorem Path.steps_unique {p : Text} {steps steps' : List Step} (h : Path p steps)
    (h' : Path p steps') : steps = steps' := by
  have hc := compile_eq_ok_iff.2 h
  rw [compile_eq_ok_iff.2 h'] at hc
  cases hc
  rfl

theorem Indices.snoc {isrc : Text} {steps : List Step} (h : Indices isrc steps) (n : Nat) :
    Indices (isrc ++ 0x5B :: (Text.ofNat n ++ [0x5D])) (steps ++ [.index (Double.ofNat n)]) := by
  induction h with
  | nil =>
      obtain ⟨hne, hd, hval⟩ := Text.digits_ofNat n
      simpa [hval] using Indices.cons hne hd Indices.nil
  | cons hne hd _ ih => simpa using Indices.cons hne hd ih

/-! ### Writing steps out as a path -/

/-- Whether a name can be written bare: a letter or underscore, then units of a bare name. -/
def isBare : Text → Bool
  | [] => false
  | u :: r => isNameStart u && r.all isNamePart

/-- The body of a quoted name: a quote or a backslash escaped with a backslash. -/
def escapeName (name : Text) : Text :=
  name.flatMap fun u => if u = 0x22 || u = 0x5C then [0x5C, u] else [u]

/-- A name as a path writes it: bare when it can be, else between quotes. -/
def printName (name : Text) : Text :=
  if isBare name then name else 0x22 :: (escapeName name ++ [0x22])

/-- Steps after the first key written out: an index as the whole number it holds in brackets, a
key after a dot. -/
def printRest : List Step → Text
  | [] => []
  | .key name :: steps => 0x2E :: (printName name ++ printRest steps)
  | .index x :: steps => 0x5B :: (Text.ofNat (x.toInt?.getD 0).toNat ++ 0x5D :: printRest steps)

/-- Steps written out as a path: the first key without a dot before it. -/
def print : List Step → Text
  | .key name :: steps => printName name ++ printRest steps
  | steps => printRest steps

/-- Whether a step can be written out to read back: a key needs a name, and an index must be a
natural number up to `2^53`. -/
def Printable : Step → Prop
  | .key name => name ≠ []
  | .index x => ∃ n, n ≤ Nat.pow 2 53 ∧ x = Double.ofNat n

theorem unescapes_escapeName (name : Text) : Unescapes (escapeName name) name := by
  induction name with
  | nil => exact .nil
  | cons u name ih =>
      by_cases hs : u = 0x22 ∨ u = 0x5C
      · simpa [escapeName, hs] using Unescapes.escape u ih
      · rw [not_or] at hs
        simpa [escapeName, hs] using Unescapes.plain hs.1 hs.2 ih

theorem name_printName {name : Text} (h : name ≠ []) : Name (printName name) name := by
  unfold printName
  split
  · rename_i hbare
    cases name with
    | nil => cases hbare
    | cons u r =>
        simp only [isBare, Bool.and_eq_true, List.all_eq_true] at hbare
        exact .bare hbare.1 hbare.2
  · exact .quoted (unescapes_escapeName name) h

/-- The steps after a key, written out after its name and its brackets so far, make a path of the
key, its indices and the steps. -/
theorem path_printRest {rest : List Step} (hrest : ∀ s ∈ rest, Printable s) :
    ∀ {name isrc : Text} {isteps : List Step}, name ≠ [] → Indices isrc isteps →
      Path (printName name ++ isrc ++ printRest rest) (.key name :: (isteps ++ rest)) := by
  induction rest with
  | nil =>
      intro name isrc isteps hname hidx
      simpa [printRest] using Path.one (.mk (name_printName hname) hidx)
  | cons s rest ih =>
      intro name isrc isteps hname hidx
      have hrest' : ∀ s ∈ rest, Printable s := fun s hs => hrest s (List.mem_cons_of_mem _ hs)
      cases s with
      | key m =>
          -- a key ends the segment and starts the next one
          have hm : m ≠ [] := hrest (.key m) (List.mem_cons_self ..)
          have := Path.cons (.mk (name_printName hname) hidx) (ih hrest' hm Indices.nil)
          simpa [printRest] using this
      | index x =>
          -- an index joins the segment's brackets, written as the number it holds exactly
          obtain ⟨n, hn, rfl⟩ : Printable (.index x) := hrest (.index x) (List.mem_cons_self ..)
          have hwrite : ((Double.ofNat n).toInt?.getD 0).toNat = n := by
            rw [Double.toInt?_ofNat hn]
            rfl
          simpa [printRest, hwrite] using ih hrest' hname (hidx.snoc n)

/-- Steps that start with a key and name every key are written out as a path that reads them. -/
theorem path_print {name : Text} {rest : List Step}
    (h : ∀ s ∈ Step.key name :: rest, Printable s) :
    Path (print (.key name :: rest)) (.key name :: rest) := by
  have hname : name ≠ [] := h (.key name) (List.mem_cons_self ..)
  simpa [print] using path_printRest (fun s hs => h s (List.mem_cons_of_mem _ hs)) hname Indices.nil

/-! ### The grammar of query paths -/

/-- A query path compiles exactly when the grammar derives it, to the steps of that derivation; a
query matcher whose path is not in the grammar is refused with an issue at the root; the steps
are the only ones the grammar gives the path; and steps that start with a key, name every key and
hold natural numbers up to `2^53` as indices, written out, compile back to themselves. -/
theorem compile_accepts_exactly_the_grammar :
    (∀ (p : Text) (steps : List Step), compile p = .ok steps ↔ Path p steps) ∧
    (∀ (p : Text) (field : FieldName),
      (∃ i, Matcher.compileQuery p field = .error i ∧ i.path = []) ↔ ¬∃ steps, Path p steps) ∧
    (∀ (p : Text) (steps steps' : List Step), Path p steps → Path p steps' → steps = steps') ∧
    (∀ (name : Text) (rest : List Step), (∀ s ∈ Step.key name :: rest, Printable s) →
      compile (print (.key name :: rest)) = .ok (.key name :: rest)) :=
  ⟨fun _ _ => compile_eq_ok_iff, fun _ _ => compileQuery_error_iff,
    fun _ _ _ h h' => h.steps_unique h',
    fun _ _ h => compile_eq_ok_iff.2 (path_print h)⟩

/-- A dotted name needs quotes, and it and an index after it read back. -/
theorem dotted_member_reads_back :
    compile (print [.key (Text.ofString "labels"), .key (Text.ofString "app.io/name"),
        .index (Double.ofNat 12)]) =
      .ok [.key (Text.ofString "labels"), .key (Text.ofString "app.io/name"),
        .index (Double.ofNat 12)] := by
  refine compile_accepts_exactly_the_grammar.2.2.2 _ _ fun s hs => ?_
  simp only [List.mem_cons, List.not_mem_nil, or_false] at hs
  rcases hs with rfl | rfl | rfl
  · show Text.ofString "labels" ≠ []
    decide
  · show Text.ofString "app.io/name" ≠ []
    decide
  · exact ⟨12, by decide, rfl⟩

end QueryPath

end LogRouter
