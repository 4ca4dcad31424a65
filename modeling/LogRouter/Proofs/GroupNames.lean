import LogRouter.Proofs.Placeholder

/-!
The group names a pattern's text declares, against the groups the pattern has.

`Pattern.declaredNames` reads group names off the text: each `(?<name>` whose `(` does not follow
a backslash.  The reader of patterns numbers its captures in the order of their opening
parentheses and keeps the named ones in that order.  The two agree on every pattern written in
ASCII with neither a backslash nor a class (`declaredNames_of_plain`): there every `(` opens a
group, so the text scan sees exactly the openings the reader sees.

The reader's side is an invariant of `readTerms` (`ReadsTo`): reading from one position to another
adds to the named captures exactly the named groups the text opens in between (`groupsAfter`),
numbered from the captures opened before, and in the order they open.  A group's name is added
only once its body is read, but the numbers put it back in place: the names before it are
numbered lower and those of its body higher (`addName_eq`).  Each way of reading keeps the
invariant, so a whole reading of the pattern yields the named groups of its whole text.

Outside that class the scan errs: a backslash that is itself escaped hides the group after it
(`escaped_backslash_hides_group`), a class may hold a `(?<` that opens nothing, and a name may use
escapes or letters beyond ASCII.
-/

namespace LogRouter

namespace Identifier

theorem inRanges_eq_false_of_lt {c : Nat} :
    ∀ {rs : List (Nat × Nat)}, (∀ r ∈ rs, c < r.1) → inRanges c rs = false
  | [], _ => rfl
  | (lo, hi) :: rest, h => by
    have hlo : c < lo := h (lo, hi) List.mem_cons_self
    rw [inRanges, inRanges_eq_false_of_lt fun r hr => h r (List.mem_cons_of_mem _ hr), Bool.or_false]
    simp [Nat.not_le.2 hlo]

theorem isStart_of_lt {c : Nat} (hc : c < 0x80) :
    isStart c = ((0x41 ≤ c && c ≤ 0x5A) || (0x61 ≤ c && c ≤ 0x7A)) := by
  -- every range after the two of ASCII letters starts above ASCII
  have hrest : ∀ r ∈ startRanges.drop 2, c < r.1 := by
    have h80 : ∀ r ∈ startRanges.drop 2, 0x80 ≤ r.1 := by decide +kernel
    exact fun r hr => Nat.lt_of_lt_of_le hc (h80 r hr)
  rw [isStart, show startRanges = (0x41, 0x5A) :: (0x61, 0x7A) :: startRanges.drop 2 from rfl]
  simp only [inRanges, inRanges_eq_false_of_lt hrest, Bool.or_false]

theorem isContinue_of_lt {c : Nat} (hc : c < 0x80) :
    isContinue c = (isStart c || ((0x30 ≤ c && c ≤ 0x39) || (0x5F ≤ c && c ≤ 0x5F))) := by
  have hrest : ∀ r ∈ continueRanges.drop 2, c < r.1 := by
    have h80 : ∀ r ∈ continueRanges.drop 2, 0x80 ≤ r.1 := by decide +kernel
    exact fun r hr => Nat.lt_of_lt_of_le hc (h80 r hr)
  rw [isContinue, show continueRanges = (0x30, 0x39) :: (0x5F, 0x5F) :: continueRanges.drop 2 from rfl]
  simp only [inRanges, inRanges_eq_false_of_lt hrest, Bool.or_false]

end Identifier

namespace Pattern

/-! ### The named groups a text opens -/

/-- The named group that opens at the head of a text after `n` captures, and the captures opened
up to its first unit included: a `(` opens a capture unless `?` follows, and `(?<name>` a named
one. -/
def opensAt (n : Nat) : Text → List (Text × Nat) × Nat
  | 0x28 :: 0x3F :: 0x3C :: more =>
    match declaredNameAt more with
    | some name => ([(name, n + 1)], n + 1)
    | none => ([], n)
  | 0x28 :: 0x3F :: _ => ([], n)
  | 0x28 :: _ => ([], n + 1)
  | _ => ([], n)

/-- The named groups a text opens, in order, each with its number, after `n` captures. -/
def groupsFrom : Nat → Text → List (Text × Nat)
  | _, [] => []
  | n, u :: t => (opensAt n (u :: t)).1 ++ groupsFrom (opensAt n (u :: t)).2 t

theorem opensAt_of_ne {n : Nat} {u : UInt16} {t : Text} (h : u ≠ 0x28) : opensAt n (u :: t) = ([], n) := by
  unfold opensAt
  split <;> simp_all

theorem le_opensAt (n : Nat) (t : Text) : n ≤ (opensAt n t).2 := by
  unfold opensAt
  split
  · split <;> simp
  all_goals simp

theorem lt_of_mem_opensAt {n : Nat} {t : Text} {x : Text × Nat} (h : x ∈ (opensAt n t).1) :
    n < x.2 ∧ x.2 ≤ (opensAt n t).2 := by
  unfold opensAt at h ⊢
  split at h
  · split at h
    · simp only [List.mem_singleton] at h
      subst h
      simp_all
    · simp at h
  all_goals simp at h

theorem lt_of_mem_groupsFrom : ∀ {n : Nat} {t : Text} {x : Text × Nat}, x ∈ groupsFrom n t → n < x.2
  | _, [], _, h => by simp [groupsFrom] at h
  | n, u :: t, x, h => by
    rw [groupsFrom, List.mem_append] at h
    rcases h with h | h
    · exact (lt_of_mem_opensAt h).1
    · exact Nat.lt_of_le_of_lt (le_opensAt n (u :: t)) (lt_of_mem_groupsFrom h)

theorem opensAt_fst_of_not {n : Nat} {t : Text} (h : ¬ ∃ more, t = 0x28 :: 0x3F :: 0x3C :: more) :
    (opensAt n t).1 = [] := by
  unfold opensAt
  split
  · exact absurd ⟨_, rfl⟩ h
  all_goals rfl

/-- Without backslashes, the scan for declarations finds the names of the groups the text opens. -/
theorem declarationsFrom_eq_groupsFrom :
    ∀ (prev : Option UInt16) (n : Nat) (t : Text), prev ≠ some 0x5C → (∀ u ∈ t, u ≠ 0x5C) →
      declarationsFrom prev t = (groupsFrom n t).map Prod.fst
  | _, _, [], _, _ => rfl
  | prev, n, u :: t, hprev, ht => by
    have hrest := declarationsFrom_eq_groupsFrom (some u) (opensAt n (u :: t)).2 t
      (by simpa using ht u (by simp)) (fun v hv => ht v (by simp [hv]))
    rw [declarationsFrom.eq_def, groupsFrom, List.map_append]
    simp only
    rw [hrest]
    congr 1
    -- the declaration at the head is the named group opening there
    by_cases hshape : ∃ more, u :: t = 0x28 :: 0x3F :: 0x3C :: more
    · obtain ⟨more, hmore⟩ := hshape
      obtain ⟨rfl, rfl⟩ := List.cons.inj hmore
      have hprev' : (prev == some 0x5C) = false := by simpa using hprev
      simp only [hprev', opensAt, Bool.false_eq_true, if_false]
      cases declaredNameAt more <;> rfl
    · rw [opensAt_fst_of_not hshape]
      split
      · exact absurd ⟨_, rfl⟩ hshape
      · rfl

/-! ### Reading past units that open nothing -/

section Positions

variable {src : Array UInt16}

/-- The named groups the pattern opens from position `i` on, after `n` captures. -/
def groupsAfter (src : Array UInt16) (n i : Nat) : List (Text × Nat) :=
  groupsFrom n (src.toList.drop i)

theorem drop_toList_of_getElem? {i : Nat} {u : UInt16} (h : src[i]? = some u) :
    src.toList.drop i = u :: src.toList.drop (i + 1) := by
  obtain ⟨hi, hu⟩ := Array.getElem?_eq_some_iff.1 h
  rw [List.drop_eq_getElem_cons (by simpa using hi)]
  simp [hu]

theorem groupsAfter_of_none {n i : Nat} (h : src[i]? = none) : groupsAfter src n i = [] := by
  unfold groupsAfter
  rw [List.drop_eq_nil_of_le (by simpa using Array.getElem?_eq_none_iff.1 h)]
  rfl

theorem groupsAfter_of_ne {n i : Nat} {u : UInt16} (h : src[i]? = some u) (hu : u ≠ 0x28) :
    groupsAfter src n i = groupsAfter src n (i + 1) := by
  unfold groupsAfter
  rw [drop_toList_of_getElem? h, groupsFrom, opensAt_of_ne hu]
  rfl

theorem ne_open_of_isDigit {u : UInt16} (h : Text.isDigit u = true) : u ≠ 0x28 := by
  rintro rfl
  exact absurd h (by decide)

theorem groupsAfter_readCount (n : Nat) :
    ∀ fuel i v, groupsAfter src n i = groupsAfter src n (readCount src fuel i v).2
  | 0, _, _ => rfl
  | fuel + 1, i, v => by
    unfold readCount
    split
    · rename_i d hd
      split
      · rw [groupsAfter_of_ne hd (ne_open_of_isDigit ‹_›)]
        exact groupsAfter_readCount n fuel (i + 1) _
      · rfl
    · rfl

theorem groupsAfter_interval {n i lo j : Nat} {hi : Option Nat} (h : interval src i = some (lo, hi, j)) :
    groupsAfter src n (i + 1) = groupsAfter src n j := by
  unfold interval at h
  split at h
  · split at h
    · cases h
    split at h
    rename_i v k hcount
    have hlow : groupsAfter src n (i + 1) = groupsAfter src n (readCount src src.size (i + 1) 0).2 :=
      groupsAfter_readCount n src.size (i + 1) 0
    rw [hcount] at hlow
    rw [hlow]
    -- the count ends at `}`, at `,}` or at `,` and a second count and `}`
    split at h
    · cases h
      exact groupsAfter_of_ne ‹_› (by decide)
    · rename_i hcomma
      rw [groupsAfter_of_ne hcomma (by decide)]
      split at h
      · cases h
        exact groupsAfter_of_ne ‹_› (by decide)
      · split at h
        rename_i w m hcount'
        split at h
        · cases h
          have hhigh : groupsAfter src n (k + 1) = groupsAfter src n (readCount src src.size (k + 1) 0).2 :=
            groupsAfter_readCount n src.size (k + 1) 0
          rw [hcount'] at hhigh
          rw [hhigh, groupsAfter_of_ne (eq_of_beq ‹_›) (by decide)]
        · cases h
    · cases h
  · cases h

theorem groupsAfter_quantifier {n i lo j : Nat} {hi : Option Nat} {greedy : Bool}
    (h : quantifier src i = .ok (some (lo, hi, greedy, j))) :
    groupsAfter src n i = groupsAfter src n j := by
  -- a `?` after the bounds makes the quantifier lazy and is read with it
  have lazy : ∀ {lo' : Nat} {hi' : Option Nat} {k : Nat}, groupsAfter src n i = groupsAfter src n k →
      (if src[k]? == some 0x3F then some (lo', hi', false, k + 1) else some (lo', hi', true, k)) =
        some (lo, hi, greedy, j) → groupsAfter src n i = groupsAfter src n j := by
    intro lo' hi' k hk hq
    split at hq
    · cases hq
      rw [hk, groupsAfter_of_ne (eq_of_beq ‹_›) (by decide)]
    · cases hq
      exact hk
  unfold quantifier at h
  simp only at h
  split at h
  -- `*`, `+` and `?` are one unit
  · injection h with h
    exact lazy (groupsAfter_of_ne ‹_› (by decide)) h
  · injection h with h
    exact lazy (groupsAfter_of_ne ‹_› (by decide)) h
  · injection h with h
    exact lazy (groupsAfter_of_ne ‹_› (by decide)) h
  · split at h
    · split at h
      · cases h
      · injection h with h
        exact lazy ((groupsAfter_of_ne ‹_› (by decide)).trans (groupsAfter_interval ‹_›)) h
    · cases h
  · cases h

/-! ### Names in ASCII -/

theorem isNameStart_of_lt {u : UInt16} (hu : u.toNat < 0x80) : isNameStart u.toNat = isDeclaredStart u := by
  rw [isNameStart, Identifier.isStart_of_lt hu, isDeclaredStart, Text.isAsciiLetter, Bool.eq_iff_iff]
  simp only [Bool.or_eq_true, Bool.and_eq_true, decide_eq_true_eq, ← UInt16.toNat_inj, UInt16.reduceToNat]
  omega

theorem isNamePart_of_lt {u : UInt16} (hu : u.toNat < 0x80) : isNamePart u.toNat = isDeclaredPart u := by
  rw [isNamePart, isNameStart_of_lt hu, Identifier.isContinue_of_lt hu, Identifier.isStart_of_lt hu,
    isDeclaredPart, isDeclaredStart, Text.isAsciiLetter, Text.isDigit, Bool.eq_iff_iff]
  simp only [Bool.or_eq_true, Bool.and_eq_true, decide_eq_true_eq, ← UInt16.toNat_inj, UInt16.reduceToNat]
  omega

/-- A pattern written with ASCII units only, with no backslash and no class. -/
def isPlain (source : Text) : Bool :=
  source.all fun u => u.toNat < 0x80 && u != 0x5C && u != 0x5B

theorem plain_of_getElem? {i : Nat} {u : UInt16} (hsrc : isPlain src.toList = true) (h : src[i]? = some u) :
    u.toNat < 0x80 ∧ u ≠ 0x5C ∧ u ≠ 0x5B := by
  have hmem : u ∈ src.toList := List.mem_of_getElem? (by rw [Array.getElem?_toList]; exact h)
  have hu := List.all_eq_true.1 hsrc u hmem
  simp only [Bool.and_eq_true, decide_eq_true_eq, bne_iff_ne, ne_eq] at hu
  exact ⟨hu.1.1, hu.1.2, hu.2⟩

theorem codePointAt_of_lt {i : Nat} {u : UInt16} (h : src[i]? = some u) (hu : u.toNat < 0x80) :
    codePointAt src i = some (u.toNat, i + 1) := by
  have hhigh : Text.isHigh u = false := by
    simp only [Text.isHigh, Bool.and_eq_false_iff, decide_eq_false_iff_not]
    omega
  unfold codePointAt
  simp only [h]
  split <;> simp [hhigh]

theorem unitsOfCode_toNat {u : UInt16} (hu : u.toNat < 0x80) : unitsOfCode u.toNat = [u] := by
  rw [unitsOfCode, if_pos (by omega)]
  simp

theorem groupsFrom_append_of_forall_ne {n : Nat} {rest : Text} :
    ∀ {w : Text}, (∀ u ∈ w, u ≠ 0x28) → groupsFrom n (w ++ rest) = groupsFrom n rest
  | [], _ => rfl
  | u :: w, h => by
    rw [List.cons_append, groupsFrom, opensAt_of_ne (h u List.mem_cons_self)]
    exact groupsFrom_append_of_forall_ne fun v hv => h v (List.mem_cons_of_mem _ hv)

theorem ne_open_of_isDeclaredPart {u : UInt16} (h : isDeclaredPart u = true) : u ≠ 0x28 := by
  rintro rfl
  exact absurd h (by decide)

/-- In a plain pattern the rest of a name is a run of name units closed by `>`. -/
theorem nameFrom_of_plain (hsrc : isPlain src.toList = true) :
    ∀ fuel i acc name j, nameFrom src fuel i false acc = .ok (name, j) →
      ∃ w, name = acc ++ w ∧ src.toList.drop i = w ++ 0x3E :: src.toList.drop j ∧
        ∀ u ∈ w, isDeclaredPart u = true
  | 0, _, _, _, _, h => by cases h
  | fuel + 1, i, acc, name, j, h => by
    rw [nameFrom] at h
    cases hu : src[i]? with
    | none =>
      simp [codePointAt, hu] at h
    | some u =>
      obtain ⟨hascii, hslash, -⟩ := plain_of_getElem? hsrc hu
      have hslash' : u.toNat ≠ 0x5C := fun h => hslash (UInt16.toNat_inj.1 h)
      simp only [codePointAt_of_lt hu hascii, hslash', decide_false, Bool.false_and, Bool.false_eq_true,
        if_false] at h
      split at h
      · -- `>` ends the name
        rename_i hclose
        cases h
        have hu' : u = 0x3E := UInt16.toNat_inj.1 hclose
        exact ⟨[], by simp, by rw [drop_toList_of_getElem? hu, hu']; rfl, by simp⟩
      · split at h
        · -- a name unit, and the rest of the name after it
          rename_i hpart
          rw [unitsOfCode_toNat hascii] at h
          obtain ⟨w, rfl, hdrop, hw⟩ := nameFrom_of_plain hsrc fuel (i + 1) _ name j h
          refine ⟨u :: w, by simp, by rw [drop_toList_of_getElem? hu, hdrop]; rfl, ?_⟩
          intro v hv
          rcases List.mem_cons.1 hv with rfl | hv
          · rwa [isNamePart_of_lt hascii] at hpart
          · exact hw v hv
        · cases h

/-- In a plain pattern a group name is the name the scan reads at the same place, and reading it
opens nothing. -/
theorem readName_of_plain (hsrc : isPlain src.toList = true) {i j : Nat} {name : Text}
    (h : readName src i = .ok (name, j)) :
    declaredNameAt (src.toList.drop i) = some name ∧ ∀ n, groupsAfter src n i = groupsAfter src n j := by
  unfold readName at h
  rw [nameFrom] at h
  cases hu : src[i]? with
  | none => simp [codePointAt, hu] at h
  | some u =>
    obtain ⟨hascii, hslash, -⟩ := plain_of_getElem? hsrc hu
    have hslash' : u.toNat ≠ 0x5C := fun h => hslash (UInt16.toNat_inj.1 h)
    simp only [codePointAt_of_lt hu hascii, hslash', decide_false, Bool.false_and, Bool.false_eq_true,
      if_false, if_true] at h
    split at h
    · rename_i hstart
      rw [unitsOfCode_toNat hascii, List.nil_append] at h
      obtain ⟨w, rfl, hdrop, hw⟩ := nameFrom_of_plain hsrc _ _ _ _ _ h
      have hstart' : isDeclaredStart u = true := by rwa [isNameStart_of_lt hascii] at hstart
      have hpart : isDeclaredPart u = true := by simp [isDeclaredPart, hstart']
      have htext : src.toList.drop i = (u :: w ++ [0x3E]) ++ src.toList.drop j := by
        rw [drop_toList_of_getElem? hu, hdrop]
        simp
      refine ⟨?_, fun n => ?_⟩
      · -- the scan takes the same run of name units, and finds the `>` after it
        have htake : (u :: (w ++ 0x3E :: src.toList.drop j)).takeWhile isDeclaredPart = u :: w := by
          rw [List.takeWhile_cons_of_pos hpart, List.takeWhile_append_of_pos hw,
            List.takeWhile_cons_of_neg (by decide)]
          simp
        rw [drop_toList_of_getElem? hu, hdrop]
        simp [declaredNameAt, hstart', htake]
      · unfold groupsAfter
        rw [htext, groupsFrom_append_of_forall_ne]
        intro v hv
        simp only [List.cons_append, List.mem_cons, List.mem_append, List.not_mem_nil, or_false] at hv
        rcases hv with rfl | hv | rfl
        · exact ne_open_of_isDeclaredPart hpart
        · exact ne_open_of_isDeclaredPart (hw v hv)
        · decide
    · cases h

/-! ### What the head of a group opens -/

theorem groupsAfter_capture {n i : Nat} (h0 : src[i]? = some 0x28) (h1 : src[i + 1]? ≠ some 0x3F) :
    groupsAfter src n i = groupsAfter src (n + 1) (i + 1) := by
  unfold groupsAfter
  rw [drop_toList_of_getElem? h0, groupsFrom]
  have hopen : opensAt n (0x28 :: src.toList.drop (i + 1)) = ([], n + 1) := by
    cases h : src[i + 1]? with
    | none => rw [List.drop_eq_nil_of_le (by simpa using Array.getElem?_eq_none_iff.1 h)]; rfl
    | some v =>
      have hv : v ≠ 0x3F := fun hv => h1 (hv ▸ h)
      rw [drop_toList_of_getElem? h]
      simp [opensAt, hv]
  rw [hopen]
  rfl

theorem groupsAfter_group {n i : Nat} {u : UInt16} (h0 : src[i]? = some 0x28) (h1 : src[i + 1]? = some 0x3F)
    (h2 : src[i + 2]? = some u) (hu : u ≠ 0x3C) (hu' : u ≠ 0x28) :
    groupsAfter src n i = groupsAfter src n (i + 3) := by
  have h2' : src[i + 1 + 1]? = some u := h2
  unfold groupsAfter
  rw [drop_toList_of_getElem? h0, drop_toList_of_getElem? h1, drop_toList_of_getElem? h2', groupsFrom]
  have hopen : opensAt n (0x28 :: 0x3F :: u :: src.toList.drop (i + 1 + 1 + 1)) = ([], n) := by
    simp [opensAt, hu]
  rw [hopen, groupsFrom, opensAt_of_ne (by decide), groupsFrom, opensAt_of_ne hu']
  rfl

theorem groupsAfter_lookBehind {n i : Nat} {u : UInt16} (h0 : src[i]? = some 0x28)
    (h1 : src[i + 1]? = some 0x3F) (h2 : src[i + 2]? = some 0x3C) (h3 : src[i + 3]? = some u)
    (hu : isDeclaredStart u = false) (hu' : u ≠ 0x28) :
    groupsAfter src n i = groupsAfter src n (i + 4) := by
  have h2' : src[i + 1 + 1]? = some 0x3C := h2
  have h3' : src[i + 1 + 1 + 1]? = some u := h3
  unfold groupsAfter
  rw [drop_toList_of_getElem? h0, drop_toList_of_getElem? h1, drop_toList_of_getElem? h2',
    drop_toList_of_getElem? h3', groupsFrom]
  have hopen : opensAt n (0x28 :: 0x3F :: 0x3C :: u :: src.toList.drop (i + 1 + 1 + 1 + 1)) = ([], n) := by
    simp [opensAt, declaredNameAt, hu]
  rw [hopen, groupsFrom, opensAt_of_ne (by decide), groupsFrom, opensAt_of_ne (by decide), groupsFrom,
    opensAt_of_ne hu']
  rfl

theorem groupsAfter_named (hsrc : isPlain src.toList = true) {n i j : Nat} {name : Text}
    (h0 : src[i]? = some 0x28) (h1 : src[i + 1]? = some 0x3F) (h2 : src[i + 2]? = some 0x3C)
    (hname : readName src (i + 3) = .ok (name, j)) :
    groupsAfter src n i = (name, n + 1) :: groupsAfter src (n + 1) j := by
  obtain ⟨hdecl, hskip⟩ := readName_of_plain hsrc hname
  have h2' : src[i + 1 + 1]? = some 0x3C := h2
  have hdecl' : declaredNameAt (src.toList.drop (i + 1 + 1 + 1)) = some name := hdecl
  rw [← hskip]
  unfold groupsAfter
  rw [drop_toList_of_getElem? h0, drop_toList_of_getElem? h1, drop_toList_of_getElem? h2', groupsFrom]
  have hopen : opensAt n (0x28 :: 0x3F :: 0x3C :: src.toList.drop (i + 1 + 1 + 1)) = ([(name, n + 1)], n + 1) := by
    simp [opensAt, hdecl']
  rw [hopen, groupsFrom, opensAt_of_ne (by decide), groupsFrom, opensAt_of_ne (by decide)]
  rfl

end Positions

/-! ### What reading keeps -/

/-- The named captures closed so far are numbered at most the captures opened, and their names
are distinct. -/
structure Progress.Numbered (p : Progress) : Prop where
  le_opened : ∀ x ∈ p.names, x.2 ≤ p.opened
  nodup : (p.names.map Prod.fst).Nodup

theorem Progress.numbered_init : Progress.Numbered {} :=
  ⟨by simp, by simp⟩

theorem Progress.Numbered.move {p : Progress} (hp : p.Numbered) (pos : Nat) :
    Progress.Numbered { p with pos := pos } :=
  ⟨hp.le_opened, hp.nodup⟩

theorem Progress.Numbered.enter {p : Progress} (hp : p.Numbered) {pos opened : Nat} (h : p.opened ≤ opened) :
    Progress.Numbered { p with pos := pos, opened := opened } :=
  ⟨fun x hx => Nat.le_trans (hp.le_opened x hx) h, hp.nodup⟩

/-- What a reading from `p` that stopped at `q` keeps: the named captures stay numbered; the ones
it added are the named groups the text opens in between, with their numbers; and it stopped at
the end of the pattern or at a `)`. -/
structure ReadsTo (src : Array UInt16) (p q : Progress) : Prop where
  numbered : q.Numbered
  opened_le : p.opened ≤ q.opened
  added : ∃ added, q.names = p.names ++ added ∧
    groupsAfter src p.opened p.pos = added ++ groupsAfter src q.opened q.pos
  stops : src[q.pos]? = none ∨ src[q.pos]? = some 0x29

section Reading

variable {src : Array UInt16} {p q r : Progress}

theorem ReadsTo.refl (hp : p.Numbered) (hstop : src[p.pos]? = none ∨ src[p.pos]? = some 0x29) :
    ReadsTo src p p :=
  ⟨hp, Nat.le_refl _, ⟨[], by simp, by simp⟩, hstop⟩

theorem ReadsTo.skip {j : Nat} (hskip : groupsAfter src p.opened p.pos = groupsAfter src p.opened j)
    (h : ReadsTo src { p with pos := j } r) : ReadsTo src p r := by
  obtain ⟨added, hnames, hgroups⟩ := h.added
  exact ⟨h.numbered, h.opened_le, ⟨added, hnames, hskip.trans hgroups⟩, h.stops⟩

/-- A group that names no capture: its head opens no named group, its body is read up to the `)`
at `q.pos`, and reading goes on after it. -/
theorem ReadsTo.group {opened b : Nat} (hle : p.opened ≤ opened)
    (hhead : groupsAfter src p.opened p.pos = groupsAfter src opened b)
    (hbody : ReadsTo src { p with pos := b, opened := opened } q) (hclose : src[q.pos]? = some 0x29)
    (hrest : ReadsTo src { q with pos := q.pos + 1 } r) : ReadsTo src p r := by
  obtain ⟨inner, hinner, hginner⟩ := hbody.added
  obtain ⟨after, hafter, hgafter⟩ := hrest.added
  refine ⟨hrest.numbered, Nat.le_trans hle (Nat.le_trans hbody.opened_le hrest.opened_le),
    ⟨inner ++ after, ?_, ?_⟩, hrest.stops⟩
  · rw [hafter]
    simp [hinner]
  · calc groupsAfter src p.opened p.pos
        = inner ++ groupsAfter src q.opened q.pos := hhead.trans hginner
      _ = inner ++ groupsAfter src q.opened (q.pos + 1) := by rw [groupsAfter_of_ne hclose (by decide)]
      _ = inner ++ after ++ groupsAfter src r.opened r.pos := by rw [hgafter, List.append_assoc]

/-- Closing a named group inserts its name between the names numbered below it and those above. -/
theorem addName_eq {before after names : List (Text × Nat)} {name : Text} {index : Nat}
    (hbefore : ∀ x ∈ before, x.2 < index) (hafter : ∀ x ∈ after, index < x.2)
    (h : addName (before ++ after) name index = .ok names) :
    names = before ++ (name, index) :: after ∧ name ∉ (before ++ after).map Prod.fst := by
  unfold addName at h
  split at h
  · cases h
  · rename_i htaken
    cases h
    have hlow : (before ++ after).filter (·.2 < index) = before := by
      rw [List.filter_append, List.filter_eq_self.2 (by simpa using hbefore),
        List.filter_eq_nil_iff.2 (by simpa using fun x hx => Nat.le_of_lt (hafter x hx)), List.append_nil]
    have hhigh : (before ++ after).filter (·.2 > index) = after := by
      rw [List.filter_append, List.filter_eq_nil_iff.2 (by simpa using fun x hx => Nat.le_of_lt (hbefore x hx)),
        List.filter_eq_self.2 (by simpa using hafter), List.nil_append]
    refine ⟨by rw [hlow, hhigh]; simp, fun hmem => htaken ?_⟩
    obtain ⟨x, hx, rfl⟩ := List.mem_map.1 hmem
    exact List.any_eq_true.2 ⟨x, hx, by simp⟩

/-- A named group: its head opens a capture of its name, numbered next, the body is read up to
the `)` at `q.pos`, the name goes in among those the body added, and reading goes on after it. -/
theorem ReadsTo.namedGroup {name : Text} {b : Nat} {names : List (Text × Nat)} (hp : p.Numbered)
    (hhead : groupsAfter src p.opened p.pos = (name, p.opened + 1) :: groupsAfter src (p.opened + 1) b)
    (hbody : ReadsTo src { p with pos := b, opened := p.opened + 1 } q) (hclose : src[q.pos]? = some 0x29)
    (hadd : addName q.names name (p.opened + 1) = .ok names)
    (hrest : Progress.Numbered { q with pos := q.pos + 1, names := names } →
      ReadsTo src { q with pos := q.pos + 1, names := names } r) :
    ReadsTo src p r := by
  obtain ⟨inner, hinner, hginner⟩ := hbody.added
  -- the names before the group are numbered below it, those of its body above it
  have hbefore : ∀ x ∈ p.names, x.2 < p.opened + 1 := fun x hx => Nat.lt_succ_of_le (hp.le_opened x hx)
  have habove : ∀ x ∈ inner, p.opened + 1 < x.2 := by
    intro x hx
    have hmem : x ∈ groupsAfter src (p.opened + 1) b := by
      rw [hginner]
      exact List.mem_append_left _ hx
    exact lt_of_mem_groupsFrom hmem
  have hqnames : q.names = p.names ++ inner := hinner
  rw [hqnames] at hadd
  obtain ⟨rfl, hfresh⟩ := addName_eq hbefore habove hadd
  have hnum : Progress.Numbered { q with pos := q.pos + 1, names := p.names ++ (name, p.opened + 1) :: inner } := by
    constructor
    · intro x hx
      simp only [List.mem_append, List.mem_cons] at hx
      rcases hx with hx | rfl | hx
      · exact Nat.le_trans (hp.le_opened x hx) (Nat.le_trans (Nat.le_succ _) hbody.opened_le)
      · exact hbody.opened_le
      · exact hbody.numbered.le_opened x (by rw [hqnames]; simp [hx])
    · have hnodup := hbody.numbered.nodup
      rw [hqnames] at hnodup
      simp only [List.map_append, List.map_cons] at hnodup hfresh ⊢
      exact List.perm_middle.nodup_iff.2 (List.nodup_cons.2 ⟨hfresh, hnodup⟩)
  have hr := hrest hnum
  obtain ⟨after, hafter, hgafter⟩ := hr.added
  refine ⟨hr.numbered, Nat.le_trans (Nat.le_succ _) (Nat.le_trans hbody.opened_le hr.opened_le),
    ⟨(name, p.opened + 1) :: inner ++ after, ?_, ?_⟩, hr.stops⟩
  · rw [hafter]
    simp
  · calc groupsAfter src p.opened p.pos
        = (name, p.opened + 1) :: (inner ++ groupsAfter src q.opened q.pos) := by rw [hhead, hginner]
      _ = (name, p.opened + 1) :: (inner ++ groupsAfter src q.opened (q.pos + 1)) := by
        rw [groupsAfter_of_ne hclose (by decide)]
      _ = (name, p.opened + 1) :: inner ++ after ++ groupsAfter src r.opened r.pos := by
        rw [hgafter]
        simp

/-- Every reading with this fuel keeps `ReadsTo`. -/
def ReadsAll (src : Array UInt16) (o : Outline) (fuel : Nat) : Prop :=
  ∀ enclosing alts terms (p : Progress) node r,
    readTerms src o fuel enclosing alts terms p = .ok (node, r) → p.Numbered → ReadsTo src p r

theorem ReadsAll.quantified {o : Outline} {fuel : Nat} (IH : ReadsAll src o fuel)
    {enclosing : List (Nat × Option Text)} {alts terms : List Node} {node : Node} {lo j : Nat}
    {hi : Option Nat} {greedy : Bool} (hp : p.Numbered)
    (hquant : quantifier src p.pos = .ok (some (lo, hi, greedy, j)))
    (h : readTerms src o fuel enclosing alts terms { p with pos := j } = .ok (node, r)) :
    ReadsTo src p r :=
  ReadsTo.skip (groupsAfter_quantifier hquant) (IH _ _ _ _ _ _ h (hp.move _))

/-- A group keeps `ReadsTo` when its body and what follows it do. -/
theorem readsTo_group (hsrc : isPlain src.toList = true) {o : Outline} {fuel : Nat}
    (IH : ReadsAll src o fuel) {enclosing : List (Nat × Option Text)} {alts terms : List Node}
    {node : Node} (hopen : src[p.pos]? = some 0x28)
    (h : readTerms src o (fuel + 1) enclosing alts terms p = .ok (node, r)) (hp : p.Numbered) :
    ReadsTo src p r := by
  rw [readTerms, hopen] at h
  simp only at h
  split at h
  · cases h
  rename_i capture look bodyStart hkind
  -- what the head of the group opens: a named capture, an unnamed one, or none
  have hhead : groupsAfter src p.opened p.pos =
      ((capture.bind id).map fun name => (name, p.opened + 1)).toList ++
        groupsAfter src (if capture.isSome then p.opened + 1 else p.opened) bodyStart := by
    split at hkind
    · rename_i hq
      have hq' : src[p.pos + 1]? = some 0x3F := eq_of_beq hq
      split at hkind
      · cases hkind
        simpa using groupsAfter_group hopen hq' ‹_› (by decide) (by decide)
      · cases hkind
        simpa using groupsAfter_group hopen hq' ‹_› (by decide) (by decide)
      · cases hkind
        simpa using groupsAfter_group hopen hq' ‹_› (by decide) (by decide)
      · rename_i hlt
        split at hkind
        · cases hkind
          simpa using groupsAfter_lookBehind hopen hq' hlt ‹_› (by decide) (by decide)
        · cases hkind
          simpa using groupsAfter_lookBehind hopen hq' hlt ‹_› (by decide) (by decide)
        · cases hname : readName src (p.pos + 3) with
          | error e =>
            rw [hname] at hkind
            cases hkind
          | ok res =>
            obtain ⟨name, j⟩ := res
            rw [hname] at hkind
            cases hkind
            simpa using groupsAfter_named hsrc hopen hq' hlt hname
      · cases hkind
    · rename_i hq
      cases hkind
      simpa using groupsAfter_capture hopen fun h => hq (by simp [h])
  -- the body, up to the `)` that closes it
  split at h
  · cases h
  rename_i body q hbody
  have hq := IH _ _ _ _ _ _ hbody (hp.enter (by split <;> omega))
  split at h
  · cases h
  rename_i hne
  have hclose : src[q.pos]? = some 0x29 := by simpa using hne
  -- what follows the group: a quantifier perhaps, then the next term
  split at h
  · -- a named capture
    split at h
    · cases h
    rename_i names hadd
    refine ReadsTo.namedGroup hp (by simpa using hhead) hq hclose hadd fun hnum => ?_
    split at h
    · cases h
    · exact IH _ _ _ _ _ _ h hnum
    · exact IH.quantified hnum ‹_› h
  · -- an unnamed capture
    refine ReadsTo.group (Nat.le_succ _) (by simpa using hhead) hq hclose ?_
    split at h
    · cases h
    · exact IH _ _ _ _ _ _ h (hq.numbered.move _)
    · exact IH.quantified (hq.numbered.move _) ‹_› h
  · -- a look-ahead or a look-behind; only the first may be quantified
    refine ReadsTo.group (Nat.le_refl _) (by simpa using hhead) hq hclose ?_
    rename_i ahead negated
    cases ahead <;> simp only [Bool.false_eq_true, if_false, if_true] at h
    · split at h
      · cases h
      · exact IH _ _ _ _ _ _ h (hq.numbered.move _)
      · cases h
    · split at h
      · cases h
      · exact IH _ _ _ _ _ _ h (hq.numbered.move _)
      · exact IH.quantified (hq.numbered.move _) ‹_› h
  · -- a group that captures nothing
    refine ReadsTo.group (Nat.le_refl _) (by simpa using hhead) hq hclose ?_
    split at h
    · cases h
    · exact IH _ _ _ _ _ _ h (hq.numbered.move _)
    · exact IH.quantified (hq.numbered.move _) ‹_› h

/-- Reading a plain pattern keeps `ReadsTo`, with any fuel, from any position and whatever was
read before.  By recursion on the fuel: each unit is read past, each group by `readsTo_group`. -/
theorem readsAll (hsrc : isPlain src.toList = true) (o : Outline) : ∀ fuel, ReadsAll src o fuel
  | 0 => fun _ _ _ _ _ _ h _ => by
    rw [readTerms] at h
    cases h
  | fuel + 1 => by
    intro enclosing alts terms p node r h hp
    have IH := readsAll hsrc o fuel
    by_cases hopen : src[p.pos]? = some 0x28
    · exact readsTo_group hsrc IH hopen h hp
    rw [readTerms] at h
    split at h
    · -- the end of the pattern
      cases h
      exact ReadsTo.refl hp (.inl ‹_›)
    · -- a `)`, left to the group it closes
      cases h
      exact ReadsTo.refl hp (.inr ‹_›)
    · -- `|`
      exact ReadsTo.skip (groupsAfter_of_ne ‹_› (by decide)) (IH _ _ _ _ _ _ h (hp.move _))
    · cases h
    · cases h
    · cases h
    · -- `^`
      exact ReadsTo.skip (groupsAfter_of_ne ‹_› (by decide)) (IH _ _ _ _ _ _ h (hp.move _))
    · -- `$`
      exact ReadsTo.skip (groupsAfter_of_ne ‹_› (by decide)) (IH _ _ _ _ _ _ h (hp.move _))
    · -- `.`
      have hunit := groupsAfter_of_ne (n := p.opened) ‹_› (by decide)
      simp only at h
      split at h
      · cases h
      · exact ReadsTo.skip hunit (IH _ _ _ _ _ _ h (hp.move _))
      · exact ReadsTo.skip hunit (IH.quantified (hp.move _) ‹_› h)
    · -- a backslash: a plain pattern has none
      exact absurd rfl (plain_of_getElem? hsrc ‹_›).2.1
    · -- a class: a plain pattern has none
      exact absurd rfl (plain_of_getElem? hsrc ‹_›).2.2
    · -- `{`, which opens no quantifier here
      have hunit := groupsAfter_of_ne (n := p.opened) ‹_› (by decide)
      split at h
      · cases h
      simp only at h
      split at h
      · cases h
      · exact ReadsTo.skip hunit (IH _ _ _ _ _ _ h (hp.move _))
      · exact ReadsTo.skip hunit (IH.quantified (hp.move _) ‹_› h)
    · exact absurd ‹_› hopen
    · -- any other unit stands for itself
      rename_i u _ _ _ _ _ _ _ _ _ _ _ _ hu
      have hunit := groupsAfter_of_ne (n := p.opened) hu fun h => hopen (h ▸ hu)
      simp only at h
      split at h
      · cases h
      · exact ReadsTo.skip hunit (IH _ _ _ _ _ _ h (hp.move _))
      · exact ReadsTo.skip hunit (IH.quantified (hp.move _) ‹_› h)

end Reading

/-! ### The whole pattern -/

/-- The named groups a text opens are listed by increasing number. -/
theorem pairwise_groupsFrom : ∀ (n : Nat) (t : Text), (groupsFrom n t).Pairwise (fun a b => a.2 < b.2)
  | _, [] => List.Pairwise.nil
  | n, u :: t => by
    rw [groupsFrom, List.pairwise_append]
    refine ⟨?_, pairwise_groupsFrom _ t, fun a ha b hb =>
      Nat.lt_of_le_of_lt (lt_of_mem_opensAt ha).2 (lt_of_mem_groupsFrom hb)⟩
    -- at most one group opens at a unit
    unfold opensAt
    split
    · split <;> simp
    all_goals simp

theorem firstOfEach_of_nodup {names : List Text} (h : names.Nodup) : firstOfEach names = names := by
  have step : ∀ (rest acc : List Text), (acc ++ rest).Nodup →
      rest.foldl (fun acc n => if acc.contains n then acc else acc ++ [n]) acc = acc ++ rest := by
    intro rest
    induction rest with
    | nil => simp
    | cons n rest ih =>
      intro acc hnodup
      have hfresh : acc.contains n = false := by
        rw [Bool.eq_false_iff, Ne, List.contains_iff_mem]
        exact fun hmem => (List.nodup_append.1 hnodup).2.2 n hmem n List.mem_cons_self rfl
      rw [List.foldl_cons, hfresh, if_neg Bool.false_ne_true, ih (acc ++ [n]) (by simpa using hnodup)]
      simp
  unfold firstOfEach
  rw [step names [] (by simpa using h), List.nil_append]

/-- The named captures of a plain pattern that reads, as the reader records them, are the named
groups its text opens, and their names are distinct. -/
theorem names_of_parse {source : Text} {pat : Pattern} (hsrc : isPlain source = true)
    (h : parse source = .ok pat) :
    pat.names = groupsFrom 0 source ∧ (pat.names.map Prod.fst).Nodup := by
  unfold parse at h
  simp only at h
  split at h
  · cases h
  rename_i root p hread
  split at h
  · cases h
  rename_i hclosed
  split at h
  · cases h
    have hplain : isPlain source.toArray.toList = true := by simpa using hsrc
    have hreads := readsAll hplain _ _ _ _ _ _ _ _ hread Progress.numbered_init
    obtain ⟨added, hnames, hgroups⟩ := hreads.added
    -- a whole reading stops at the end, since a `)` there is refused
    have hend : source.toArray[p.pos]? = none :=
      hreads.stops.resolve_right fun h => hclosed (by simp [h])
    rw [groupsAfter_of_none hend, List.append_nil] at hgroups
    refine ⟨?_, hreads.numbered.nodup⟩
    simp only [List.nil_append] at hnames
    rw [hnames, ← hgroups]
    simp [groupsAfter]
  · cases h

/-- **The names a plain pattern declares are those of its named groups.**  For a pattern that
reads and is written in ASCII with no backslash and no class, the scan of its text lists exactly
the names of its named captures, each once, in the order of their numbers, which is the order in
which their parentheses open.  So every capture a pattern matcher makes is among the names it
announces, and a rule may use a placeholder for each of its named groups. -/
theorem declaredNames_of_plain {source : Text} {pat : Pattern} (hsrc : isPlain source = true)
    (hparse : parse source = .ok pat) :
    declaredNames source = pat.names.map Prod.fst ∧ pat.names.Pairwise (fun a b => a.2 < b.2) ∧
      (∀ (f : FieldName) (r : LogRecord) (caps : Captures),
        (Matcher.pattern f source pat).evaluate r = some caps →
          ∀ name ∈ caps.map Prod.fst, name ∈ (Matcher.pattern f source pat).captureNames) ∧
      ∀ (f : FieldName), ∀ name ∈ pat.names.map Prod.fst, name ∈ Rule.allowedNames (.pattern f source pat) := by
  obtain ⟨hnames, hnodup⟩ := names_of_parse hsrc hparse
  have hslash : ∀ u ∈ source, u ≠ 0x5C := by
    intro u hu
    have hplain := List.all_eq_true.1 hsrc u hu
    simp only [Bool.and_eq_true, decide_eq_true_eq, bne_iff_ne, ne_eq] at hplain
    exact hplain.1.2
  have hdecl : declaredNames source = pat.names.map Prod.fst := by
    rw [declaredNames, declarationsFrom_eq_groupsFrom none 0 source (by simp) hslash, ← hnames,
      firstOfEach_of_nodup hnodup]
  refine ⟨hdecl, hnames ▸ pairwise_groupsFrom 0 source, ?_, fun f name hname => ?_⟩
  · intro f r caps hcaps name hname
    rw [Matcher.captureNames, hdecl]
    -- a capture is a named group that took part in the match
    cases htext : r.field f with
    | none => simp [Matcher.evaluate, htext] at hcaps
    | some text =>
      cases hfound : pat.search text with
      | none => simp [Matcher.evaluate, htext, hfound] at hcaps
      | some m =>
        rw [Matcher.evaluate_pattern htext hfound] at hcaps
        cases hcaps
        obtain ⟨⟨name', v⟩, hmem, rfl⟩ := List.mem_map.1 hname
        obtain ⟨i, -, -, hi, -⟩ := mem_namedSpans.1 (List.mem_filter.1 hmem).1
        exact List.mem_map.2 ⟨(name', i), hi, rfl⟩
  · rw [Rule.allowedNames, List.mem_append, Matcher.captureNames, hdecl]
    exact .inr hname

/-- Two named groups around an unnamed one are declared, numbered 1 and 3. -/
theorem two_named_groups_declared :
    ∃ pat, isPlain (Text.ofString "(?<a>x)(y)(?<b>z)") = true ∧
      parse (Text.ofString "(?<a>x)(y)(?<b>z)") = .ok pat ∧
      declaredNames (Text.ofString "(?<a>x)(y)(?<b>z)") = pat.names.map Prod.fst ∧
      pat.names = [(Text.ofString "a", 1), (Text.ofString "b", 3)] :=
  ⟨_, by decide, rfl, (declaredNames_of_plain (by decide) rfl).1, rfl⟩

/-- An escaped backslash before a group hides it from the scan: the text `\\(?<a>x)` matches a
backslash and then captures `a`, yet declares no name, so the matcher captures a name it does not
announce. -/
theorem escaped_backslash_hides_group :
    ∃ pat, parse (Text.ofString "\\\\(?<a>x)") = .ok pat ∧
      pat.names.map Prod.fst = [Text.ofString "a"] ∧
      declaredNames (Text.ofString "\\\\(?<a>x)") = [] ∧
      (Matcher.pattern .msg (Text.ofString "\\\\(?<a>x)") pat).evaluate
          { raw := [], fields := { msg := some (Text.ofString "\\x") } } =
        some [(Text.ofString "a", Text.ofString "x")] := by
  refine ⟨_, rfl, ?_⟩
  decide

end Pattern

end LogRouter
