import LogRouter.Json.Read

/-!
Reading JSON text with the fuel `parse?` gives.

Every reader gives back the text after what it read, a suffix of the text it was given: the
readers of strings and numbers, piece by piece, and the readers of values, arrays and objects
(`readValue_suffix`, `readItems_suffix`, `readMembers_suffix`).

A reader spends one unit of fuel and passes the rest to readers that start at least one unit
further on, or that stop at least one unit before it does: the bracket, brace, comma or colon in
between.  So a read that gives a result with some fuel gives the same result with any fuel above
the number of units it consumed (`readValue_of_lt`), and `parse?`, which gives `2 × length + 2`,
reads a text as one value exactly when some fuel does (`parse?_eq_some_iff`).
-/

namespace LogRouter

namespace Json

/-! ### What a reader leaves is a suffix of what it was given -/

theorem readString_suffix {acc t s r : Text} (h : readString acc t = some (s, r)) : r <:+ t := by
  fun_induction readString acc t generalizing s r with
  | case1 =>
    cases h
    exact List.suffix_cons _ _
  | case2 =>
    rename_i ih
    exact (ih h).trans ⟨[0x5C, 0x75, _, _, _, _], rfl⟩
  | case4 =>
    rename_i ih
    exact (ih h).trans ⟨[0x5C, _], rfl⟩
  | case7 =>
    rename_i ih
    exact (ih h).trans (List.suffix_cons _ _)
  | case3 | case5 | case6 | case8 => cases h

theorem readDigits_suffix (t : Text) : (Text.readDigits t).2.2 <:+ t := by
  induction t with
  | nil => exact List.suffix_refl _
  | cons u rest ih =>
    unfold Text.readDigits
    split
    · exact ih.trans (List.suffix_cons u rest)
    · exact List.suffix_refl _

theorem readDigits_suffix_of_eq {t r : Text} {v n : Nat} (h : Text.readDigits t = (v, n, r)) :
    r <:+ t := by
  have hsuffix := readDigits_suffix t
  rw [h] at hsuffix
  exact hsuffix

theorem readSign_suffix (plus : Option UInt16) : (t : Text) → (readSign plus t).2 <:+ t
  | [] => List.suffix_refl _
  | u :: r => by
    rw [readSign]
    split
    · exact List.suffix_cons _ _
    · split
      · exact List.suffix_cons _ _
      · exact List.suffix_refl _

theorem readIntPart_suffix {t r : Text} {v : Nat} (h : readIntPart t = some (v, r)) : r <:+ t := by
  unfold readIntPart at h
  split at h
  · cases h
    exact List.suffix_cons _ _
  · split at h
    · split at h
      · cases h
      · rename_i hdigits
        cases h
        exact readDigits_suffix_of_eq hdigits
    · cases h
  · cases h

theorem readFraction_suffix {t r : Text} {v n : Nat} (h : readFraction t = some (v, n, r)) :
    r <:+ t := by
  unfold readFraction at h
  split at h
  · split at h
    · cases h
    · rename_i hdigits
      cases h
      exact (readDigits_suffix_of_eq hdigits).trans (List.suffix_cons _ _)
  · cases h
    exact List.suffix_refl _

theorem readExponent_suffix {t r : Text} {e : Int} (h : readExponent t = some (e, r)) : r <:+ t := by
  unfold readExponent at h
  split at h
  · rename_i u rest
    split at h
    · generalize hsign : readSign (some 0x2B) rest = sign at h
      obtain ⟨neg, digits⟩ := sign
      have hdigits : digits <:+ rest := by
        have := readSign_suffix (some 0x2B) rest
        rw [hsign] at this
        exact this
      dsimp only at h
      split at h
      · cases h
      · rename_i hread
        cases h
        exact (readDigits_suffix_of_eq hread).trans (hdigits.trans (List.suffix_cons _ _))
    · cases h
      exact List.suffix_refl _
  · cases h
    exact List.suffix_refl _

theorem readNumber_suffix {t r : Text} {v : Json} (h : readNumber t = some (v, r)) : r <:+ t := by
  unfold readNumber at h
  generalize hsign : readSign none t = sign at h
  obtain ⟨neg, body⟩ := sign
  simp only [Option.bind_eq_bind, Option.bind_eq_some_iff] at h
  obtain ⟨⟨iv, r₁⟩, hint, ⟨fv, nf, r₂⟩, hfrac, ⟨ex, r₃⟩, hexp, hres⟩ := h
  cases hres
  have hbody : body <:+ t := by
    have hsuffix := readSign_suffix none t
    rwa [hsign] at hsuffix
  -- each part reads on from where the one before it stopped
  exact (readExponent_suffix hexp).trans
    ((readFraction_suffix hfrac).trans ((readIntPart_suffix hint).trans hbody))

theorem skipSpace_suffix (t : Text) : skipSpace t <:+ t := List.dropWhile_suffix _

theorem suffix_of_skipSpace (p : Text) {t r : Text} (h : skipSpace t = p ++ r) : r <:+ t :=
  (List.suffix_append p r).trans (h ▸ skipSpace_suffix t)

mutual

theorem readValue_suffix : (n : Nat) → {t r : Text} → {v : Json} →
    readValue n t = some (v, r) → r <:+ t
  | 0, _, _, _, h => by cases h
  | n + 1, t, r, v, h => by
    rw [readValue] at h
    split at h
    · exact (readMembers_suffix n h).trans (suffix_of_skipSpace [0x7B] ‹_›)
    · exact (readItems_suffix n h).trans (suffix_of_skipSpace [0x5B] ‹_›)
    · obtain ⟨⟨s, r'⟩, hs, hv⟩ := Option.map_eq_some_iff.1 h
      cases hv
      exact (readString_suffix hs).trans (suffix_of_skipSpace [0x22] ‹_›)
    · cases h
      exact suffix_of_skipSpace [0x74, 0x72, 0x75, 0x65] ‹_›
    · cases h
      exact suffix_of_skipSpace [0x66, 0x61, 0x6C, 0x73, 0x65] ‹_›
    · cases h
      exact suffix_of_skipSpace [0x6E, 0x75, 0x6C, 0x6C] ‹_›
    · exact (readNumber_suffix h).trans (skipSpace_suffix t)

theorem readItems_suffix : (n : Nat) → {acc : List Json} → {first : Bool} → {t r : Text} →
    {v : Json} → readItems n acc first t = some (v, r) → r <:+ t
  | 0, _, _, _, _, _, h => by cases h
  | n + 1, acc, first, t, r, v, h => by
    rw [readItems] at h
    split at h
    · split at h
      · cases h
        exact suffix_of_skipSpace [0x5D] ‹_›
      · cases h
    · split at h
      · cases h
      · rename_i v₁ r₁ hv
        have h₁ : r₁ <:+ t := (readValue_suffix n hv).trans (skipSpace_suffix t)
        split at h
        · exact (readItems_suffix n h).trans ((suffix_of_skipSpace [0x2C] ‹_›).trans h₁)
        · cases h
          exact (suffix_of_skipSpace [0x5D] ‹_›).trans h₁
        · cases h

theorem readMembers_suffix : (n : Nat) → {acc : Members} → {first : Bool} → {t r : Text} →
    {v : Json} → readMembers n acc first t = some (v, r) → r <:+ t
  | 0, _, _, _, _, _, h => by cases h
  | n + 1, acc, first, t, r, v, h => by
    rw [readMembers] at h
    split at h
    · split at h
      · cases h
        exact suffix_of_skipSpace [0x7D] ‹_›
      · cases h
    · rename_i hs
      split at h
      · cases h
      · rename_i k r₁ hk
        have h₁ : r₁ <:+ t := (readString_suffix hk).trans (suffix_of_skipSpace [0x22] hs)
        split at h
        · rename_i hcolon
          have h₂ := (suffix_of_skipSpace [0x3A] hcolon).trans h₁
          split at h
          · cases h
          · rename_i v₁ r₃ hv
            have h₃ : r₃ <:+ t := (readValue_suffix n hv).trans h₂
            split at h
            · exact (readMembers_suffix n h).trans ((suffix_of_skipSpace [0x2C] ‹_›).trans h₃)
            · cases h
              exact (suffix_of_skipSpace [0x7D] ‹_›).trans h₃
            · cases h
        · cases h
    · cases h

end

/-! ### Fuel above the units consumed changes nothing -/

mutual

/-- A value read with some fuel is read the same with any fuel above the number of units it
consumes; so are the elements of an array and the members of an object. -/
theorem readValue_of_lt : (n : Nat) → {t r : Text} → {v : Json} → readValue n t = some (v, r) →
    ∀ m, t.length - r.length < m → readValue m t = some (v, r)
  | 0, _, _, _, h, _, _ => by cases h
  | n + 1, t, r, v, h, 0, hm => by omega
  | n + 1, t, r, v, h, m + 1, hm => by
    have hst : (skipSpace t).length ≤ t.length := (skipSpace_suffix t).length_le
    rw [readValue] at h ⊢
    split at h
    · rename_i r' hs
      have hr := (readMembers_suffix n h).length_le
      rw [hs, List.length_cons] at hst
      exact readMembers_of_lt n h m (by omega)
    · rename_i r' hs
      have hr := (readItems_suffix n h).length_le
      rw [hs, List.length_cons] at hst
      exact readItems_of_lt n h m (by omega)
    all_goals exact h

theorem readItems_of_lt : (n : Nat) → {acc : List Json} → {first : Bool} → {t r : Text} →
    {v : Json} → readItems n acc first t = some (v, r) →
    ∀ m, t.length - r.length < m → readItems m acc first t = some (v, r)
  | 0, _, _, _, _, _, h, _, _ => by cases h
  | n + 1, _, _, _, _, _, _, 0, hm => by omega
  | n + 1, acc, first, t, r, v, h, m + 1, hm => by
    have hst : (skipSpace t).length ≤ t.length := (skipSpace_suffix t).length_le
    rw [readItems] at h ⊢
    split at h
    · exact h
    · split at h
      · cases h
      · rename_i v₁ r₁ hv
        have hr₁ := (readValue_suffix n hv).length_le
        have hs₁ := (skipSpace_suffix r₁).length_le
        split at h
        · rename_i r' hcomma
          have hr := (readItems_suffix n h).length_le
          rw [hcomma, List.length_cons] at hs₁
          rw [readValue_of_lt n hv m (by omega)]
          dsimp only
          rw [hcomma]
          exact readItems_of_lt n h m (by omega)
        · rename_i r' hclose
          rw [hclose, List.length_cons] at hs₁
          cases h
          rw [readValue_of_lt n hv m (by omega)]
          dsimp only
          rw [hclose]
          rfl
        · cases h

theorem readMembers_of_lt : (n : Nat) → {acc : Members} → {first : Bool} → {t r : Text} →
    {v : Json} → readMembers n acc first t = some (v, r) →
    ∀ m, t.length - r.length < m → readMembers m acc first t = some (v, r)
  | 0, _, _, _, _, _, h, _, _ => by cases h
  | n + 1, _, _, _, _, _, _, 0, hm => by omega
  | n + 1, acc, first, t, r, v, h, m + 1, hm => by
    have hst : (skipSpace t).length ≤ t.length := (skipSpace_suffix t).length_le
    rw [readMembers] at h ⊢
    split at h
    · exact h
    · rename_i r₀ hquote
      rw [hquote, List.length_cons] at hst
      split at h
      · cases h
      · rename_i k r₁ hk
        have hr₁ := (readString_suffix hk).length_le
        have hs₂ := (skipSpace_suffix r₁).length_le
        split at h
        · rename_i r₂ hcolon
          rw [hcolon, List.length_cons] at hs₂
          split at h
          · cases h
          · rename_i v₁ r₃ hv
            have hr₃ := (readValue_suffix n hv).length_le
            have hs₃ := (skipSpace_suffix r₃).length_le
            split at h
            · rename_i r' hcomma
              have hr := (readMembers_suffix n h).length_le
              rw [hcomma, List.length_cons] at hs₃
              rw [readValue_of_lt n hv m (by omega)]
              dsimp only
              rw [hcomma]
              exact readMembers_of_lt n h m (by omega)
            · rename_i r' hclose
              rw [hclose, List.length_cons] at hs₃
              cases h
              rw [readValue_of_lt n hv m (by omega)]
              dsimp only
              rw [hclose]
              rfl
            · cases h
        · cases h
    · cases h

end

/-- **The fuel of `parse?` is enough.**  A text parses to `v` exactly when, with some fuel, a value
`v` is read from it and only blank space follows. -/
theorem parse?_eq_some_iff {t : Text} {v : Json} :
    parse? t = some v ↔ ∃ n r, readValue n t = some (v, r) ∧ (skipSpace r).isEmpty = true := by
  constructor
  · intro h
    unfold parse? at h
    split at h
    · rename_i v' r hread
      split at h
      · cases h
        exact ⟨_, r, hread, ‹_›⟩
      · cases h
    · cases h
  · rintro ⟨n, r, hread, hend⟩
    -- a value consumes at most the whole text, far less than the fuel `parse?` gives
    have hfuel := readValue_of_lt n hread (2 * t.length + 2) (by omega)
    unfold parse?
    rw [hfuel]
    simp [hend]

end Json

end LogRouter
