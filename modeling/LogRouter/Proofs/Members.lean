import LogRouter.Json.Value
import LogRouter.Proofs.Decimal

/-!
Where setting a key puts it, and the order an object enumerates its keys in.

An object enumerates its keys in one order: the array-index keys first, the smaller index first,
then the other keys in the order they were added (`Members.Ordered`).  An index key is the decimal
text of its index (`Text.eq_ofNat_of_arrayIndex?`), so two index keys have two indices and the
order among them is strict.

Setting a key the object holds leaves it in place, a new index key goes among the index keys by
its index, and a new other key goes last; so setting keeps the keys distinct and in that order
(`Members.Ordered.set`), and a new key that every key present comes before goes last
(`Members.set_of_precedes`).
-/

namespace LogRouter

/-! ### An index key is the decimal text of its index -/

namespace Text

theorem unitsOfChar_digitChar {u : UInt16} (hu : isDigit u = true) :
    unitsOfChar (Nat.digitChar (digitValue u)) = [u] := by
  have hu' : 48 ≤ u.toNat ∧ u.toNat ≤ 57 := by simpa [isDigit] using hu
  have hd : digitValue u < 10 := by simp only [digitValue]; omega
  have hc : (Nat.digitChar (digitValue u)).toNat = u.toNat := by
    rw [Nat.toNat_digitChar_of_lt_ten hd, digitValue]
    omega
  have hunit : u.toNat.toUInt16 = u := UInt16.toNat_inj.1 (by simp)
  simp [unitsOfChar, hc, hunit]
  omega

theorem ofNat_digitValue {u : UInt16} (hu : isDigit u = true) : ofNat (digitValue u) = [u] := by
  have hd : digitValue u < 10 := by simp [isDigit, digitValue] at hu ⊢; omega
  rw [ofNat, ofString, Nat.toList_repr, Nat.toDigits_of_lt_base hd, List.flatMap_singleton,
    unitsOfChar_digitChar hu]

theorem ofNat_append_digit {n : Nat} (hn : 0 < n) {u : UInt16} (hu : isDigit u = true) :
    ofNat n ++ [u] = ofNat (n * 10 + digitValue u) := by
  have hd : digitValue u < 10 := by simp [isDigit, digitValue] at hu ⊢; omega
  rw [ofNat, ofNat, ofString, ofString, Nat.toList_repr, Nat.toList_repr, Nat.mul_comm,
    ← Nat.toDigits_append_toDigits (by decide) hn hd, Nat.toDigits_of_lt_base hd,
    List.flatMap_append, List.flatMap_singleton, unitsOfChar_digitChar hu]

theorem ofNat_append_digits {ds : Text} (hds : ∀ u ∈ ds, isDigit u = true) {n : Nat} (hn : 0 < n) :
    ofNat n ++ ds = ofNat (ds.foldl (fun acc u => acc * 10 + digitValue u) n) := by
  induction ds generalizing n with
  | nil => simp
  | cons u rest ih =>
    have hu := hds u (List.mem_cons_self ..)
    rw [List.foldl_cons, ← ih (fun x hx => hds x (List.mem_cons_of_mem u hx)) (by omega),
      ← ofNat_append_digit hn hu, List.append_assoc, List.singleton_append]

/-- An array-index key is the decimal text of its index. -/
theorem eq_ofNat_of_arrayIndex? {k : Text} {i : Nat} (h : arrayIndex? k = some i) :
    k = ofNat i := by
  unfold arrayIndex? at h
  split at h
  · cases h
  · cases h
    decide
  · cases h
  · rename_i hnil _ hzero
    dsimp only at h
    split at h
    · rename_i hdigits
      split at h
      · cases h
        obtain ⟨u, rest, rfl⟩ := List.exists_cons_of_ne_nil fun h => hnil h
        have hall : ∀ x ∈ u :: rest, isDigit x = true := List.all_eq_true.1 hdigits.1
        have hu := hall u (List.mem_cons_self ..)
        -- the leading digit is not zero, so it is the decimal text of a positive number
        have hpos : 0 < digitValue u := by
          have hne : u ≠ 0x30 := fun he => hzero rest (by rw [he])
          have hne' : u.toNat ≠ 48 := fun he => hne (UInt16.toNat_inj.1 (by simpa using he))
          simp [isDigit, digitValue] at hu ⊢
          omega
        rw [List.foldl_cons, Nat.zero_mul, Nat.zero_add,
          ← ofNat_append_digits (fun x hx => hall x (List.mem_cons_of_mem u hx)) hpos,
          ofNat_digitValue hu, List.singleton_append]
      · cases h
    · cases h

theorem arrayIndex?_inj {a b : Text} {i : Nat} (ha : arrayIndex? a = some i)
    (hb : arrayIndex? b = some i) : a = b :=
  (eq_ofNat_of_arrayIndex? ha).trans (eq_ofNat_of_arrayIndex? hb).symm

end Text

/-! ### The order of an object's keys -/

namespace Members

/-- Whether a key is an array index. -/
def isIndexKey (k : Text) : Bool := (Text.arrayIndex? k).isSome

/-- Whether an object may enumerate key `a` before key `b`: index keys before the others, the
smaller index first. -/
def precedes (a b : Text) : Bool :=
  match Text.arrayIndex? a with
  | some i => goesBefore i b
  | none => !isIndexKey b

/-- A member list as an object holds it: each key once, in enumeration order. -/
structure Ordered (ms : Members) : Prop where
  nodup : ms.keys.Nodup
  sorted : ms.keys.Pairwise fun a b => precedes a b = true

@[simp] theorem keys_nil : keys [] = [] := rfl

@[simp] theorem keys_cons (m : Text × Json) (ms : Members) : keys (m :: ms) = m.1 :: keys ms :=
  rfl

@[simp] theorem keys_append (ms ms' : Members) : keys (ms ++ ms') = keys ms ++ keys ms' :=
  List.map_append

theorem contains_eq_true_iff {ms : Members} {k : Text} : ms.contains k = true ↔ k ∈ ms.keys := by
  simp [contains, keys]

theorem contains_eq_false_iff {ms : Members} {k : Text} : ms.contains k = false ↔ k ∉ ms.keys := by
  simp [← contains_eq_true_iff]

theorem precedes_trans {a b c : Text} (hab : precedes a b = true) (hbc : precedes b c = true) :
    precedes a c = true := by
  unfold precedes goesBefore isIndexKey at *
  cases ha : Text.arrayIndex? a <;> cases hb : Text.arrayIndex? b <;>
    cases hc : Text.arrayIndex? c <;> simp_all
  omega

theorem precedes_of_not_index {a b : Text} (hb : Text.arrayIndex? b = none) :
    precedes a b = true := by
  unfold precedes goesBefore isIndexKey
  cases Text.arrayIndex? a <;> simp [hb]

/-- A key that a new index key is not put in front of, and that has another index, comes before
it: it is an index key with a smaller index. -/
theorem precedes_of_goesBefore_eq_false {a k : Text} {i : Nat} (hk : Text.arrayIndex? k = some i)
    (hne : Text.arrayIndex? a ≠ some i) (h : goesBefore i a = false) : precedes a k = true := by
  unfold goesBefore at h
  unfold precedes goesBefore
  cases hj : Text.arrayIndex? a with
  | none => simp [hj] at h
  | some j =>
    have hji : j ≠ i := fun he => hne (by rw [hj, he])
    simp only [hj, decide_eq_false_iff_not] at h
    simp only [hk, decide_eq_true_eq]
    omega

variable {ms : Members} {k : Text} {v : Json}

/-! ### Where setting a key puts it -/

theorem keys_replace (k : Text) (v : Json) (ms : Members) : (replace k v ms).keys = ms.keys := by
  induction ms with
  | nil => rfl
  | cons m rest ih =>
    unfold replace
    split
    · rename_i hk
      simp [beq_iff_eq.1 hk]
    · simp [ih]

/-- A new index key cuts the keys in two and goes between the halves. -/
theorem keys_insertIndex (i : Nat) (k : Text) (v : Json) (ms : Members) :
    ∃ pre post, ms.keys = pre ++ post ∧ (insertIndex i k v ms).keys = pre ++ k :: post := by
  induction ms with
  | nil => exact ⟨[], [], rfl, rfl⟩
  | cons m rest ih =>
    unfold insertIndex
    split
    · exact ⟨[], m.1 :: keys rest, rfl, rfl⟩
    · obtain ⟨pre, post, hrest, hins⟩ := ih
      exact ⟨m.1 :: pre, post, by simp [hrest], by simp [hins]⟩

/-- A new index key goes in front of the first key that does not come before it. -/
theorem sorted_insertIndex {i : Nat} (hk : Text.arrayIndex? k = some i)
    (hnew : ∀ x ∈ ms.keys, Text.arrayIndex? x ≠ some i)
    (h : ms.keys.Pairwise fun a b => precedes a b = true) :
    (insertIndex i k v ms).keys.Pairwise fun a b => precedes a b = true := by
  have hfirst : ∀ x, precedes k x = goesBefore i x := by simp [precedes, hk]
  induction ms with
  | nil => simp [insertIndex]
  | cons m rest ih =>
    rw [keys_cons, List.pairwise_cons] at h
    unfold insertIndex
    split
    · -- the new key opens the list: it comes before `m`, hence before all after `m`
      rename_i hbefore
      rw [keys_cons, keys_cons, List.pairwise_cons]
      refine ⟨?_, List.pairwise_cons.2 h⟩
      intro x hx
      rcases List.mem_cons.1 hx with rfl | hx
      · rw [hfirst]
        exact hbefore
      · exact precedes_trans (by rw [hfirst]; exact hbefore) (h.1 x hx)
    · -- `m` is an index key with a smaller index, so it comes before the new key too
      rename_i hafter
      have hm : precedes m.1 k = true :=
        precedes_of_goesBefore_eq_false hk (hnew m.1 (by simp)) (by simpa using hafter)
      obtain ⟨pre, post, hrest, hins⟩ := keys_insertIndex i k v rest
      rw [keys_cons, List.pairwise_cons]
      refine ⟨?_, ih (fun x hx => hnew x (by simp [hx])) h.2⟩
      intro x hx
      rw [hins, List.mem_append, List.mem_cons] at hx
      rcases hx with hx | rfl | hx
      · exact h.1 x (by rw [hrest]; exact List.mem_append_left _ hx)
      · exact hm
      · exact h.1 x (by rw [hrest]; exact List.mem_append_right _ hx)

theorem keys_set_of_mem (h : k ∈ ms.keys) : (ms.set k v).keys = ms.keys := by
  simp [set, contains_eq_true_iff.2 h, keys_replace]

theorem keys_set_of_index {i : Nat} (h : k ∉ ms.keys) (hk : Text.arrayIndex? k = some i) :
    (ms.set k v).keys = (insertIndex i k v ms).keys := by
  simp [set, contains_eq_false_iff.2 h, hk]

theorem keys_set_of_other (h : k ∉ ms.keys) (hk : Text.arrayIndex? k = none) :
    (ms.set k v).keys = ms.keys ++ [k] := by
  simp [set, contains_eq_false_iff.2 h, hk]

theorem mem_keys_set {x : Text} : x ∈ (ms.set k v).keys ↔ x ∈ ms.keys ∨ x = k := by
  by_cases h : k ∈ ms.keys
  · rw [keys_set_of_mem h]
    constructor
    · exact Or.inl
    · rintro (hx | rfl)
      · exact hx
      · exact h
  · cases hk : Text.arrayIndex? k with
    | none => simp [keys_set_of_other h hk]
    | some i =>
      obtain ⟨pre, post, hkeys, hins⟩ := keys_insertIndex i k v ms
      rw [keys_set_of_index h hk, hins, List.perm_middle.mem_iff, List.mem_cons, ← hkeys, or_comm]

theorem keys_set_of_not_index (hk : isIndexKey k = false) :
    (ms.set k v).keys = ms.keys ++ [k].filter fun x => !ms.contains x := by
  have hnone : Text.arrayIndex? k = none := by simpa [isIndexKey] using hk
  by_cases h : k ∈ ms.keys
  · simp [keys_set_of_mem h, contains_eq_true_iff.2 h]
  · simp [keys_set_of_other h hnone, contains_eq_false_iff.2 h]

theorem otherKeys_set :
    (ms.set k v).keys.filter (fun x => !isIndexKey x) =
      (ms.keys ++ [k].filter fun x => !ms.contains x).filter (fun x => !isIndexKey x) := by
  cases hk : isIndexKey k with
  | false => rw [keys_set_of_not_index hk]
  | true =>
    -- a new index key is left out of the keys that are no index, wherever it goes
    have hfilter : ([k].filter fun x => !ms.contains x).filter (fun x => !isIndexKey x) = [] := by
      simp [hk]
    rw [List.filter_append, hfilter, List.append_nil]
    by_cases h : k ∈ ms.keys
    · rw [keys_set_of_mem h]
    · obtain ⟨i, hi⟩ := Option.isSome_iff_exists.1 (show (Text.arrayIndex? k).isSome = true from hk)
      obtain ⟨pre, post, hkeys, hins⟩ := keys_insertIndex i k v ms
      rw [keys_set_of_index h hi, hins, hkeys, List.filter_append, List.filter_cons, hk]
      simp [List.filter_append]

theorem nodup_keys_set (h : ms.keys.Nodup) : (ms.set k v).keys.Nodup := by
  by_cases hmem : k ∈ ms.keys
  · rw [keys_set_of_mem hmem]
    exact h
  · cases hk : Text.arrayIndex? k with
    | none =>
      rw [keys_set_of_other hmem hk]
      exact List.nodup_append.2 ⟨h, by simp,
        fun x hx y hy => by rw [List.mem_singleton] at hy; exact hy ▸ fun he => hmem (he ▸ hx)⟩
    | some i =>
      obtain ⟨pre, post, hkeys, hins⟩ := keys_insertIndex i k v ms
      rw [keys_set_of_index hmem hk, hins]
      exact List.perm_middle.nodup_iff.2 (List.nodup_cons.2 ⟨by rwa [← hkeys], hkeys ▸ h⟩)

theorem mem_replace {p : Text × Json} (h : p ∈ replace k v ms) : p ∈ ms ∨ p = (k, v) := by
  induction ms with
  | nil => cases h
  | cons m rest ih =>
    unfold replace at h
    split at h
    · rcases List.mem_cons.1 h with rfl | h
      · exact .inr rfl
      · exact .inl (List.mem_cons_of_mem m h)
    · rcases List.mem_cons.1 h with rfl | h
      · exact .inl (List.mem_cons_self ..)
      · exact (ih h).imp_left (List.mem_cons_of_mem m)

theorem mem_insertIndex {i : Nat} {p : Text × Json} (h : p ∈ insertIndex i k v ms) :
    p ∈ ms ∨ p = (k, v) := by
  induction ms with
  | nil =>
    rw [insertIndex, List.mem_singleton] at h
    exact .inr h
  | cons m rest ih =>
    unfold insertIndex at h
    split at h
    · rcases List.mem_cons.1 h with rfl | h
      · exact .inr rfl
      · exact .inl h
    · rcases List.mem_cons.1 h with rfl | h
      · exact .inl (List.mem_cons_self ..)
      · exact (ih h).imp_left (List.mem_cons_of_mem m)

theorem mem_set {p : Text × Json} (h : p ∈ ms.set k v) : p ∈ ms ∨ p = (k, v) := by
  unfold set at h
  split at h
  · exact mem_replace h
  · split at h
    · exact mem_insertIndex h
    · rcases List.mem_append.1 h with h | h
      · exact .inl h
      · exact .inr (List.mem_singleton.1 h)

theorem insertIndex_of_forall {i : Nat} (h : ∀ m ∈ ms, goesBefore i m.1 = false) :
    insertIndex i k v ms = ms ++ [(k, v)] := by
  induction ms with
  | nil => rfl
  | cons m rest ih =>
    rw [insertIndex, if_neg (by simp [h m (List.mem_cons_self ..)]),
      ih fun x hx => h x (List.mem_cons_of_mem m hx)]
    rfl

/-- A new key that every key present comes before is set last. -/
theorem set_of_precedes (hk : k ∉ ms.keys) (h : ∀ x ∈ ms.keys, precedes x k = true) :
    ms.set k v = ms ++ [(k, v)] := by
  unfold set
  rw [if_neg (by simpa [contains_eq_false_iff] using hk)]
  split
  · -- only index keys with smaller indices come before an index key
    rename_i i hi
    refine insertIndex_of_forall fun m hm => ?_
    have hpre := h m.1 (by simpa [keys] using List.mem_map_of_mem (f := Prod.fst) hm)
    unfold precedes goesBefore at hpre
    unfold goesBefore
    cases hj : Text.arrayIndex? m.1 with
    | none => simp [hj, isIndexKey, hi] at hpre
    | some j =>
      simp only [hj, hi, decide_eq_true_eq] at hpre
      simp only [decide_eq_false_iff_not]
      omega
  · rfl

/-- Setting a key keeps a member list in enumeration order. -/
theorem Ordered.set (h : ms.Ordered) : (ms.set k v).Ordered := by
  refine ⟨nodup_keys_set h.nodup, ?_⟩
  by_cases hmem : k ∈ ms.keys
  · rw [keys_set_of_mem hmem]
    exact h.sorted
  · cases hk : Text.arrayIndex? k with
    | none =>
      rw [keys_set_of_other hmem hk]
      refine List.pairwise_append.2 ⟨h.sorted, by simp, fun x _ y hy => ?_⟩
      rw [List.mem_singleton] at hy
      subst hy
      exact precedes_of_not_index hk
    | some i =>
      -- no key present has the new key's index, since that index names the new key alone
      have hnew : ∀ x ∈ ms.keys, Text.arrayIndex? x ≠ some i := fun x hx hxi =>
        hmem (Text.arrayIndex?_inj hxi hk ▸ hx)
      rw [keys_set_of_index hmem hk]
      exact sorted_insertIndex hk hnew h.sorted

end Members

end LogRouter
