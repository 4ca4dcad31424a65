import LogRouter.Proofs.Merge
import LogRouter.Proofs.Members

/-!
The order of an object's keys after a merge.

Merging an object patch into an object target keeps the order an object enumerates its keys in
(`Members.Ordered`), since every key is set into the target in turn (`Members.Ordered.set`).  So
the keys of the merge are those of both objects, ordered as an object orders them; the other keys
come in the target's order and then the patch's new ones in the patch's order; and under each key
of the patch is the patch's value merged into the target's, so the same holds at every nested
object the merge unifies (`Json.merge_key_order`).

The target's keys in its order followed by the patch's new keys in the patch's order is the order
of the merge when the patch adds no index key; a new index key is listed before every other key
of the target instead (`Json.new_index_key_enumerated_first`).
-/

namespace LogRouter

/-! ### The keys of a merge -/

namespace Json

variable {t p : Members}

/-- Merging into a member list in enumeration order keeps it so. -/
theorem ordered_mergeMembers (ht : t.Ordered) (p : Members) : (mergeMembers t p).Ordered := by
  induction p generalizing t with
  | nil => exact ht
  | cons m rest ih =>
    obtain ⟨k, v⟩ := m
    rw [mergeMembers_cons]
    exact ih ht.set

theorem mem_keys_mergeMembers {x : Text} : x ∈ (mergeMembers t p).keys ↔ x ∈ t.keys ∨ x ∈ p.keys := by
  induction p generalizing t with
  | nil => simp [mergeMembers]
  | cons m rest ih =>
    obtain ⟨k, v⟩ := m
    rw [mergeMembers_cons, ih, Members.mem_keys_set, Members.keys_cons, List.mem_cons, or_assoc]

theorem filter_new_set {k : Text} {w : Json} {rest : Members} (hk : k ∉ rest.keys) :
    rest.keys.filter (fun x => !(t.set k w).contains x) =
      rest.keys.filter fun x => !t.contains x := by
  refine List.filter_congr fun x hx => ?_
  have hne : x ≠ k := fun he => hk (he ▸ hx)
  have hiff : (t.set k w).contains x = t.contains x := by
    rw [Bool.eq_iff_iff, Members.contains_eq_true_iff, Members.contains_eq_true_iff,
      Members.mem_keys_set]
    simp [hne]
  rw [hiff]

/-- The keys of a merge that are no index: the target's in its order, then the patch's new ones in
the patch's order. -/
theorem otherKeys_mergeMembers (hp : p.keys.Nodup) :
    (mergeMembers t p).keys.filter (fun k => !Members.isIndexKey k) =
      (t.keys ++ p.keys.filter fun k => !t.contains k).filter (fun k => !Members.isIndexKey k) := by
  induction p generalizing t with
  | nil => simp [mergeMembers]
  | cons m rest ih =>
    obtain ⟨k, v⟩ := m
    rw [Members.keys_cons, List.nodup_cons] at hp
    rw [mergeMembers_cons, ih hp.2, List.filter_append, Members.otherKeys_set, filter_new_set hp.1,
      Members.keys_cons]
    cases hk : t.contains k <;> cases hi : Members.isIndexKey k <;>
      simp [List.filter_append, hk, hi]

/-- A patch that adds no index key leaves the target's keys in place and adds its new keys after
them, in its order. -/
theorem keys_mergeMembers_of_no_new_index (hp : p.keys.Nodup)
    (hnew : ∀ k ∈ p.keys, t.contains k = false → Members.isIndexKey k = false) :
    (mergeMembers t p).keys = t.keys ++ p.keys.filter fun k => !t.contains k := by
  induction p generalizing t with
  | nil => simp [mergeMembers]
  | cons m rest ih =>
    obtain ⟨k, v⟩ := m
    rw [Members.keys_cons, List.nodup_cons] at hp
    by_cases hmem : k ∈ t.keys
    · -- the first key is the target's: it stays in place
      have hset : (t.set k (merge ((t.get? k).getD .null) v)).keys = t.keys :=
        Members.keys_set_of_mem hmem
      have hsame : ∀ x, (t.set k (merge ((t.get? k).getD .null) v)).contains x = t.contains x :=
        fun x => by
          rw [Bool.eq_iff_iff, Members.contains_eq_true_iff, Members.contains_eq_true_iff, hset]
      rw [mergeMembers_cons, ih hp.2 (fun x hx hnot => hnew x (by simp [hx]) (hsame x ▸ hnot)),
        hset, filter_new_set hp.1, Members.keys_cons]
      simp [Members.contains_eq_true_iff.2 hmem]
    · -- the first key is new, and no index: it goes last
      have hidx := hnew k (by simp) (Members.contains_eq_false_iff.2 hmem)
      rw [mergeMembers_cons, ih hp.2 ?_, Members.keys_set_of_not_index hidx, filter_new_set hp.1,
        Members.keys_cons]
      · simp [Members.contains_eq_false_iff.2 hmem]
      · intro x hx hnot
        refine hnew x (by simp [hx]) ?_
        rw [Members.contains_eq_false_iff, Members.mem_keys_set, not_or] at hnot
        exact Members.contains_eq_false_iff.2 hnot.1

/-- **The keys of a merge are ordered as an object orders them.**  For every two objects, member
lists in enumeration order with each key once, the merge of the patch into the target is again
such an object.  Its keys are those of both: the index keys go first, the smaller first, and the
other keys follow in the target's order and then, for the patch's new ones, in the patch's order.
Under each key of the patch is the patch's value merged into the target's, so the same holds at
every nested object the merge unifies.  When the patch adds no index key, the keys are the
target's in its order followed by the patch's new ones in its order. -/
theorem merge_key_order {t p : Members} (ht : t.Ordered) (hp : p.Ordered) :
    (mergeMembers t p).Ordered ∧
    (∀ k, k ∈ (mergeMembers t p).keys ↔ k ∈ t.keys ∨ k ∈ p.keys) ∧
    (mergeMembers t p).keys.filter (fun k => !Members.isIndexKey k) =
      (t.keys ++ p.keys.filter fun k => !t.contains k).filter (fun k => !Members.isIndexKey k) ∧
    (∀ k v, (k, v) ∈ p → (mergeMembers t p).get? k = some (merge ((t.get? k).getD .null) v)) ∧
    ((∀ k ∈ p.keys, t.contains k = false → Members.isIndexKey k = false) →
      (mergeMembers t p).keys = t.keys ++ p.keys.filter fun k => !t.contains k) :=
  ⟨ordered_mergeMembers ht p, fun _ => mem_keys_mergeMembers, otherKeys_mergeMembers hp.nodup,
    fun _ _ hm => get?_mergeMembers_of_mem hp.nodup hm, keys_mergeMembers_of_no_new_index hp.nodup⟩

/-- Merging `{"c": …, "a": …}` into `{"b": …, "a": …}` keeps `b` and `a` in place and adds `c`
after them. -/
theorem target_keys_then_new_keys :
    Members.Ordered [(Text.ofString "b", Json.null), (Text.ofString "a", Json.null)] ∧
    Members.Ordered [(Text.ofString "c", Json.null), (Text.ofString "a", Json.null)] ∧
    (mergeMembers [(Text.ofString "b", .null), (Text.ofString "a", .null)]
        [(Text.ofString "c", .null), (Text.ofString "a", .null)]).keys =
      ["b", "a", "c"].map Text.ofString := by
  have ht : Members.Ordered [(Text.ofString "b", Json.null), (Text.ofString "a", Json.null)] :=
    ⟨by decide, by decide⟩
  have hp : Members.Ordered [(Text.ofString "c", Json.null), (Text.ofString "a", Json.null)] :=
    ⟨by decide, by decide⟩
  exact ⟨ht, hp, ((merge_key_order ht hp).2.2.2.2 (by decide)).trans (by decide)⟩

/-- Merging `{"0": "y"}` into `{"b": "x"}` lists the new index key `0` first, not after `b`. -/
theorem new_index_key_enumerated_first :
    Members.Ordered [(Text.ofString "b", Json.ofString "x")] ∧
    Members.Ordered [(Text.ofString "0", Json.ofString "y")] ∧
    (mergeMembers [(Text.ofString "b", Json.ofString "x")]
        [(Text.ofString "0", Json.ofString "y")]).keys = [Text.ofString "0", Text.ofString "b"] ∧
    (mergeMembers [(Text.ofString "b", Json.ofString "x")]
        [(Text.ofString "0", Json.ofString "y")]).keys ≠
      Members.keys [(Text.ofString "b", Json.ofString "x")] ++
        (Members.keys [(Text.ofString "0", Json.ofString "y")]).filter
          fun k => !Members.contains [(Text.ofString "b", Json.ofString "x")] k :=
  ⟨⟨by decide, by decide⟩, ⟨by decide, by decide⟩, by decide, by decide⟩

end Json

end LogRouter
