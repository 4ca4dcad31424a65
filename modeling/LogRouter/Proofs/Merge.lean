import LogRouter.Proofs.ActionRun

/-!
Merging the same patch twice.

A deep merge sets each member of an object patch under its key, merged with what the target holds
there, and replaces the target by any other patch.  After one merge the target holds every key of
the patch, each under a value that merging the patch's value into again leaves alone.  So a second
merge only rewrites members in place with the values they already hold, and changes nothing, key
order included (`Json.merge_merge_of_keysUnique`).

This needs the patch to be a JSON value: each of its objects lists a key once
(`Json.keysUnique`).  A member list with a repeated key is no object, and merged into itself its
first entry takes the value of the last.

A merge action merges the expansion of its fragment into the record's structured payload.  The
expansion builds each object by setting its members in turn, so it lists each key once whatever
the fragment (`Json.keysUnique_expand`); it reads only the record's fields and the clock, which a
merge leaves as they are; and the payload one merge leaves is the base of the next (an empty
object for `null`, which only a `null` patch leaves).  So under a clock that always reads the
same, running the action a second time leaves the record as the first run left it.
-/

namespace LogRouter

/-! ### Reading and setting members -/

namespace Members

variable {ms : Members} {k k' : Text} {v w : Json}

theorem contains_of_get? (h : ms.get? k = some v) : ms.contains k = true := by
  induction ms with
  | nil => simp [get?] at h
  | cons m rest ih =>
    obtain ⟨k₀, v₀⟩ := m
    by_cases hk : k = k₀
    · simp [contains, hk]
    · have hne : (k == k₀) = false := beq_false_of_ne hk
      simp only [get?, List.lookup_cons, hne] at h
      simpa [contains] using Or.inr (by simpa [contains] using ih h)

theorem get?_replace_self (h : ms.contains k = true) : (replace k v ms).get? k = some v := by
  induction ms with
  | nil => simp [contains] at h
  | cons m rest ih =>
    obtain ⟨k₀, v₀⟩ := m
    by_cases hk : k₀ = k
    · simp [replace, get?, hk]
    · have hrest : Members.contains rest k = true := by
        simpa [contains, hk] using h
      have hne : (k == k₀) = false := beq_false_of_ne (Ne.symm hk)
      simpa [replace, get?, List.lookup_cons, hk, hne] using ih hrest

theorem get?_replace_of_ne (h : k' ≠ k) : (replace k v ms).get? k' = ms.get? k' := by
  induction ms with
  | nil => rfl
  | cons m rest ih =>
    obtain ⟨k₀, v₀⟩ := m
    have hne : (k' == k) = false := beq_false_of_ne h
    by_cases hk : k₀ = k
    · subst hk
      simp [replace, get?, List.lookup_cons, hne]
    · by_cases hk' : k' = k₀
      · subst hk'
        simp [replace, get?, hk]
      · simpa [replace, get?, List.lookup_cons, hk, beq_false_of_ne hk'] using ih

theorem get?_insertIndex_self {i : Nat} (h : ms.contains k = false) :
    (insertIndex i k v ms).get? k = some v := by
  induction ms with
  | nil => simp [insertIndex, get?]
  | cons m rest ih =>
    obtain ⟨k₀, v₀⟩ := m
    have hk : k ≠ k₀ := fun hk => by simp [contains, hk] at h
    have hrest : Members.contains rest k = false := by
      simp only [contains, List.any_cons, Bool.or_eq_false_iff] at h ⊢
      exact h.2
    unfold insertIndex
    split
    · simp [get?]
    · simpa [get?, List.lookup_cons, beq_false_of_ne hk] using ih hrest

theorem get?_insertIndex_of_ne {i : Nat} (h : k' ≠ k) :
    (insertIndex i k v ms).get? k' = ms.get? k' := by
  have hne : (k' == k) = false := beq_false_of_ne h
  induction ms with
  | nil => simp [insertIndex, get?, List.lookup_cons, hne]
  | cons m rest ih =>
    unfold insertIndex
    split
    · simp [get?, List.lookup_cons, hne]
    · obtain ⟨k₀, v₀⟩ := m
      by_cases hk : k' = k₀
      · subst hk
        simp [get?]
      · simpa [get?, List.lookup_cons, beq_false_of_ne hk] using ih

theorem get?_append_self (h : ms.contains k = false) : (ms ++ [(k, v)]).get? k = some v := by
  induction ms with
  | nil => simp [get?]
  | cons m rest ih =>
    obtain ⟨k₀, v₀⟩ := m
    have hk : k ≠ k₀ := fun hk => by simp [contains, hk] at h
    have hrest : Members.contains rest k = false := by
      simp only [contains, List.any_cons, Bool.or_eq_false_iff] at h ⊢
      exact h.2
    simpa [get?, List.lookup_cons, beq_false_of_ne hk] using ih hrest

theorem get?_append_of_ne (h : k' ≠ k) : (ms ++ [(k, v)]).get? k' = ms.get? k' := by
  simp [get?, List.lookup_append, List.lookup_cons, beq_false_of_ne h]

@[simp] theorem get?_set_self : (ms.set k v).get? k = some v := by
  unfold set
  split
  · exact get?_replace_self ‹_›
  · have h : ms.contains k = false := by simpa using ‹¬ms.contains k = true›
    split
    · exact get?_insertIndex_self h
    · exact get?_append_self h

theorem get?_set_of_ne (h : k' ≠ k) : (ms.set k v).get? k' = ms.get? k' := by
  unfold set
  split
  · exact get?_replace_of_ne h
  · split
    · exact get?_insertIndex_of_ne h
    · exact get?_append_of_ne h

theorem replace_of_get? (h : ms.get? k = some v) : replace k v ms = ms := by
  induction ms with
  | nil => simp [get?] at h
  | cons m rest ih =>
    obtain ⟨k₀, v₀⟩ := m
    by_cases hk : k₀ = k
    · subst hk
      simp only [get?, List.lookup_cons_self, Option.some.injEq] at h
      simp [replace, h]
    · have hne : (k == k₀) = false := beq_false_of_ne (Ne.symm hk)
      simp only [get?, List.lookup_cons, hne] at h
      simp [replace, hk, ih h]

theorem set_of_get? (h : ms.get? k = some v) : ms.set k v = ms := by
  simp [set, contains_of_get? h, replace_of_get? h]

theorem get?_of_mem (hd : (ms.map (·.1)).Nodup) (h : (k, v) ∈ ms) : ms.get? k = some v := by
  induction ms with
  | nil => simp at h
  | cons m rest ih =>
    obtain ⟨k₀, v₀⟩ := m
    simp only [List.map_cons, List.nodup_cons, List.mem_map] at hd
    rcases List.mem_cons.1 h with hm | hm
    · obtain ⟨rfl, rfl⟩ := Prod.mk.inj hm
      simp [get?]
    · have hk : k ≠ k₀ := by
        rintro rfl
        exact hd.1 ⟨(k, v), hm, rfl⟩
      simpa [get?, List.lookup_cons, beq_false_of_ne hk] using ih hd.2 hm

end Members

/-! ### One merge -/

namespace Json

mutual

/-- Whether every object in a value lists each key once, as the objects of JSON values do. -/
def keysUnique : Json → Bool
  | .arr items => itemsKeysUnique items
  | .obj ms => decide (ms.map (·.1)).Nodup && membersKeysUnique ms
  | _ => true

/-- Whether every element of an array has unique keys. -/
def itemsKeysUnique : List Json → Bool
  | [] => true
  | x :: rest => x.keysUnique && itemsKeysUnique rest

/-- Whether every member value has unique keys. -/
def membersKeysUnique : List (Text × Json) → Bool
  | [] => true
  | (_, v) :: rest => v.keysUnique && membersKeysUnique rest

end

theorem merge_of_not_isObject {t p : Json} (hp : p.isObject = false) : merge t p = p := by
  cases t <;> cases p <;> simp_all [merge, isObject]

theorem merge_of_target_not_isObject {t p : Json} (ht : t.isObject = false) : merge t p = p := by
  cases t <;> cases p <;> simp_all [merge, isObject]

@[simp] theorem null_merge (p : Json) : merge .null p = p := by
  cases p <;> rfl

theorem merge_merge_of_not_isObject {p : Json} (hp : p.isObject = false) (t : Json) :
    merge (merge t p) p = merge t p := by
  rw [merge_of_not_isObject hp, merge_of_not_isObject hp]

@[simp] theorem merge_obj_obj (t p : Members) : merge (.obj t) (.obj p) = .obj (mergeMembers t p) := by
  simp [merge]

theorem merge_eq_null_iff {t p : Json} : merge t p = .null ↔ p = .null := by
  cases t <;> cases p <;> simp [merge]

/-- One member of the patch: its value merged into the target's value under its key (a missing
value merges as `null`, which any patch replaces), set under the key. -/
theorem mergeMembers_cons (t : Members) (k : Text) (v : Json) (rest : Members) :
    mergeMembers t ((k, v) :: rest) =
      mergeMembers (t.set k (merge ((t.get? k).getD .null) v)) rest := by
  rw [mergeMembers]
  cases t.get? k <;> simp

theorem get?_mergeMembers_of_not_mem {t p : Members} {k : Text} (h : k ∉ p.map (·.1)) :
    (mergeMembers t p).get? k = t.get? k := by
  induction p generalizing t with
  | nil => simp [mergeMembers]
  | cons m rest ih =>
    obtain ⟨k₀, v₀⟩ := m
    simp only [List.map_cons, List.mem_cons, not_or] at h
    rw [mergeMembers_cons, ih h.2, Members.get?_set_of_ne h.1]

/-- Under a key of a patch that lists each key once, the merge holds the patch's value merged into
the target's. -/
theorem get?_mergeMembers_of_mem {t p : Members} {k : Text} {v : Json}
    (hd : (p.map (·.1)).Nodup) (hm : (k, v) ∈ p) :
    (mergeMembers t p).get? k = some (merge ((t.get? k).getD .null) v) := by
  induction p generalizing t with
  | nil => simp at hm
  | cons m rest ih =>
    obtain ⟨k₀, v₀⟩ := m
    simp only [List.map_cons, List.nodup_cons, List.mem_map] at hd
    rw [mergeMembers_cons]
    rcases List.mem_cons.1 hm with hhead | hrest
    · obtain ⟨rfl, rfl⟩ := Prod.mk.inj hhead
      have hout : k ∉ rest.map (·.1) := fun h => hd.1 (by simpa using h)
      rw [get?_mergeMembers_of_not_mem hout, Members.get?_set_self]
    · have hk : k ≠ k₀ := by
        rintro rfl
        exact hd.1 ⟨(k, v), hrest, rfl⟩
      rw [ih hd.2 hrest, Members.get?_set_of_ne hk]

/-- A merge whose every member finds, under its key, a value that merging the member into leaves
alone changes nothing. -/
theorem mergeMembers_of_absorbs {r p : Members}
    (h : ∀ m ∈ p, ∃ w, r.get? m.1 = some w ∧ merge w m.2 = w) : mergeMembers r p = r := by
  induction p with
  | nil => simp [mergeMembers]
  | cons m rest ih =>
    obtain ⟨k, v⟩ := m
    obtain ⟨w, hw, hmerge⟩ := h (k, v) (List.mem_cons_self ..)
    rw [mergeMembers_cons, hw, Option.getD_some, hmerge, Members.set_of_get? hw]
    exact ih fun m hm => h m (List.mem_cons_of_mem _ hm)

/-! ### Merging twice -/

mutual

/-- Merging a patch with unique keys a second time changes nothing. -/
theorem merge_merge_of_keysUnique : (p : Json) → p.keysUnique = true →
    ∀ t : Json, merge (merge t p) p = merge t p
  | .obj ps, hp, t => by
    simp only [keysUnique, Bool.and_eq_true, decide_eq_true_eq] at hp
    obtain ⟨hd, hvals⟩ := hp
    have hmember := members_merge_merge_of_keysUnique ps hvals
    obtain ⟨ts, rfl⟩ | ht : (∃ ts, t = .obj ts) ∨ t.isObject = false := by
      cases t <;> simp [isObject]
    · -- after one merge, each key of the patch holds its value merged into the target's
      simp only [merge_obj_obj]
      rw [mergeMembers_of_absorbs fun m hm => ⟨_, get?_mergeMembers_of_mem hd hm,
        hmember m hm _⟩]
    · -- the patch itself is the result: each key holds the patch's own value
      rw [merge_of_target_not_isObject ht, merge_obj_obj]
      refine congrArg obj (mergeMembers_of_absorbs fun m hm => ⟨m.2, Members.get?_of_mem hd hm, ?_⟩)
      simpa using hmember m hm .null
  | .null, _, t | .bool _, _, t | .num _, _, t | .str _, _, t | .arr _, _, t =>
    merge_merge_of_not_isObject rfl t

theorem members_merge_merge_of_keysUnique : (ps : Members) → membersKeysUnique ps = true →
    ∀ m ∈ ps, ∀ t : Json, merge (merge t m.2) m.2 = merge t m.2
  | [], _, _, hm, _ => by simp at hm
  | (k, v) :: rest, h, m, hm, t => by
    simp only [membersKeysUnique, Bool.and_eq_true] at h
    rcases List.mem_cons.1 hm with rfl | hm
    · exact merge_merge_of_keysUnique v h.1 t
    · exact members_merge_merge_of_keysUnique rest h.2 m hm t

end

/-! ### Expanding a fragment -/

theorem membersKeysUnique_iff {ms : List (Text × Json)} :
    membersKeysUnique ms = true ↔ ∀ p ∈ ms, p.2.keysUnique = true := by
  induction ms with
  | nil => simp [membersKeysUnique]
  | cons m rest ih =>
    obtain ⟨k, v⟩ := m
    simp [membersKeysUnique, ih]

theorem membersKeysUnique_set {ms : Members} {k : Text} {w : Json}
    (hms : membersKeysUnique ms = true) (hw : w.keysUnique = true) :
    membersKeysUnique (ms.set k w) = true := by
  rw [membersKeysUnique_iff] at hms ⊢
  intro p hp
  rcases Members.mem_set hp with h | rfl
  · exact hms p h
  · exact hw

theorem nodup_keys_expandMembers (lookup : Text → Option Text) (ms : List (Text × Json))
    {acc : Members} (h : acc.keys.Nodup) : (expandMembers lookup ms acc).keys.Nodup := by
  induction ms generalizing acc with
  | nil => exact h
  | cons m rest ih => exact ih (Members.nodup_keys_set h)

mutual

/-- An expanded fragment lists each key of an object once, whatever the fragment: each member is
set into the object built so far. -/
theorem keysUnique_expand (lookup : Text → Option Text) :
    (v : Json) → (expand lookup v).keysUnique = true
  | .arr items => itemsKeysUnique_expandItems lookup items
  | .obj ms => by
    simp only [expand, keysUnique, Bool.and_eq_true, decide_eq_true_eq]
    exact ⟨nodup_keys_expandMembers lookup ms List.nodup_nil,
      membersKeysUnique_expandMembers lookup ms [] rfl⟩
  | .null | .bool _ | .num _ | .str _ => rfl

theorem itemsKeysUnique_expandItems (lookup : Text → Option Text) :
    (items : List Json) → itemsKeysUnique (expandItems lookup items) = true
  | [] => rfl
  | x :: rest => by
    simp only [expandItems, itemsKeysUnique, Bool.and_eq_true]
    exact ⟨keysUnique_expand lookup x, itemsKeysUnique_expandItems lookup rest⟩

theorem membersKeysUnique_expandMembers (lookup : Text → Option Text) :
    (ms : List (Text × Json)) → (acc : Members) → membersKeysUnique acc = true →
      membersKeysUnique (expandMembers lookup ms acc) = true
  | [], _, h => h
  | (_, v) :: rest, _, h =>
    membersKeysUnique_expandMembers lookup rest _ (membersKeysUnique_set h (keysUnique_expand lookup v))

end

end Json

/-! ### Running a merge action twice -/

namespace ActionContext

/-- Placeholders read nothing of a record but its fields. -/
theorem lookup_eq_of_fields (ctx : ActionContext) {r r' : LogRecord} (h : r'.fields = r.fields) :
    ctx.lookup r' = ctx.lookup r := by
  have hfield : r'.field = r.field := funext fun n => by simp [LogRecord.field, h]
  funext n
  simp only [lookup, hfield]

end ActionContext

namespace LogRecord

/-- Merging a patch into the base that its own merge left as the payload changes nothing: the
base is that payload, or an empty object for the `null` that only a `null` patch leaves. -/
theorem merge_mergeBase_merged (r : LogRecord) (b : Json) {p : Json} (hp : p.keysUnique = true) :
    Json.merge ({ r with structured := some (Json.merge b p) } : LogRecord).mergeBase p =
      Json.merge b p := by
  have hview : ({ r with structured := some (Json.merge b p) } : LogRecord).view .msg =
      some (Json.merge b p) := rfl
  by_cases hnull : p = .null
  · subst hnull
    have hreplaced : ∀ t, Json.merge t .null = .null := fun t => Json.merge_of_not_isObject rfl
    simp only [hreplaced]
  · have hm : Json.merge b p ≠ .null := fun h => hnull (Json.merge_eq_null_iff.1 h)
    have hbase : ({ r with structured := some (Json.merge b p) } : LogRecord).mergeBase =
        Json.merge b p := by
      unfold mergeBase
      rw [hview]
      split <;> simp_all
    rw [hbase, Json.merge_merge_of_keysUnique p hp b]

end LogRecord

/-- A merge action applied a second time, with the same captures, version and clock reading,
leaves the record as the first application left it. -/
theorem Action.apply_merge_twice (f : Json) (ctx : ActionContext) (r : LogRecord) :
    (Action.merge f).apply ctx ((Action.merge f).apply ctx r) = (Action.merge f).apply ctx r := by
  have hlookup : ctx.lookup ((Action.merge f).apply ctx r) = ctx.lookup r :=
    ctx.lookup_eq_of_fields rfl
  have hpatch := Json.keysUnique_expand (ctx.lookup r) f
  simp only [Action.apply] at hlookup ⊢
  rw [hlookup, LogRecord.merge_mergeBase_merged r _ hpatch]

/-- Under a clock that always reads the same, running a merge action a second time leaves the
record as running it once does: the second run fails exactly when the first does, and otherwise
finds the same reading. -/
theorem Progress.runAction_merge_twice (f : Json) (reading : Option Instant) (caps : Captures) (version : Text) (p : Progress) :
    ((runAction (Clock.fixed reading) caps version p (.merge f)).bind fun q =>
        runAction (Clock.fixed reading) caps version q (.merge f)).map (·.record) =
      (runAction (Clock.fixed reading) caps version p (.merge f)).map (·.record) := by
  simp only [runAction_eq_eagerly]
  unfold runActionEagerly
  by_cases hclock : (Action.merge f).readsClock = true
  · cases reading with
    | none => simp [hclock, Clock.fixed, Except.bind]
    | some now => simp [hclock, Clock.fixed, Except.bind, Except.map, Action.apply_merge_twice]
  · simp [hclock, Except.bind, Except.map, Action.apply_merge_twice]

/-- **Merging the same patch twice is merging it once.**  A deep merge of a JSON value into the
result of merging it already changes nothing, key order included, so the two texts agree too.
Hence a merge action run twice under a clock that always reads the same leaves the record, and
its structured payload, as one run does, whatever the record started from: a payload, a message
that reads as JSON, one that does not, or a `null` payload. -/
theorem merge_twice_is_merge_once :
    (∀ t p : Json, p.keysUnique = true → Json.merge (Json.merge t p) p = Json.merge t p) ∧
    ∀ f : Json, f.keysUnique = true →
      ∀ (reading : Option Instant) (caps : Captures) (version : Text) (p : Progress),
        ((Progress.runAction (Clock.fixed reading) caps version p (.merge f)).bind fun q =>
            Progress.runAction (Clock.fixed reading) caps version q (.merge f)).map (·.record) =
          (Progress.runAction (Clock.fixed reading) caps version p (.merge f)).map (·.record) :=
  ⟨fun t p hp => Json.merge_merge_of_keysUnique p hp t,
    fun f _ => Progress.runAction_merge_twice f⟩

/-- Merging `{"user": {"name": "bob"}}` a second time, into a value or as the action of a rule on a
record whose message is not JSON, changes nothing. -/
theorem merging_user_twice :
    (Json.object [("user", Json.object [("name", Json.ofString "bob")])]).keysUnique = true ∧
    Json.merge
        (Json.merge (Json.object [("user", Json.object [("id", Json.ofString "7")])])
          (Json.object [("user", Json.object [("name", Json.ofString "bob")])]))
        (Json.object [("user", Json.object [("name", Json.ofString "bob")])]) =
      Json.merge (Json.object [("user", Json.object [("id", Json.ofString "7")])])
        (Json.object [("user", Json.object [("name", Json.ofString "bob")])]) ∧
    ((Progress.runAction (Clock.fixed none) [] (Text.ofString "0.3.0")
        { record := { raw := [], fields := { msg := some (Text.ofString "hello") } } }
        (.merge (Json.object [("user", Json.object [("name", Json.ofString "bob")])]))).bind
        fun q => Progress.runAction (Clock.fixed none) [] (Text.ofString "0.3.0") q
          (.merge (Json.object [("user", Json.object [("name", Json.ofString "bob")])]))).map
        (·.record) =
      (Progress.runAction (Clock.fixed none) [] (Text.ofString "0.3.0")
        { record := { raw := [], fields := { msg := some (Text.ofString "hello") } } }
        (.merge (Json.object [("user", Json.object [("name", Json.ofString "bob")])]))).map
        (·.record) :=
  ⟨by decide, merge_twice_is_merge_once.1 _ _ (by decide),
    merge_twice_is_merge_once.2 _ (by decide) _ _ _ _⟩

end LogRouter
