import LogRouter.Proofs.Template
import LogRouter.Proofs.Members

/-!
Compiled fragments render their string leaves in place.

A fragment is a JSON value whose string leaves are templates.  Compiling it keeps every leaf that
is not a string, and every string leaf without placeholders, as a literal; turns a string leaf with
placeholders into its template; and collects the placeholder names of all leaves in one list
(`Fragment.compile`).  Expanding the compiled fragment is expanding the value leaf by leaf
(`FragmentNode.expand_compile`): a literal string gives itself, as its template would, since a
template without placeholders renders as its source; and both rebuild an object by setting its
members in order into an empty one.

Two views say what expanding does to a value whose objects hold their members as JSON objects do,
each key once and in enumeration order (`Json.canonical`).  `Json.skeleton` empties every string
leaf and keeps the rest: arrays with their lengths, objects with their keys in enumeration order
(whatever the key, `__proto__` included), and every other leaf.  `Json.strings` lists the string
leaves, depth first and members in key order.  Rebuilding such an object sets each key after all
those before it, so it lists the members as they were (`Json.expandMembers_of_sorted`); hence
expanding keeps the skeleton and renders each string leaf as its template, in place.

The fragment's variables are the placeholder names of all its leaves, in traversal order, each
kept at its first occurrence: the compiler adds each leaf's names, once, to the names met before
(`FragmentNode.names_compile`), which lists the same names in the same order as deduplicating
every occurrence at once (`distinct_flatMap_distinct`).
-/

namespace LogRouter

/-! ### Keeping each member once -/

section Distinct

variable {α : Type} [BEq α]

theorem distinct_eq_foldl (xs : List α) : distinct xs = xs.foldl addNew [] := rfl

variable [LawfulBEq α]

theorem mem_addNew {acc : List α} {x y : α} : y ∈ addNew acc x ↔ y ∈ acc ∨ y = x := by
  unfold addNew
  split
  · rename_i hx
    constructor
    · exact Or.inl
    · rintro (h | rfl)
      · exact h
      · exact List.elem_iff.1 hx
  · simp

theorem mem_foldl_addNew {acc xs : List α} {y : α} :
    y ∈ xs.foldl addNew acc ↔ y ∈ acc ∨ y ∈ xs := by
  induction xs generalizing acc with
  | nil => simp
  | cons x rest ih =>
    rw [List.foldl_cons, ih, mem_addNew, List.mem_cons, or_assoc]

theorem mem_distinct {xs : List α} {y : α} : y ∈ distinct xs ↔ y ∈ xs := by
  simp [distinct_eq_foldl, mem_foldl_addNew]

theorem addNew_of_mem {acc : List α} {x : α} (h : x ∈ acc) : addNew acc x = acc := by
  simp [addNew, h]

/-- Folding what a fold from `b` lists adds what folding from `b` itself adds: a member the fold
skipped was listed already. -/
theorem foldl_addNew_foldl (acc b ys : List α) :
    (ys.foldl addNew b).foldl addNew acc = ys.foldl addNew (b.foldl addNew acc) := by
  induction ys generalizing b with
  | nil => rfl
  | cons y rest ih =>
    rw [List.foldl_cons, List.foldl_cons, ih]
    congr 1
    -- adding `y` to `b` first, or to the fold over `b`, adds it in both or in neither
    by_cases hy : y ∈ b
    · rw [addNew_of_mem hy, addNew_of_mem (mem_foldl_addNew.2 (Or.inr hy))]
    · have hnot : b.contains y = false := by simpa using hy
      simp only [addNew, hnot, Bool.false_eq_true, if_false, List.foldl_append, List.foldl_cons,
        List.foldl_nil]

theorem foldl_addNew_distinct (acc ys : List α) :
    (distinct ys).foldl addNew acc = ys.foldl addNew acc := by
  rw [distinct_eq_foldl, foldl_addNew_foldl]
  rfl

/-- Keeping each member of every piece once and then each member of the whole once is keeping
each member of the whole once. -/
theorem distinct_flatMap_distinct {β : Type} (f : β → List α) (xs : List β) :
    distinct (xs.flatMap fun x => distinct (f x)) = distinct (xs.flatMap f) := by
  rw [distinct_eq_foldl, distinct_eq_foldl]
  generalize ([] : List α) = acc
  induction xs generalizing acc with
  | nil => rfl
  | cons x rest ih =>
    rw [List.flatMap_cons, List.flatMap_cons, List.foldl_append, List.foldl_append,
      foldl_addNew_distinct, ih]

end Distinct

namespace Json

/-! ### Two views of a value -/

mutual

/-- The value with every string leaf emptied: arrays, keys in order and other leaves as they are. -/
def skeleton : Json → Json
  | .str _ => .str []
  | .arr items => .arr (itemsSkeleton items)
  | .obj ms => .obj (membersSkeleton ms)
  | v => v

/-- The skeletons of array elements. -/
def itemsSkeleton : List Json → List Json
  | [] => []
  | x :: rest => skeleton x :: itemsSkeleton rest

/-- Members with their values' skeletons, under the same keys. -/
def membersSkeleton : List (Text × Json) → List (Text × Json)
  | [] => []
  | (k, v) :: rest => (k, skeleton v) :: membersSkeleton rest

end

mutual

/-- The string leaves, depth first, members in key order. -/
def strings : Json → List Text
  | .str s => [s]
  | .arr items => itemsStrings items
  | .obj ms => membersStrings ms
  | _ => []

/-- The string leaves of array elements, in order. -/
def itemsStrings : List Json → List Text
  | [] => []
  | x :: rest => strings x ++ itemsStrings rest

/-- The string leaves of member values, in order. -/
def membersStrings : List (Text × Json) → List Text
  | [] => []
  | (_, v) :: rest => strings v ++ membersStrings rest

end

mutual

/-- Whether every object in a value holds its members as an object does: each key once, in
enumeration order. -/
def canonical : Json → Bool
  | .arr items => itemsCanonical items
  | .obj ms =>
    decide (Members.keys ms).Nodup &&
      decide ((Members.keys ms).Pairwise fun a b => Members.precedes a b = true) &&
      membersCanonical ms
  | _ => true

/-- Whether every element of an array is canonical. -/
def itemsCanonical : List Json → Bool
  | [] => true
  | x :: rest => x.canonical && itemsCanonical rest

/-- Whether every member value is canonical. -/
def membersCanonical : List (Text × Json) → Bool
  | [] => true
  | (_, v) :: rest => v.canonical && membersCanonical rest

end

theorem canonical_obj {ms : Members} (h : (Json.obj ms).canonical = true) :
    ms.Ordered ∧ membersCanonical ms = true := by
  simp only [canonical, Bool.and_eq_true, decide_eq_true_eq] at h
  exact ⟨⟨h.1.1, h.1.2⟩, h.2⟩

/-! ### Rebuilding an object -/

variable (lookup : Text → Option Text)

/-- Setting members whose keys are distinct and in enumeration order, each after those set before
it, lists them as they come. -/
theorem expandMembers_of_sorted (ms acc : Members) (hnodup : (acc.keys ++ ms.keys).Nodup)
    (hsorted : (acc.keys ++ ms.keys).Pairwise fun a b => Members.precedes a b = true) :
    expandMembers lookup ms acc = acc ++ ms.map fun m => (m.1, expand lookup m.2) := by
  induction ms generalizing acc with
  | nil => simp [expandMembers]
  | cons m rest ih =>
    obtain ⟨k, v⟩ := m
    have hk : k ∉ acc.keys := by
      simp only [Members.keys_cons] at hnodup
      exact fun hk => (List.nodup_append.1 hnodup).2.2 k hk k (List.mem_cons_self ..) rfl
    have hafter : ∀ x ∈ acc.keys, Members.precedes x k = true := fun x hx =>
      (List.pairwise_append.1 hsorted).2.2 x hx k (by simp)
    -- the key goes last, and the rest follows it in the same order
    have hkeys : (acc ++ [(k, expand lookup v)]).keys ++ Members.keys rest =
        acc.keys ++ Members.keys ((k, v) :: rest) := by
      simp
    rw [expandMembers, Members.set_of_precedes hk hafter, ih _ (hkeys ▸ hnodup) (hkeys ▸ hsorted)]
    simp

theorem expandMembers_of_ordered {ms : Members} (h : ms.Ordered) :
    expandMembers lookup ms [] = ms.map fun m => (m.1, expand lookup m.2) := by
  rw [expandMembers_of_sorted lookup ms [] (by simpa using h.nodup) (by simpa using h.sorted)]
  rfl

/-! ### Expanding keeps the skeleton -/

mutual

theorem skeleton_expand : (v : Json) → v.canonical = true → (expand lookup v).skeleton = v.skeleton
  | .arr items, h => congrArg arr (itemsSkeleton_expandItems items h)
  | .obj ms, h => by
    obtain ⟨hord, hms⟩ := canonical_obj h
    rw [expand, expandMembers_of_ordered lookup hord, skeleton, skeleton,
      membersSkeleton_map ms hms]
  | .null, _ | .bool _, _ | .num _, _ | .str _, _ => rfl

theorem itemsSkeleton_expandItems : (items : List Json) → itemsCanonical items = true →
    itemsSkeleton (expandItems lookup items) = itemsSkeleton items
  | [], _ => rfl
  | x :: rest, h => by
    simp only [itemsCanonical, Bool.and_eq_true] at h
    rw [expandItems, itemsSkeleton, itemsSkeleton, skeleton_expand x h.1,
      itemsSkeleton_expandItems rest h.2]

theorem membersSkeleton_map : (ms : Members) → membersCanonical ms = true →
    membersSkeleton (ms.map fun m => (m.1, expand lookup m.2)) = membersSkeleton ms
  | [], _ => rfl
  | (k, v) :: rest, h => by
    simp only [membersCanonical, Bool.and_eq_true] at h
    rw [List.map_cons, membersSkeleton, membersSkeleton, skeleton_expand v h.1,
      membersSkeleton_map rest h.2]

end

/-! ### Expanding renders each string leaf in place -/

mutual

theorem strings_expand : (v : Json) → v.canonical = true →
    (expand lookup v).strings = v.strings.map fun s => (Template.compile s).render lookup
  | .str _, _ => rfl
  | .arr items, h => itemsStrings_expandItems items h
  | .obj ms, h => by
    obtain ⟨hord, hms⟩ := canonical_obj h
    rw [expand, expandMembers_of_ordered lookup hord, strings, strings]
    exact membersStrings_map ms hms
  | .null, _ | .bool _, _ | .num _, _ => rfl

theorem itemsStrings_expandItems : (items : List Json) → itemsCanonical items = true →
    itemsStrings (expandItems lookup items) =
      (itemsStrings items).map fun s => (Template.compile s).render lookup
  | [], _ => rfl
  | x :: rest, h => by
    simp only [itemsCanonical, Bool.and_eq_true] at h
    rw [expandItems, itemsStrings, itemsStrings, List.map_append, strings_expand x h.1,
      itemsStrings_expandItems rest h.2]

theorem membersStrings_map : (ms : Members) → membersCanonical ms = true →
    membersStrings (ms.map fun m => (m.1, expand lookup m.2)) =
      (membersStrings ms).map fun s => (Template.compile s).render lookup
  | [], _ => rfl
  | (k, v) :: rest, h => by
    simp only [membersCanonical, Bool.and_eq_true] at h
    rw [List.map_cons, membersStrings, membersStrings, List.map_append, strings_expand v h.1,
      membersStrings_map rest h.2]

end

/-! ### The names of the leaves -/

mutual

/-- The names a fragment collects are those of its string leaves, leaf by leaf in traversal
order, each leaf's names once. -/
theorem leafPlaceholders_eq : (v : Json) →
    v.leafPlaceholders = v.strings.flatMap fun s => (Template.compile s).placeholderNames
  | .str s => by simp [leafPlaceholders, strings]
  | .arr items => itemsPlaceholders_eq items
  | .obj ms => membersPlaceholders_eq ms
  | .null | .bool _ | .num _ => rfl

theorem itemsPlaceholders_eq : (items : List Json) →
    itemsPlaceholders items =
      (itemsStrings items).flatMap fun s => (Template.compile s).placeholderNames
  | [] => rfl
  | x :: rest => by
    rw [itemsPlaceholders, itemsStrings, List.flatMap_append, leafPlaceholders_eq x,
      itemsPlaceholders_eq rest]

theorem membersPlaceholders_eq : (ms : List (Text × Json)) →
    membersPlaceholders ms =
      (membersStrings ms).flatMap fun s => (Template.compile s).placeholderNames
  | [] => rfl
  | (k, v) :: rest => by
    rw [membersPlaceholders, membersStrings, List.flatMap_append, leafPlaceholders_eq v,
      membersPlaceholders_eq rest]

end

end Json

/-! ### The compiled fragment -/

namespace FragmentNode

variable (lookup : Text → Option Text)

mutual

/-- Expanding a compiled value, with a lookup that answers at once, is expanding the value. -/
theorem expand_compile : (v : Json) → (vars : List Text) →
    Id.run ((compile v vars).1.expandM fun n => pure (lookup n)) = Json.expand lookup v
  | .str s, vars => by
    rw [compile, Json.expand]
    split
    · -- no placeholder: the literal is the source, as rendering gives it
      rename_i hnone
      rw [← Template.renderM_id, Template.renderM, if_pos hnone]
      rfl
    · exact congrArg Json.str (Template.renderM_id _ lookup)
  | .arr items, vars => congrArg Json.arr (expandItems_compile items vars)
  | .obj ms, vars => congrArg Json.obj (expandEntries_compile ms vars [])
  | .null, _ | .bool _, _ | .num _, _ => rfl

theorem expandItems_compile : (items : List Json) → (vars : List Text) →
    Id.run (expandItemsM (fun n => pure (lookup n)) (compileItems items vars).1) =
      Json.expandItems lookup items
  | [], _ => rfl
  | x :: rest, vars => by
    rw [Json.expandItems, ← expand_compile x vars, ← expandItems_compile rest]
    rfl

theorem expandEntries_compile : (ms : List (Text × Json)) → (vars : List Text) → (acc : Members) →
    Id.run (expandEntriesM (fun n => pure (lookup n)) (compileEntries ms vars).1 acc) =
      Json.expandMembers lookup ms acc
  | [], _, _ => rfl
  | (k, v) :: rest, vars, acc => by
    rw [Json.expandMembers, ← expand_compile v vars, ← expandEntries_compile rest]
    rfl

end

mutual

/-- Compiling adds the names of the string leaves, in traversal order, each once, to the names met
before. -/
theorem names_compile : (v : Json) → (vars : List Text) →
    (compile v vars).2 = v.leafPlaceholders.foldl addNew vars
  | .str _, _ => rfl
  | .arr items, vars => names_compileItems items vars
  | .obj ms, vars => names_compileEntries ms vars
  | .null, _ | .bool _, _ | .num _, _ => rfl

theorem names_compileItems : (items : List Json) → (vars : List Text) →
    (compileItems items vars).2 = (Json.itemsPlaceholders items).foldl addNew vars
  | [], _ => rfl
  | x :: rest, vars => by
    rw [Json.itemsPlaceholders, List.foldl_append, ← names_compile x vars,
      ← names_compileItems rest]
    rfl

theorem names_compileEntries : (ms : List (Text × Json)) → (vars : List Text) →
    (compileEntries ms vars).2 = (Json.membersPlaceholders ms).foldl addNew vars
  | [], _ => rfl
  | (k, v) :: rest, vars => by
    rw [Json.membersPlaceholders, List.foldl_append, ← names_compile v vars,
      ← names_compileEntries rest]
    rfl

end

end FragmentNode

namespace Fragment

theorem expand_compile (v : Json) (lookup : Text → Option Text) :
    (compile v).expand lookup = Json.expand lookup v :=
  FragmentNode.expand_compile lookup v []

/-- A compiled fragment's variables are its value's placeholder names, each once. -/
theorem names_compile (v : Json) : (compile v).names = v.placeholders :=
  FragmentNode.names_compile v []

/-- The variables are the names of every placeholder of the string leaves, in traversal order,
each kept at its first occurrence across the whole value. -/
theorem names_eq_distinct (v : Json) :
    (compile v).names =
      distinct (v.strings.flatMap fun s =>
        (Template.compile s).pieces.filterMap Template.Piece.name?) := by
  rw [names_compile, Json.placeholders, Json.leafPlaceholders_eq]
  simp only [Template.placeholderNames_eq]
  exact distinct_flatMap_distinct _ _

end Fragment

/-- **A compiled fragment renders its string leaves in place.**  For every value and every lookup,
expanding the compiled fragment is expanding the value leaf by leaf.  When the value's objects hold
their members as JSON objects do, the expansion has the value's skeleton (the same arrays, keys in
the same order and other leaves), and its string leaves are the value's, each rendered as a
template.  The fragment's variables are the placeholder names of all its leaves, depth first and
in key order, each once. -/
theorem expand_renders_leaves_in_place (v : Json) :
    (∀ lookup : Text → Option Text, (Fragment.compile v).expand lookup = Json.expand lookup v) ∧
    (v.canonical = true → ∀ lookup : Text → Option Text,
      ((Fragment.compile v).expand lookup).skeleton = v.skeleton ∧
      ((Fragment.compile v).expand lookup).strings =
        v.strings.map fun s => (Template.compile s).render lookup) ∧
    (Fragment.compile v).names =
      distinct (v.strings.flatMap fun s =>
        (Template.compile s).pieces.filterMap Template.Piece.name?) := by
  refine ⟨Fragment.expand_compile v, fun hv lookup => ?_, Fragment.names_eq_distinct v⟩
  rw [Fragment.expand_compile]
  exact ⟨Json.skeleton_expand lookup v hv, Json.strings_expand lookup v hv⟩

/-- An object with a `__proto__` key, an array and a name used in three leaves is canonical, and
its compiled fragment keeps its shape. -/
theorem proto_key_and_shared_name_render_in_place :
    (Json.object [("__proto__", .ofString "\x7b\x7bx\x7d\x7d"),
      ("b", .arr [.null, .ofString "\x7b\x7by\x7d\x7d \x7b\x7bx\x7d\x7d"])]).canonical = true ∧
    ∀ lookup : Text → Option Text,
      ((Fragment.compile (Json.object [("__proto__", .ofString "\x7b\x7bx\x7d\x7d"),
        ("b", .arr [.null, .ofString "\x7b\x7by\x7d\x7d \x7b\x7bx\x7d\x7d"])])).expand
          lookup).skeleton =
        (Json.object [("__proto__", .ofString "\x7b\x7bx\x7d\x7d"),
          ("b", .arr [.null, .ofString "\x7b\x7by\x7d\x7d \x7b\x7bx\x7d\x7d"])]).skeleton ∧
      ((Fragment.compile (Json.object [("__proto__", .ofString "\x7b\x7bx\x7d\x7d"),
        ("b", .arr [.null, .ofString "\x7b\x7by\x7d\x7d \x7b\x7bx\x7d\x7d"])])).expand
          lookup).strings =
        (Json.object [("__proto__", .ofString "\x7b\x7bx\x7d\x7d"),
          ("b", .arr [.null, .ofString "\x7b\x7by\x7d\x7d \x7b\x7bx\x7d\x7d"])]).strings.map
          fun s => (Template.compile s).render lookup :=
  ⟨by decide, (expand_renders_leaves_in_place _).2.1 (by decide)⟩

/-- A name used in two leaves and twice in one is listed once, where it first occurs. -/
example : (Fragment.compile (Json.object [("a", .ofString "\x7b\x7bx\x7d\x7d"),
    ("b", .arr [.null, .ofString "\x7b\x7by\x7d\x7d \x7b\x7bx\x7d\x7d"]),
    ("c", Json.object
      [("d", .ofString "\x7b\x7b x \x7d\x7d\x7b\x7bz\x7d\x7d\x7b\x7bx\x7d\x7d")])])).names =
    ["x", "y", "z"].map Text.ofString := by
  decide

end LogRouter
