import LogRouter.Rules.Evaluate
import LogRouter.Proofs.Fragment

/-!
One clock reading for every `{{iso8601}}` of an action.

An action resolves its placeholders as it renders them, through a lookup that takes the clock's
reading at the first `{{iso8601}}` and keeps its text for the rest of the run
(`ActionContext.lazyLookup`).  `ReadsOnce R P asks v` says what such a computation `P` does when
the reading the clock would give is `R`: with the clock's text `t` it gives `v t`, so that every
`{{iso8601}}` renders the same `t`; a text once taken is kept; and with none taken yet it takes
the reading exactly when it `asks` for `iso8601`, failing when the reading is not a valid time,
and otherwise gives what it gives with any text.  `pure` asks for nothing, and a `bind` asks when
either part does (`ReadsOnce.bind`); the lookup asks for `iso8601` alone
(`lazyLookup_readsOnce`).  From these, rendering a template asks when one of its placeholders is
`iso8601` (`Template.renderM_readsOnce`), expanding a compiled fragment when one of its leaves has
one (`FragmentNode.expandM_readsOnce`), and an action when it reads the clock
(`Action.applyM_readsOnce`).

So running an action is running it as if it read the clock before rendering anything whenever it
uses `{{iso8601}}`, and never otherwise (`Progress.runAction_eq_eagerly`).
-/

namespace LogRouter

/-- What a computation of one action run does with the clock, the reading it would take being
`R`: it gives `v t` when the clock's text is `t`; a text once taken is kept; with none taken yet
it takes the reading exactly when it `asks`, failing if the reading is not a valid time, and
otherwise gives what it gives with any text. -/
structure ReadsOnce {α : Type} (R : Option Text) (P : ActionRun α) (asks : Bool) (v : Text → α) :
    Prop where
  taken : ∀ t, P.run (some t) = .ok (v t, some t)
  untouched : asks = false → P.run none = .ok (v [], none)
  constant : asks = false → ∀ t, v t = v []
  invalid : asks = true → R = none → P.run none = .error ()
  first : asks = true → ∀ t, R = some t → P.run none = .ok (v t, some t)

namespace ReadsOnce

variable {α β : Type} {R : Option Text}

protected theorem pure (a : α) : ReadsOnce R (pure a) false fun _ => a :=
  ⟨fun _ => rfl, fun _ => rfl, fun _ _ => rfl, nofun, nofun⟩

/-- Two computations in turn take the reading when either asks for it, the second seeing the text
the first took. -/
protected theorem bind {P : ActionRun α} {Q : α → ActionRun β} {a b : Bool} {v : Text → α}
    {w : α → Text → β} (hP : ReadsOnce R P a v) (hQ : ∀ x, ReadsOnce R (Q x) b (w x)) :
    ReadsOnce R (P >>= Q) (a || b) fun t => w (v t) t where
  taken t := by
    rw [StateT.run_bind, hP.taken t]
    exact (hQ (v t)).taken t
  untouched h := by
    rw [Bool.or_eq_false_iff] at h
    rw [StateT.run_bind, hP.untouched h.1]
    exact (hQ _).untouched h.2
  constant h t := by
    rw [Bool.or_eq_false_iff] at h
    rw [hP.constant h.1 t, (hQ _).constant h.2 t]
  invalid h hR := by
    rw [StateT.run_bind]
    cases ha : a
    · -- the first part leaves the clock alone, so the second asks for it
      rw [hP.untouched ha]
      exact (hQ _).invalid (by simpa [ha] using h) hR
    · rw [hP.invalid ha hR]
      rfl
  first h t hR := by
    rw [StateT.run_bind]
    cases ha : a
    · rw [hP.untouched ha, hP.constant ha t]
      exact (hQ _).first (by simpa [ha] using h) t hR
    · rw [hP.first ha t hR]
      exact (hQ (v t)).taken t

theorem of_eq {P : ActionRun α} {a a' : Bool} {v v' : Text → α} (h : ReadsOnce R P a v)
    (ha : a = a') (hv : ∀ t, v t = v' t) : ReadsOnce R P a' v' := by
  subst ha
  obtain rfl : v = v' := funext hv
  exact h

end ReadsOnce

/-! ### The lookup -/

namespace ActionContext

theorem lookup_of_ne_iso8601 (caps : Captures) (version t t' : Text) (r : LogRecord) {name : Text}
    (h : (name == Text.ofString "iso8601") = false) :
    (⟨caps, version, t⟩ : ActionContext).lookup r name =
      (⟨caps, version, t'⟩ : ActionContext).lookup r name := by
  simp [lookup, h]

theorem lookup_iso8601 (caps : Captures) (version t : Text) (r : LogRecord) :
    (⟨caps, version, t⟩ : ActionContext).lookup r (Text.ofString "iso8601") = some t := by
  rw [lookup, if_neg (by decide), if_pos (beq_self_eq_true _)]

/-- The lazy lookup asks for the clock for `iso8601` alone, and gives what the context with the
clock's text gives. -/
theorem lazyLookup_readsOnce (caps : Captures) (version : Text) (reading : Option Instant)
    (r : LogRecord) (name : Text) :
    ReadsOnce (reading.map Instant.secondsText)
      ((⟨caps, version, []⟩ : ActionContext).lazyLookup reading r name)
      (name == Text.ofString "iso8601")
      (fun t => (⟨caps, version, t⟩ : ActionContext).lookup r name) := by
  unfold lazyLookup
  cases hname : name == Text.ofString "iso8601"
  · -- any other name resolves without the clock
    have hsame := fun t => lookup_of_ne_iso8601 caps version t [] r hname
    rw [if_neg (by simp)]
    exact ⟨fun t => by rw [hsame t]; rfl, fun _ => rfl, fun _ t => hsame t, nofun, nofun⟩
  · obtain rfl := beq_iff_eq.1 hname
    rw [if_pos rfl]
    refine ⟨fun t => by rw [lookup_iso8601]; rfl, nofun, nofun, fun _ hR => ?_, fun _ t hR => ?_⟩
    · rw [Option.map_eq_none_iff] at hR
      subst hR
      rfl
    · obtain ⟨now, rfl, rfl⟩ := Option.map_eq_some_iff.1 hR
      rw [lookup_iso8601]
      rfl

end ActionContext

/-! ### Rendering and expanding -/

section Rendering

variable {R : Option Text} {L : Text → ActionRun (Option Text)} {f : Text → Text → Option Text}

theorem contains_distinct (xs : List Text) (x : Text) : (distinct xs).contains x = xs.contains x := by
  rw [Bool.eq_iff_iff, List.contains_iff_mem, List.contains_iff_mem, mem_distinct]

namespace Template

theorem renderPiecesM_readsOnce (hL : ∀ name, ReadsOnce R (L name) (name == Text.ofString "iso8601")
    fun t => f t name) (ps : List Piece) :
    ReadsOnce R (renderPiecesM L ps) ((ps.filterMap Piece.name?).contains (Text.ofString "iso8601"))
      fun t => ps.flatMap (fill (f t)) := by
  induction ps with
  | nil => exact ReadsOnce.pure []
  | cons p rest ih =>
    have hpiece : ReadsOnce R (renderPieceM L p)
        ((Piece.name? p).any (· == Text.ofString "iso8601")) fun t => fill (f t) p := by
      cases p with
      | literal s => exact ReadsOnce.pure s
      | placeholder n =>
        exact ((hL n).bind fun x => ReadsOnce.pure (x.getD [])).of_eq (Bool.or_false _) fun _ => rfl
    refine (hpiece.bind fun s => ih.bind fun r => ReadsOnce.pure (s ++ r)).of_eq ?_ fun _ => rfl
    rw [Bool.or_false]
    cases p with
    | literal s => rfl
    | placeholder n =>
      show (n == _ || _) = (n :: _).contains _
      rw [List.contains_cons, BEq.comm]

/-- Rendering a template asks for the clock when one of its placeholders is `iso8601`. -/
theorem renderM_readsOnce (hL : ∀ name, ReadsOnce R (L name) (name == Text.ofString "iso8601")
    fun t => f t name) (tpl : Template) :
    ReadsOnce R (tpl.renderM L) (tpl.placeholderNames.contains (Text.ofString "iso8601"))
      fun t => tpl.render (f t) := by
  unfold renderM
  split
  · rename_i hnone
    have hnil : tpl.placeholderNames = [] := List.isEmpty_iff.1 hnone
    exact (ReadsOnce.pure tpl.source).of_eq (by rw [hnil]; rfl)
      fun t => by rw [render_eq, if_pos hnone]
  · rename_i hsome
    refine (renderPiecesM_readsOnce hL tpl.pieces).of_eq ?_ fun t => by rw [render_eq, if_neg hsome]
    rw [placeholderNames_eq, contains_distinct]

end Template

namespace FragmentNode

mutual

/-- Expanding a compiled value asks for the clock when one of its leaves has an `iso8601`
placeholder. -/
theorem expandM_readsOnce (hL : ∀ name, ReadsOnce R (L name) (name == Text.ofString "iso8601")
    fun t => f t name) : (v : Json) → (vars : List Text) →
    ReadsOnce R ((compile v vars).1.expandM L)
      (v.leafPlaceholders.contains (Text.ofString "iso8601")) fun t => Json.expand (f t) v
  | .str s, vars => by
    rw [compile]
    split
    · -- no placeholder: the literal is what rendering gives, and no name is asked for
      rename_i hnone
      have hnil : (Template.compile s).placeholderNames = [] := List.isEmpty_iff.1 hnone
      refine (ReadsOnce.pure (Json.str s)).of_eq (by rw [Json.leafPlaceholders, hnil]; rfl)
        fun t => ?_
      rw [Json.expand, Template.render, if_pos hnone]
      rfl
    · exact ((Template.renderM_readsOnce hL _).bind fun x => ReadsOnce.pure (Json.str x)).of_eq
        (by simp [Json.leafPlaceholders]) fun _ => rfl
  | .arr items, vars =>
    ((expandItemsM_readsOnce hL items vars).bind fun x => ReadsOnce.pure (Json.arr x)).of_eq
      (by simp [Json.leafPlaceholders]) fun _ => rfl
  | .obj ms, vars =>
    ((expandEntriesM_readsOnce hL ms vars []).bind fun x => ReadsOnce.pure (Json.obj x)).of_eq
      (by simp [Json.leafPlaceholders]) fun _ => rfl
  | .null, _ => ReadsOnce.pure _
  | .bool _, _ => ReadsOnce.pure _
  | .num _, _ => ReadsOnce.pure _

theorem expandItemsM_readsOnce (hL : ∀ name, ReadsOnce R (L name)
    (name == Text.ofString "iso8601") fun t => f t name) : (items : List Json) →
    (vars : List Text) →
    ReadsOnce R (expandItemsM L (compileItems items vars).1)
      ((Json.itemsPlaceholders items).contains (Text.ofString "iso8601"))
      fun t => Json.expandItems (f t) items
  | [], _ => ReadsOnce.pure []
  | x :: rest, vars =>
    ((expandM_readsOnce hL x vars).bind fun y =>
      (expandItemsM_readsOnce hL rest (compile x vars).2).bind fun ys =>
        ReadsOnce.pure (y :: ys)).of_eq (by simp [Json.itemsPlaceholders]) fun _ => rfl

theorem expandEntriesM_readsOnce (hL : ∀ name, ReadsOnce R (L name)
    (name == Text.ofString "iso8601") fun t => f t name) : (ms : List (Text × Json)) →
    (vars : List Text) → (acc : Members) →
    ReadsOnce R (expandEntriesM L (compileEntries ms vars).1 acc)
      ((Json.membersPlaceholders ms).contains (Text.ofString "iso8601"))
      fun t => Json.expandMembers (f t) ms acc
  | [], _, acc => ReadsOnce.pure acc
  | (k, v) :: rest, vars, acc =>
    ((expandM_readsOnce hL v vars).bind fun y =>
      expandEntriesM_readsOnce hL rest (compile v vars).2 (acc.set k y)).of_eq
        (by simp [Json.membersPlaceholders]) fun _ => rfl

end

end FragmentNode

end Rendering

/-! ### An action -/

namespace Action

/-- An action run with the lazy lookup asks for the clock exactly when it reads the clock, and
gives what it gives applied with the clock's text. -/
theorem applyM_readsOnce (caps : Captures) (version : Text) (reading : Option Instant)
    (r : LogRecord) (a : Action) :
    ReadsOnce (reading.map Instant.secondsText)
      (a.applyM ((⟨caps, version, []⟩ : ActionContext).lazyLookup reading r) r) a.readsClock
      fun t => a.apply ⟨caps, version, t⟩ r := by
  have hL := ActionContext.lazyLookup_readsOnce caps version reading r
  cases a with
  | merge f =>
    refine ((FragmentNode.expandM_readsOnce hL f []).bind fun patch =>
      ReadsOnce.pure _).of_eq ?_ fun _ => rfl
    rw [readsClock, placeholderNames, Fragment.names_compile, Json.placeholders,
      contains_distinct, Bool.or_false]
  | stop => exact ReadsOnce.pure _
  | forward tpl =>
    exact ((Template.renderM_readsOnce hL tpl).bind fun rendered => ReadsOnce.pure _).of_eq
      (Bool.or_false _) fun _ => rfl
  | replace tpl =>
    exact ((Template.renderM_readsOnce hL tpl).bind fun text => ReadsOnce.pure _).of_eq
      (Bool.or_false _) fun _ => rfl

end Action

/-! ### Running an action -/

namespace Progress

/-- An action run with its clock reading decided before anything renders: when the action uses
`{{iso8601}}` it takes the clock's next reading, failing if that is not a valid time, and applies
itself with that reading's text; otherwise it applies itself without the clock. -/
def runActionEagerly (clock : Clock) (caps : Captures) (version : Text) (p : Progress) (a : Action) :
    Except (Thrown × Progress) Progress :=
  if a.readsClock then
    match clock p.reads with
    | none => .error (invalidTime, { p with reads := p.reads + 1 })
    | some now =>
      .ok { p with record := a.apply ⟨caps, version, now.secondsText⟩ p.record, reads := p.reads + 1 }
  else .ok { p with record := a.apply ⟨caps, version, []⟩ p.record }

/-- Resolving `{{iso8601}}` lazily, the first time a placeholder asks for it, is reading the clock
up front exactly when the action uses it. -/
theorem runAction_eq_eagerly (clock : Clock) (caps : Captures) (version : Text) (p : Progress)
    (a : Action) : runAction clock caps version p a = runActionEagerly clock caps version p a := by
  have h := a.applyM_readsOnce caps version (clock p.reads) p.record
  unfold runAction runActionEagerly
  dsimp only
  cases hc : a.readsClock with
  | false =>
    rw [h.untouched hc]
    rfl
  | true =>
    -- the lazy run takes the reading at its first `{{iso8601}}`
    cases hr : clock p.reads with
    | none =>
      rw [hr] at h
      rw [h.invalid hc rfl]
      rfl
    | some now =>
      rw [hr] at h
      rw [h.first hc now.secondsText rfl]
      rfl

end Progress

end LogRouter
