import LogRouter.Pattern.Match

/-!
A search has the fuel it needs.

Fuel bounds how deeply the matcher nests its calls: each call spends one unit, and a continuation
keeps the fuel of the call that made it.  `Node.need size n` is fuel enough for the node `n` in a
text of `size` units: a unit for each level of the node, a unit for each node of a sequence or
alternative before the one running, and for a repetition a unit for each round.  A round that
could be left out must move, so a repetition has at most its required rounds and one round for
each unit of room left in the direction of matching (`room`); `runRepeat_congr` counts them down.

With fuel at least the need the result does not depend on the fuel (`run_congr`): two runs from
one state, with continuations that agree on every state ahead of it (`Agree`), give the same
result.  The need is at most `(size + 3) × weight` (`Node.need_le`), within the fuel `search`
gives, so `search` finds what any larger fuel finds (`search_eq_searchFrom`).
-/

namespace LogRouter

namespace Node

mutual

/-- Fuel enough to match a node in a text of `size` units.  A repetition of a one-unit test
needs none of its own; any other repetition needs one round per required round and one per unit
it can move over, on top of its body's need. -/
def need (size : Nat) : Node → Nat
  | .seq items => 1 + needAll size items
  | .alt choices => 1 + needAll size choices
  | .capture _ body => 1 + need size body
  | .repeat lo _ _ _ _ body => if body.unitTest?.isSome then 1 else lo + size + need size body + 2
  | .look _ _ body => 1 + need size body
  | _ => 1

/-- Fuel enough to match the nodes of a sequence in turn, or to try alternatives in turn. -/
def needAll (size : Nat) : List Node → Nat
  | [] => 1
  | n :: ns => 1 + max (need size n) (needAll size ns)

end

theorem needAll_pos (size : Nat) (ns : List Node) : 0 < needAll size ns := by
  cases ns <;> simp only [needAll] <;> omega

theorem need_pos (size : Nat) (n : Node) : 0 < need size n := by
  cases n <;> simp only [need]
  case «repeat» => split <;> omega
  all_goals omega

mutual

theorem need_le (size : Nat) : (n : Node) → need size n ≤ (size + 3) * n.weight
  | .seq items => by
    have hitems := needAll_le size items
    simp only [need, weight]
    rw [Nat.mul_add, Nat.mul_one]
    omega
  | .alt choices => by
    have hchoices := needAll_le size choices
    simp only [need, weight]
    rw [Nat.mul_add, Nat.mul_one]
    omega
  | .capture _ body => by
    have hbody := need_le size body
    simp only [need, weight]
    rw [Nat.mul_add, Nat.mul_one]
    omega
  | .repeat lo _ _ _ _ body => by
    simp only [need, weight]
    rw [Nat.mul_add, Nat.mul_one]
    split
    · omega
    · -- the rounds and the room are both paid for by the factor `lo + 2` on the body's weight
      have hbody := need_le size body
      have hround : body.weight + lo + 2 ≤ (body.weight + 1) * (lo + 2) := by
        rw [Nat.add_mul, Nat.one_mul, Nat.mul_add]
        omega
      have hscaled := Nat.mul_le_mul_left (size + 3) hround
      rw [Nat.mul_add, Nat.mul_add] at hscaled
      have hlo : lo ≤ (size + 3) * lo := Nat.le_mul_of_pos_left lo (by omega)
      omega
  | .look _ _ body => by
    have hbody := need_le size body
    simp only [need, weight]
    rw [Nat.mul_add, Nat.mul_one]
    omega
  | .empty | .unit _ | .anyButNewline | .set _ _ | .lineStart | .lineEnd | .wordBoundary _
  | .backref _ | .namedBackref _ => by
    simp only [need, weight]
    omega

theorem needAll_le (size : Nat) : (ns : List Node) → needAll size ns ≤ 1 + (size + 3) * weightAll ns
  | [] => by simp [needAll, weightAll]
  | n :: ns => by
    have hn := need_le size n
    have hns := needAll_le size ns
    have hpos := need_pos size n
    have hpos' := needAll_pos size ns
    simp only [needAll, weightAll]
    rw [Nat.mul_add]
    omega

end

end Node

namespace Pattern

section Fuel

variable (input : Array UInt16)

/-- Whether position `q` is at or beyond `p` in the direction of matching, within the text. -/
def Ahead (forward : Bool) (p q : Nat) : Prop :=
  (if forward then p ≤ q else q ≤ p) ∧ q ≤ input.size

/-- The units left from a position in the direction of matching. -/
def room (forward : Bool) (p : Nat) : Nat := if forward then input.size - p else p

/-- Two continuations that agree on every state at or beyond `x` in the direction of matching. -/
def Agree (forward : Bool) (x : MatchState) (k k' : MatchState → Option MatchState) : Prop :=
  ∀ y : MatchState, Ahead input forward x.pos y.pos → k y = k' y

/-- What a body needs of the matcher: fuel at least its need, at either of two amounts, gives the
same result from any state in the text with continuations that agree ahead of it. -/
def Stable (body : Node) : Prop :=
  ∀ f f' forward (x : MatchState) (k k' : MatchState → Option MatchState),
    Node.need input.size body ≤ f → Node.need input.size body ≤ f' → x.pos ≤ input.size →
    Agree input forward x k k' → run input f body forward x k = run input f' body forward x k'

variable {input}

theorem Ahead.refl {forward : Bool} {p : Nat} (h : p ≤ input.size) : Ahead input forward p p := by
  cases forward <;> simp [Ahead, h]

theorem Ahead.trans {forward : Bool} {p q r : Nat} (hpq : Ahead input forward p q)
    (hqr : Ahead input forward q r) : Ahead input forward p r := by
  cases forward <;> simp_all [Ahead] <;> omega

theorem Ahead.room_le {forward : Bool} {p q : Nat} (h : Ahead input forward p q) :
    room input forward q ≤ room input forward p := by
  cases forward <;> simp_all [Ahead, room]
  omega

theorem Ahead.room_lt {forward : Bool} {p q : Nat} (h : Ahead input forward p q) (hne : q ≠ p) :
    room input forward q < room input forward p := by
  cases forward <;> simp_all [Ahead, room] <;> omega

theorem room_le_size {forward : Bool} {p : Nat} (hp : p ≤ input.size) :
    room input forward p ≤ input.size := by
  cases forward <;> simp only [room, if_true, Bool.false_eq_true, if_false] <;> omega

theorem ahead_advance {forward : Bool} {p j : Nat} (hp : p ≤ input.size)
    (hj : j ≤ room input forward p) : Ahead input forward p (advance forward p j) := by
  cases forward <;> simp_all [Ahead, room, advance] <;> omega

theorem Agree.of_ahead {forward : Bool} {x y : MatchState} {k k' : MatchState → Option MatchState}
    (h : Agree input forward x k k') (hy : Ahead input forward x.pos y.pos) :
    Agree input forward y k k' :=
  fun z hz => h z (hy.trans hz)

theorem room_advance_of_unitAt? {forward : Bool} {p : Nat} {u : UInt16}
    (h : unitAt? input forward p = some u) :
    room input forward (advance forward p 1) + 1 = room input forward p ∧
      advance forward p 1 ≤ input.size := by
  cases forward with
  | true =>
    obtain ⟨hp, -⟩ := Array.getElem?_eq_some_iff.1 h
    simp only [room, advance, if_true]
    omega
  | false =>
    simp only [unitAt?, Bool.false_eq_true, if_false] at h
    split at h
    · cases h
    · obtain ⟨hp, -⟩ := Array.getElem?_eq_some_iff.1 h
      simp only [room, advance, Bool.false_eq_true, if_false]
      omega

theorem step_congr {forward : Bool} {t : UInt16 → Bool} {x : MatchState}
    {k k' : MatchState → Option MatchState} (h : Agree input forward x k k') :
    step input forward t x k = step input forward t x k' := by
  unfold step
  split
  · rename_i u hu
    split
    · obtain ⟨hroom, hle⟩ := room_advance_of_unitAt? hu
      apply h
      cases forward <;> simp_all [Ahead, advance]
    · rfl
  · rfl

theorem countRun_le (t : UInt16 → Bool) (forward : Bool) :
    ∀ limit pos n, countRun input t forward limit pos n ≤ n + room input forward pos
  | 0, _, _ => Nat.le_add_right _ _
  | limit + 1, pos, n => by
    rw [countRun]
    split
    · rename_i u hu
      split
      · have hrest : countRun input t forward limit (advance forward pos 1) (n + 1) ≤
            n + 1 + room input forward (advance forward pos 1) := countRun_le t forward _ _ _
        have hroom := (room_advance_of_unitAt? hu).1
        omega
      · omega
    · omega

theorem findSome?_congr {α β : Type} {f g : α → Option β} :
    ∀ {l : List α}, (∀ a ∈ l, f a = g a) → l.findSome? f = l.findSome? g
  | [], _ => rfl
  | a :: rest, h => by
    rw [List.findSome?_cons, List.findSome?_cons, h a List.mem_cons_self,
      findSome?_congr fun b hb => h b (List.mem_cons_of_mem a hb)]

theorem repeatUnits_congr {t : UInt16 → Bool} {lo : Nat} {hi : Option Nat} {greedy forward : Bool}
    {x : MatchState} {k k' : MatchState → Option MatchState} (hx : x.pos ≤ input.size)
    (h : Agree input forward x k k') :
    repeatUnits input t lo hi greedy forward x k = repeatUnits input t lo hi greedy forward x k' := by
  unfold repeatUnits
  -- every count tried is at most the run counted, which fits in the room left
  have hrun : countRun input t forward (min (hi.getD input.size) input.size) x.pos 0 ≤
      0 + room input forward x.pos := countRun_le t forward _ _ _
  have hafter : ∀ j ≤ countRun input t forward (min (hi.getD input.size) input.size) x.pos 0,
      k { x with pos := advance forward x.pos j } = k' { x with pos := advance forward x.pos j } :=
    fun j hj => h _ (ahead_advance hx (by omega))
  dsimp only
  split
  · rfl
  · split
    · exact findSome?_congr fun i hi => hafter _ (by simp at hi; omega)
    · exact findSome?_congr fun i hi => hafter _ (by simp at hi; omega)

/-- A repetition of a stable body, with fuel for its required rounds, for the rounds it can move
through the room left, and for its body, gives the same result at either of two such amounts. -/
theorem runRepeat_congr {body : Node} (hbody : Stable input body) :
    ∀ f f' lo hi greedy first stop forward (x : MatchState) (k k' : MatchState → Option MatchState),
      lo + room input forward x.pos + Node.need input.size body + 1 ≤ f →
      lo + room input forward x.pos + Node.need input.size body + 1 ≤ f' →
      x.pos ≤ input.size → Agree input forward x k k' →
      runRepeat input f lo hi greedy first stop body forward x k =
        runRepeat input f' lo hi greedy first stop body forward x k'
  | 0, _, _, _, _, _, _, _, _, _, _, hf, _, _, _ => by omega
  | _ + 1, 0, _, _, _, _, _, _, _, _, _, _, hf', _, _ => by omega
  | f + 1, f' + 1, lo, hi, greedy, first, stop, forward, x, k, k', hf, hf', hx, h => by
    rw [runRepeat, runRepeat]
    have hk : k x = k' x := h x (Ahead.refl hx)
    -- the next round starts where the body stopped: with less room, or one required round less
    have hnext : Agree input forward x
        (fun y => if (decide (lo = 0) && decide (y.pos = x.pos)) = true then none
          else runRepeat input f (lo - 1) (hi.map (· - 1)) greedy first stop body forward y k)
        (fun y => if (decide (lo = 0) && decide (y.pos = x.pos)) = true then none
          else runRepeat input f' (lo - 1) (hi.map (· - 1)) greedy first stop body forward y k') := by
      intro y hy
      dsimp only
      split
      · rfl
      · rename_i hmove
        have hroom := hy.room_le
        have hstrict : lo = 0 → room input forward y.pos < room input forward x.pos := fun hlo =>
          hy.room_lt fun heq => hmove (by simp [hlo, heq])
        exact runRepeat_congr hbody f f' (lo - 1) _ greedy first stop forward y k k'
          (by omega) (by omega) hy.2 (h.of_ahead hy)
    have hround := hbody f f' forward { x with captures := clearCaptures x.captures first stop } _ _
      (by omega) (by omega) hx hnext
    dsimp only
    rw [hk, hround]

mutual

/-- A node with fuel at least its need gives the same result at either of two such amounts, from
any state in the text, with continuations that agree ahead of that state. -/
theorem run_congr : (node : Node) → (f f' : Nat) → (forward : Bool) → (x : MatchState) →
    (k k' : MatchState → Option MatchState) →
    Node.need input.size node ≤ f → Node.need input.size node ≤ f' → x.pos ≤ input.size →
    Agree input forward x k k' → run input f node forward x k = run input f' node forward x k'
  | node, 0, _, _, _, _, _, hf, _, _, _ =>
    absurd hf (by have := Node.need_pos input.size node; omega)
  | node, _ + 1, 0, _, _, _, _, _, hf', _, _ =>
    absurd hf' (by have := Node.need_pos input.size node; omega)
  | .empty, _ + 1, _ + 1, _, x, _, _, _, _, hx, h => h x (Ahead.refl hx)
  | .unit _, _ + 1, _ + 1, _, _, _, _, _, _, _, h => step_congr h
  | .anyButNewline, _ + 1, _ + 1, _, _, _, _, _, _, _, h => step_congr h
  | .set _ _, _ + 1, _ + 1, _, _, _, _, _, _, _, h => step_congr h
  | .seq items, f + 1, f' + 1, forward, x, k, k', hf, hf', hx, h => by
    simp only [Node.need] at hf hf'
    exact runSeq_congr items f f' forward x k k' (by omega) (by omega) hx h
  | .alt choices, f + 1, f' + 1, forward, x, k, k', hf, hf', hx, h => by
    simp only [Node.need] at hf hf'
    exact runAlt_congr choices f f' forward x k k' (by omega) (by omega) hx h
  | .capture i body, f + 1, f' + 1, forward, x, k, k', hf, hf', hx, h => by
    simp only [Node.need] at hf hf'
    rw [run, run]
    exact run_congr body f f' forward x _ _ (by omega) (by omega) hx fun y hy => h _ hy
  | .repeat lo hi greedy first stop body, f + 1, f' + 1, forward, x, k, k', hf, hf', hx, h => by
    rw [run, run]
    cases ht : body.unitTest? with
    | some t => exact repeatUnits_congr hx h
    | none =>
      simp only [Node.need, ht, Option.isSome_none, Bool.false_eq_true, if_false] at hf hf'
      have hroom : room input forward x.pos ≤ input.size := room_le_size hx
      exact runRepeat_congr (fun g g' dir y κ κ' => run_congr body g g' dir y κ κ') f f' lo hi
        greedy first stop forward x k k' (by omega) (by omega) hx h
  | .lineStart, _ + 1, _ + 1, _, x, _, _, _, _, hx, h => by
    rw [run, run]
    split
    · exact h x (Ahead.refl hx)
    · rfl
  | .lineEnd, _ + 1, _ + 1, _, x, _, _, _, _, hx, h => by
    rw [run, run]
    split
    · exact h x (Ahead.refl hx)
    · rfl
  | .wordBoundary _, _ + 1, _ + 1, _, x, _, _, _, _, hx, h => by
    rw [run, run]
    split
    · exact h x (Ahead.refl hx)
    · rfl
  | .look ahead negated body, f + 1, f' + 1, forward, x, k, k', hf, hf', hx, h => by
    simp only [Node.need] at hf hf'
    rw [run, run]
    -- the body of a look-around finishes on its own; only its captures reach `k`
    rw [run_congr body f f' ahead x some some (by omega) (by omega) hx fun _ _ => rfl]
    split
    · split
      · rfl
      · exact h _ (Ahead.refl hx)
    · split
      · exact h x (Ahead.refl hx)
      · rfl
  | .backref i, _ + 1, _ + 1, forward, x, k, k', _, _, hx, h => by
    rw [run, run]
    split
    · exact h x (Ahead.refl hx)
    · -- a reference matches only text that fits between the position and the end it moves to
      cases forward with
      | true =>
        simp only [if_true]
        split
        · rename_i hfit
          simp only [Bool.and_eq_true, decide_eq_true_eq] at hfit
          exact h _ ⟨by simp, hfit.1⟩
        · rfl
      | false =>
        simp only [Bool.false_eq_true, if_false]
        split
        · exact h _ ⟨by simp, by simp only; omega⟩
        · rfl
  | .namedBackref _, _ + 1, _ + 1, _, x, _, _, _, _, hx, h => by
    rw [run, run]
    exact h x (Ahead.refl hx)

theorem runSeq_congr : (items : List Node) → (f f' : Nat) → (forward : Bool) → (x : MatchState) →
    (k k' : MatchState → Option MatchState) →
    Node.needAll input.size items ≤ f → Node.needAll input.size items ≤ f' → x.pos ≤ input.size →
    Agree input forward x k k' → runSeq input f items forward x k = runSeq input f' items forward x k'
  | items, 0, _, _, _, _, _, hf, _, _, _ =>
    absurd hf (by have := Node.needAll_pos input.size items; omega)
  | items, _ + 1, 0, _, _, _, _, _, hf', _, _ =>
    absurd hf' (by have := Node.needAll_pos input.size items; omega)
  | [], _ + 1, _ + 1, _, x, _, _, _, _, hx, h => h x (Ahead.refl hx)
  | n :: ns, f + 1, f' + 1, forward, x, k, k', hf, hf', hx, h => by
    simp only [Node.needAll] at hf hf'
    rw [runSeq, runSeq]
    cases forward with
    | true =>
      exact run_congr n f f' true x _ _ (by omega) (by omega) hx fun y hy =>
        runSeq_congr ns f f' true y k k' (by omega) (by omega) hy.2 (h.of_ahead hy)
    | false =>
      exact runSeq_congr ns f f' false x _ _ (by omega) (by omega) hx fun y hy =>
        run_congr n f f' false y k k' (by omega) (by omega) hy.2 (h.of_ahead hy)

theorem runAlt_congr : (choices : List Node) → (f f' : Nat) → (forward : Bool) →
    (x : MatchState) → (k k' : MatchState → Option MatchState) →
    Node.needAll input.size choices ≤ f → Node.needAll input.size choices ≤ f' →
    x.pos ≤ input.size → Agree input forward x k k' →
    runAlt input f choices forward x k = runAlt input f' choices forward x k'
  | choices, 0, _, _, _, _, _, hf, _, _, _ =>
    absurd hf (by have := Node.needAll_pos input.size choices; omega)
  | choices, _ + 1, 0, _, _, _, _, _, hf', _, _ =>
    absurd hf' (by have := Node.needAll_pos input.size choices; omega)
  | [], _ + 1, _ + 1, _, _, _, _, _, _, _, _ => rfl
  | n :: ns, f + 1, f' + 1, forward, x, k, k', hf, hf', hx, h => by
    simp only [Node.needAll] at hf hf'
    rw [runAlt, runAlt, run_congr n f f' forward x k k' (by omega) (by omega) hx h,
      runAlt_congr ns f f' forward x k k' (by omega) (by omega) hx h]

end

theorem searchFrom_congr (root : Node) (slots : Nat) {f f' : Nat}
    (hf : Node.need input.size root ≤ f) (hf' : Node.need input.size root ≤ f') :
    ∀ count i, i + count ≤ input.size + 1 →
      searchFrom input root f slots count i = searchFrom input root f' slots count i
  | 0, _, _ => rfl
  | count + 1, i, hi => by
    rw [searchFrom, searchFrom,
      run_congr root f f' true ⟨i, _⟩ some some hf hf' (show i ≤ input.size by omega) fun _ _ => rfl,
      searchFrom_congr root slots hf hf' count (i + 1) (by omega)]

end Fuel

/-- **A search has the fuel it needs.**  Searching a text with any fuel at least the pattern's need
finds what `search` finds: the fuel `search` gives is at least that need, and more fuel than the
need changes nothing. -/
theorem search_eq_searchFrom (p : Pattern) (text : Text) {fuel : Nat}
    (h : Node.need text.length p.root ≤ fuel) :
    p.search text = searchFrom text.toArray p.root fuel (p.captureCount + 1) (text.length + 1) 0 := by
  have hsize : text.toArray.size = text.length := List.size_toArray
  -- the need is at most `(length + 3) × weight`, well within what `search` gives
  have hneed := Node.need_le text.length p.root
  have hgiven : Node.need text.length p.root ≤ (text.length + 1) * (p.root.weight + 1) * 4 := by
    have hscale : (text.length + 3) * p.root.weight ≤ (text.length + 1) * (p.root.weight + 1) * 4 := by
      rw [Nat.mul_assoc, Nat.mul_comm (p.root.weight + 1) 4, ← Nat.mul_assoc]
      apply Nat.mul_le_mul (by omega) (Nat.le_succ _)
    omega
  unfold search
  dsimp only
  rw [hsize]
  apply searchFrom_congr p.root (p.captureCount + 1) (hsize ▸ hgiven) (hsize ▸ h)
  rw [hsize]
  omega

end Pattern

end LogRouter
