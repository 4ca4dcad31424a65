import LogRouter.Pattern.Parse

/-!
Matching a regular expression.

Matching backtracks over the UTF-16 units of the text, as the pattern language defines it: each
node is matched with a continuation that receives the state after it and either finishes the
match or fails, in which case the node tries its next way of matching.  Alternatives are tried
left to right; a greedy repetition tries one more round before stopping, a lazy one stops first.
A round that could stop may not end where it started, and each round forgets what the captures
inside it held before.  Look-arounds are atomic: once their body has matched, no other way of
matching it is tried.  A look-behind matches its body backwards, right to left, ending where it
stands.  A back reference to a capture that took no part matches the empty text.

A repetition of one unit (a letter, a class, `.`) is matched by counting the run of units it may
take and trying the counts in order, which needs no nesting per unit.  The search tries each
start position from the left; the first that matches wins.  The nesting of the matcher is bounded
by fuel, more than the text and the pattern can need.
-/

namespace LogRouter

/-- Where a match attempt stands: the position in the text and the span each capture holds. -/
structure MatchState where
  pos : Nat
  captures : Array (Option (Nat × Nat))

/-- A match found by a search: where it starts, where it ends, and the span of each capture that
took part (by number; the first entry is unused). -/
structure PatternMatch where
  start : Nat
  stop : Nat
  captures : Array (Option (Nat × Nat))

namespace ClassItem

/-- Whether a unit is in the class of a class escape. -/
def escapeHolds (kind : Char) (u : UInt16) : Bool :=
  if kind = 'd' then Text.isDigit u
  else if kind = 's' then Text.isBlank u
  else Text.isWordUnit u

/-- Whether a unit belongs to a class item. -/
def contains (u : UInt16) : ClassItem → Bool
  | .unit c => u == c
  | .range lo hi => lo ≤ u && u ≤ hi
  | .escape kind negated => escapeHolds kind u != negated

end ClassItem

namespace Node

/-- Whether a unit is a line terminator, which `.` does not match. -/
def isLineTerminator (u : UInt16) : Bool := u == 0x0A || u == 0x0D || u == 0x2028 || u == 0x2029

/-- The test of a node that matches exactly one unit. -/
def unitTest? : Node → Option (UInt16 → Bool)
  | .unit c => some (· == c)
  | .anyButNewline => some (fun u => !isLineTerminator u)
  | .set negated items => some (fun u => items.any (·.contains u) != negated)
  | _ => none

mutual
/-- A bound on the steps of matching a node at one position: repetitions count once per
required round. -/
def weight : Node → Nat
  | .seq items => 1 + weightAll items
  | .alt choices => 1 + weightAll choices
  | .capture _ body => 1 + body.weight
  | .repeat lo _ _ _ _ body => 1 + (body.weight + 1) * (lo + 2)
  | .look _ _ body => 1 + body.weight
  | _ => 1

/-- The weights of a list of nodes, added. -/
def weightAll : List Node → Nat
  | [] => 0
  | n :: ns => n.weight + weightAll ns
end

end Node

namespace Pattern

/-- The unit next to a position in the direction of matching. -/
def unitAt? (input : Array UInt16) (forward : Bool) (pos : Nat) : Option UInt16 :=
  if forward then input[pos]? else if pos = 0 then none else input[pos - 1]?

/-- The position `n` units further in the direction of matching. -/
def advance (forward : Bool) (pos n : Nat) : Nat := if forward then pos + n else pos - n

/-- Matches one unit that passes `t`, then goes on with `k`. -/
def step (input : Array UInt16) (forward : Bool) (t : UInt16 → Bool) (x : MatchState)
    (k : MatchState → Option MatchState) : Option MatchState :=
  match unitAt? input forward x.pos with
  | some u => if t u then k { x with pos := advance forward x.pos 1 } else none
  | none => none

/-- The length, up to `limit`, of the run of units from `pos` that pass `t`, added to `n`. -/
def countRun (input : Array UInt16) (t : UInt16 → Bool) (forward : Bool) : Nat → Nat → Nat → Nat
  | 0, _, n => n
  | limit + 1, pos, n =>
    match unitAt? input forward pos with
    | some u => if t u then countRun input t forward limit (advance forward pos 1) (n + 1) else n
    | none => n

/-- A repetition of a one-unit test: the counts from the longest run down (greedy) or from the
least up (lazy) are tried in turn with `k`. -/
def repeatUnits (input : Array UInt16) (t : UInt16 → Bool) (lo : Nat) (hi : Option Nat)
    (greedy forward : Bool) (x : MatchState) (k : MatchState → Option MatchState) :
    Option MatchState :=
  let n := countRun input t forward (min (hi.getD input.size) input.size) x.pos 0
  if n < lo then none
  else
    let counts := List.range (n + 1 - lo)
    let after (j : Nat) := k { x with pos := advance forward x.pos j }
    if greedy then counts.findSome? (fun i => after (n - i)) else counts.findSome? (fun i => after (lo + i))

/-- Forgets the spans of the captures numbered from `first` up to but not including `stop`. -/
def clearCaptures (caps : Array (Option (Nat × Nat))) (first stop : Nat) : Array (Option (Nat × Nat)) :=
  (List.range (stop - first)).foldl (fun c j => c.setIfInBounds (first + j) none) caps

/-- Whether the units from `a` and from `b` agree for `len` units. -/
def sameUnits (input : Array UInt16) (a b len : Nat) : Bool :=
  (List.range len).all fun j => input[a + j]? == input[b + j]?

/-- Whether the unit at a position is a word unit; the ends of the text are not. -/
def wordAt (input : Array UInt16) (pos : Nat) : Bool := (input[pos]?.map Text.isWordUnit).getD false

mutual
/-- Matches a node from `x` in the direction of matching, then goes on with `k`. -/
def run (input : Array UInt16) : Nat → Node → Bool → MatchState → (MatchState → Option MatchState) →
    Option MatchState
  | 0, _, _, _, _ => none
  | fuel + 1, node, forward, x, k =>
    match node with
    | .empty => k x
    | .unit c => step input forward (· == c) x k
    | .anyButNewline => step input forward (fun u => !Node.isLineTerminator u) x k
    | .set negated items => step input forward (fun u => items.any (·.contains u) != negated) x k
    | .seq items => runSeq input fuel items forward x k
    | .alt choices => runAlt input fuel choices forward x k
    | .capture i body =>
      run input fuel body forward x fun y =>
        let span := if forward then (x.pos, y.pos) else (y.pos, x.pos)
        k { y with captures := y.captures.setIfInBounds i (some span) }
    | .repeat lo hi greedy first stop body =>
      match body.unitTest? with
      | some t => repeatUnits input t lo hi greedy forward x k
      | none => runRepeat input fuel lo hi greedy first stop body forward x k
    | .lineStart => if x.pos = 0 then k x else none
    | .lineEnd => if x.pos = input.size then k x else none
    | .wordBoundary negated =>
      let before := x.pos > 0 && wordAt input (x.pos - 1)
      if (before != wordAt input x.pos) != negated then k x else none
    | .look ahead negated body =>
      match run input fuel body ahead x some with
      | some y => if negated then none else k { x with captures := y.captures }
      | none => if negated then k x else none
    | .backref i =>
      match x.captures[i]?.join with
      | none => k x
      | some (s, e) =>
        let len := e - s
        if forward then
          if x.pos + len ≤ input.size && sameUnits input s x.pos len then k { x with pos := x.pos + len }
          else none
        else
          if len ≤ x.pos && sameUnits input s (x.pos - len) len then k { x with pos := x.pos - len }
          else none
    | .namedBackref _ => k x

/-- Matches the nodes of a sequence in the direction of matching: left to right forwards, right
to left backwards. -/
def runSeq (input : Array UInt16) : Nat → List Node → Bool → MatchState →
    (MatchState → Option MatchState) → Option MatchState
  | 0, _, _, _, _ => none
  | _ + 1, [], _, x, k => k x
  | fuel + 1, n :: ns, forward, x, k =>
    if forward then run input fuel n forward x fun y => runSeq input fuel ns forward y k
    else runSeq input fuel ns forward x fun y => run input fuel n forward y k

/-- Tries the alternatives in order; the first that leads to a match wins. -/
def runAlt (input : Array UInt16) : Nat → List Node → Bool → MatchState →
    (MatchState → Option MatchState) → Option MatchState
  | 0, _, _, _, _ => none
  | _ + 1, [], _, _, _ => none
  | fuel + 1, n :: ns, forward, x, k =>
    match run input fuel n forward x k with
    | some y => some y
    | none => runAlt input fuel ns forward x k

/-- A repetition of at least `lo` and at most `hi` rounds from `x`.  A round starts with the
captures inside the body forgotten; a round that could be left out may not end where it began. -/
def runRepeat (input : Array UInt16) : Nat → Nat → Option Nat → Bool → Nat → Nat → Node → Bool →
    MatchState → (MatchState → Option MatchState) → Option MatchState
  | 0, _, _, _, _, _, _, _, _, _ => none
  | fuel + 1, lo, hi, greedy, first, stop, body, forward, x, k =>
    if hi == some 0 then k x
    else
      let next (y : MatchState) : Option MatchState :=
        if lo = 0 && y.pos = x.pos then none
        else runRepeat input fuel (lo - 1) (hi.map (· - 1)) greedy first stop body forward y k
      let fresh := { x with captures := clearCaptures x.captures first stop }
      if lo ≠ 0 then run input fuel body forward fresh next
      else if greedy then
        match run input fuel body forward fresh next with
        | some z => some z
        | none => k x
      else
        match k x with
        | some z => some z
        | none => run input fuel body forward fresh next
end

/-- Tries each start position from `i` on, `count` of them, and gives the first match. -/
def searchFrom (input : Array UInt16) (root : Node) (fuel slots : Nat) : Nat → Nat → Option PatternMatch
  | 0, _ => none
  | count + 1, i =>
    match run input fuel root true ⟨i, Array.replicate slots none⟩ some with
    | some y => some ⟨i, y.pos, y.captures⟩
    | none => searchFrom input root fuel slots count (i + 1)

end Pattern

namespace Pattern

/-- The first match of a pattern in a text, searching from the left. -/
def search (p : Pattern) (text : Text) : Option PatternMatch :=
  let input := text.toArray
  let fuel := (input.size + 1) * (p.root.weight + 1) * 4
  searchFrom input p.root fuel (p.captureCount + 1) (input.size + 1) 0

/-- The named captures that took part in a match, in the order of their numbers, with the text
each one took. -/
def namedSpans (p : Pattern) (text : Text) (m : PatternMatch) : List (Text × Text) :=
  p.names.filterMap fun (name, i) =>
    (m.captures[i]?.join).map fun (s, e) => (name, (text.drop s).take (e - s))

end Pattern

end LogRouter
