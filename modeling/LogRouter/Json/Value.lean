import LogRouter.Number.Double
import LogRouter.Text.Basic

/-!
JSON values with ordered members.

An object is the list of its members in enumeration order.  That order is part of every text this
library writes, so it is fixed by one rule, `Members.set`: a key that is already present keeps its
place and takes the new value; a new key that is an array index (the decimal text of a number below
`2^32 - 1`, without leading zeros) goes among the index keys in ascending order, in front of all
other keys; any other new key goes last.  Building an object member by member with `set` therefore
lists the index keys first, ascending, and then the other keys in the order they were first set.
-/

namespace LogRouter

/-- A JSON value; an object lists its members in enumeration order. -/
inductive Json where
  | null
  | bool (b : Bool)
  | num (x : Double)
  | str (s : Text)
  | arr (items : List Json)
  | obj (members : List (Text × Json))
deriving Inhabited

namespace Text

/-- The number an array-index key stands for: the decimal text of a number below `2^32 - 1`,
with no leading zero unless it is `0` itself. -/
def arrayIndex? (k : Text) : Option Nat :=
  match k with
  | [] => none
  | [0x30] => some 0
  | 0x30 :: _ => none
  | _ =>
    if k.all isDigit ∧ k.length ≤ 10 then
      let v := k.foldl (fun acc u => acc * 10 + digitValue u) 0
      if v < 4294967295 then some v else none
    else none

end Text

/-- The members of an object, in enumeration order. -/
abbrev Members := List (Text × Json)

namespace Members

/-- The value under a key. -/
def get? (ms : Members) (k : Text) : Option Json := ms.lookup k

/-- Whether a key is present. -/
def contains (ms : Members) (k : Text) : Bool := ms.any (·.1 == k)

/-- The keys, in enumeration order. -/
def keys (ms : Members) : List Text := ms.map (·.1)

/-- Whether a new index key `i` goes in front of a member with key `k`. -/
def goesBefore (i : Nat) (k : Text) : Bool :=
  match Text.arrayIndex? k with
  | some j => i < j
  | none => true

/-- Puts a new index key in front of the first member it goes before. -/
def insertIndex (i : Nat) (k : Text) (v : Json) : Members → Members
  | [] => [(k, v)]
  | m :: rest => if goesBefore i m.1 then (k, v) :: m :: rest else m :: insertIndex i k v rest

/-- Replaces the value under a key that is present, keeping its place. -/
def replace (k : Text) (v : Json) : Members → Members
  | [] => []
  | m :: rest => if m.1 == k then (k, v) :: rest else m :: replace k v rest

/-- Sets a key: a present key keeps its place, a new index key goes among the index keys in
ascending order, any other new key goes last. -/
def set (ms : Members) (k : Text) (v : Json) : Members :=
  if Members.contains ms k then replace k v ms
  else match Text.arrayIndex? k with
    | some i => insertIndex i k v ms
    | none => ms ++ [(k, v)]

/-- An object built by setting each pair in turn. -/
def ofPairs (ps : List (Text × Json)) : Members := ps.foldl (fun ms p => Members.set ms p.1 p.2) []

end Members

namespace Json

/-- Whether a value is an object (not an array, not null). -/
def isObject : Json → Bool
  | .obj _ => true
  | _ => false

/-- The value under a key of an object. -/
def get? : Json → Text → Option Json
  | .obj ms, k => Members.get? ms k
  | _, _ => none

/-- A string value from a string. -/
def ofString (s : String) : Json := .str (Text.ofString s)

/-- A number value from a natural number. -/
def ofNat (n : Nat) : Json := .num (Double.ofNat n)

/-- An object from pairs whose keys are strings, set in order. -/
def object (ps : List (String × Json)) : Json :=
  .obj (Members.ofPairs (ps.map fun p => (Text.ofString p.1, p.2)))

end Json

end LogRouter
