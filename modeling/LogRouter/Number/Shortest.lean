import LogRouter.Number.Double
import LogRouter.Text.Basic

/-!
The shortest decimal text of a binary64 number.

A finite nonzero value `m × 2^q` is written with the fewest significant digits whose decimal value
rounds back to it; of two such decimals with that many digits the nearer wins, and of two equally
near the one with the even last digit.  The decimals that round back form the interval from the
midpoint with the predecessor to the midpoint with the successor, both ends included exactly when
`m` is even (a tie rounds to the even significand).

The value has a finite decimal expansion `N × 10^E`, so the search is over natural numbers: at
`k` digits the two candidates are `N` cut to `k` digits and that plus one, and at `k = digits N`
the value itself is a candidate.  All quantities are measured in units of `10^(E - 2)`, where the
interval's ends are whole numbers too.

`Double.toText` lays the digits out: positional from `10^-6` up to below `10^21`, otherwise one
digit, a point, the rest and an exponent with its sign.
-/

namespace LogRouter

namespace Double

/-- The exact decimal expansion `N × 10^E` of `m × 2^q`. -/
def expansion (m : Nat) (q : Int) : Nat × Int :=
  if q ≥ 0 then (m * Nat.pow 2 q.toNat, 0) else (m * Nat.pow 5 (-q).toNat, q)

/-- The half gaps to the successor and to the predecessor, in units of `10^(E - 2)`. The gap below
is half as wide at the bottom of a binade, except at the smallest normal exponent. -/
def halfGaps (m : Nat) (q : Int) : Nat × Nat :=
  let up := if q ≥ 0 then Nat.pow 2 (q + 1).toNat * 25 else 2 * Nat.pow 5 (2 - q).toNat
  let lowerCloser := m = Nat.pow 2 52 ∧ q > -1074
  (up, if lowerCloser then up / 2 else up)

/-- The `k`-digit decimal chosen for `m × 2^q`, as a digit value and its power of ten, if one of
the two candidates rounds back. -/
def candidateAt (m : Nat) (q : Int) (k : Nat) : Option (Nat × Int) :=
  let (n, e) := expansion m q
  let d := decimalLength n
  let r := Nat.pow 10 (d - k)
  let s := n / r
  let (up, down) := halfGaps m q
  let v := 100 * n
  let inside : Nat → Bool := fun c =>
    if m % 2 = 0 then v ≤ c + down && c ≤ v + up else v < c + down && c < v + up
  let loIn := inside (100 * (s * r))
  let hiIn := inside (100 * ((s + 1) * r))
  let x : Int := e + ((d - k : Nat) : Int)
  if loIn && hiIn then
    let dLo := n - s * r
    let dHi := (s + 1) * r - n
    if dLo < dHi then some (s, x)
    else if dHi < dLo then some (s + 1, x)
    else some (if s % 2 = 0 then s else s + 1, x)
  else if loIn then some (s, x)
  else if hiIn then some (s + 1, x)
  else none

/-- Drops the trailing zeros of a digit value, raising its power of ten. -/
def stripZeros (s : Nat) (x : Int) (fuel : Nat) : Nat × Int :=
  match fuel with
  | 0 => (s, x)
  | fuel + 1 => if s ≠ 0 ∧ s % 10 = 0 then stripZeros (s / 10) (x + 1) fuel else (s, x)

/-- The shortest digits of `m × 2^q` (for `m > 0`): a digit value with no trailing zero and its
power of ten. -/
def shortestDigits (m : Nat) (q : Int) : Nat × Int :=
  let (n, e) := expansion m q
  let d := decimalLength n
  match (List.range' 1 d).findSome? (candidateAt m q) with
  | some (s, x) => stripZeros s x (decimalLength s)
  | none => stripZeros n e d

/-- `c` repeated `n` times, as text. -/
def repeatUnit (c : UInt16) (n : Nat) : Text := List.replicate n c

/-- Lays out the digits `ds` of a value `0.ds × 10^n`: positional for `-6 < n ≤ 21`, else with an
exponent. -/
def layout (ds : Text) (n : Int) : Text :=
  let k : Int := ds.length
  if k ≤ n ∧ n ≤ 21 then ds ++ repeatUnit 0x30 (n - k).toNat
  else if 0 < n ∧ n ≤ 21 then ds.take n.toNat ++ [0x2E] ++ ds.drop n.toNat
  else if -6 < n ∧ n ≤ 0 then Text.ofString "0." ++ repeatUnit 0x30 (-n).toNat ++ ds
  else
    let e := n - 1
    let sign : Text := if e ≥ 0 then Text.ofString "+" else Text.ofString "-"
    let mant := match ds with
      | [] => []
      | [d] => [d]
      | d :: rest => d :: 0x2E :: rest
    mant ++ [0x65] ++ sign ++ Text.ofNat e.natAbs

/-- The decimal text of a number: `NaN`, `Infinity`, `-Infinity`, `0` for either zero, else the
shortest digits that round back, laid out by `layout`. -/
def toText (x : Double) : Text :=
  match x.shape with
  | .nan => Text.ofString "NaN"
  | .infinite neg => Text.ofString (if neg then "-Infinity" else "Infinity")
  | .finite neg m q =>
    if m = 0 then Text.ofString "0"
    else
      let (s, e) := shortestDigits m q
      let ds := Text.ofNat s
      let body := layout ds (e + ds.length)
      if neg then [0x2D] ++ body else body

end Double

end LogRouter
