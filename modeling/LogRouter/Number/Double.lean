/-!
Binary64 numbers, kept as their 64 bits.

Every number this library reads, compares or writes is an IEEE 754 binary64 value.  The value is
held as its bit pattern, so that reading and writing are total functions of natural numbers that a
proof can follow: `shape` splits the bits into sign, significand and binary exponent, and
`ofRatio` rounds a positive fraction to the nearest value, a tie going to the even significand.
`ofDecimal` is `ofRatio` on `m × 10^e`, with the two ends cut off early: beyond `10^310` every
value overflows and below `10^-330` every value is zero.

Comparison and the integer tests work on `shape`, exactly: no rounding happens outside `ofRatio`.
-/

namespace LogRouter

/-- A binary64 floating-point number, kept as its bit pattern. -/
structure Double where
  bits : UInt64
deriving DecidableEq, Inhabited, Hashable

namespace Double

/-- What a bit pattern stands for: not a number, an infinity, or `(-1)^neg × m × 2^q`. -/
inductive Shape
  | nan
  | infinite (neg : Bool)
  | finite (neg : Bool) (m : Nat) (q : Int)
deriving DecidableEq, Inhabited

/-- Whether the sign bit is set. -/
def signBit (x : Double) : Bool := (x.bits >>> 63) == 1

/-- The eleven exponent bits. -/
def exponentField (x : Double) : Nat := ((x.bits >>> 52) &&& 0x7FF).toNat

/-- The fifty-two fraction bits. -/
def fractionField (x : Double) : Nat := (x.bits &&& 0xFFFFFFFFFFFFF).toNat

/-- The value a bit pattern stands for. Subnormal numbers have exponent `-1074`; a normal number
carries its hidden bit in the significand. -/
def shape (x : Double) : Shape :=
  let e := x.exponentField
  let f := x.fractionField
  if e = 0x7FF then (if f = 0 then .infinite x.signBit else .nan)
  else if e = 0 then .finite x.signBit f (-1074)
  else .finite x.signBit (f + Nat.pow 2 52) ((e : Int) - 1075)

/-- The quiet not-a-number. -/
def nan : Double := ⟨0x7FF8000000000000⟩

/-- Positive infinity. -/
def infinity : Double := ⟨0x7FF0000000000000⟩

/-- Negative infinity. -/
def negInfinity : Double := ⟨0xFFF0000000000000⟩

/-- Positive zero. -/
def zero : Double := ⟨0⟩

/-- Negative zero. -/
def negZero : Double := ⟨0x8000000000000000⟩

/-- The same magnitude with the other sign. -/
def negate (x : Double) : Double := ⟨x.bits ^^^ 0x8000000000000000⟩

/-- Whether a value is not a number. -/
def isNaN (x : Double) : Bool := x.shape matches .nan

/-- Whether a value is neither infinite nor not a number. -/
def isFinite (x : Double) : Bool := x.shape matches .finite ..

/-- Whether a value is a zero of either sign. -/
def isZero (x : Double) : Bool :=
  match x.shape with
  | .finite _ m _ => m == 0
  | _ => false

/-! ### Rounding a fraction -/

/-- The significand and exponent of the nearest value to `p / q` when it is normal, before the
range checks: `2^52 ≤ p / (q × 2^k) < 2^53` fixes `k`, and below `-1074` the exponent is held at
`-1074`, which makes the significand subnormal. -/
def scaleOf (p q : Nat) : Int :=
  let k0 : Int := (Nat.log2 p : Int) - (Nat.log2 q : Int) - 52
  let below : Bool :=
    if k0 ≥ 0 then p < Nat.pow 2 52 * (q * Nat.pow 2 k0.toNat) else p * Nat.pow 2 (-k0).toNat < Nat.pow 2 52 * q
  let k := if below then k0 - 1 else k0
  if k < -1074 then -1074 else k

/-- The quotient and remainder of `p / (q × 2^k)`, written as a fraction of natural numbers. -/
def divScaled (p q : Nat) (k : Int) : Nat × Nat × Nat :=
  if k ≥ 0 then (p / (q * Nat.pow 2 k.toNat), p % (q * Nat.pow 2 k.toNat), q * Nat.pow 2 k.toNat)
  else ((p * Nat.pow 2 (-k).toNat) / q, (p * Nat.pow 2 (-k).toNat) % q, q)

/-- The nearest binary64 value to `p / q`, ties to the even significand, with the sign `neg`.
Values at or above `2^1024` after rounding become infinite. -/
def ofRatio (neg : Bool) (p q : Nat) : Double :=
  let signed : UInt64 → Double := fun b => ⟨if neg then b ||| 0x8000000000000000 else b⟩
  if p = 0 ∨ q = 0 then signed 0
  else
    let k := scaleOf p q
    let (sig, rem, den) := divScaled p q k
    let up := 2 * rem > den || (2 * rem == den && sig % 2 == 1)
    let sig := if up then sig + 1 else sig
    let (sig, k) := if sig = Nat.pow 2 53 then (Nat.pow 2 52, k + 1) else (sig, k)
    if sig < Nat.pow 2 52 then signed (UInt64.ofNat sig)
    else
      let e := k + 1075
      if e ≥ 2047 then signed 0x7FF0000000000000
      else signed (UInt64.ofNat (e.toNat * Nat.pow 2 52 + (sig - Nat.pow 2 52)))

/-- Number of decimal digits of a positive number. -/
def decimalLength (n : Nat) : Nat := (Nat.repr n).length

/-- The nearest binary64 value to `m × 10^e`, with the sign `neg`. -/
def ofDecimal (neg : Bool) (m : Nat) (e : Int) : Double :=
  if m = 0 then (if neg then negZero else zero)
  else
    let d : Int := decimalLength m
    if d + e > 310 then (if neg then negInfinity else infinity)
    else if d + e < -330 then (if neg then negZero else zero)
    else if e ≥ 0 then ofRatio neg (m * Nat.pow 10 e.toNat) 1
    else ofRatio neg m (Nat.pow 10 (-e).toNat)

/-- The nearest binary64 value to a natural number. -/
def ofNat (n : Nat) : Double := ofDecimal false n 0

/-- The nearest binary64 value to an integer. -/
def ofInt (n : Int) : Double := ofDecimal (n < 0) n.natAbs 0

/-! ### Comparison -/

/-- Compares two magnitudes `a × 2^qa` and `b × 2^qb` exactly. -/
def compareScaled (a : Nat) (qa : Int) (b : Nat) (qb : Int) : Ordering :=
  let lo := min qa qb
  compare (a * Nat.pow 2 (qa - lo).toNat) (b * Nat.pow 2 (qb - lo).toNat)

/-- The order of two numbers, `none` when either is not a number; the two zeros are equal. -/
def compare? (x y : Double) : Option Ordering :=
  match x.shape, y.shape with
  | .nan, _ => none
  | _, .nan => none
  | .infinite a, .infinite b =>
    some (if a == b then .eq else if a then .lt else .gt)
  | .infinite a, .finite .. => some (if a then .lt else .gt)
  | .finite .., .infinite b => some (if b then .gt else .lt)
  | .finite sa ma qa, .finite sb mb qb =>
    if ma = 0 ∧ mb = 0 then some .eq
    else if ma = 0 then some (if sb then .gt else .lt)
    else if mb = 0 then some (if sa then .lt else .gt)
    else if sa ≠ sb then some (if sa then .lt else .gt)
    else
      let o := compareScaled ma qa mb qb
      some (if sa then o.swap else o)

/-- `x < y`, false when either is not a number. -/
def lt (x y : Double) : Bool := x.compare? y == some .lt

/-- `x ≤ y`, false when either is not a number. -/
def le (x y : Double) : Bool := x.compare? y == some .lt || x.compare? y == some .eq

/-- Numeric equality: the two zeros are equal and not-a-number equals nothing. -/
def numEq (x y : Double) : Bool := x.compare? y == some .eq

/-! ### Integers -/

/-- The integer a finite value stands for, when it has no fractional part. -/
def toInt? (x : Double) : Option Int :=
  match x.shape with
  | .finite neg m q =>
    if q ≥ 0 then
      let n : Int := (m * Nat.pow 2 q.toNat : Nat)
      some (if neg then -n else n)
    else if m % Nat.pow 2 (-q).toNat = 0 then
      let n : Int := (m / Nat.pow 2 (-q).toNat : Nat)
      some (if neg then -n else n)
    else none
  | _ => none

/-- Whether a value is finite with no fractional part. -/
def isInteger (x : Double) : Bool := x.toInt?.isSome

/-- The integer part of a finite value, rounded toward zero. -/
def truncate? (x : Double) : Option Int :=
  match x.shape with
  | .finite neg m q =>
    let n : Int := if q ≥ 0 then (m * Nat.pow 2 q.toNat : Nat) else (m / Nat.pow 2 (-q).toNat : Nat)
    some (if neg then -n else n)
  | _ => none

end Double

end LogRouter
