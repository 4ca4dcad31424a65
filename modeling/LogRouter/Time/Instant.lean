import LogRouter.Number.Double
import LogRouter.Text.Basic

/-!
Instants and their ISO 8601 text.

An instant is a whole number of milliseconds since 1970-01-01T00:00:00Z, at most `8.64 × 10^15`
away from it either way.  The calendar is the proleptic Gregorian one, computed from days with
floor division, so the years before 1 and after 9999 come out right too; those are written with a
sign and six digits.

An instant is made from a number by cutting the fraction toward zero; reading one from text is
in `LogRouter.Time.Reading`.
-/

namespace LogRouter

/-- A moment in time, in milliseconds since the epoch. -/
structure Instant where
  millis : Int
deriving DecidableEq, Inhabited

namespace Instant

/-- The largest distance from the epoch, in milliseconds. -/
def limit : Int := 8640000000000000

/-- Milliseconds in a day. -/
def msPerDay : Int := 86400000

/-- The instant at a number of milliseconds, if it is in range. -/
def ofMillis? (ms : Int) : Option Instant :=
  if ms.natAbs ≤ limit.natAbs then some ⟨ms⟩ else none

/-- The instant a number stands for, its fraction cut toward zero; `none` if it is not finite or
out of range. -/
def ofDouble? (x : Double) : Option Instant :=
  match x.compare? (Double.ofInt limit), x.compare? (Double.ofInt (-limit)) with
  | some .gt, _ => none
  | _, some .lt => none
  | _, _ => x.truncate?.bind ofMillis?

/-- The civil date `(year, month, day)` of a day number counted from 1970-01-01. -/
def civilOfDays (days : Int) : Int × Nat × Nat :=
  let z := days + 719468
  let era := z / 146097
  let doe := z - era * 146097
  let yoe := (doe - doe / 1460 + doe / 36524 - doe / 146096) / 365
  let doy := doe - (365 * yoe + yoe / 4 - yoe / 100)
  let mp := (5 * doy + 2) / 153
  let d := doy - (153 * mp + 2) / 5 + 1
  let m := if mp < 10 then mp + 3 else mp - 9
  let y := yoe + era * 400 + (if m ≤ 2 then 1 else 0)
  (y, m.toNat, d.toNat)

/-- The day number, counted from 1970-01-01, of a civil date. -/
def daysOfCivil (y : Int) (m d : Nat) : Int :=
  let y := if m ≤ 2 then y - 1 else y
  let era := y / 400
  let yoe := y - era * 400
  let mp : Int := if m > 2 then (m : Int) - 3 else (m : Int) + 9
  let doy := (153 * mp + 2) / 5 + (d : Int) - 1
  let doe := yoe * 365 + yoe / 4 - yoe / 100 + doy
  era * 146097 + doe - 719468

/-- A number written with at least `width` digits, zeros in front. -/
def padded (width : Nat) (n : Nat) : Text :=
  let ds := Text.ofNat n
  List.replicate (width - ds.length) 0x30 ++ ds

/-- The year as written: four digits from 0 to 9999, else a sign and six digits. -/
def yearText (y : Int) : Text :=
  if 0 ≤ y ∧ y ≤ 9999 then padded 4 y.toNat
  else (if y < 0 then [0x2D] else [0x2B]) ++ padded 6 y.natAbs

/-- The date and time to the second, `YYYY-MM-DDTHH:mm:ssZ`, in UTC. -/
def secondsText (i : Instant) : Text :=
  let days := i.millis / msPerDay
  let inDay := (i.millis % msPerDay).toNat
  let (y, m, d) := civilOfDays days
  let secs := inDay / 1000
  yearText y ++ [0x2D] ++ padded 2 m ++ [0x2D] ++ padded 2 d ++ [0x54] ++
    padded 2 (secs / 3600) ++ [0x3A] ++ padded 2 (secs / 60 % 60) ++ [0x3A] ++ padded 2 (secs % 60) ++
    [0x5A]

end Instant

end LogRouter
