import LogRouter.Time.Instant

/-!
Reading instants from text.

A date text is read in two passes over its tokens.  The first takes the date-time form
`YYYY-MM-DDTHH:mm:ss.sssZ` as far as it goes: a year of four digits or a sign and six, then
optionally a month and a day of two digits, then optionally `T`, the time and an offset (`Z`,
`±HH:mm` or `±HHmm`).  A text that is wholly of this form is a date-time; once its `T` is read,
anything wrong refuses the whole text.  A date alone, or a date-time without an offset, is
taken as UTC.

Where the form stops, the second pass reads the rest loosely, as mail and log dates are
written: numbers followed by `:` are hours and minutes, other numbers are parts of the date,
words name months (by their first three letters), `am`/`pm`, or zones (`UTC`, `GMT`, `EST`, ...),
a sign after a time or a zone starts an offset, and text in parentheses is skipped.  Up to three
date numbers are read as year-month-day when the first cannot be a day, else as month-day-year;
a month given by name takes the numbers as day and year.  A two-digit year is in 1950 to 2049,
a missing one is 2001.  Any word before the first number is ignored; after it, an unknown word
refuses the text.  Local times are taken as UTC.

A day past the end of its month runs on into the next.  Only instants within `8.64 × 10^15`
milliseconds of the epoch are kept.  A unit 0 ends the text.
-/

namespace LogRouter

/-- What a word of a date text means, read off its first three letters. -/
inductive DateWord where
  | month (n : Nat)
  | meridiem (hours : Nat)
  | zone (hours : Int)
  | timeMark
  | unknown
deriving DecidableEq, Inhabited

/-- A token of a date text. -/
inductive DateToken where
  /-- A run of digits: its value (leading zeros skipped, nine digits at most counted) and its
  width. -/
  | number (value width : Nat)
  /-- One of `:`, `-`, `+`, `.` and `)`. -/
  | symbol (u : UInt16)
  /-- A run of units from `A` up that are not white space. -/
  | word (meaning : DateWord) (width : Nat)
  | blank
  | other
deriving DecidableEq, Inhabited

namespace DateToken

/-- The words a date may use: prefixes of at most three letters and their meanings. -/
def keywords : List (String × DateWord) :=
  [("jan", .month 1), ("feb", .month 2), ("mar", .month 3), ("apr", .month 4), ("may", .month 5),
   ("jun", .month 6), ("jul", .month 7), ("aug", .month 8), ("sep", .month 9), ("oct", .month 10),
   ("nov", .month 11), ("dec", .month 12), ("am", .meridiem 0), ("pm", .meridiem 12),
   ("ut", .zone 0), ("utc", .zone 0), ("z", .zone 0), ("gmt", .zone 0), ("cdt", .zone (-5)),
   ("cst", .zone (-6)), ("edt", .zone (-4)), ("est", .zone (-5)), ("mdt", .zone (-6)),
   ("mst", .zone (-7)), ("pdt", .zone (-7)), ("pst", .zone (-8)), ("t", .timeMark)]

/-- The first three units of a word in lower case, padded with zeros. -/
def prefixOf (w : Text) : List UInt16 :=
  let p := (w.take 3).map (· ||| 0x20)
  p ++ List.replicate (3 - p.length) 0

/-- What a word means: the first keyword with its prefix, where only a month may be longer. -/
def meaningOf (w : Text) : DateWord :=
  let p := prefixOf w
  let fits (k : String × DateWord) : Bool :=
    prefixOf (Text.ofString k.1) == p &&
      (w.length ≤ 3 || match k.2 with | .month _ => true | _ => false)
  match keywords.find? fits with
  | some k => k.2
  | none => .unknown

/-- Whether a unit belongs to a word: from `A` up, and not white space (line terminators are not
white space). -/
def isWordUnit (u : UInt16) : Bool :=
  0x41 ≤ u.toNat && (!Text.isBlank u || u = 0x2028 || u = 0x2029)

/-- The number token of a run of digits. -/
def numberOf (ds : Text) : DateToken :=
  let significant := (ds.dropWhile (· = 0x30)).take 9
  .number (significant.foldl (fun acc u => acc * 10 + Text.digitValue u) 0) ds.length

/-- The depth of parentheses after a unit. -/
def nestingAfter (u : UInt16) (depth : Nat) : Nat :=
  if u = 0x29 then depth - 1 else if u = 0x28 then depth + 1 else depth

/-- Skips a parenthesized group whose opening is already read, nested groups included: the text
after the parenthesis that closes it, or nothing. -/
def skipGroup : Nat → Text → Text
  | _, [] => []
  | depth, u :: rest =>
    let depth := nestingAfter u depth
    if depth = 0 then rest else skipGroup depth rest

theorem length_skipGroup_le (depth : Nat) (t : Text) : (skipGroup depth t).length ≤ t.length := by
  induction t generalizing depth with
  | nil => simp [skipGroup]
  | cons u rest ih =>
    simp only [skipGroup]
    split
    · exact Nat.le_succ _
    · exact Nat.le_succ_of_le (ih _)

theorem length_dropWhile_le (p : UInt16 → Bool) (t : Text) : (t.dropWhile p).length ≤ t.length :=
  (List.dropWhile_suffix p).length_le

/-- The tokens of a date text. -/
def scan : Text → List DateToken
  | [] => []
  | u :: rest =>
    if Text.isDigit u then
      numberOf (u :: rest.takeWhile Text.isDigit) :: scan (rest.dropWhile Text.isDigit)
    else if u = 0x3A || u = 0x2D || u = 0x2B || u = 0x2E || u = 0x29 then symbol u :: scan rest
    else if isWordUnit u then
      let w := u :: rest.takeWhile isWordUnit
      word (meaningOf w) w.length :: scan (rest.dropWhile isWordUnit)
    else if Text.isBlank u then blank :: scan rest
    else if u = 0x28 then other :: scan (skipGroup 1 rest)
    else other :: scan rest
termination_by t => t.length
decreasing_by
  all_goals simp only [List.length_cons]
  · exact Nat.lt_succ_of_le (length_dropWhile_le _ _)
  · exact Nat.lt_succ_self _
  · exact Nat.lt_succ_of_le (length_dropWhile_le _ _)
  · exact Nat.lt_succ_self _
  · exact Nat.lt_succ_of_le (length_skipGroup_le _ _)
  · exact Nat.lt_succ_self _

/-- Whether a token is the sign `+` or `-`. -/
def isSign : DateToken → Bool
  | symbol u => u = 0x2B || u = 0x2D
  | _ => false

/-- Whether a token is the zone word `Z` alone. -/
def isZoneZ : DateToken → Bool
  | word (.zone 0) 1 => true
  | _ => false

/-- Milliseconds of a fraction's digits: the first three digits that the value and width
show. -/
def millisOf (value width : Nat) : Nat :=
  if width = 1 then value * 100
  else if width = 2 then value * 10
  else if width ≤ 3 then value
  else value / Nat.pow 10 (min width 9 - 3)

end DateToken

/-- The date read so far: up to three numbers, a month given by name, and whether the text was
wholly of the date-time form. -/
structure DayParts where
  numbers : List Int := []
  namedMonth : Option Nat := none
  iso : Bool := false
deriving Inhabited

namespace DayParts

/-- Adds a number, if fewer than three are read. -/
def add (d : DayParts) (n : Int) : Option DayParts :=
  if d.numbers.length < 3 then some { d with numbers := d.numbers ++ [n] } else none

/-- Whether a number can be a day of a month. -/
def isDay (n : Int) : Bool := 1 ≤ n && n ≤ 31

/-- The year, month and day the numbers give; missing ones are 1, a missing year 2001. -/
def write (d : DayParts) : Option (Int × Int × Int) :=
  if d.numbers.isEmpty then none
  else
    let c := d.numbers ++ List.replicate (3 - d.numbers.length) 1
    let c0 := c.getD 0 1
    let c1 := c.getD 1 1
    let c2 := c.getD 2 1
    let (y, m, day) := match d.namedMonth with
      | none => if d.iso || !isDay c0 then (c0, c1, c2) else (c2, c0, c1)
      | some nm => if !isDay c0 then (c0, (nm : Int), c1) else (c1, (nm : Int), c0)
    let y := if d.iso then y else if 0 ≤ y && y ≤ 49 then y + 2000
      else if 50 ≤ y && y ≤ 99 then y + 1900 else y
    if 1 ≤ m && m ≤ 12 && isDay day then some (y, m, day) else none

end DayParts

/-- The time read so far: up to four numbers (hours, minutes, seconds, milliseconds) and the
hours `pm` adds. -/
structure TimeParts where
  numbers : List Nat := []
  meridiem : Option Nat := none
deriving Inhabited

namespace TimeParts

/-- Adds a number, if fewer than four are read. -/
def add (t : TimeParts) (n : Nat) : Option TimeParts :=
  if t.numbers.length < 4 then some { t with numbers := t.numbers ++ [n] } else none

/-- Adds a last number and sets the ones after it to zero. -/
def addFinal (t : TimeParts) (n : Nat) : TimeParts :=
  match t.add n with
  | some t => { t with numbers := t.numbers ++ List.replicate (4 - t.numbers.length) 0 }
  | none => t

/-- Whether a number fits as the next minute, second or millisecond. -/
def expects (t : TimeParts) (n : Nat) : Bool :=
  (t.numbers.length = 1 && n ≤ 59) || (t.numbers.length = 2 && n ≤ 59) ||
    (t.numbers.length = 3 && n ≤ 999)

/-- The hours, minutes, seconds and milliseconds, the missing ones zero. -/
def write (t : TimeParts) : Option (Nat × Nat × Nat × Nat) :=
  let c := t.numbers ++ List.replicate (4 - t.numbers.length) 0
  let h := c.getD 0 0
  let m := c.getD 1 0
  let s := c.getD 2 0
  let ms := c.getD 3 0
  let h? := match t.meridiem with
    | some off => if h ≤ 12 then some (h % 12 + off) else none
    | none => some h
  h?.bind fun h =>
    if (h ≤ 23 && m ≤ 59 && s ≤ 59 && ms ≤ 999) || (h = 24 && m = 0 && s = 0 && ms = 0) then
      some (h, m, s, ms)
    else none

end TimeParts

/-- The offset read so far: its sign, hours and minutes. -/
structure ZoneParts where
  sign : Option Int := none
  hours : Option Nat := none
  minutes : Option Nat := none
deriving Inhabited

namespace ZoneParts

/-- The zone a number of hours from UTC names. -/
def ofHours (h : Int) : ZoneParts := ⟨some (if h < 0 then -1 else 1), some h.natAbs, some 0⟩

/-- Whether a number fits as the offset's minutes. -/
def expects (z : ZoneParts) (n : Nat) : Bool := z.hours.isSome && z.minutes.isNone && n ≤ 59

/-- Whether the zone is UTC itself. -/
def isUtc (z : ZoneParts) : Bool := z.hours == some 0 && z.minutes == some 0

/-- The offset in seconds, `some none` for local time, `none` if it is too large. -/
def write (z : ZoneParts) : Option (Option Int) :=
  match z.sign with
  | none => some none
  | some s =>
    let total : Nat := (z.hours.getD 0 * 3600 + z.minutes.getD 0 * 60) % 4294967296
    if total > 1073741823 then none else some (some (s * (total : Int)))

end ZoneParts

/-- The parts of an instant read so far. -/
structure DateParts where
  day : DayParts := {}
  time : TimeParts := {}
  zone : ZoneParts := {}
deriving Inhabited

namespace DateParts

open DateToken

/-- Where the date-time form stops: at a token it did not take (none at the end), with the
tokens after it. -/
abbrev Stop := Option DateToken × List DateToken × DateParts

/-- The token at the head, if any, and the rest. -/
def next : List DateToken → Option DateToken × List DateToken
  | [] => (none, [])
  | t :: rest => (some t, rest)

/-- Reads the offset after a date-time's time; `none` refuses the text. -/
def isoZone (p : DateParts) : List DateToken → Option (DateParts × List DateToken)
  | t :: rest =>
    if t.isZoneZ then some ({ p with zone := ZoneParts.ofHours 0 }, rest)
    else
      match t with
      | symbol s =>
        if s = 0x2B || s = 0x2D then
          let sign : Int := if s = 0x2B then 1 else -1
          match rest with
          | number hm 4 :: rest =>
            if hm / 100 ≤ 23 && hm % 100 ≤ 59 then
              some ({ p with zone := ⟨some sign, some (hm / 100), some (hm % 100)⟩ }, rest)
            else none
          | number hh 2 :: symbol 0x3A :: number mm 2 :: rest =>
            if hh ≤ 23 && mm ≤ 59 then some ({ p with zone := ⟨some sign, some hh, some mm⟩ }, rest)
            else none
          | _ => none
        else some (p, t :: rest)
      | _ => some (p, t :: rest)
  | [] => some (p, [])

/-- Reads a date-time's time after its `T`, and the offset; `none` refuses the text. -/
def isoTime (p : DateParts) : List DateToken → Option (DateParts × List DateToken)
  | number hh 2 :: symbol 0x3A :: number mm 2 :: rest =>
    let late := hh = 24
    if hh ≤ 24 && mm ≤ 59 && !(late && mm > 0) then
      let time : TimeParts := { numbers := [hh, mm] }
      let withSeconds : Option (TimeParts × List DateToken) := match rest with
        | symbol 0x3A :: number ss 2 :: rest =>
          if ss ≤ 59 && !(late && ss > 0) then
            let time := { time with numbers := time.numbers ++ [ss] }
            match rest with
            | symbol 0x2E :: number v w :: rest =>
              if late && v > 0 then none
              else some ({ time with numbers := time.numbers ++ [millisOf v w] }, rest)
            | symbol 0x2E :: _ => none
            | rest => some (time, rest)
          else none
        | symbol 0x3A :: _ => none
        | rest => some (time, rest)
      withSeconds.bind fun (time, rest) => isoZone { p with time } rest
    else none
  | _ => none

/-- The date-time form: `none` refuses the text; else where the form stops, or the end if the
whole text is of the form. -/
def readIso (ts : List DateToken) : Option Stop :=
  let start : (DateParts × List DateToken) ⊕ Stop := match ts with
    | symbol s :: rest =>
      if s = 0x2B || s = 0x2D then
        match rest with
        | number y 6 :: rest' =>
          if s = 0x2D && y = 0 then .inr (some (symbol s), rest, {})
          else .inl ({ day := { numbers := [if s = 0x2B then (y : Int) else -(y : Int)] } }, rest')
        | _ => .inr (some (symbol s), rest, {})
      else .inr (some (symbol s), rest, {})
    | number y 4 :: rest => .inl ({ day := { numbers := [(y : Int)] } }, rest)
    | ts => .inr ((next ts).1, (next ts).2, {})
  match start with
  | .inr stop => some stop
  | .inl (p, rest) =>
    let withDate : (DateParts × List DateToken) ⊕ Stop := match rest with
      | symbol 0x2D :: rest =>
        match rest with
        | number m 2 :: rest =>
          if 1 ≤ m && m ≤ 12 then
            let p := { p with day := { p.day with numbers := p.day.numbers ++ [(m : Int)] } }
            match rest with
            | symbol 0x2D :: rest =>
              match rest with
              | number d 2 :: rest =>
                if 1 ≤ d && d ≤ 31 then
                  .inl ({ p with day := { p.day with numbers := p.day.numbers ++ [(d : Int)] } }, rest)
                else .inr (some (number d 2), rest, p)
              | rest => .inr ((next rest).1, (next rest).2, p)
            | rest => .inl (p, rest)
          else .inr (some (number m 2), rest, p)
        | rest => .inr ((next rest).1, (next rest).2, p)
      | rest => .inl (p, rest)
    match withDate with
    | .inr stop => some stop
    | .inl (p, rest) =>
      let finish (p : DateParts) : Stop :=
        let p := if p.zone.hours.isNone && p.time.numbers.isEmpty then { p with zone := ZoneParts.ofHours 0 } else p
        (none, [], { p with day := { p.day with iso := true } })
      match rest with
      | [] => some (finish p)
      | word .timeMark 1 :: rest =>
        match isoTime p rest with
        | some (p, []) => some (finish p)
        | _ => none
      | t :: rest => some (some t, rest, p)

/-- One step of the loose reading, from the tokens at hand: the tokens left (fewer than at hand)
and the parts, or `none` if the text is refused.  `seen` tells whether a number was read. -/
def looseStep (seen : Bool) (p : DateParts) : List DateToken → Option (List DateToken × Bool × DateParts)
  | [] => some ([], seen, p)
  | number n _ :: rest =>
    let dated (r : List DateToken) : Option (List DateToken × Bool × DateParts) :=
      if p.zone.expects n then some (r, true, { p with zone := { p.zone with minutes := some n } })
      else if p.time.expects n then
        let fits := match r with
          | [] => true
          | blank :: _ => true
          | t :: _ => t.isZoneZ || t.isSign
        if fits then some (r, true, { p with time := p.time.addFinal n }) else none
      else
        (p.day.add n).map fun day => match r with
          | symbol 0x2D :: r => (r, true, { p with day })
          | r => (r, true, { p with day })
    match rest with
    | symbol 0x3A :: symbol 0x3A :: r =>
      if p.time.numbers.isEmpty then some (r, true, { p with time := { p.time with numbers := [n, 0] } })
      else none
    | symbol 0x3A :: r =>
      (p.time.add n).map fun time => match r with
        | symbol 0x2E :: r => (r, true, { p with time })
        | r => (r, true, { p with time })
    | symbol 0x2E :: r =>
      if p.time.expects n then
        match r with
        | number v w :: r =>
          some (r, true, { p with time := ((p.time.add n).getD p.time).addFinal (millisOf v w) })
        | _ => none
      else dated r
    | r => dated r
  | word meaning _ :: rest =>
    let unknown : Option (List DateToken × Bool × DateParts) :=
      if seen then none
      else match rest with
        | number _ _ :: _ => none
        | _ => some (rest, seen, p)
    match meaning with
    | .meridiem off =>
      if p.time.numbers.isEmpty then unknown
      else some (rest, seen, { p with time := { p.time with meridiem := some off } })
    | .month k =>
      let p := { p with day := { p.day with namedMonth := some k } }
      match rest with
      | symbol 0x2D :: r => some (r, seen, p)
      | r => some (r, seen, p)
    | .zone h => if seen then some (rest, seen, { p with zone := ZoneParts.ofHours h }) else unknown
    | _ => unknown
  | symbol s :: rest =>
    let isSign := s = 0x2B || s = 0x2D
    if isSign && (p.zone.isUtc || !p.time.numbers.isEmpty) then
      let sign : Int := if s = 0x2B then 1 else -1
      let (n, width, r) := match rest with
        | number v w :: r => (v, w, r)
        | r => (0, 0, r)
      let zone := { p.zone with sign := some sign }
      let zone? : Option ZoneParts := match r with
        | symbol 0x3A :: _ => some { zone with hours := some n, minutes := none }
        | _ =>
          if width = 1 || width = 2 then some { zone with hours := some n, minutes := some 0 }
          else if width = 3 || width = 4 then
            some { zone with hours := some (n / 100), minutes := some (n % 100) }
          else none
      zone?.map fun zone => (r, true, { p with zone })
    else if (isSign || s = 0x29) && seen then none
    else some (rest, seen, p)
  | _ :: rest => some (rest, seen, p)

/-- The loose reading, step after step, for at most `fuel` steps. -/
def looseRun : Nat → Bool → DateParts → List DateToken → Option DateParts
  | 0, _, p, _ => some p
  | _, _, p, [] => some p
  | fuel + 1, seen, p, ts =>
    (looseStep seen p ts).bind fun (ts, seen, p) => looseRun fuel seen p ts

/-- The instant the parts make: the date and time, less the offset. -/
def toInstant (p : DateParts) : Option Instant := do
  let (y, m, d) ← p.day.write
  let (h, mi, s, ms) ← p.time.write
  let offset ← p.zone.write
  if y.natAbs > 1000000 then none
  let days := Instant.daysOfCivil y m.toNat 1 + (d - 1)
  let wall := days * Instant.msPerDay + ((((h * 60 + mi) * 60 + s) * 1000 + ms : Nat) : Int)
  Instant.ofMillis? (match offset with
    | some o => wall - o * 1000
    | none => wall)

end DateParts

namespace Instant

/-- The instant a date text stands for, if any. -/
def parse? (t : Text) : Option Instant :=
  let ts := DateToken.scan (t.takeWhile (· ≠ 0))
  (DateParts.readIso ts).bind fun (tok, rest, p) =>
    let ts := tok.toList ++ rest
    (DateParts.looseRun (ts.length + 1) (!p.day.numbers.isEmpty) p ts).bind DateParts.toInstant

end Instant

end LogRouter
