import LogRouter.Text.Basic

/-!
UTF-8 bytes and text.

`Utf8.scan` reads bytes into code points: a lead byte (0xC2 to 0xF4) fixes how many continuation
bytes follow and the range the first of them must be in (so overlong forms, surrogates and values
above U+10FFFF are refused), and each maximal prefix of a sequence that cannot be completed counts
as one error, as does a byte that cannot begin one.  A byte that breaks a sequence is read again
as the start of the next one.  `Utf8.decode` writes each
error as U+FFFD; `Utf8.isValid` says there was none.

`Utf8.encode` writes a text: a surrogate pair as the four bytes of its code point and an unpaired
surrogate as the bytes of U+FFFD.
-/

namespace LogRouter

namespace Utf8

/-- A sequence begun but not finished: continuation bytes needed and seen, the bits so far, and
the range allowed for the next byte. -/
structure Partial where
  need : Nat
  seen : Nat
  code : Nat
  lower : Nat
  upper : Nat
deriving Inhabited

/-- What a byte read in the initial state begins: a complete code point, a sequence, or an error
(`none`). -/
def begin (b : UInt8) : Option (Sum Nat Partial) :=
  let n := b.toNat
  if n < 0x80 then some (.inl n)
  else if 0xC2 ≤ n ∧ n ≤ 0xDF then some (.inr ⟨1, 0, n % 0x20, 0x80, 0xBF⟩)
  else if 0xE0 ≤ n ∧ n ≤ 0xEF then
    some (.inr ⟨2, 0, n % 0x10, if n = 0xE0 then 0xA0 else 0x80, if n = 0xED then 0x9F else 0xBF⟩)
  else if 0xF0 ≤ n ∧ n ≤ 0xF4 then
    some (.inr ⟨3, 0, n % 0x08, if n = 0xF0 then 0x90 else 0x80, if n = 0xF4 then 0x8F else 0xBF⟩)
  else none

/-- The result of reading a byte in the initial state, and the state after it. -/
def start (b : UInt8) : List (Option Nat) × Option Partial :=
  match begin b with
  | some (.inl c) => ([some c], none)
  | some (.inr p) => ([], some p)
  | none => ([none], none)

/-- Code points read from bytes, `none` standing for each error. -/
def scanFrom : Option Partial → List UInt8 → List (Option Nat)
  | none, [] => []
  | some _, [] => [none]
  | none, b :: rest =>
    let (out, st) := start b
    out ++ scanFrom st rest
  | some p, b :: rest =>
    if b.toNat < p.lower ∨ p.upper < b.toNat then
      let (out, st) := start b
      none :: out ++ scanFrom st rest
    else
      let code := p.code * 64 + b.toNat % 64
      if p.seen + 1 = p.need then some code :: scanFrom none rest
      else scanFrom (some { p with seen := p.seen + 1, code := code, lower := 0x80, upper := 0xBF }) rest

/-- Code points read from bytes, `none` standing for each error. -/
def scan (bytes : List UInt8) : List (Option Nat) := scanFrom none bytes

/-- The UTF-16 units of a code point. -/
def unitsOfCode (c : Nat) : Text :=
  if c < 0x10000 then [c.toUInt16]
  else
    let m := c - 0x10000
    [(0xD800 + m / 0x400).toUInt16, (0xDC00 + m % 0x400).toUInt16]

/-- The text read from bytes, each error replaced by U+FFFD. -/
def decode (bytes : List UInt8) : Text :=
  (scan bytes).flatMap fun
    | some c => unitsOfCode c
    | none => [0xFFFD]

/-- Whether bytes are well-formed UTF-8. -/
def isValid (bytes : List UInt8) : Bool := (scan bytes).all Option.isSome

/-- The bytes of a code point. -/
def bytesOfCode (c : Nat) : List UInt8 :=
  if c < 0x80 then [c.toUInt8]
  else if c < 0x800 then [(0xC0 + c / 64).toUInt8, (0x80 + c % 64).toUInt8]
  else if c < 0x10000 then
    [(0xE0 + c / 4096).toUInt8, (0x80 + c / 64 % 64).toUInt8, (0x80 + c % 64).toUInt8]
  else
    [(0xF0 + c / 262144).toUInt8, (0x80 + c / 4096 % 64).toUInt8, (0x80 + c / 64 % 64).toUInt8,
      (0x80 + c % 64).toUInt8]

/-- The bytes of a text; an unpaired surrogate is written as U+FFFD. -/
def encode : Text → List UInt8
  | [] => []
  | [u] => bytesOfCode (if Text.isSurrogate u then 0xFFFD else u.toNat)
  | u :: tail@(v :: rest) =>
    if Text.isHigh u && Text.isLow v then bytesOfCode (Text.pairCode u v) ++ encode rest
    else bytesOfCode (if Text.isSurrogate u then 0xFFFD else u.toNat) ++ encode tail

end Utf8

end LogRouter
