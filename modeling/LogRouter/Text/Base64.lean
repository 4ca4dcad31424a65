import LogRouter.Text.Basic

/-!
Base64.

`Base64.encode` writes bytes with the standard alphabet and `=` padding.  `Base64.decode` reads
both the standard and the URL-safe alphabet, ignores units outside them, and stops at the first
`=`; a final group of two or three digits gives one or two bytes.
-/

namespace LogRouter

namespace Base64

/-- The standard alphabet. -/
def alphabet : List Char :=
  "ABCDEFGHIJKLMNOPQRSTUVWXYZabcdefghijklmnopqrstuvwxyz0123456789+/".toList

/-- The digit for a six-bit value. -/
def digit (n : Nat) : UInt16 := (alphabet.getD n 'A').toNat.toUInt16

/-- Bytes as base64 text, padded with `=` to a multiple of four. -/
def encode : List UInt8 → Text
  | [] => []
  | [a] =>
    let n := a.toNat * 65536
    [digit (n / 262144), digit (n / 4096 % 64), 0x3D, 0x3D]
  | [a, b] =>
    let n := a.toNat * 65536 + b.toNat * 256
    [digit (n / 262144), digit (n / 4096 % 64), digit (n / 64 % 64), 0x3D]
  | a :: b :: c :: rest =>
    let n := a.toNat * 65536 + b.toNat * 256 + c.toNat
    [digit (n / 262144), digit (n / 4096 % 64), digit (n / 64 % 64), digit (n % 64)] ++ encode rest

/-- The six-bit value of a digit of either alphabet. -/
def value? (u : UInt16) : Option Nat :=
  let n := u.toNat
  if 0x41 ≤ n ∧ n ≤ 0x5A then some (n - 0x41)
  else if 0x61 ≤ n ∧ n ≤ 0x7A then some (n - 0x61 + 26)
  else if 0x30 ≤ n ∧ n ≤ 0x39 then some (n - 0x30 + 52)
  else if n = 0x2B ∨ n = 0x2D then some 62
  else if n = 0x2F ∨ n = 0x5F then some 63
  else none

/-- Bytes from six-bit values, four values giving three bytes. -/
def ofSextets : List Nat → List UInt8
  | a :: b :: c :: d :: rest =>
    let n := ((a * 64 + b) * 64 + c) * 64 + d
    [(n / 65536).toUInt8, (n / 256 % 256).toUInt8, (n % 256).toUInt8] ++ ofSextets rest
  | [a, b, c] =>
    let n := (a * 64 + b) * 64 + c
    [(n / 1024).toUInt8, (n / 4 % 256).toUInt8]
  | [a, b] => [((a * 64 + b) / 16).toUInt8]
  | _ => []

/-- The bytes a base64 text stands for. -/
def decode (t : Text) : List UInt8 :=
  ofSextets ((t.takeWhile (· ≠ 0x3D)).filterMap value?)

end Base64

end LogRouter
