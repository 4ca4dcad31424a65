/-!
Cutting a byte stream into lines.

A line buffer holds the bytes of an unfinished line.  Pushing a chunk completes every line that a
line feed now ends; each is handed out without the line feed and without one carriage return at
its end, and a line that is then empty is dropped.  What remains is held, except that while it is
longer than the limit its first `limit` bytes are handed out as a line of their own.  Flushing hands
out what is held, by the same rule.
-/

namespace LogRouter

/-- The unfinished line of a byte stream, and the longest it may grow. -/
structure LineBuffer where
  limit : Nat
  held : List UInt8 := []
deriving Inhabited

namespace LineBuffer

/-- The default limit: one mebibyte. -/
def defaultLimit : Nat := 1024 * 1024

/-- A line as handed out: one trailing carriage return removed, nothing if it is then empty. -/
def emit (line : List UInt8) : List (List UInt8) :=
  let body := if line.getLast? = some 0x0D then line.dropLast else line
  if body.isEmpty then [] else [body]

/-- Cuts `limit`-byte lines off the front while more than `limit` bytes remain. -/
def cutLong (limit : Nat) : Nat → List UInt8 → List (List UInt8) × List UInt8
  | 0, held => ([], held)
  | fuel + 1, held =>
    if limit < held.length ∧ 0 < limit then
      let (more, rest) := cutLong limit fuel (held.drop limit)
      (emit (held.take limit) ++ more, rest)
    else ([], held)

/-- Pushes a chunk: the lines it completes, then the buffer after it. -/
def push (b : LineBuffer) (chunk : List UInt8) : List (List UInt8) × LineBuffer :=
  let pieces := (b.held ++ chunk).splitOn 0x0A
  let complete := pieces.dropLast
  let rest := pieces.getLastD []
  let (cut, rest) := cutLong b.limit rest.length rest
  (complete.flatMap emit ++ cut, { b with held := rest })

/-- Ends the stream: the held bytes as a line, and an empty buffer. -/
def flush (b : LineBuffer) : List (List UInt8) × LineBuffer := (emit b.held, { b with held := [] })

/-- The number of bytes held. -/
def pending (b : LineBuffer) : Nat := b.held.length

end LineBuffer

end LogRouter
