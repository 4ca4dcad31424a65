import LogRouter.Number.Parse
import LogRouter.Number.Shortest

/-!
StatsD lines and targets.

A sample is written `prefix.name:value|type`, the value as a shortest decimal.  A target
`host:port` is cut at its last colon; the port is the numeric reading of what follows it.  With no
colon the cut falls before the last unit, so the host loses that unit and the port reads the whole
target.
-/

namespace LogRouter

namespace Statsd

/-- The line of one sample, from the texts of its parts. -/
def line (pre name value kind : Text) : Text :=
  pre ++ [0x2E] ++ name ++ [0x3A] ++ value ++ [0x7C] ++ kind

/-- The line of a sample whose value is a number, written as numbers are. -/
def lineOf (pre name : Text) (value : Double) (kind : Text) : Text := line pre name value.toText kind

/-- Host and port of a target, cut at the last colon. -/
def target (t : Text) : Text × Double :=
  match Text.lastIndexOf? t 0x3A with
  | some i => (t.take i, Double.ofNumberText (t.drop (i + 1)))
  | none => (t.take (t.length - 1), Double.ofNumberText t)

end Statsd

end LogRouter
