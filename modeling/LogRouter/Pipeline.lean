import LogRouter.Rules.Evaluate
import LogRouter.Syslog
import LogRouter.Text.Utf8
import LogRouter.Dispatch.Machine

/-!
The route a line takes.

A line's bytes are read as UTF-8 text.  A syslog line gives a record with its header fields and
message; any other line gives a record whose message is the whole text.  The rule set evaluates
the record, and the record becomes an envelope for the topic: its payload is the replacement text
a replace action set, else the structured payload as JSON text, else the line's own bytes.

Along the way the route counts: every line, the lines that are not syslog, the rules that matched
(when any did), and the records a stop ended.
-/

namespace LogRouter

namespace LogRecord

/-- The record a line gives, and whether the line is syslog. -/
def ofLine (line : List UInt8) : LogRecord × Bool :=
  let text := Utf8.decode line
  match Syslog.parse text with
  | some fields => ({ raw := line, fields }, true)
  | none => ({ raw := line, fields := { msg := some text } }, false)

/-- The payload a record is sent with. -/
def payload (r : LogRecord) : List UInt8 :=
  match r.replacement, r.structured with
  | some t, _ => Utf8.encode t
  | none, some v => Utf8.encode v.render
  | none, none => r.raw

/-- The envelope for a record and its topic. -/
def toEnvelope (r : LogRecord) (topic : Text) : Envelope := ⟨topic, r.payload⟩

end LogRecord

/-- A count the route makes: a metric name and the amount, or none for one. -/
structure Increment where
  name : Text
  amount : Option Nat := none
deriving DecidableEq, Inhabited

/-- What routing a line gives: the record as the rules left it, whether it was syslog, the
evaluation, the envelope, and the counts made, in order. -/
structure Routed where
  record : LogRecord
  syslog : Bool
  evaluation : Evaluation
  envelope : Envelope
  counts : List Increment
deriving Inhabited

namespace RuleSet

/-- The counts for a line: lines, lines that are not syslog, rules matched, records stopped. -/
def counts (syslog : Bool) (e : Evaluation) : List Increment :=
  [⟨Text.ofString "lines", none⟩] ++
  (if syslog then [] else [⟨Text.ofString "lines.unparsed", none⟩]) ++
  (if e.matched.isEmpty then [] else [⟨Text.ofString "rules.matched", some e.matched.length⟩]) ++
  (if e.stopped then [⟨Text.ofString "records.stopped", none⟩] else [])

/-- Every line is counted first, whatever the rules did. -/
theorem counts_head (syslog : Bool) (e : Evaluation) :
    (counts syslog e).head? = some ⟨Text.ofString "lines", none⟩ := by
  simp [counts]

/-- A syslog line that no rule matched and none stopped is counted once, as a line. -/
theorem counts_quiet (e : Evaluation) (hm : e.matched = []) (hs : e.stopped = false) :
    counts true e = [⟨Text.ofString "lines", none⟩] := by
  simp [counts, hm, hs]

example : counts true ⟨Text.ofString "logs", [], false⟩ = [⟨Text.ofString "lines", none⟩] := rfl

/-- Routes one line: the record, its evaluation and its envelope, or the error that ended the
evaluation. -/
def route (s : RuleSet) (clock : Clock) (line : List UInt8) : Except Thrown Routed :=
  let (r, syslog) := LogRecord.ofLine line
  match s.evaluate clock r with
  | .error (e, _) => .error e
  | .ok (r, ev) => .ok ⟨r, syslog, ev, r.toEnvelope ev.topic, counts syslog ev⟩

end RuleSet

end LogRouter
