import LogRouter.Pipeline
import LogRouter.Proofs.Evaluation

/-!
The envelope a line becomes.

Every line gives exactly one envelope, for the topic the evaluation settled on.  Its payload is
decided by the actions that ran and by nothing else: the text of the last replace, else the
structured view the last merge left, as JSON text, else the line's own bytes.  Matching, forwards
and stops never change it, so a line that no merge or replace touched goes out byte for byte,
whatever its encoding and whatever its JSON would read as.

The reason is an invariant of the fold `Pass.run`, `Pass.Tracks`: from a record with neither a
replacement nor a structured view, as every record read from a line is, the replacement is
always the text of the last replace applied and the structured view the result of the last merge.
Each action keeps it (`Pass.Tracks.perform`), so the whole pass does.
-/

namespace LogRouter

namespace Applied

/-- The text a replace set. -/
def replaced? : Applied → Option Text
  | replace t => some t
  | _ => none

/-- The view a merge left. -/
def merged? : Applied → Option Json
  | merge v => some v
  | _ => none

/-- The payload the actions applied to a line call for: the text of the last replace, else the
view the last merge left as JSON text, else the line's own bytes. -/
def payload (applied : List Applied) (line : List UInt8) : List UInt8 :=
  match (applied.filterMap replaced?).getLast?, (applied.filterMap merged?).getLast? with
  | some t, _ => Utf8.encode t
  | none, some v => Utf8.encode v.render
  | none, none => line

end Applied

namespace Pass

/-- The replacement is the text of the last replace applied, and the structured view the result
of the last merge. -/
def Tracks (st : Pass) : Prop :=
  st.replacement = (st.applied.filterMap Applied.replaced?).getLast? ∧
    st.structured = (st.applied.filterMap Applied.merged?).getLast?

theorem Tracks.perform {st : Pass} (h : st.Tracks) (fields : Fields) (ctx : ActionContext)
    (a : Action) : (perform fields ctx st a).Tracks := by
  obtain ⟨hrep, hview⟩ := h
  cases a <;> simp [Pass.perform, Tracks, Applied.replaced?, Applied.merged?, hrep, hview]

theorem Tracks.act {st : Pass} (h : st.Tracks) (fields : Fields) (clock : Nat → Instant)
    (version : Text) (caps : Captures) (a : Action) :
    (act fields clock version caps st a).Tracks := by
  have hp := h.perform fields (context clock version caps st a) a
  unfold Pass.act
  split
  · exact hp
  · exact hp

/-- A pass from a record with neither a replacement nor a structured view keeps them in step
with what it applied. -/
theorem Tracks.run {r : LogRecord} (hrep : r.replacement = none) (hview : r.structured = none)
    (s : RuleSet) (c : Nat → Instant) : (run s c r).Tracks := by
  refine foldl_visit_induction Tracks (fun caps st a h => h.act _ _ _ caps a)
    (fun st i h => h) _ ?_
  simp [Tracks, start, hrep, hview]

end Pass

namespace LogRecord

/-- A record read from a line keeps the line's bytes, and starts with neither a replacement nor a
structured view. -/
theorem ofLine_fresh (line : List UInt8) :
    (ofLine line).1.raw = line ∧ (ofLine line).1.replacement = none ∧
      (ofLine line).1.structured = none := by
  simp only [ofLine]
  split <;> exact ⟨rfl, rfl, rfl⟩

/-- The payload of a record the fold left is what the actions it applied call for. -/
theorem payload_outcome {r : LogRecord} {p : Pass} (h : p.Tracks) (defaultTopic : Text) :
    (p.outcome defaultTopic r).1.payload = Applied.payload p.applied r.raw := by
  obtain ⟨hrep, hview⟩ := h
  rw [Applied.payload, ← hrep, ← hview]
  -- both sides now choose on the same replacement and view
  rcases p with ⟨structured, destination, replacement, terminated, matched, readings, applied⟩
  cases replacement <;> cases structured <;> rfl

end LogRecord

namespace RuleSet

/-- **A line becomes one envelope.**  With a clock that always reads a valid time, routing any
line succeeds; the envelope goes to the topic the evaluation of the line's record settled on, and
its payload is the text of the last replace that ran, else the structured view the last merge
left, as JSON text, else exactly the line's bytes. -/
theorem route_envelope (s : RuleSet) (c : Nat → Instant) (line : List UInt8) :
    ∃ r ev, s.evaluate (fun n => some (c n)) (LogRecord.ofLine line).1 = .ok (r, ev) ∧
      (s.route (fun n => some (c n)) line).map Routed.envelope =
        .ok ⟨ev.topic, Applied.payload (Pass.run s c (LogRecord.ofLine line).1).applied line⟩ := by
  obtain ⟨hraw, hrep, hview⟩ := LogRecord.ofLine_fresh line
  rcases hl : LogRecord.ofLine line with ⟨r, syslog⟩
  rw [hl] at hraw hrep hview
  dsimp only at hraw hrep hview
  have heval : s.evaluate (fun n => some (c n)) r = .ok ((Pass.run s c r).outcome s.defaultTopic r) := by
    unfold evaluate Pass.run
    rw [Pass.toProgress_start, Pass.runRules_toProgress]
    rfl
  refine ⟨_, _, heval, ?_⟩
  unfold route
  rw [hl]
  dsimp only
  rw [heval]
  show Except.ok (Envelope.mk _ ((Pass.run s c r).outcome s.defaultTopic r).1.payload) = _
  rw [LogRecord.payload_outcome (Pass.Tracks.run hrep hview s c), hraw]

end RuleSet

end LogRouter
