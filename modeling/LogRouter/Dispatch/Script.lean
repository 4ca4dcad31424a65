import LogRouter.Dispatch.Machine
import LogRouter.Text.Utf8

/-!
Running the dispatcher against a scripted sink.

A scripted sink answers each connect and each send with the next entry of its script, and with
success once the script is used up.  It can be paused: a send made while paused is held until the
sink is resumed.  A trial feeds the dispatcher a list of commands (submit, pause, resume, start,
close, close and wait) and after each one lets everything happen that can happen without the
outside world: the loop resumes, the sink answers, back-offs end, and the closing goes on once the
loop is done.  The drain deadline passes during that only when the drain timeout is at most one
millisecond, or when the command waits for the closing to end.

What a trial shows after each command is the dispatcher's counters, the fate of every submitter
and how far the closing has got; over the whole trial, the calls the sink received, the metrics
and the log lines, in order.
-/

namespace LogRouter

/-- The fate of a submitter so far. -/
inductive Admission where
  | waiting
  | accepted
  | refused
deriving DecidableEq, Inhabited

/-- A command given to the dispatcher during a trial. -/
inductive Command where
  | submit (e : Envelope)
  | pause
  | resume
  | close
  | awaitClose
  | start
deriving Inhabited

/-- How far the closing has got, as a trial reports it. -/
inductive ClosingView where
  | no
  | pending
  | done
deriving DecidableEq, Inhabited

/-- What a trial shows after one command. -/
structure Snapshot where
  dispatcher : Dispatcher
  admissions : List Admission
  closing : ClosingView
deriving Inhabited

/-- What the scripted sink recorded of one call or answer. -/
inductive SinkEntry where
  | connect (ok : Bool)
  | send (e : Envelope)
  | result (e : Envelope) (failure : Option SinkFailure)
  | disconnect
deriving Inhabited

/-- A scripted sink and everything the trial has recorded. -/
structure Trial where
  dispatcher : Dispatcher
  drainTimeout : Nat
  connects : List Bool
  sends : List (Option SinkFailure)
  paused : Bool := false
  /-- the answer to the connect under way -/
  connectAnswer : Option (Option SinkFailure) := none
  /-- the answer to the send under way, once it may be delivered -/
  sendAnswer : Option (Option SinkFailure) := none
  /-- the answer to a send held while paused -/
  heldAnswer : Option (Option SinkFailure) := none
  admissions : List Admission := []
  entries : List SinkEntry := []
  metrics : List Metric := []
  logs : List LogLine := []
deriving Inhabited

namespace Trial

/-- Records one effect; a call to the sink takes its answer from the script. -/
def record (t : Trial) : Effect → Trial
  | .metric m => { t with metrics := t.metrics ++ [m] }
  | .log l => { t with logs := t.logs ++ [l] }
  | .accepted k => { t with admissions := t.admissions.set k .accepted }
  | .rejected k => { t with admissions := t.admissions.set k .refused }
  | .call .connect =>
    let ok := t.connects.headD true
    { t with connects := t.connects.drop 1, entries := t.entries ++ [SinkEntry.connect ok],
             connectAnswer := some (if ok then none else some .broken) }
  | .call (.send e) =>
    let answer := t.sends.headD none
    let t := { t with sends := t.sends.drop 1, entries := t.entries ++ [SinkEntry.send e] }
    if t.paused then { t with heldAnswer := some answer } else { t with sendAnswer := some answer }
  | .call .disconnect => { t with entries := t.entries ++ [SinkEntry.disconnect] }

/-- Takes one event, if the dispatcher can, and records its effects. -/
def feed (t : Trial) (ev : Event) : Option Trial :=
  (t.dispatcher.step ev).map fun (d, fx) => fx.foldl record { t with dispatcher := d }

/-- The next event that happens without the outside world, and the trial once the sink has given
the answer it uses. -/
def nextEvent (t : Trial) : Option (Event × Trial) :=
  let d := t.dispatcher
  let forLoop : Option (Event × Trial) := match d.loop with
    | .top | .returned _ => some (.resume, t)
    | .connecting .. =>
      t.connectAnswer.map fun a => (.connectDone a, { t with connectAnswer := none })
    | .sending e _ =>
      t.sendAnswer.map fun a =>
        (.sendDone a, { t with sendAnswer := none, entries := t.entries ++ [SinkEntry.result e a] })
    | .resetting .. => some (.loopDisconnected, t)
    | .sleeping .. => some (.wakeUp, t)
    | _ => none
  match forLoop with
  | some next => some next
  | none =>
    if d.closing = .draining && (d.loop = .finished || d.loop = .unstarted) then some (.drained, t)
    else if d.closing = .disconnecting then some (.closeDisconnected, t)
    else none

/-- Lets everything happen that can happen without the outside world; `fuel` bounds the events. -/
def settle : Nat → Trial → Trial
  | 0, t => t
  | fuel + 1, t =>
    match t.nextEvent with
    | some (ev, t') =>
      match t'.feed ev with
      | some t'' => settle fuel t''
      | none => t
    | none => t

/-- Enough events to settle: every envelope, script entry and waiter takes a bounded number. -/
def budget (t : Trial) : Nat :=
  16 * (t.connects.length + t.sends.length + t.dispatcher.queue.length + t.dispatcher.waiters.length +
    t.admissions.length + 4)

/-- Settles, then lets the deadline pass if `wait` or the timeout is at most a millisecond, and
settles again. -/
def settleAll (wait : Bool) (t : Trial) : Trial :=
  let t := settle t.budget t
  if t.dispatcher.closing = .draining && (wait || t.drainTimeout ≤ 1) then
    match t.feed .deadline with
    | some t' => settle t'.budget t'
    | none => t
  else t

/-- How far the closing has got. -/
def closingView (t : Trial) : ClosingView :=
  match t.dispatcher.closing with
  | .running => .no
  | .closed => .done
  | _ => .pending

/-- What the trial shows now. -/
def snapshot (t : Trial) : Snapshot := ⟨t.dispatcher, t.admissions, t.closingView⟩

/-- Carries out one command and settles. -/
def command (t : Trial) : Command → Trial
  | .submit e =>
    let k := t.admissions.length
    let t := { t with admissions := t.admissions ++ [Admission.waiting] }
    settleAll false ((t.feed (.submit k e)).getD t)
  | .pause => settleAll false { t with paused := true }
  | .resume =>
    let t := { t with paused := false }
    let t := match t.heldAnswer with
      | some a => { t with heldAnswer := none, sendAnswer := some a }
      | none => t
    settleAll false t
  | .close => settleAll false ((t.feed .close).getD t)
  | .awaitClose => settleAll true ((t.feed .close).getD t)
  | .start => settleAll false ((t.feed .start).getD t)

/-- Carries out commands in order, keeping a snapshot after each. -/
def run (t : Trial) : List Command → Trial × List Snapshot
  | [] => (t, [])
  | c :: rest =>
    let t := t.command c
    let (t', shots) := run t rest
    (t', t.snapshot :: shots)

/-- A trial of a dispatcher with the given capacity, back-off, drain timeout and scripts, started
or not. -/
def begin (capacity initialBackoff maxBackoff drainTimeout : Nat) (connects : List Bool)
    (sends : List (Option SinkFailure)) (started : Bool) : Trial :=
  let t : Trial := { dispatcher := { capacity, initialBackoff, maxBackoff }, drainTimeout, connects, sends }
  if started then settleAll false ((t.feed .start).getD t) else t

end Trial

namespace SinkEntry

/-- The envelope as the sink log shows it: topic, colon, payload text. -/
def envelopeText (e : Envelope) : Text := e.topic ++ [0x3A] ++ Utf8.decode e.payload

/-- One line of the sink log. -/
def text : SinkEntry → Text
  | .connect ok => Text.ofString (if ok then "connect ok" else "connect error")
  | .send e => Text.ofString "send " ++ envelopeText e
  | .result e failure =>
    Text.ofString "result " ++ envelopeText e ++ [0x20] ++
      match failure with
      | none => Text.ofString "ok"
      | some .broken => Text.ofString "error"
      | some (.reply m) => Text.ofString "reply " ++ m
  | .disconnect => Text.ofString "disconnect"

end SinkEntry

end LogRouter
