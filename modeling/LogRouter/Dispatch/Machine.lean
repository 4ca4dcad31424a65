import LogRouter.Json.Value
import LogRouter.Sink.Options
import LogRouter.Json.Write

/-!
The dispatcher: a bounded hand-off between the pipeline and the sink.

Envelopes are admitted into a queue of at most `capacity` held envelopes (queued plus the one in
flight); a submitter that finds it full, or finds others already waiting, waits in line.  One drain
loop delivers the queue in order.  A failed send (or connect) disconnects, waits a back-off,
reconnects and tries the same envelope again; a reply the broker gives as final drops the envelope
as lost.  Closing refuses new submitters, lets the waiting ones in as room frees up and lets the
loop drain; when the loop is done, or the drain deadline passes first, whatever is still held is
counted lost and waiting submitters are refused.  Then the session is disconnected.

The machine is written with its waiting points explicit.  `LoopPoint` is where the drain loop
stands and `ClosePoint` where the closing does; `Dispatcher.step` takes one event (a call of the
outside world, a reply of the sink, a timer, or the loop or the closing resuming) to the next state
and the effects it had: metrics, log lines, calls to the sink and the fates of submitters.  An event
that cannot happen at a point is refused with `none`.  Any order of events is a possible run.
-/

namespace LogRouter

/-- What is handed to the sink: a topic and the payload bytes. -/
structure Envelope where
  topic : Text
  payload : List UInt8
deriving DecidableEq, Inhabited

/-- How the sink failed: a broken session, or a reply error with its message. -/
inductive SinkFailure where
  | broken
  | reply (message : Text)
deriving DecidableEq, Inhabited

namespace SinkFailure

/-- Whether resending can never help: a final reply, never a broken session. -/
def isFinal : SinkFailure → Bool
  | .broken => false
  | .reply m => Reply.isFinal (Text.ofString "ReplyError") m

end SinkFailure

/-- How one delivery ended. -/
inductive Delivery where
  | sent
  | refused
  | abandoned
deriving DecidableEq, Inhabited

/-- Where the drain loop stands. -/
inductive LoopPoint where
  /-- not started -/
  | unstarted
  /-- ready to take the next envelope -/
  | top
  /-- waiting to be woken by an admission or by closing -/
  | parked
  /-- waiting for the sink to connect, before sending `e` at try `n` -/
  | connecting (e : Envelope) (n : Nat)
  /-- waiting for the sink to take `e` at try `n` -/
  | sending (e : Envelope) (n : Nat)
  /-- waiting for the sink to disconnect after try `n` of `e` failed -/
  | resetting (e : Envelope) (n : Nat)
  /-- waiting out the back-off after try `n` of `e` failed -/
  | sleeping (e : Envelope) (n : Nat)
  /-- a delivery ended; the loop resumes next -/
  | returned (d : Delivery)
  /-- the loop has ended -/
  | finished
deriving DecidableEq, Inhabited

/-- Where the closing stands. -/
inductive ClosePoint where
  /-- not asked to close -/
  | running
  /-- waiting for the loop to end or the deadline to pass -/
  | draining
  /-- waiting for the sink to disconnect -/
  | disconnecting
  /-- closed -/
  | closed
deriving DecidableEq, Inhabited

/-- A metric sample: a gauge with its value, or a counter increment with an optional amount. -/
inductive Metric where
  | gauge (name : Text) (value : Nat)
  | increment (name : Text) (amount : Option Nat)
deriving DecidableEq, Inhabited

/-- The level of a log line. -/
inductive LogLevel where
  | debug
  | info
  | warn
  | error
deriving DecidableEq, Inhabited

/-- A log line: level, message and fields. -/
structure LogLine where
  level : LogLevel
  msg : Text
  fields : List (Text × Json)
deriving Inhabited

/-- A call made to the sink. -/
inductive SinkCall where
  | connect
  | send (e : Envelope)
  | disconnect
deriving DecidableEq, Inhabited

/-- What one step did. -/
inductive Effect where
  | metric (m : Metric)
  | log (l : LogLine)
  | call (c : SinkCall)
  | accepted (ticket : Nat)
  | rejected (ticket : Nat)
deriving Inhabited

/-- A submitter waiting for room, with its ticket. -/
structure Waiter where
  ticket : Nat
  envelope : Envelope
deriving DecidableEq, Inhabited

/-- An event the dispatcher can take. -/
inductive Event where
  /-- a submitter hands in an envelope under a ticket -/
  | submit (ticket : Nat) (e : Envelope)
  /-- the loop is started -/
  | start
  /-- closing is asked for -/
  | close
  /-- the loop resumes where it stands without waiting for anyone -/
  | resume
  /-- the sink answers a connect -/
  | connectDone (failure : Option SinkFailure)
  /-- the sink answers a send -/
  | sendDone (failure : Option SinkFailure)
  /-- the sink finishes the loop's disconnect -/
  | loopDisconnected
  /-- the back-off ends -/
  | wakeUp
  /-- the closing sees the loop ended -/
  | drained
  /-- the drain deadline passes -/
  | deadline
  /-- the sink finishes the closing's disconnect -/
  | closeDisconnected
deriving Inhabited

/-- The state of a dispatcher. -/
structure Dispatcher where
  capacity : Nat
  initialBackoff : Nat := 100
  maxBackoff : Nat := 5000
  queue : List Envelope := []
  waiters : List Waiter := []
  inFlight : Nat := 0
  sent : Nat := 0
  retries : Nat := 0
  lost : Nat := 0
  connected : Bool := false
  closed : Bool := false
  abandoned : Bool := false
  loop : LoopPoint := .unstarted
  closing : ClosePoint := .running
deriving Inhabited

namespace Dispatcher

/-- The message for a capacity that is not a positive integer. -/
def capacityMessage (shown : Text) : Text :=
  Text.ofString "Dispatcher capacity must be a positive integer, got " ++ shown

/-- The capacity a value gives: a positive integer, else the message naming the value as text. -/
def capacityOf (v : Json) : Except Text Nat :=
  match v with
  | .num x =>
    match x.toInt? with
    | some n => if n ≥ 1 then .ok n.toNat else .error (capacityMessage v.displayText)
    | none => .error (capacityMessage v.displayText)
  | _ => .error (capacityMessage v.displayText)

/-- The message a refused submitter gets. -/
def closedMessage : Text := Text.ofString "Dispatcher is closed, envelope not accepted"

/-- Envelopes held: queued plus in flight. -/
def held (d : Dispatcher) : Nat := d.queue.length + d.inFlight

/-- The back-off after try `n`: doubling from the initial value, at most the maximum. -/
def backoff (d : Dispatcher) (n : Nat) : Nat := min (d.initialBackoff * Nat.pow 2 n) d.maxBackoff

/-- The effect of a metric. -/
def gauge (d : Dispatcher) : Effect := .metric (.gauge (Text.ofString "dispatch.buffered") d.held)

/-- The effect of a counter increment by one. -/
def bump (name : String) : Effect := .metric (.increment (Text.ofString name) none)

/-- A log line effect. -/
def say (level : LogLevel) (msg : String) (fields : List (String × Json)) : Effect :=
  .log ⟨level, Text.ofString msg, fields.map fun (k, v) => (Text.ofString k, v)⟩

/-- Wakes a parked loop. -/
def notify (d : Dispatcher) : Dispatcher :=
  if d.loop = .parked then { d with loop := .top } else d

/-- Puts an envelope in the queue and wakes the loop. -/
def enqueue (d : Dispatcher) (e : Envelope) : Dispatcher × List Effect :=
  let d := { d with queue := d.queue ++ [e] }
  (d.notify, [d.gauge])

/-- Lets waiting submitters in, first come first served, while there is room. -/
def takeWaiters (d : Dispatcher) : Nat → Dispatcher × List Effect
  | 0 => (d, [])
  | fuel + 1 =>
    match d.waiters with
    | w :: rest =>
      if d.held < d.capacity then
        let (d', fx) := { d with waiters := rest }.enqueue w.envelope
        let (d'', more) := d'.takeWaiters fuel
        (d'', fx ++ [.accepted w.ticket] ++ more)
      else (d, [])
    | [] => (d, [])

/-- Starts try `n` of delivering `e`: gives up once abandoned, connects first when needed. -/
def attempt (d : Dispatcher) (e : Envelope) (n : Nat) : Dispatcher × List Effect :=
  if d.abandoned then ({ d with loop := .returned .abandoned }, [])
  else if !d.connected then ({ d with loop := .connecting e n }, [.call .connect])
  else ({ d with loop := .sending e n }, [.call (.send e)])

/-- A try that failed: refused when the session was up and the failure is final, else counted as
a retry, followed by a disconnect and a back-off. -/
def failed (d : Dispatcher) (e : Envelope) (n : Nat) (f : SinkFailure) : Dispatcher × List Effect :=
  if d.abandoned then ({ d with loop := .returned .abandoned }, [])
  else if d.connected && f.isFinal then
    ({ d with lost := d.lost + 1, loop := .returned .refused },
      [bump "dispatch.lost",
        say .error "Sink refused envelope, dropping it" [("topic", .str e.topic), ("attempt", Json.ofNat n)]])
  else
    ({ d with retries := d.retries + 1, connected := false, loop := .resetting e n },
      [bump "dispatch.retries",
        say .warn "Sink delivery failed, reconnecting"
          [("topic", .str e.topic), ("attempt", Json.ofNat n), ("delayMs", Json.ofNat (d.backoff n))],
        .call .disconnect])

/-- Gives up on what is held: counts it lost, refuses the waiting submitters, wakes the loop. -/
def abandon (d : Dispatcher) : Dispatcher × List Effect :=
  let n := d.held
  let refused := d.waiters.map fun w => Effect.rejected w.ticket
  let d' := { d with abandoned := true, lost := d.lost + n, queue := [], inFlight := 0, waiters := [] }
  let report := if n > 0 then
      [Effect.metric (.increment (Text.ofString "dispatch.lost") (some n)),
        say .error "Drain deadline passed, undelivered envelopes lost" [("lost", Json.ofNat n)]]
    else []
  (d'.notify, refused ++ report)

/-- Ends the closing: gives up on what is still held (always after the deadline), then
disconnects. -/
def finishDraining (d : Dispatcher) (timedOut : Bool) : Dispatcher × List Effect :=
  let (d, fx) := if timedOut || d.held > 0 || !d.waiters.isEmpty then d.abandon else (d, [])
  ({ d with connected := false, closing := .disconnecting }, fx ++ [.call .disconnect])

/-- One event: the state after it and its effects, or `none` when it cannot happen now. -/
def step (d : Dispatcher) : Event → Option (Dispatcher × List Effect)
  | .submit ticket e =>
    if d.closed then some (d, [.rejected ticket])
    else if d.waiters.isEmpty && d.held < d.capacity then
      let (d', fx) := d.enqueue e
      some (d', fx ++ [.accepted ticket])
    else some ({ d with waiters := d.waiters ++ [⟨ticket, e⟩] }, [])
  | .start =>
    if d.loop = .unstarted then some ({ d with loop := .top }, []) else some (d, [])
  | .close =>
    if d.closing = .running then
      let d' := { d with closed := true, closing := .draining }
      some (d'.notify,
        [say .info "Dispatcher closing, draining buffer"
          [("buffered", Json.ofNat d.held), ("waiting", Json.ofNat d.waiters.length)]])
    else some (d, [])
  | .resume =>
    match d.loop with
    | .top =>
      match d.queue with
      | [] =>
        if d.closed || d.abandoned then some ({ d with loop := .finished }, [])
        else some ({ d with loop := .parked }, [])
      | e :: rest => some ({ d with queue := rest, inFlight := 1 }.attempt e 0)
    | .returned outcome =>
      let d := { d with inFlight := 0 }
      if outcome = .abandoned then some ({ d with loop := .finished }, [])
      else
        let g := d.gauge
        let (d', fx) := { d with loop := .top }.takeWaiters (d.waiters.length + 1)
        some (d', g :: fx)
    | _ => none
  | .connectDone failure =>
    match d.loop with
    | .connecting e n =>
      match failure with
      | none =>
        let d := { d with connected := true, loop := .sending e n }
        some (d, [say .info "Sink connected" [], .call (.send e)])
      | some f => some (d.failed e n f)
    | _ => none
  | .sendDone failure =>
    match d.loop with
    | .sending e n =>
      match failure with
      | none =>
        if d.abandoned then some ({ d with loop := .returned .abandoned }, [])
        else some ({ d with sent := d.sent + 1, loop := .returned .sent }, [bump "dispatch.sent"])
      | some f => some (d.failed e n f)
    | _ => none
  | .loopDisconnected =>
    match d.loop with
    | .resetting e n => some ({ d with loop := .sleeping e n }, [])
    | _ => none
  | .wakeUp =>
    match d.loop with
    | .sleeping e n => some (d.attempt e (n + 1))
    | _ => none
  | .drained =>
    if d.closing = .draining && (d.loop = .finished || d.loop = .unstarted) then
      some (d.finishDraining false)
    else none
  | .deadline =>
    if d.closing = .draining then some (d.finishDraining true) else none
  | .closeDisconnected =>
    if d.closing = .disconnecting then
      some ({ d with closing := .closed },
        [say .info "Dispatcher closed" [("sent", Json.ofNat d.sent), ("lost", Json.ofNat d.lost)]])
    else none

end Dispatcher

end LogRouter
