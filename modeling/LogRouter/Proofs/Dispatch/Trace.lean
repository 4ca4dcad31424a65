import LogRouter.Proofs.Dispatch.Capacity

/-!
Runs of the dispatcher together with what happened on the way.

`Dispatcher.Reachable` forgets how a state was reached, but admission, delivery and shutdown are
about the way there: which submitters were let in or turned away and in what order, and what the
sink was asked.  `Dispatcher.Run d₀ tr d fx` is a run from `d₀` to `d` in which `tr` lists each
event with the state it was taken in, in order, and `fx` every effect, in order.  Runs compose, and
every run is a path of `Reachable`, so the invariant of the bound holds along it.

Three views read the effects: the tickets of the submitters let in (`admissions`), of those turned
away (`rejections`), and the calls made to the sink (`sinkCalls`, with `sends` the envelopes handed
over).  Each helper of the machine gets its views computed once here.

Beside the invariant of the bound, every state of a run keeps its flight in order (`Flight`): once
the buffer is abandoned nothing is held; while the loop holds an envelope (connecting for it,
sending it, retrying it, or just done with it and not yet resumed) that envelope is in flight,
unless it was abandoned; and the loop connects only without a session, and waits on a send only
with one, unless abandoned.
-/

namespace LogRouter

/-! ### Where the loop holds an envelope -/

/-- The envelope the loop is delivering: the one it connects for, sends, or retries. -/
def LoopPoint.envelope? : LoopPoint → Option Envelope
  | .connecting e _ | .sending e _ | .resetting e _ | .sleeping e _ => some e
  | _ => none

/-- Whether a delivery has ended sent or refused, and been counted, while the loop has not yet
resumed to free its slot. -/
def LoopPoint.delivered : LoopPoint → Bool
  | .returned .sent | .returned .refused => true
  | _ => false

/-- Whether the loop holds the envelope in flight: while delivering it, and once it is delivered
until the loop resumes. -/
def LoopPoint.holding (l : LoopPoint) : Bool := l.envelope?.isSome || l.delivered

/-- Whether the loop waits for the sink to connect. -/
def LoopPoint.isConnecting : LoopPoint → Bool
  | .connecting .. => true
  | _ => false

/-- Whether the loop waits for the sink to take a send. -/
def LoopPoint.isSending : LoopPoint → Bool
  | .sending .. => true
  | _ => false

@[simp] theorem LoopPoint.envelope?_woken (l : LoopPoint) : l.woken.envelope? = l.envelope? := by
  unfold LoopPoint.woken
  split
  · rename_i h
    rw [h]
    rfl
  · rfl

@[simp] theorem LoopPoint.delivered_woken (l : LoopPoint) : l.woken.delivered = l.delivered := by
  unfold LoopPoint.woken
  split
  · rename_i h
    rw [h]
    rfl
  · rfl

@[simp] theorem LoopPoint.holding_woken (l : LoopPoint) : l.woken.holding = l.holding := by
  simp [LoopPoint.holding]

@[simp] theorem LoopPoint.isConnecting_woken (l : LoopPoint) :
    l.woken.isConnecting = l.isConnecting := by
  unfold LoopPoint.woken
  split
  · rename_i h
    rw [h]
    rfl
  · rfl

@[simp] theorem LoopPoint.isSending_woken (l : LoopPoint) : l.woken.isSending = l.isSending := by
  unfold LoopPoint.woken
  split
  · rename_i h
    rw [h]
    rfl
  · rfl

/-! ### What the effects show -/

namespace Effect

/-- The ticket of the submitter an effect lets in. -/
@[simp] def admittedTicket? : Effect → Option Nat
  | .metric _ => none
  | .log _ => none
  | .call _ => none
  | .accepted t => some t
  | .rejected _ => none

/-- The ticket of the submitter an effect turns away. -/
@[simp] def rejectedTicket? : Effect → Option Nat
  | .metric _ => none
  | .log _ => none
  | .call _ => none
  | .accepted _ => none
  | .rejected t => some t

/-- The call an effect makes to the sink. -/
@[simp] def sinkCall? : Effect → Option SinkCall
  | .metric _ => none
  | .log _ => none
  | .call c => some c
  | .accepted _ => none
  | .rejected _ => none

end Effect

/-- The envelope a call hands to the sink. -/
@[simp] def SinkCall.envelope? : SinkCall → Option Envelope
  | .connect => none
  | .send e => some e
  | .disconnect => none

namespace Dispatcher

/-- The tickets of the submitters let in, in order. -/
def admissions (fx : List Effect) : List Nat := fx.filterMap Effect.admittedTicket?

/-- The tickets of the submitters turned away, in order. -/
def rejections (fx : List Effect) : List Nat := fx.filterMap Effect.rejectedTicket?

/-- The calls made to the sink, in order. -/
def sinkCalls (fx : List Effect) : List SinkCall := fx.filterMap Effect.sinkCall?

/-- The envelopes handed to the sink, in order. -/
def sends (fx : List Effect) : List Envelope := (sinkCalls fx).filterMap SinkCall.envelope?

@[simp] theorem admissions_nil : admissions [] = [] := rfl
@[simp] theorem rejections_nil : rejections [] = [] := rfl
@[simp] theorem sinkCalls_nil : sinkCalls [] = [] := rfl
@[simp] theorem sends_nil : sends [] = [] := rfl

@[simp] theorem admissions_cons (x : Effect) (fx : List Effect) :
    admissions (x :: fx) = x.admittedTicket?.toList ++ admissions fx := by
  cases x <;> rfl

@[simp] theorem rejections_cons (x : Effect) (fx : List Effect) :
    rejections (x :: fx) = x.rejectedTicket?.toList ++ rejections fx := by
  cases x <;> rfl

@[simp] theorem sinkCalls_cons (x : Effect) (fx : List Effect) :
    sinkCalls (x :: fx) = x.sinkCall?.toList ++ sinkCalls fx := by
  cases x <;> rfl

@[simp] theorem sends_cons (x : Effect) (fx : List Effect) :
    sends (x :: fx) = (x.sinkCall?.bind SinkCall.envelope?).toList ++ sends fx := by
  cases x with
  | call c => cases c <;> rfl
  | _ => rfl

@[simp] theorem admissions_append (fx fx' : List Effect) :
    admissions (fx ++ fx') = admissions fx ++ admissions fx' := List.filterMap_append

@[simp] theorem rejections_append (fx fx' : List Effect) :
    rejections (fx ++ fx') = rejections fx ++ rejections fx' := List.filterMap_append

@[simp] theorem sinkCalls_append (fx fx' : List Effect) :
    sinkCalls (fx ++ fx') = sinkCalls fx ++ sinkCalls fx' := List.filterMap_append

@[simp] theorem sends_append (fx fx' : List Effect) :
    sends (fx ++ fx') = sends fx ++ sends fx' := by
  simp [sends, List.filterMap_append]

theorem sends_eq_nil_of_sinkCalls {fx : List Effect} (h : sinkCalls fx = []) : sends fx = [] := by
  simp [sends, h]

/-! ### The effects of each helper -/

section Helpers

variable (d : Dispatcher)

/-! A metric, a log line or a counter is read through its constructor. -/

attribute [simp] gauge bump say

/-- A try gives up once abandoned, connects without a session and sends with one. -/
theorem attempt_cases (e : Envelope) (n : Nat) :
    d.abandoned = true ∧ (d.attempt e n).1 = { d with loop := .returned .abandoned } ∨
    d.abandoned = false ∧ d.connected = false ∧
      (d.attempt e n).1 = { d with loop := .connecting e n } ∨
    d.abandoned = false ∧ d.connected = true ∧ (d.attempt e n).1 = { d with loop := .sending e n } := by
  unfold attempt
  split
  · exact .inl ⟨by assumption, rfl⟩
  · rename_i ha
    split
    · rename_i hc
      exact .inr (.inl ⟨by simpa using ha, by simpa using hc, rfl⟩)
    · rename_i hc
      exact .inr (.inr ⟨by simpa using ha, by simpa using hc, rfl⟩)

/-- A failed try gives up once abandoned, drops an envelope the sink refused for good over an open
session, and otherwise counts a retry and resets the session. -/
theorem failed_cases (e : Envelope) (n : Nat) (f : SinkFailure) :
    d.abandoned = true ∧ (d.failed e n f).1 = { d with loop := .returned .abandoned } ∨
    d.abandoned = false ∧ (d.connected && f.isFinal) = true ∧
      (d.failed e n f).1 = { d with lost := d.lost + 1, loop := .returned .refused } ∨
    d.abandoned = false ∧ (d.connected && f.isFinal) = false ∧
      (d.failed e n f).1 =
        { d with retries := d.retries + 1, connected := false, loop := .resetting e n } := by
  unfold failed
  split
  · exact .inl ⟨by assumption, rfl⟩
  · rename_i ha
    split
    · exact .inr (.inl ⟨by simpa using ha, by assumption, rfl⟩)
    · rename_i hr
      exact .inr (.inr ⟨by simpa using ha, by simpa using hr, rfl⟩)

theorem attempt_views (e : Envelope) (n : Nat) :
    admissions (d.attempt e n).2 = [] ∧ rejections (d.attempt e n).2 = [] ∧
      sinkCalls (d.attempt e n).2 =
        if d.abandoned then [] else if d.connected then [.send e] else [.connect] := by
  unfold attempt
  by_cases ha : d.abandoned = true
  · simp [ha]
  · by_cases hc : d.connected = true <;> simp [ha, hc]

theorem failed_views (e : Envelope) (n : Nat) (f : SinkFailure) :
    admissions (d.failed e n f).2 = [] ∧ rejections (d.failed e n f).2 = [] ∧
      sinkCalls (d.failed e n f).2 =
        if d.abandoned || d.connected && f.isFinal then [] else [.disconnect] := by
  unfold failed
  by_cases ha : d.abandoned = true
  · simp [ha]
  · by_cases hr : (d.connected && f.isFinal) = true
    · simp [ha, hr]
    · simp only [ha, hr, Bool.false_eq_true, ↓reduceIte, Bool.false_or]
      simp

theorem takeWaiters_views (fuel : Nat) :
    admissions (d.takeWaiters fuel).2 = (d.waiters.take (d.admitted fuel)).map (·.ticket) ∧
      rejections (d.takeWaiters fuel).2 = [] ∧ sinkCalls (d.takeWaiters fuel).2 = [] := by
  induction fuel generalizing d with
  | zero => simp [takeWaiters, admitted]
  | succ fuel ih =>
      unfold takeWaiters
      split
      · rename_i w rest hw
        split
        · rename_i hroom
          -- one waiter in, then the rest with one slot fewer
          obtain ⟨ha, hr, hc⟩ := ih ({ d with waiters := rest }.enqueue w.envelope).1
          simp only [enqueue] at ha hr hc ⊢
          have hk : d.admitted (fuel + 1) =
              ({ d with waiters := rest, queue := d.queue ++ [w.envelope] } : Dispatcher).notify.admitted
                fuel + 1 := by
            simp only [notify_eq, admitted, held, hw, List.length_cons, List.length_append,
              List.length_nil] at hroom ⊢
            omega
          refine ⟨?_, ?_, ?_⟩
          · rw [admissions_append, admissions_append, ha, hk, hw]
            simp [notify_eq]
          · simp [hr]
          · simp [hc]
        · rename_i hfull
          have hk : d.admitted (fuel + 1) = 0 := by
            simp only [admitted]
            omega
          simp [hk]
      · rename_i hw
        simp [hw]

theorem abandon_views :
    admissions d.abandon.2 = [] ∧ rejections d.abandon.2 = d.waiters.map (·.ticket) ∧
      sinkCalls d.abandon.2 = [] := by
  simp only [abandon]
  refine ⟨?_, ?_, ?_⟩ <;> by_cases hn : 0 < d.held <;>
    simp [hn, admissions, rejections, sinkCalls, List.filterMap_map, Function.comp_def]

theorem finishDraining_views (timedOut : Bool) :
    admissions (d.finishDraining timedOut).2 = [] ∧
      rejections (d.finishDraining timedOut).2 =
        (if timedOut || d.held > 0 || !d.waiters.isEmpty then d.waiters.map (·.ticket) else []) ∧
      sinkCalls (d.finishDraining timedOut).2 = [.disconnect] := by
  obtain ⟨ha, hr, hc⟩ := abandon_views d
  unfold finishDraining
  by_cases h : (timedOut || d.held > 0 || !d.waiters.isEmpty) = true
  · rw [if_pos h, if_pos h]
    simp [ha, hr, hc]
  · rw [if_neg h, if_neg h]
    simp

end Helpers

/-! ### Runs -/

/-- A run from `d₀` to `d`: each event with the state it was taken in, in order, and every effect,
in order. -/
inductive Run (d₀ : Dispatcher) : List (Dispatcher × Event) → Dispatcher → List Effect → Prop
  | nil : Run d₀ [] d₀ []
  | step {tr : List (Dispatcher × Event)} {d d' : Dispatcher} {fx fx' : List Effect}
      (h : Run d₀ tr d fx) (ev : Event) (hs : d.step ev = some (d', fx')) :
      Run d₀ (tr ++ [(d, ev)]) d' (fx ++ fx')

section Runs

variable {d₀ d d' : Dispatcher} {tr tr' : List (Dispatcher × Event)} {fx fx' : List Effect}

theorem Run.reachable (h : Run d₀ tr d fx) : Reachable d₀ d := by
  induction h with
  | nil => exact .refl
  | step _ _ hs ih => exact .step ih hs

theorem Run.append (h : Run d₀ tr d fx) (h' : Run d tr' d' fx') :
    Run d₀ (tr ++ tr') d' (fx ++ fx') := by
  induction h' with
  | nil => simpa using h
  | step _ ev hs ih =>
      rw [← List.append_assoc, ← List.append_assoc]
      exact .step ih ev hs

end Runs

/-! ### The flight -/

/-- What every state of a run keeps of its flight: nothing held once abandoned; the envelope the
loop holds is in flight unless abandoned; a connect only without a session, and a send only with
one unless abandoned. -/
structure Flight (d : Dispatcher) : Prop where
  abandoned : d.abandoned = true → d.queue = [] ∧ d.inFlight = 0
  holding : d.loop.holding = true → d.abandoned = false → d.inFlight = 1
  connecting : d.loop.isConnecting = true → d.connected = false
  sending : d.loop.isSending = true → d.abandoned = false → d.connected = true

section Steps

variable {d d' : Dispatcher} {fx : List Effect}

theorem Flight.init (capacity initialBackoff maxBackoff : Nat) :
    (init capacity initialBackoff maxBackoff).Flight :=
  ⟨nofun, nofun, nofun, nofun⟩

/-- A move of the loop, with the counters and the session, keeps the flight when the new point
holds an envelope only with one in flight, connects only without a session and sends only with
one. -/
theorem Flight.moveLoop (h : d.Flight) (sent lost retries : Nat) (connected : Bool)
    {l : LoopPoint} (hhold : l.holding = true → d.abandoned = false → d.inFlight = 1)
    (hconn : l.isConnecting = true → connected = false)
    (hsend : l.isSending = true → d.abandoned = false → connected = true) :
    ({ d with sent, lost, retries, connected, loop := l } : Dispatcher).Flight :=
  ⟨h.abandoned, hhold, hconn, hsend⟩

theorem Flight.woken (h : d.Flight) : ({ d with loop := d.loop.woken } : Dispatcher).Flight :=
  ⟨h.abandoned, fun hh => h.holding (by simpa using hh),
    fun hc => h.connecting (by simpa using hc), fun hs => h.sending (by simpa using hs)⟩

theorem Flight.attempt (h : d.Flight) (hin : d.abandoned = false → d.inFlight = 1)
    (e : Envelope) (n : Nat) : (d.attempt e n).1.Flight := by
  unfold Dispatcher.attempt
  split
  · exact h.moveLoop d.sent d.lost d.retries d.connected nofun nofun nofun
  · rename_i ha
    split
    · rename_i hc
      exact h.moveLoop d.sent d.lost d.retries d.connected (fun _ => hin)
        (fun _ => by simpa using hc) nofun
    · rename_i hc
      exact h.moveLoop d.sent d.lost d.retries d.connected (fun _ => hin) nofun
        (fun _ _ => by simpa using hc)

theorem Flight.failed (h : d.Flight) (hin : d.abandoned = false → d.inFlight = 1)
    (e : Envelope) (n : Nat) (f : SinkFailure) : (d.failed e n f).1.Flight := by
  unfold Dispatcher.failed
  split
  · exact h.moveLoop d.sent d.lost d.retries d.connected nofun nofun nofun
  · split
    · exact h.moveLoop d.sent (d.lost + 1) d.retries d.connected (fun _ => hin) nofun nofun
    · exact h.moveLoop d.sent d.lost (d.retries + 1) false (fun _ => hin) (fun _ => rfl) nofun

/-- Ending the closing keeps the flight, unless it leaves a send under way without giving up. -/
theorem Flight.finishDraining (h : d.Flight) (timedOut : Bool)
    (hsend : timedOut = false → d.loop.isSending = false) :
    (d.finishDraining timedOut).1.Flight := by
  rw [finishDraining_eq]
  split
  · -- giving up: nothing held from now on
    rw [abandon_eq]
    exact ⟨fun _ => ⟨rfl, rfl⟩, (fun _ ha => by cases ha), fun _ => rfl, (fun _ ha => by cases ha)⟩
  · rename_i hno
    have hto : timedOut = false := by
      cases timedOut
      · rfl
      · simp at hno
    refine ⟨h.abandoned, h.holding, fun _ => rfl, fun hs => ?_⟩
    rw [hsend hto] at hs
    cases hs

/-- Every event keeps the flight in order. -/
theorem Flight.step (h : d.Flight) (hc : d.Consistent) {ev : Event}
    (hs : d.step ev = some (d', fx)) : d'.Flight := by
  cases ev with
  | submit t e =>
      rcases step_submit hs with ⟨-, rfl⟩ | ⟨hopen, -, -, rfl⟩ | ⟨-, -, rfl⟩
      · exact h
      · -- an open dispatcher has abandoned nothing
        have hna : d.abandoned = false := by
          cases ha : d.abandoned
          · rfl
          · rw [(hc.abandoned ha).2] at hopen
            cases hopen
        rw [notify_eq]
        exact Flight.woken ⟨(fun ha => by rw [hna] at ha; cases ha), h.holding, h.connecting,
          h.sending⟩
      · exact ⟨h.abandoned, h.holding, h.connecting, h.sending⟩
  | start =>
      rcases step_start hs with ⟨-, rfl⟩ | ⟨-, rfl⟩
      · exact h.moveLoop d.sent d.lost d.retries d.connected nofun nofun nofun
      · exact h
  | close =>
      rcases step_close hs with ⟨-, rfl⟩ | ⟨-, rfl⟩
      · rw [notify_eq]
        exact Flight.woken ⟨h.abandoned, h.holding, h.connecting, h.sending⟩
      · exact h
  | resume =>
      rcases step_resume hs with ⟨-, -, -, rfl⟩ | ⟨-, -, -, -, rfl⟩ | ⟨e, rest, -, hq, rfl⟩ |
        ⟨hl, rfl⟩ | ⟨o, -, -, rfl⟩
      · exact h.moveLoop d.sent d.lost d.retries d.connected nofun nofun nofun
      · exact h.moveLoop d.sent d.lost d.retries d.connected nofun nofun nofun
      · -- a queue with an envelope in it was not abandoned
        have hna : d.abandoned = false := by
          cases ha : d.abandoned
          · rfl
          · rw [(h.abandoned ha).1] at hq
            cases hq
        have hf : ({ d with queue := rest, inFlight := 1 } : Dispatcher).Flight :=
          ⟨(fun ha => by rw [hna] at ha; cases ha), fun _ _ => rfl, h.connecting, h.sending⟩
        exact hf.attempt (fun _ => rfl) e 0
      · have hab : d.abandoned = true := hc.returned_abandoned hl
        exact ⟨fun _ => ⟨(h.abandoned hab).1, rfl⟩, nofun, nofun, nofun⟩
      · rw [takeWaiters_eq _ _ (by simp)]
        refine ⟨?_, nofun, nofun, nofun⟩
        intro ha
        have hq : d.queue = [] := (h.abandoned ha).1
        have hw : d.waiters = [] := (hc.abandoned ha).1
        simp [hq, hw]
  | connectDone f =>
      obtain ⟨e, n, hl, ⟨-, rfl⟩ | ⟨x, -, rfl⟩⟩ := step_connectDone hs
      · have hin : d.abandoned = false → d.inFlight = 1 := h.holding (by rw [hl]; rfl)
        exact h.moveLoop d.sent d.lost d.retries true (fun _ => hin) nofun (fun _ _ => rfl)
      · exact h.failed (h.holding (by rw [hl]; rfl)) e n x
  | sendDone f =>
      obtain ⟨e, n, hl, ⟨-, -, rfl⟩ | ⟨-, -, rfl⟩ | ⟨x, -, rfl⟩⟩ := step_sendDone hs
      · exact h.moveLoop d.sent d.lost d.retries d.connected nofun nofun nofun
      · exact h.moveLoop (d.sent + 1) d.lost d.retries d.connected
          (fun _ => h.holding (by rw [hl]; rfl)) nofun nofun
      · exact h.failed (h.holding (by rw [hl]; rfl)) e n x
  | loopDisconnected =>
      obtain ⟨e, n, hl, rfl⟩ := step_loopDisconnected hs
      exact h.moveLoop d.sent d.lost d.retries d.connected
        (fun _ => h.holding (by rw [hl]; rfl)) nofun nofun
  | wakeUp =>
      obtain ⟨e, n, hl, rfl⟩ := step_wakeUp hs
      exact h.attempt (h.holding (by rw [hl]; rfl)) e (n + 1)
  | drained =>
      obtain ⟨-, hl, rfl⟩ := step_drained hs
      refine h.finishDraining false fun _ => ?_
      rcases hl with hl | hl <;> rw [hl] <;> rfl
  | deadline =>
      obtain ⟨-, rfl⟩ := step_deadline hs
      exact h.finishDraining true nofun
  | closeDisconnected =>
      obtain ⟨-, rfl⟩ := step_closeDisconnected hs
      exact ⟨h.abandoned, h.holding, h.connecting, h.sending⟩

end Steps

/-- Every state a run reaches from a consistent state in order keeps its flight in order. -/
theorem Reachable.flight {d₀ d : Dispatcher} (hc₀ : d₀.Consistent) (h₀ : d₀.Flight)
    (hr : Reachable d₀ d) : d.Flight := by
  induction hr with
  | refl => exact h₀
  | step hr' hs ih => exact ih.step (hr'.consistent hc₀) hs

end Dispatcher

end LogRouter
