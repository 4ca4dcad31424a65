import LogRouter.Proofs.Dispatch.Trace

/-!
Every admitted envelope is accounted for.

An admitted envelope is queued, then in flight, and its delivery ends sent, refused or abandoned:
counted once in `sent` after a send went through, once in `lost` when the sink refused it for good
over an open session, or once in `lost` when the drain deadline gave up on everything held.  So
the number of submitters let in equals `sent + lost + queue.length + inFlight`, with one exception
the loop opens itself: a delivery that ends is counted at once, but its slot is freed only when
the loop resumes, so in between the envelope is counted twice (`Dispatcher.settling`).

The loop resumes as soon as nothing else runs, and a timer waits for that: the drain deadline
never passes between a delivery ending and the loop resuming (`Dispatcher.Timely`).  Along such a
run the slot is freed before anything can give up on it, and the books balance after every event
(`Dispatcher.Ledger`).  A deadline taken at that point instead would count the envelope in `lost`
a second time.

Which fate an envelope met is read off where the counters move (`Dispatcher.Flight.step_counts`):
`sent` grows by one only when a send goes through before the buffer is abandoned, `lost` by one
only when the sink refuses a send for good over an open session, and by everything held only when
the drain ends and gives up on it; each of these ends the delivery, or empties the buffer.

A failed try, connect or send, keeps the envelope in flight, counts one retry and resets the
session, unless the sink refused the envelope for good; once the buffer is abandoned, though, the
envelope was already counted lost and a failure ends the delivery and counts nothing.
-/

namespace LogRouter

namespace Dispatcher

/-- One while a delivery has ended and been counted but its slot is not yet freed, else none. -/
def settling (d : Dispatcher) : Nat := if d.loop.delivered then 1 else 0

/-- A run in which the drain deadline never passes between a delivery ending and the loop resuming
to free its slot. -/
def Timely (tr : List (Dispatcher × Event)) : Prop :=
  ∀ p ∈ tr, p.2 = .deadline → p.1.loop.delivered = false

theorem Timely.nil : Timely [] := fun _ hp => absurd hp List.not_mem_nil

theorem Timely.snoc_iff {tr : List (Dispatcher × Event)} {d : Dispatcher} {ev : Event} :
    Timely (tr ++ [(d, ev)]) ↔ Timely tr ∧ (ev = .deadline → d.loop.delivered = false) := by
  simp [Timely, or_imp, forall_and]

/-- The books of a state after `n` admissions: each admitted envelope is sent, lost, queued or in
flight, the one whose delivery just ended counted twice; and no delivery ends counted once the
buffer is abandoned. -/
structure Ledger (d : Dispatcher) (n : Nat) : Prop where
  balance : n + d.settling = d.sent + d.lost + d.queue.length + d.inFlight
  delivered : d.loop.delivered = true → d.abandoned = false

section Steps

variable {d d' : Dispatcher} {n : Nat} {fx : List Effect}

theorem Ledger.init (capacity initialBackoff maxBackoff : Nat) :
    (init capacity initialBackoff maxBackoff).Ledger 0 :=
  ⟨rfl, nofun⟩

/-- A move that admits `k` submitters and changes the books by as much keeps them balanced. -/
theorem Ledger.move (h : d.Ledger n) (k : Nat)
    (hbal : d'.sent + d'.lost + d'.queue.length + d'.inFlight + d.settling =
      d.sent + d.lost + d.queue.length + d.inFlight + d'.settling + k)
    (hdel : d'.loop.delivered = true → d'.abandoned = false) : d'.Ledger (n + k) :=
  ⟨by have := h.balance; omega, hdel⟩

theorem Ledger.attempt (h : d.Ledger n) (hset : d.settling = 0) (e : Envelope) (m : Nat) :
    (d.attempt e m).1.Ledger n := by
  have hbal := h.balance
  rw [hset] at hbal
  rcases attempt_cases d e m with ⟨-, hd⟩ | ⟨-, -, hd⟩ | ⟨-, -, hd⟩ <;> rw [hd] <;>
    exact ⟨by simpa [settling, LoopPoint.delivered] using hbal, nofun⟩

/-- A failed try either counts the envelope lost as it ends the delivery, or keeps it in flight. -/
theorem Ledger.failed (h : d.Ledger n) (hset : d.settling = 0) (e : Envelope) (m : Nat)
    (f : SinkFailure) : (d.failed e m f).1.Ledger n := by
  have hbal := h.balance
  rw [hset] at hbal
  rcases failed_cases d e m f with ⟨-, hd⟩ | ⟨hna, -, hd⟩ | ⟨-, -, hd⟩ <;> rw [hd]
  · exact ⟨by simpa [settling, LoopPoint.delivered] using hbal, nofun⟩
  · -- refused: counted lost now, and the slot is freed on resuming
    refine ⟨?_, fun _ => hna⟩
    simp only [settling, LoopPoint.delivered, if_true]
    omega
  · exact ⟨by simpa [settling, LoopPoint.delivered] using hbal, nofun⟩

theorem Ledger.finishDraining (h : d.Ledger n) (hset : d.settling = 0) (timedOut : Bool) :
    (d.finishDraining timedOut).1.Ledger n := by
  have hbal := h.balance
  have hdel : d.loop.delivered = false := by
    simpa [settling] using hset
  rw [finishDraining_eq]
  split
  · rw [abandon_eq]
    refine ⟨?_, fun hd => by simp [hdel] at hd⟩
    simp [settling, hdel, held] at hbal ⊢
    omega
  · exact ⟨hbal, h.delivered⟩

/-- Every event keeps the books balanced, counting the submitters it lets in, provided the
deadline does not pass between a delivery ending and the loop resuming. -/
theorem Ledger.step (h : d.Ledger n) (hc : d.Consistent) (hf : d.Flight) {ev : Event}
    (htimer : ev = .deadline → d.loop.delivered = false) (hs : d.step ev = some (d', fx)) :
    d'.Ledger (n + (admissions fx).length) := by
  cases ev with
  | submit t e =>
      rcases step_submit_fx hs with ⟨-, rfl, rfl⟩ | ⟨-, -, -, rfl, rfl⟩ | ⟨-, -, rfl, rfl⟩
      · simpa using h
      · rw [notify_eq]
        exact h.move _ (by simp [settling]; omega) (fun hd => h.delivered (by simpa using hd))
      · exact h.move _ (by simp [settling]) h.delivered
  | start =>
      obtain ⟨⟨hl, rfl⟩ | ⟨-, rfl⟩, rfl⟩ := step_start_fx hs
      · exact h.move _ (by simp [settling, hl, LoopPoint.delivered]) fun hd => by cases hd
      · simpa using h
  | close =>
      rcases step_close_fx hs with ⟨-, rfl, rfl⟩ | ⟨-, rfl, rfl⟩
      · rw [notify_eq]
        exact h.move _ (by simp [settling]) (fun hd => h.delivered (by simpa using hd))
      · simpa using h
  | resume =>
      rcases step_resume_fx hs with ⟨hl, -, -, rfl, rfl⟩ | ⟨hl, -, -, -, rfl, rfl⟩ |
        ⟨e, rest, hl, hq, rfl, rfl⟩ | ⟨hl, rfl, rfl⟩ | ⟨o, hl, ho, rfl, rfl⟩
      · exact h.move _ (by simp [settling, hl, LoopPoint.delivered]) fun hd => by cases hd
      · exact h.move _ (by simp [settling, hl, LoopPoint.delivered]) fun hd => by cases hd
      · -- the loop takes the head of the queue into flight, from the top where nothing flies
        have hidle : d.inFlight = 0 := hc.idle (by rw [hl]; rfl)
        have hL : ({ d with queue := rest, inFlight := 1 } : Dispatcher).Ledger n :=
          h.move 0 (by simp [settling, hl, hq, hidle, LoopPoint.delivered]; omega)
            h.delivered
        rw [(attempt_views _ e 0).1]
        exact hL.attempt (by simp [settling, hl, LoopPoint.delivered]) e 0
      · -- an abandoned delivery flew nothing since the abandonment
        have hin : d.inFlight = 0 := (hf.abandoned (hc.returned_abandoned hl)).2
        exact h.move _ (by simp [settling, hl, hin, LoopPoint.delivered]) fun hd => by cases hd
      · -- a delivery that ended frees its slot and lets waiters take the room
        have hdel : d.loop.delivered = true := by
          rw [hl]
          cases o with
          | abandoned => exact absurd rfl ho
          | _ => rfl
        have hin : d.inFlight = 1 :=
          hf.holding (by simp [LoopPoint.holding, hdel]) (h.delivered hdel)
        have hbal := h.balance
        rw [takeWaiters_eq _ _ (by simp)]
        refine ⟨?_, fun hd => by cases hd⟩
        have hviews := (takeWaiters_views ({ d with inFlight := 0, loop := .top } : Dispatcher)
          (d.waiters.length + 1)).1
        simp only [admissions_cons, Effect.admittedTicket?, gauge, hviews]
        simp only [settling, hdel, hin, if_true] at hbal
        simp [settling, LoopPoint.delivered]
        omega
  | connectDone f =>
      obtain ⟨e, m, hl, ⟨-, rfl, rfl⟩ | ⟨x, -, rfl, rfl⟩⟩ := step_connectDone_fx hs
      · exact h.move _ (by simp [settling, hl, LoopPoint.delivered]) fun hd => by cases hd
      · rw [(failed_views d e m x).1]
        exact h.failed (by simp [settling, hl, LoopPoint.delivered]) e m x
  | sendDone f =>
      obtain ⟨e, m, hl, ⟨-, -, rfl, rfl⟩ | ⟨-, hna, rfl, rfl⟩ | ⟨x, -, rfl, rfl⟩⟩ :=
        step_sendDone_fx hs
      · exact h.move _ (by simp [settling, hl, LoopPoint.delivered]) fun hd => by cases hd
      · exact h.move _ (by simp [settling, hl, LoopPoint.delivered]; omega) (fun _ => hna)
      · rw [(failed_views d e m x).1]
        exact h.failed (by simp [settling, hl, LoopPoint.delivered]) e m x
  | loopDisconnected =>
      obtain ⟨e, m, hl, rfl, rfl⟩ := step_loopDisconnected_fx hs
      exact h.move _ (by simp [settling, hl, LoopPoint.delivered]) fun hd => by cases hd
  | wakeUp =>
      obtain ⟨e, m, hl, rfl, rfl⟩ := step_wakeUp_fx hs
      rw [(attempt_views d e (m + 1)).1]
      exact h.attempt (by simp [settling, hl, LoopPoint.delivered]) e (m + 1)
  | drained =>
      obtain ⟨-, hl, rfl, rfl⟩ := step_drained_fx hs
      rw [(finishDraining_views d false).1]
      refine h.finishDraining ?_ false
      rcases hl with hl | hl <;> simp [settling, hl, LoopPoint.delivered]
  | deadline =>
      obtain ⟨-, rfl, rfl⟩ := step_deadline_fx hs
      rw [(finishDraining_views d true).1]
      refine h.finishDraining ?_ true
      simp [settling, htimer rfl]
  | closeDisconnected =>
      obtain ⟨-, rfl, rfl⟩ := step_closeDisconnected_fx hs
      exact h.move _ (by simp [settling]) h.delivered

/-- A failed connect, or a send that failed for a reason that may pass, ends no delivery while the
buffer stands: the envelope stays in flight, one retry is counted and the session reset.  Once the
buffer is abandoned the failure ends the delivery and counts nothing. -/
theorem Flight.failure_retries (hf : d.Flight) {f : SinkFailure} {ev : Event}
    (hev : ev = .connectDone (some f) ∨ ev = .sendDone (some f) ∧ f.isFinal = false)
    (hs : d.step ev = some (d', fx)) :
    d.abandoned = false ∧ (∃ e m, d.loop.envelope? = some e ∧
        d' = { d with retries := d.retries + 1, connected := false, loop := .resetting e m }) ∨
      d.abandoned = true ∧ d' = { d with loop := .returned .abandoned } := by
  -- either way the try has failed, and the refusal branch is closed: a connect fails without a
  -- session, and the send's failure may pass
  have hfail : ∃ e m, d.loop.envelope? = some e ∧ (d.connected && f.isFinal) = false ∧
      d' = (d.failed e m f).1 := by
    rcases hev with rfl | ⟨rfl, hfin⟩
    · obtain ⟨e, m, hl, ⟨hnone, -⟩ | ⟨x, hx, rfl, -⟩⟩ := step_connectDone_fx hs
      · cases hnone
      · obtain rfl := Option.some.inj hx
        have hc : d.connected = false := hf.connecting (by rw [hl]; rfl)
        exact ⟨e, m, by rw [hl]; rfl, by rw [hc]; rfl, rfl⟩
    · obtain ⟨e, m, hl, ⟨hnone, -⟩ | ⟨hnone, -⟩ | ⟨x, hx, rfl, -⟩⟩ := step_sendDone_fx hs
      · cases hnone
      · cases hnone
      · obtain rfl := Option.some.inj hx
        exact ⟨e, m, by rw [hl]; rfl, by rw [hfin, Bool.and_false], rfl⟩
  obtain ⟨e, m, he, hfin, rfl⟩ := hfail
  rcases failed_cases d e m f with ⟨ha, hd⟩ | ⟨-, hr, -⟩ | ⟨ha, -, hd⟩
  · exact .inr ⟨ha, hd⟩
  · rw [hfin] at hr
    cases hr
  · exact .inl ⟨ha, e, m, he, hd⟩

theorem failed_counts (e : Envelope) (m : Nat) (x : SinkFailure) :
    (d.failed e m x).1.sent = d.sent ∧ (d.failed e m x).1.lost = d.lost ∨
      (d.connected && x.isFinal) = true ∧ d.abandoned = false ∧ (d.failed e m x).1.sent = d.sent ∧
        (d.failed e m x).1.lost = d.lost + 1 ∧ (d.failed e m x).1.loop = .returned .refused := by
  rcases failed_cases d e m x with ⟨-, hd⟩ | ⟨ha, hr, hd⟩ | ⟨-, -, hd⟩ <;> rw [hd]
  · exact .inl ⟨rfl, rfl⟩
  · exact .inr ⟨hr, ha, rfl, rfl, rfl⟩
  · exact .inl ⟨rfl, rfl⟩

theorem attempt_counts (e : Envelope) (m : Nat) :
    (d.attempt e m).1.sent = d.sent ∧ (d.attempt e m).1.lost = d.lost := by
  obtain ⟨l, hl, -⟩ := attempt_eq d e m
  rw [hl]
  exact ⟨rfl, rfl⟩

theorem finishDraining_counts (t : Bool) :
    (d.finishDraining t).1.closing = .disconnecting ∧
      (d.finishDraining t).1.sent = d.sent ∧ (d.finishDraining t).1.lost = d.lost + d.held ∧
      (d.finishDraining t).1.queue = [] ∧ (d.finishDraining t).1.inFlight = 0 := by
  rw [finishDraining_eq]
  split
  · rw [abandon_eq]
    exact ⟨rfl, rfl, rfl, rfl, rfl⟩
  · rename_i hkeep
    simp only [Bool.or_eq_true, not_or, decide_eq_true_eq, Nat.not_lt] at hkeep
    have hheld : d.held = 0 := Nat.le_zero.1 hkeep.1.2
    simp only [held] at hheld
    have hq : d.queue = [] := List.eq_nil_of_length_eq_zero (by omega)
    have hin : d.inFlight = 0 := by omega
    exact ⟨rfl, rfl, by simp [held, hq, hin], hq, hin⟩

/-- Where the counters move.  A send that goes through before the buffer is abandoned counts one
envelope sent and ends its delivery; a send the sink refuses for good over an open session counts
one lost and ends its delivery; the end of the drain counts everything still held lost and leaves
nothing held; no other event touches `sent` or `lost`. -/
theorem Flight.step_counts (hf : d.Flight) {ev : Event} (hs : d.step ev = some (d', fx)) :
    d'.sent = d.sent ∧ d'.lost = d.lost ∨
    ev = .sendDone none ∧ d.abandoned = false ∧ d.loop.isSending = true ∧
      d'.sent = d.sent + 1 ∧ d'.lost = d.lost ∧ d'.loop = .returned .sent ∨
    (∃ f, ev = .sendDone (some f) ∧ f.isFinal = true) ∧ d.connected = true ∧
      d.abandoned = false ∧ d.loop.isSending = true ∧
      d'.sent = d.sent ∧ d'.lost = d.lost + 1 ∧ d'.loop = .returned .refused ∨
    (ev = .drained ∨ ev = .deadline) ∧ d.closing = .draining ∧ d'.closing = .disconnecting ∧
      d'.sent = d.sent ∧ d'.lost = d.lost + d.held ∧ d'.queue = [] ∧ d'.inFlight = 0 := by
  cases ev with
  | submit t e =>
      rcases step_submit hs with ⟨-, rfl⟩ | ⟨-, -, -, rfl⟩ | ⟨-, -, rfl⟩ <;>
        exact .inl (by simp [notify_eq])
  | start =>
      rcases step_start hs with ⟨-, rfl⟩ | ⟨-, rfl⟩ <;> exact .inl ⟨rfl, rfl⟩
  | close =>
      rcases step_close hs with ⟨-, rfl⟩ | ⟨-, rfl⟩
      · exact .inl (by simp [notify_eq])
      · exact .inl ⟨rfl, rfl⟩
  | resume =>
      rcases step_resume hs with ⟨-, -, -, rfl⟩ | ⟨-, -, -, -, rfl⟩ | ⟨e, rest, -, -, rfl⟩ |
        ⟨-, rfl⟩ | ⟨o, -, -, rfl⟩
      · exact .inl ⟨rfl, rfl⟩
      · exact .inl ⟨rfl, rfl⟩
      · exact .inl (attempt_counts e 0)
      · exact .inl ⟨rfl, rfl⟩
      · exact .inl (by rw [takeWaiters_eq _ _ (by simp)]; exact ⟨rfl, rfl⟩)
  | connectDone f =>
      obtain ⟨e, m, hl, ⟨-, rfl⟩ | ⟨x, -, rfl⟩⟩ := step_connectDone hs
      · exact .inl ⟨rfl, rfl⟩
      · -- a connect fails without a session, so the sink has refused nothing
        have hconn : d.connected = false := hf.connecting (by rw [hl]; rfl)
        rcases failed_counts e m x with hsame | ⟨hr, -⟩
        · exact .inl hsame
        · rw [hconn, Bool.false_and] at hr
          cases hr
  | sendDone f =>
      obtain ⟨e, m, hl, ⟨-, -, rfl⟩ | ⟨rfl, ha, rfl⟩ | ⟨x, rfl, rfl⟩⟩ := step_sendDone hs
      · exact .inl ⟨rfl, rfl⟩
      · exact .inr (.inl ⟨rfl, ha, by rw [hl]; rfl, rfl, rfl, rfl⟩)
      · rcases failed_counts e m x with hsame | ⟨hr, ha, hsent, hlost, hloop⟩
        · exact .inl hsame
        · simp only [Bool.and_eq_true] at hr
          exact .inr (.inr (.inl ⟨⟨x, rfl, hr.2⟩, hr.1, ha, by rw [hl]; rfl, hsent, hlost, hloop⟩))
  | loopDisconnected =>
      obtain ⟨e, m, -, rfl⟩ := step_loopDisconnected hs
      exact .inl ⟨rfl, rfl⟩
  | wakeUp =>
      obtain ⟨e, m, -, rfl⟩ := step_wakeUp hs
      exact .inl (attempt_counts e (m + 1))
  | drained =>
      obtain ⟨hdr, -, rfl⟩ := step_drained hs
      exact .inr (.inr (.inr ⟨.inl rfl, hdr, finishDraining_counts false⟩))
  | deadline =>
      obtain ⟨hdr, rfl⟩ := step_deadline hs
      exact .inr (.inr (.inr ⟨.inr rfl, hdr, finishDraining_counts true⟩))
  | closeDisconnected =>
      obtain ⟨-, rfl⟩ := step_closeDisconnected hs
      exact .inl ⟨rfl, rfl⟩

end Steps

/-- Along a timely run from a consistent state with its flight in order and its books balanced,
the books stay balanced, counting every submitter let in on the way. -/
theorem Run.ledger {d₀ d : Dispatcher} {tr : List (Dispatcher × Event)} {fx : List Effect}
    {n : Nat} (hc₀ : d₀.Consistent) (hf₀ : d₀.Flight) (hL₀ : d₀.Ledger n)
    (h : Run d₀ tr d fx) (ht : Timely tr) : d.Ledger (n + (admissions fx).length) := by
  induction h with
  | nil => simpa using hL₀
  | step h ev hs ih =>
      obtain ⟨ht, hev⟩ := Timely.snoc_iff.1 ht
      have hr := h.reachable
      rw [admissions_append, List.length_append, ← Nat.add_assoc]
      exact (ih ht).step (hr.consistent hc₀) (hr.flight hc₀ hf₀) hev hs

/-! ### Every admitted envelope counted once -/

/-- **Every admitted envelope is sent, refused or abandoned, and counted once.**  Along a run from a
new dispatcher in which the drain deadline never passes between a delivery ending and the loop
resuming, whatever the sink answers and wherever the deadline falls otherwise: the submitters let in
number exactly `sent + lost + queue.length + inFlight`, less the one envelope whose delivery has
just ended while its slot is not yet freed.  At every state of the run, the next event moves the
counters only as a fate: `sent` by one when a send goes through before the buffer is abandoned,
`lost` by one when the sink refuses a send for good over an open session, and `lost` by everything
held when the drain ends, which holds nothing after; each of the first two ends its delivery.  And
a failed connect, or a send that failed for a reason that may pass, keeps the envelope in flight,
counts one retry and resets the session while the buffer stands; once the buffer is abandoned such
a failure ends the delivery and counts no retry. -/
theorem admitted_envelopes_counted_once {c initialBackoff maxBackoff : Nat}
    {tr : List (Dispatcher × Event)} {d : Dispatcher} {fx : List Effect}
    (h : Run (init c initialBackoff maxBackoff) tr d fx) (ht : Timely tr) :
    (admissions fx).length + d.settling = d.sent + d.lost + d.queue.length + d.inFlight ∧
    (∀ (ev : Event) (d' : Dispatcher) (fx' : List Effect), d.step ev = some (d', fx') →
      d'.sent = d.sent ∧ d'.lost = d.lost ∨
      ev = .sendDone none ∧ d.abandoned = false ∧ d.loop.isSending = true ∧
        d'.sent = d.sent + 1 ∧ d'.lost = d.lost ∧ d'.loop = .returned .sent ∨
      (∃ f, ev = .sendDone (some f) ∧ f.isFinal = true) ∧ d.connected = true ∧
        d.abandoned = false ∧ d.loop.isSending = true ∧
        d'.sent = d.sent ∧ d'.lost = d.lost + 1 ∧ d'.loop = .returned .refused ∨
      (ev = .drained ∨ ev = .deadline) ∧ d.closing = .draining ∧ d'.closing = .disconnecting ∧
        d'.sent = d.sent ∧ d'.lost = d.lost + d.held ∧ d'.queue = [] ∧ d'.inFlight = 0) ∧
    ∀ (f : SinkFailure) (ev : Event) (d' : Dispatcher) (fx' : List Effect),
      (ev = .connectDone (some f) ∨ ev = .sendDone (some f) ∧ f.isFinal = false) →
      d.step ev = some (d', fx') →
      d.abandoned = false ∧ (∃ e m, d.loop.envelope? = some e ∧
          d' = { d with retries := d.retries + 1, connected := false, loop := .resetting e m }) ∨
        d.abandoned = true ∧ d' = { d with loop := .returned .abandoned } := by
  have hc₀ := Consistent.init c initialBackoff maxBackoff
  have hf₀ := Flight.init c initialBackoff maxBackoff
  have hL := Run.ledger hc₀ hf₀ (Ledger.init c initialBackoff maxBackoff) h ht
  have hf := h.reachable.flight hc₀ hf₀
  exact ⟨by simpa using hL.balance, fun _ _ _ hs => hf.step_counts hs,
    fun _ _ _ _ hev hs => hf.failure_retries hev hs⟩

/-- A send that hangs past the drain deadline and then fails: the envelope is counted lost once,
by the abandonment, and the late failure counts no retry. -/
theorem late_send_failure_counted_lost_once :
    ∃ tr d fx, Run (init 1 0 0) tr d fx ∧ Timely tr ∧ (admissions fx).length = 1 ∧
      d.lost = 1 ∧ d.retries = 0 ∧
      ((admissions fx).length + d.settling = d.sent + d.lost + d.queue.length + d.inFlight ∧
      (∀ (ev : Event) (d' : Dispatcher) (fx' : List Effect), d.step ev = some (d', fx') →
        d'.sent = d.sent ∧ d'.lost = d.lost ∨
        ev = .sendDone none ∧ d.abandoned = false ∧ d.loop.isSending = true ∧
          d'.sent = d.sent + 1 ∧ d'.lost = d.lost ∧ d'.loop = .returned .sent ∨
        (∃ f, ev = .sendDone (some f) ∧ f.isFinal = true) ∧ d.connected = true ∧
          d.abandoned = false ∧ d.loop.isSending = true ∧
          d'.sent = d.sent ∧ d'.lost = d.lost + 1 ∧ d'.loop = .returned .refused ∨
        (ev = .drained ∨ ev = .deadline) ∧ d.closing = .draining ∧ d'.closing = .disconnecting ∧
          d'.sent = d.sent ∧ d'.lost = d.lost + d.held ∧ d'.queue = [] ∧ d'.inFlight = 0) ∧
      ∀ (f : SinkFailure) (ev : Event) (d' : Dispatcher) (fx' : List Effect),
        (ev = .connectDone (some f) ∨ ev = .sendDone (some f) ∧ f.isFinal = false) →
        d.step ev = some (d', fx') →
        d.abandoned = false ∧ (∃ e m, d.loop.envelope? = some e ∧
            d' = { d with retries := d.retries + 1, connected := false, loop := .resetting e m }) ∨
          d.abandoned = true ∧ d' = { d with loop := .returned .abandoned }) := by
  have h₁ := (@Run.nil (init 1 0 0)).step .start rfl
  have h₂ := h₁.step (.submit 0 default) rfl
  have h₃ := h₂.step .resume rfl
  have h₄ := h₃.step (.connectDone none) rfl
  have h₅ := h₄.step .close rfl
  have h₆ := h₅.step .deadline rfl
  have h₇ := h₆.step (.sendDone (some .broken)) rfl
  have h₈ := h₇.step .resume rfl
  refine ⟨_, _, _, h₈, ?_⟩
  suffices ht : Timely _ from ⟨ht, rfl, rfl, rfl, admitted_envelopes_counted_once h₈ ht⟩
  -- the deadline passes while the send hangs, when no delivery has ended
  intro p hp hdl
  simp only [List.cons_append, List.nil_append, List.mem_cons,
    List.not_mem_nil, or_false] at hp
  rcases hp with rfl | rfl | rfl | rfl | rfl | rfl | rfl | rfl
  -- every event but the sixth is no deadline, and the sixth finds the loop sending
  any_goals cases hdl
  rfl

/-- Counting every admitted envelope once needs the deadline to wait for the loop, and a failure
counts a retry only while the buffer stands.  A deadline taken right after a send went through,
before the loop frees the slot, counts the sent envelope lost as well; and a send that fails after
the deadline gave up on it counts no retry. -/
theorem untimely_deadline_counts_twice_and_late_failure_no_retry :
    ¬ (∀ (tr : List (Dispatcher × Event)) (d : Dispatcher) (fx : List Effect),
        Run (init 1 0 0) tr d fx → d.loop.delivered = false →
        (admissions fx).length = d.sent + d.lost + d.queue.length + d.inFlight) ∧
    ¬ (∀ (tr : List (Dispatcher × Event)) (d : Dispatcher) (fx : List Effect) (f : SinkFailure)
        (d' : Dispatcher) (fx' : List Effect),
        Run (init 1 0 0) tr d fx → f.isFinal = false → d.step (.sendDone (some f)) = some (d', fx') →
        d'.retries = d.retries + 1) := by
  have h₁ := (@Run.nil (init 1 0 0)).step .start rfl
  have h₂ := h₁.step (.submit 0 default) rfl
  have h₃ := h₂.step .resume rfl
  have h₄ := h₃.step (.connectDone none) rfl
  constructor
  · -- sent, then abandoned before the loop resumed: one admission, two counts
    intro hall
    have h₅ := h₄.step (.sendDone none) rfl
    have h₆ := h₅.step .close rfl
    have h₇ := h₆.step .deadline rfl
    have h₈ := h₇.step .resume rfl
    have hcount := hall _ _ _ h₈ rfl
    cases hcount
  · -- abandoned while the send hangs, then the send fails
    intro hall
    have h₅ := h₄.step .close rfl
    have h₆ := h₅.step .deadline rfl
    have hretry := hall _ _ _ .broken _ _ h₆ rfl rfl
    cases hretry

end Dispatcher

end LogRouter
