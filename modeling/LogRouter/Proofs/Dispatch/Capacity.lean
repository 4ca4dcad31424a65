import LogRouter.Proofs.Dispatch.Run

/-!
The dispatcher keeps its bound, and leaves no room unused while someone waits.

Along every run, whatever the order of submitters, closing, replies of the sink and timers, four
things hold of the state: the envelopes held (queued plus in flight) are at most the capacity; at
most one is in flight; a submitter waits only when the queue is full; and a parked loop has an
empty queue on a dispatcher that is neither closed nor abandoned, so that the wake-up it waits
for cannot be missed.

They are not inductive alone.  Completing a delivery frees its slot one step before the loop lets
waiters in, so a waiter may stand beside a free slot at a point where the delivery was abandoned;
that is harmless only because abandoning empties the line of waiters for good, which in turn
rests on abandoning happening only after closing.  `Dispatcher.Consistent` adds those facts, and
that no envelope is in flight while the loop stands idle.  It holds of a new dispatcher and every
event keeps it (`Consistent.step`, one lemma per event from the lemmas that say what each event
does); so it holds along every run.
-/

namespace LogRouter

/-- Whether the loop stands where no envelope is in flight: not started, at the top, parked or
ended. -/
def LoopPoint.idle : LoopPoint → Bool
  | .unstarted | .top | .parked | .finished => true
  | _ => false

theorem LoopPoint.idle_woken (l : LoopPoint) : l.woken.idle = l.idle := by
  unfold LoopPoint.woken
  split
  · rename_i h
    rw [h]
    rfl
  · rfl

theorem LoopPoint.eq_of_woken_eq {l l' : LoopPoint} (h : l.woken = l') (hl' : l' ≠ .top) :
    l = l' := by
  unfold LoopPoint.woken at h
  split at h
  · exact absurd h.symm hl'
  · exact h

namespace Dispatcher

/-- What every state of a run satisfies: the dispatcher's four promises first, then what they
rest on. -/
structure Consistent (d : Dispatcher) : Prop where
  held_le : d.held ≤ d.capacity
  inFlight_le : d.inFlight ≤ 1
  full_of_waiting : d.waiters ≠ [] → d.held = d.capacity
  parked : d.loop = .parked → d.queue = [] ∧ d.closed = false ∧ d.abandoned = false
  idle : d.loop.idle = true → d.inFlight = 0
  returned_abandoned : d.loop = .returned .abandoned → d.abandoned = true
  abandoned : d.abandoned = true → d.waiters = [] ∧ d.closed = true
  closing : d.closing ≠ .running → d.closed = true

section Steps

variable {d d' : Dispatcher} {fx : List Effect}

theorem Consistent.init (capacity initialBackoff maxBackoff : Nat) :
    (init capacity initialBackoff maxBackoff).Consistent := by
  constructor <;> simp [Dispatcher.init, held]

/-! ### Moves of the loop or of the closing alone

Most events move only the loop, perhaps with the counters and the session beside it.  Such a move
keeps the state consistent when the new point is not idle unless nothing is in flight, is parked
only where parking is safe, and ends an abandoned delivery only once abandoned.  The closing moves
on its own only once the dispatcher is closed. -/

theorem Consistent.moveLoop (h : d.Consistent) (sent lost retries : Nat) (connected : Bool)
    {l : LoopPoint} (hidle : l.idle = true → d.inFlight = 0)
    (hparked : l = .parked → d.queue = [] ∧ d.closed = false ∧ d.abandoned = false)
    (hret : l = .returned .abandoned → d.abandoned = true) :
    ({ d with sent, lost, retries, connected, loop := l } : Dispatcher).Consistent :=
  ⟨h.held_le, h.inFlight_le, h.full_of_waiting, hparked, hidle, hret, h.abandoned, h.closing⟩

theorem Consistent.attempt (h : d.Consistent) (e : Envelope) (n : Nat) :
    (d.attempt e n).1.Consistent := by
  obtain ⟨l, heq, hl⟩ := attempt_eq d e n
  rw [heq]
  rcases hl with ⟨rfl, ha⟩ | rfl | rfl
  · exact h.moveLoop d.sent d.lost d.retries d.connected nofun nofun fun _ => ha
  · exact h.moveLoop d.sent d.lost d.retries d.connected nofun nofun nofun
  · exact h.moveLoop d.sent d.lost d.retries d.connected nofun nofun nofun

theorem Consistent.failed (h : d.Consistent) (e : Envelope) (n : Nat) (f : SinkFailure) :
    (d.failed e n f).1.Consistent := by
  obtain ⟨lost, retries, connected, l, heq, hl⟩ := failed_eq d e n f
  rw [heq]
  rcases hl with ⟨rfl, ha⟩ | rfl | rfl
  · exact h.moveLoop d.sent lost retries connected nofun nofun fun _ => ha
  · exact h.moveLoop d.sent lost retries connected nofun nofun nofun
  · exact h.moveLoop d.sent lost retries connected nofun nofun nofun

theorem Consistent.moveClosing (h : d.Consistent) (hc : d.closed = true) (connected : Bool)
    (closing : ClosePoint) : ({ d with connected, closing } : Dispatcher).Consistent :=
  ⟨h.held_le, h.inFlight_le, h.full_of_waiting, h.parked, h.idle, h.returned_abandoned,
    h.abandoned, fun _ => hc⟩

/-! ### The events -/

/-- A submitter enters the queue only into a free slot, and waits only behind a full one. -/
theorem Consistent.submit {t : Nat} {e : Envelope} (h : d.Consistent)
    (hs : d.step (.submit t e) = some (d', fx)) : d'.Consistent := by
  rcases step_submit hs with ⟨-, rfl⟩ | ⟨-, hw, hroom, rfl⟩ | ⟨hopen, hfull, rfl⟩
  · exact h
  · -- one more held, in the room there was; the wake-up leaves the loop unparked
    rw [notify_eq]
    refine ⟨?_, h.inFlight_le, fun hne => absurd hw hne, fun hp => absurd hp d.loop.woken_ne_parked,
      ?_, fun hl => h.returned_abandoned (LoopPoint.eq_of_woken_eq hl nofun), h.abandoned,
      h.closing⟩
    · simp only [held, List.length_append, List.length_singleton] at hroom ⊢
      omega
    · intro hi
      rw [LoopPoint.idle_woken] at hi
      exact h.idle hi
  · -- the line grows only behind a full queue, and never once closed
    have hheld : d.held = d.capacity := by
      rcases hfull with hne | hle
      · exact h.full_of_waiting hne
      · exact Nat.le_antisymm h.held_le hle
    refine ⟨h.held_le, h.inFlight_le, fun _ => hheld, h.parked, h.idle, h.returned_abandoned, ?_,
      h.closing⟩
    -- an abandoned dispatcher is closed, and a closed one takes no submitter in line
    intro ha
    have hc := (h.abandoned ha).2
    rw [hopen] at hc
    cases hc

theorem Consistent.start (h : d.Consistent) (hs : d.step .start = some (d', fx)) :
    d'.Consistent := by
  rcases step_start hs with ⟨hl, rfl⟩ | ⟨-, rfl⟩
  · have hidle : d.loop.idle = true := by rw [hl]; rfl
    exact h.moveLoop d.sent d.lost d.retries d.connected (fun _ => h.idle hidle) nofun nofun
  · exact h

theorem Consistent.close (h : d.Consistent) (hs : d.step .close = some (d', fx)) :
    d'.Consistent := by
  rcases step_close hs with ⟨-, rfl⟩ | ⟨-, rfl⟩
  · rw [notify_eq]
    refine ⟨h.held_le, h.inFlight_le, h.full_of_waiting,
      fun hp => absurd hp d.loop.woken_ne_parked, ?_,
      fun hl => h.returned_abandoned (LoopPoint.eq_of_woken_eq hl nofun),
      fun ha => ⟨(h.abandoned ha).1, rfl⟩, fun _ => rfl⟩
    intro hi
    rw [LoopPoint.idle_woken] at hi
    exact h.idle hi
  · exact h

theorem Consistent.take (h : d.Consistent) {e : Envelope} {rest : List Envelope}
    (hl : d.loop = .top) (hq : d.queue = e :: rest) :
    ({ d with queue := rest, inFlight := 1 }.attempt e 0).1.Consistent := by
  have hidle : d.inFlight = 0 := h.idle (by rw [hl]; rfl)
  have hheld : ({ d with queue := rest, inFlight := 1 } : Dispatcher).held = d.held := by
    simp [held, hq, hidle]
  obtain ⟨l, heq, hl'⟩ := attempt_eq { d with queue := rest, inFlight := 1 } e 0
  have hbusy : l.idle = false := by
    rcases hl' with ⟨rfl, -⟩ | rfl | rfl <;> rfl
  rw [heq]
  refine ⟨hheld ▸ h.held_le, by simp, fun hne => hheld ▸ h.full_of_waiting hne, ?_, ?_, ?_,
    h.abandoned, h.closing⟩
  · rintro rfl
    cases hbusy
  · intro hi
    simp [hi] at hbusy
  · intro hret
    rcases hl' with ⟨-, ha⟩ | rfl | rfl
    · exact ha
    · cases hret
    · cases hret

/-- After a delivery the slot is freed and the waiters take the room there is, in order: either
all of them get in, or the queue is full again. -/
theorem Consistent.admit (h : d.Consistent) :
    ({ d with inFlight := 0, loop := .top }.takeWaiters (d.waiters.length + 1)).1.Consistent := by
  rw [takeWaiters_eq _ _ (by simp)]
  have hle : d.queue.length + d.inFlight ≤ d.capacity := h.held_le
  -- fuel enough for every waiter, so only the room bounds how many get in
  have hk : ({ d with inFlight := 0, loop := .top } : Dispatcher).admitted (d.waiters.length + 1) =
      min d.waiters.length (d.capacity - d.queue.length) := by
    simp only [admitted, held, Nat.add_zero]
    omega
  refine ⟨?_, by simp, ?_, (fun hp => by cases hp), fun _ => rfl, (fun hr => by cases hr), ?_,
    h.closing⟩
  · simp only [held, hk, List.length_append, List.length_map, List.length_take, Nat.add_zero]
    omega
  · intro hne
    have hlt : min d.waiters.length (d.capacity - d.queue.length) < d.waiters.length := by
      simp only [hk, ne_eq, List.drop_eq_nil_iff, Nat.not_le] at hne
      exact hne
    simp only [held, hk, List.length_append, List.length_map, List.length_take, Nat.add_zero]
    omega
  · intro ha
    obtain ⟨hw, hc⟩ := h.abandoned ha
    simp [hw, hc]

theorem Consistent.resume (h : d.Consistent) (hs : d.step .resume = some (d', fx)) :
    d'.Consistent := by
  rcases step_resume hs with ⟨hl, -, -, rfl⟩ | ⟨hl, hq, hc, ha, rfl⟩ | ⟨e, rest, hl, hq, rfl⟩ |
    ⟨hl, rfl⟩ | ⟨o, -, -, rfl⟩
  · -- the loop ends at the top, where nothing is in flight
    have hidle : d.loop.idle = true := by rw [hl]; rfl
    exact h.moveLoop d.sent d.lost d.retries d.connected (fun _ => h.idle hidle) nofun nofun
  · -- it parks only on an empty queue of an open dispatcher
    have hidle : d.loop.idle = true := by rw [hl]; rfl
    exact h.moveLoop d.sent d.lost d.retries d.connected (fun _ => h.idle hidle)
      (fun _ => ⟨hq, hc, ha⟩) nofun
  · exact h.take hl hq
  · -- an abandoned delivery ends the loop; the line of waiters was emptied when it was abandoned
    have hab : d.abandoned = true := h.returned_abandoned hl
    have hw : d.waiters = [] := (h.abandoned hab).1
    refine ⟨?_, by simp, fun hne => absurd hw hne, nofun, fun _ => rfl, fun _ => hab,
      h.abandoned, h.closing⟩
    have hle : d.queue.length + d.inFlight ≤ d.capacity := h.held_le
    simp only [held]
    omega
  · exact h.admit

theorem Consistent.connectDone {f : Option SinkFailure} (h : d.Consistent)
    (hs : d.step (.connectDone f) = some (d', fx)) : d'.Consistent := by
  obtain ⟨e, n, -, ⟨-, rfl⟩ | ⟨x, -, rfl⟩⟩ := step_connectDone hs
  · exact h.moveLoop d.sent d.lost d.retries true nofun nofun nofun
  · exact h.failed e n x

theorem Consistent.sendDone {f : Option SinkFailure} (h : d.Consistent)
    (hs : d.step (.sendDone f) = some (d', fx)) : d'.Consistent := by
  obtain ⟨e, n, -, ⟨-, ha, rfl⟩ | ⟨-, -, rfl⟩ | ⟨x, -, rfl⟩⟩ := step_sendDone hs
  · exact h.moveLoop d.sent d.lost d.retries d.connected nofun nofun fun _ => ha
  · exact h.moveLoop (d.sent + 1) d.lost d.retries d.connected nofun nofun nofun
  · exact h.failed e n x

theorem Consistent.loopDisconnected (h : d.Consistent)
    (hs : d.step .loopDisconnected = some (d', fx)) : d'.Consistent := by
  obtain ⟨e, n, -, rfl⟩ := step_loopDisconnected hs
  exact h.moveLoop d.sent d.lost d.retries d.connected nofun nofun nofun

theorem Consistent.wakeUp (h : d.Consistent) (hs : d.step .wakeUp = some (d', fx)) :
    d'.Consistent := by
  obtain ⟨e, n, -, rfl⟩ := step_wakeUp hs
  exact h.attempt e (n + 1)

/-- Ending the closing, which only happens once closed, empties everything when it gives up. -/
theorem Consistent.finishDraining (h : d.Consistent) (hc : d.closing = .draining)
    (timedOut : Bool) : (d.finishDraining timedOut).1.Consistent := by
  have hclosed : d.closed = true := h.closing (by rw [hc]; nofun)
  rw [finishDraining_eq]
  split
  · -- giving up: nothing held, nobody waiting, the loop woken
    rw [abandon_eq]
    exact ⟨by simp [held], by simp, fun hne => absurd rfl hne,
      fun hp => absurd hp d.loop.woken_ne_parked, fun _ => rfl, fun _ => rfl,
      fun _ => ⟨rfl, hclosed⟩, fun _ => hclosed⟩
  · exact h.moveClosing hclosed false .disconnecting

theorem Consistent.drained (h : d.Consistent) (hs : d.step .drained = some (d', fx)) :
    d'.Consistent := by
  obtain ⟨hc, -, rfl⟩ := step_drained hs
  exact h.finishDraining hc false

theorem Consistent.deadline (h : d.Consistent) (hs : d.step .deadline = some (d', fx)) :
    d'.Consistent := by
  obtain ⟨hc, rfl⟩ := step_deadline hs
  exact h.finishDraining hc true

theorem Consistent.closeDisconnected (h : d.Consistent)
    (hs : d.step .closeDisconnected = some (d', fx)) : d'.Consistent := by
  obtain ⟨hc, rfl⟩ := step_closeDisconnected hs
  exact h.moveClosing (h.closing (by rw [hc]; nofun)) d.connected .closed

/-- Every event keeps the state consistent. -/
theorem Consistent.step (h : d.Consistent) {ev : Event} (hs : d.step ev = some (d', fx)) :
    d'.Consistent := by
  cases ev with
  | submit t e => exact h.submit hs
  | start => exact h.start hs
  | close => exact h.close hs
  | resume => exact h.resume hs
  | connectDone f => exact h.connectDone hs
  | sendDone f => exact h.sendDone hs
  | loopDisconnected => exact h.loopDisconnected hs
  | wakeUp => exact h.wakeUp hs
  | drained => exact h.drained hs
  | deadline => exact h.deadline hs
  | closeDisconnected => exact h.closeDisconnected hs

end Steps

/-- Every state a run reaches from a consistent state is consistent. -/
theorem Reachable.consistent {d₀ d : Dispatcher} (h₀ : d₀.Consistent) (hr : Reachable d₀ d) :
    d.Consistent := by
  induction hr with
  | refl => exact h₀
  | step _ hs ih => exact ih.step hs

/-! ### The bound along every run -/

/-- **A dispatcher never holds more than it was built for, and leaves no room unused while someone
waits.**  In every state a run reaches from a new dispatcher of capacity `c`, whatever the events
and their order: the queue and the flight hold at most `c` envelopes; at most one is in flight; a
submitter waits only when exactly `c` are held; and a parked loop has an empty queue on a
dispatcher neither closed nor abandoned. -/
theorem reachable_held_within_capacity {c initialBackoff maxBackoff : Nat} {d : Dispatcher}
    (hr : Reachable (init c initialBackoff maxBackoff) d) :
    d.queue.length + d.inFlight ≤ c ∧ (d.inFlight = 0 ∨ d.inFlight = 1) ∧
      (d.waiters ≠ [] → d.queue.length + d.inFlight = c) ∧
      (d.loop = .parked → d.queue = [] ∧ d.closed = false ∧ d.abandoned = false) := by
  have h := hr.consistent (Consistent.init c initialBackoff maxBackoff)
  have hcap : d.capacity = c := hr.capacity
  refine ⟨hcap ▸ h.held_le, ?_, fun hne => hcap ▸ h.full_of_waiting hne, h.parked⟩
  have hle := h.inFlight_le
  omega

/-- Two submitters on a dispatcher of capacity one whose loop has not started: the first is
queued, the second waits, and the one slot is taken. -/
theorem second_submitter_waits_at_capacity :
    Reachable (init 1 100 5000)
        { capacity := 1, queue := [default], waiters := [⟨1, default⟩] } ∧
      ([default] : List Envelope).length + 0 = 1 := by
  have h₁ : Reachable (init 1 100 5000) { capacity := 1, queue := [default] } :=
    .step .refl (show (init 1 100 5000).step (.submit 0 default) = some (_, _) from rfl)
  have hr : Reachable (init 1 100 5000)
      { capacity := 1, queue := [default], waiters := [⟨1, default⟩] } :=
    .step h₁ (show Dispatcher.step _ (.submit 1 default) = some (_, _) from rfl)
  exact ⟨hr, (reachable_held_within_capacity hr).2.2.1 (by simp)⟩

end Dispatcher

end LogRouter
