import LogRouter.Dispatch.Machine

/-!
Runs of the dispatcher, and what each of its helpers does to the state.

A dispatcher starts with nothing held, nobody waiting and its loop not started, and any sequence
of the events `Dispatcher.step` takes, in any order, is a run: `Dispatcher.Reachable` is the
closure of the start under `step`.  Invariants are proved by induction on it, one event at a time.

So that no invariant has to open `step` or a helper again, each helper gets one lemma that gives
the state it leaves as an update of the state it was given, and each event one lemma that lists
the states it can lead to and the effects it has, each with the guard under which it does.  `takeWaiters` is the only
helper with a loop in it: it lets in the first `admitted` waiters, as many as there is room and
fuel for, in the order they came.  The first invariant read off these lemmas is the simplest: no
event changes the capacity.
-/

namespace LogRouter

/-- Where a wake-up leaves the loop: at the top if it was parked, else where it was. -/
def LoopPoint.woken (l : LoopPoint) : LoopPoint :=
  if l = .parked then .top else l

theorem LoopPoint.woken_ne_parked (l : LoopPoint) : l.woken ≠ .parked := by
  unfold LoopPoint.woken
  split <;> simp_all

namespace Dispatcher

/-- A dispatcher as built: its capacity and back-off, nothing held, nobody waiting, the loop not
started and closing not asked for. -/
def init (capacity initialBackoff maxBackoff : Nat) : Dispatcher :=
  { capacity, initialBackoff, maxBackoff }

/-- The states a dispatcher reaches from `d₀` by any sequence of events. -/
inductive Reachable (d₀ : Dispatcher) : Dispatcher → Prop
  | refl : Reachable d₀ d₀
  | step {d d' : Dispatcher} {ev : Event} {fx : List Effect} :
      Reachable d₀ d → d.step ev = some (d', fx) → Reachable d₀ d'

/-! ### Each helper as an update of the state -/

theorem notify_eq (d : Dispatcher) : d.notify = { d with loop := d.loop.woken } := by
  unfold notify LoopPoint.woken
  split
  · rfl
  · rfl

theorem notify_of_ne_parked {d : Dispatcher} (h : d.loop ≠ .parked) : d.notify = d := by
  simp [notify, h]

/-- How many waiters `takeWaiters` lets in: as many as wait, as there is room for and as the
fuel allows. -/
def admitted (d : Dispatcher) (fuel : Nat) : Nat :=
  min fuel (min d.waiters.length (d.capacity - d.held))

theorem takeWaiters_eq (fuel : Nat) (d : Dispatcher) (hloop : d.loop ≠ .parked) :
    (d.takeWaiters fuel).1 =
      { d with queue := d.queue ++ (d.waiters.take (d.admitted fuel)).map (·.envelope),
               waiters := d.waiters.drop (d.admitted fuel) } := by
  induction fuel generalizing d with
  | zero => simp [takeWaiters, admitted]
  | succ fuel ih =>
      unfold takeWaiters
      split
      · rename_i w rest hw
        split
        · rename_i hroom
          -- one waiter in, then the rest with one slot fewer
          have hd' : ({ d with waiters := rest }.enqueue w.envelope).1 =
              { d with waiters := rest, queue := d.queue ++ [w.envelope] } := by
            simp only [enqueue]
            exact notify_of_ne_parked hloop
          simp only [hd']
          rw [ih { d with waiters := rest, queue := d.queue ++ [w.envelope] } hloop]
          have hk : d.admitted (fuel + 1) =
              ({ d with waiters := rest, queue := d.queue ++ [w.envelope] } : Dispatcher).admitted
                fuel + 1 := by
            simp only [admitted, held, hw, List.length_cons, List.length_append,
              List.length_nil] at hroom ⊢
            omega
          simp [hk, hw]
        · rename_i hfull
          have hk : d.admitted (fuel + 1) = 0 := by
            simp only [admitted]
            omega
          simp [hk]
      · rename_i hw
        have hk : d.admitted (fuel + 1) = 0 := by
          simp [admitted, hw]
        simp [hk]

theorem attempt_eq (d : Dispatcher) (e : Envelope) (n : Nat) :
    ∃ l, (d.attempt e n).1 = { d with loop := l } ∧
      (l = .returned .abandoned ∧ d.abandoned = true ∨ l = .connecting e n ∨ l = .sending e n) := by
  unfold attempt
  split
  · exact ⟨_, rfl, .inl ⟨rfl, by assumption⟩⟩
  · split
    · exact ⟨_, rfl, .inr (.inl rfl)⟩
    · exact ⟨_, rfl, .inr (.inr rfl)⟩

theorem failed_eq (d : Dispatcher) (e : Envelope) (n : Nat) (f : SinkFailure) :
    ∃ lost retries connected l,
      (d.failed e n f).1 = { d with lost, retries, connected, loop := l } ∧
      (l = .returned .abandoned ∧ d.abandoned = true ∨ l = .returned .refused ∨
        l = .resetting e n) := by
  unfold failed
  split
  · exact ⟨_, _, _, _, rfl, .inl ⟨rfl, by assumption⟩⟩
  · split
    · exact ⟨_, _, _, _, rfl, .inr (.inl rfl)⟩
    · exact ⟨_, _, _, _, rfl, .inr (.inr rfl)⟩

theorem abandon_eq (d : Dispatcher) :
    d.abandon.1 = { d with abandoned := true, lost := d.lost + d.held, queue := [], inFlight := 0,
                           waiters := [], loop := d.loop.woken } := by
  simp [abandon, notify_eq]

theorem finishDraining_eq (d : Dispatcher) (timedOut : Bool) :
    (d.finishDraining timedOut).1 =
      { (if timedOut || d.held > 0 || !d.waiters.isEmpty then d.abandon.1 else d) with
        connected := false, closing := .disconnecting } := by
  unfold finishDraining
  by_cases h : (timedOut || d.held > 0 || !d.waiters.isEmpty) = true
  · rw [if_pos h, if_pos h]
  · rw [if_neg h, if_neg h]

/-! ### What each event does

One lemma per event says every state it can lead to and the effects it has on the way, with the
guard of each branch, so that an invariant is proved by cases on these lemmas and never by opening
`step` again.  Most invariants look at the state only; for them each lemma is restated without the
effects. -/

section Events

variable {d d' : Dispatcher} {fx : List Effect}

/-- A submitter is refused once closed, goes straight into the queue when nobody waits and there
is room, and waits in line otherwise; it hears at once unless it waits. -/
theorem step_submit_fx {t : Nat} {e : Envelope} (hs : d.step (.submit t e) = some (d', fx)) :
    d.closed = true ∧ d' = d ∧ fx = [.rejected t] ∨
    d.closed = false ∧ d.waiters = [] ∧ d.held < d.capacity ∧
      d' = { d with queue := d.queue ++ [e] }.notify ∧
      fx = [({ d with queue := d.queue ++ [e] } : Dispatcher).gauge, .accepted t] ∨
    d.closed = false ∧ (d.waiters ≠ [] ∨ d.capacity ≤ d.held) ∧
      d' = { d with waiters := d.waiters ++ [⟨t, e⟩] } ∧ fx = [] := by
  simp only [step] at hs
  split at hs
  · rename_i hc
    cases hs
    exact .inl ⟨hc, rfl, rfl⟩
  · rename_i hc
    have hopen : d.closed = false := by simpa using hc
    split at hs
    · rename_i hroom
      simp only [Bool.and_eq_true, List.isEmpty_iff, decide_eq_true_eq] at hroom
      cases hs
      exact .inr (.inl ⟨hopen, hroom.1, hroom.2, rfl, rfl⟩)
    · rename_i hfull
      simp only [Bool.and_eq_true, List.isEmpty_iff, decide_eq_true_eq, not_and] at hfull
      cases hs
      refine .inr (.inr ⟨hopen, ?_, rfl, rfl⟩)
      by_cases hw : d.waiters = []
      · exact .inr (Nat.le_of_not_lt (hfull hw))
      · exact .inl hw

theorem step_start_fx (hs : d.step .start = some (d', fx)) :
    (d.loop = .unstarted ∧ d' = { d with loop := .top } ∨ d.loop ≠ .unstarted ∧ d' = d) ∧
      fx = [] := by
  simp only [step] at hs
  split at hs
  · cases hs
    exact ⟨.inl ⟨by assumption, rfl⟩, rfl⟩
  · cases hs
    exact ⟨.inr ⟨by assumption, rfl⟩, rfl⟩

/-- Closing, the first time, refuses new submitters, starts the drain and wakes the loop. -/
theorem step_close_fx (hs : d.step .close = some (d', fx)) :
    d.closing = .running ∧ d' = { d with closed := true, closing := .draining }.notify ∧
      fx = [say .info "Dispatcher closing, draining buffer"
        [("buffered", Json.ofNat d.held), ("waiting", Json.ofNat d.waiters.length)]] ∨
      d.closing ≠ .running ∧ d' = d ∧ fx = [] := by
  simp only [step] at hs
  split at hs
  · cases hs
    exact .inl ⟨by assumption, rfl, rfl⟩
  · cases hs
    exact .inr ⟨by assumption, rfl, rfl⟩

/-- The loop resumes at the top, where it ends, parks or takes the next envelope, or after a
delivery, where it frees the slot and lets waiters in unless the delivery was abandoned. -/
theorem step_resume_fx (hs : d.step .resume = some (d', fx)) :
    d.loop = .top ∧ d.queue = [] ∧ (d.closed = true ∨ d.abandoned = true) ∧
      d' = { d with loop := .finished } ∧ fx = [] ∨
    d.loop = .top ∧ d.queue = [] ∧ d.closed = false ∧ d.abandoned = false ∧
      d' = { d with loop := .parked } ∧ fx = [] ∨
    (∃ e rest, d.loop = .top ∧ d.queue = e :: rest ∧
      d' = ({ d with queue := rest, inFlight := 1 }.attempt e 0).1 ∧
      fx = ({ d with queue := rest, inFlight := 1 }.attempt e 0).2) ∨
    d.loop = .returned .abandoned ∧ d' = { d with inFlight := 0, loop := .finished } ∧ fx = [] ∨
    (∃ o, d.loop = .returned o ∧ o ≠ .abandoned ∧
      d' = ({ d with inFlight := 0, loop := .top }.takeWaiters (d.waiters.length + 1)).1 ∧
      fx = ({ d with inFlight := 0 } : Dispatcher).gauge ::
        ({ d with inFlight := 0, loop := .top }.takeWaiters (d.waiters.length + 1)).2) := by
  simp only [step] at hs
  split at hs
  · rename_i hl
    split at hs
    · rename_i hq
      split at hs
      · rename_i hc
        cases hs
        exact .inl ⟨hl, hq, by simpa using hc, rfl, rfl⟩
      · rename_i hc
        simp only [Bool.or_eq_true, not_or, Bool.not_eq_true] at hc
        cases hs
        exact .inr (.inl ⟨hl, hq, hc.1, hc.2, rfl, rfl⟩)
    · rename_i e rest hq
      have heq := (Option.some.inj hs).symm
      exact .inr (.inr (.inl ⟨e, rest, hl, hq, congrArg Prod.fst heq, congrArg Prod.snd heq⟩))
  · rename_i o hl
    split at hs
    · rename_i ho
      subst ho
      cases hs
      exact .inr (.inr (.inr (.inl ⟨hl, rfl, rfl⟩)))
    · rename_i ho
      obtain ⟨rfl, rfl⟩ := Prod.mk.inj (Option.some.inj hs)
      exact .inr (.inr (.inr (.inr ⟨o, hl, ho, rfl, rfl⟩)))
  · cases hs

/-- A connect answers only a loop that waits for it: on success the loop sends, on failure the
try has failed. -/
theorem step_connectDone_fx {f : Option SinkFailure}
    (hs : d.step (.connectDone f) = some (d', fx)) :
    ∃ e n, d.loop = .connecting e n ∧
      (f = none ∧ d' = { d with connected := true, loop := .sending e n } ∧
          fx = [say .info "Sink connected" [], .call (.send e)] ∨
        ∃ x, f = some x ∧ d' = (d.failed e n x).1 ∧ fx = (d.failed e n x).2) := by
  simp only [step] at hs
  split at hs
  · rename_i e n hl
    refine ⟨e, n, hl, ?_⟩
    split at hs
    · cases hs
      exact .inl ⟨rfl, rfl, rfl⟩
    · rename_i x
      have heq := (Option.some.inj hs).symm
      exact .inr ⟨x, rfl, congrArg Prod.fst heq, congrArg Prod.snd heq⟩
  · cases hs

/-- A send answers only a loop that waits for it: a success counts the envelope sent unless it was
abandoned meanwhile, a failure is a failed try. -/
theorem step_sendDone_fx {f : Option SinkFailure} (hs : d.step (.sendDone f) = some (d', fx)) :
    ∃ e n, d.loop = .sending e n ∧
      (f = none ∧ d.abandoned = true ∧ d' = { d with loop := .returned .abandoned } ∧ fx = [] ∨
        f = none ∧ d.abandoned = false ∧
          d' = { d with sent := d.sent + 1, loop := .returned .sent } ∧
          fx = [bump "dispatch.sent"] ∨
        ∃ x, f = some x ∧ d' = (d.failed e n x).1 ∧ fx = (d.failed e n x).2) := by
  simp only [step] at hs
  split at hs
  · rename_i e n hl
    refine ⟨e, n, hl, ?_⟩
    split at hs
    · split at hs
      · cases hs
        exact .inl ⟨rfl, by assumption, rfl, rfl⟩
      · cases hs
        exact .inr (.inl ⟨rfl, by simpa using ‹¬d.abandoned = true›, rfl, rfl⟩)
    · rename_i x
      have heq := (Option.some.inj hs).symm
      exact .inr (.inr ⟨x, rfl, congrArg Prod.fst heq, congrArg Prod.snd heq⟩)
  · cases hs

theorem step_loopDisconnected_fx (hs : d.step .loopDisconnected = some (d', fx)) :
    ∃ e n, d.loop = .resetting e n ∧ d' = { d with loop := .sleeping e n } ∧ fx = [] := by
  simp only [step] at hs
  split at hs
  · cases hs
    exact ⟨_, _, by assumption, rfl, rfl⟩
  · cases hs

theorem step_wakeUp_fx (hs : d.step .wakeUp = some (d', fx)) :
    ∃ e n, d.loop = .sleeping e n ∧ d' = (d.attempt e (n + 1)).1 ∧ fx = (d.attempt e (n + 1)).2 := by
  simp only [step] at hs
  split at hs
  · have heq := (Option.some.inj hs).symm
    exact ⟨_, _, by assumption, congrArg Prod.fst heq, congrArg Prod.snd heq⟩
  · cases hs

/-- The closing sees the loop end only while it drains, and only once the loop is over or never
ran. -/
theorem step_drained_fx (hs : d.step .drained = some (d', fx)) :
    d.closing = .draining ∧ (d.loop = .finished ∨ d.loop = .unstarted) ∧
      d' = (d.finishDraining false).1 ∧ fx = (d.finishDraining false).2 := by
  simp only [step] at hs
  split at hs
  · rename_i hc
    simp only [Bool.and_eq_true, Bool.or_eq_true, decide_eq_true_eq] at hc
    have heq := (Option.some.inj hs).symm
    exact ⟨hc.1, hc.2, congrArg Prod.fst heq, congrArg Prod.snd heq⟩
  · cases hs

theorem step_deadline_fx (hs : d.step .deadline = some (d', fx)) :
    d.closing = .draining ∧ d' = (d.finishDraining true).1 ∧ fx = (d.finishDraining true).2 := by
  simp only [step] at hs
  split at hs
  · rename_i hc
    have heq := (Option.some.inj hs).symm
    exact ⟨by simpa using hc, congrArg Prod.fst heq, congrArg Prod.snd heq⟩
  · cases hs

theorem step_closeDisconnected_fx (hs : d.step .closeDisconnected = some (d', fx)) :
    d.closing = .disconnecting ∧ d' = { d with closing := .closed } ∧
      fx = [say .info "Dispatcher closed" [("sent", Json.ofNat d.sent), ("lost", Json.ofNat d.lost)]] := by
  simp only [step] at hs
  split at hs
  · rename_i hc
    cases hs
    exact ⟨by simpa using hc, rfl, rfl⟩
  · cases hs

/-! #### The same, for the state alone -/

theorem step_submit {t : Nat} {e : Envelope} (hs : d.step (.submit t e) = some (d', fx)) :
    d.closed = true ∧ d' = d ∨
    d.closed = false ∧ d.waiters = [] ∧ d.held < d.capacity ∧
      d' = { d with queue := d.queue ++ [e] }.notify ∨
    d.closed = false ∧ (d.waiters ≠ [] ∨ d.capacity ≤ d.held) ∧
      d' = { d with waiters := d.waiters ++ [⟨t, e⟩] } := by
  rcases step_submit_fx hs with ⟨hc, rfl, -⟩ | ⟨hc, hw, hroom, rfl, -⟩ | ⟨hc, hfull, rfl, -⟩
  · exact .inl ⟨hc, rfl⟩
  · exact .inr (.inl ⟨hc, hw, hroom, rfl⟩)
  · exact .inr (.inr ⟨hc, hfull, rfl⟩)

theorem step_start (hs : d.step .start = some (d', fx)) :
    d.loop = .unstarted ∧ d' = { d with loop := .top } ∨ d.loop ≠ .unstarted ∧ d' = d :=
  (step_start_fx hs).1

theorem step_close (hs : d.step .close = some (d', fx)) :
    d.closing = .running ∧ d' = { d with closed := true, closing := .draining }.notify ∨
      d.closing ≠ .running ∧ d' = d := by
  rcases step_close_fx hs with ⟨hc, rfl, -⟩ | ⟨hc, rfl, -⟩
  · exact .inl ⟨hc, rfl⟩
  · exact .inr ⟨hc, rfl⟩

theorem step_resume (hs : d.step .resume = some (d', fx)) :
    d.loop = .top ∧ d.queue = [] ∧ (d.closed = true ∨ d.abandoned = true) ∧
      d' = { d with loop := .finished } ∨
    d.loop = .top ∧ d.queue = [] ∧ d.closed = false ∧ d.abandoned = false ∧
      d' = { d with loop := .parked } ∨
    (∃ e rest, d.loop = .top ∧ d.queue = e :: rest ∧
      d' = ({ d with queue := rest, inFlight := 1 }.attempt e 0).1) ∨
    d.loop = .returned .abandoned ∧ d' = { d with inFlight := 0, loop := .finished } ∨
    (∃ o, d.loop = .returned o ∧ o ≠ .abandoned ∧
      d' = ({ d with inFlight := 0, loop := .top }.takeWaiters (d.waiters.length + 1)).1) := by
  rcases step_resume_fx hs with ⟨hl, hq, hc, rfl, -⟩ | ⟨hl, hq, hc, ha, rfl, -⟩ |
    ⟨e, rest, hl, hq, rfl, -⟩ | ⟨hl, rfl, -⟩ | ⟨o, hl, ho, rfl, -⟩
  · exact .inl ⟨hl, hq, hc, rfl⟩
  · exact .inr (.inl ⟨hl, hq, hc, ha, rfl⟩)
  · exact .inr (.inr (.inl ⟨e, rest, hl, hq, rfl⟩))
  · exact .inr (.inr (.inr (.inl ⟨hl, rfl⟩)))
  · exact .inr (.inr (.inr (.inr ⟨o, hl, ho, rfl⟩)))

theorem step_connectDone {f : Option SinkFailure} (hs : d.step (.connectDone f) = some (d', fx)) :
    ∃ e n, d.loop = .connecting e n ∧
      (f = none ∧ d' = { d with connected := true, loop := .sending e n } ∨
        ∃ x, f = some x ∧ d' = (d.failed e n x).1) := by
  obtain ⟨e, n, hl, ⟨hf, rfl, -⟩ | ⟨x, hf, rfl, -⟩⟩ := step_connectDone_fx hs
  · exact ⟨e, n, hl, .inl ⟨hf, rfl⟩⟩
  · exact ⟨e, n, hl, .inr ⟨x, hf, rfl⟩⟩

theorem step_sendDone {f : Option SinkFailure} (hs : d.step (.sendDone f) = some (d', fx)) :
    ∃ e n, d.loop = .sending e n ∧
      (f = none ∧ d.abandoned = true ∧ d' = { d with loop := .returned .abandoned } ∨
        f = none ∧ d.abandoned = false ∧ d' = { d with sent := d.sent + 1, loop := .returned .sent } ∨
        ∃ x, f = some x ∧ d' = (d.failed e n x).1) := by
  obtain ⟨e, n, hl, ⟨hf, ha, rfl, -⟩ | ⟨hf, ha, rfl, -⟩ | ⟨x, hf, rfl, -⟩⟩ := step_sendDone_fx hs
  · exact ⟨e, n, hl, .inl ⟨hf, ha, rfl⟩⟩
  · exact ⟨e, n, hl, .inr (.inl ⟨hf, ha, rfl⟩)⟩
  · exact ⟨e, n, hl, .inr (.inr ⟨x, hf, rfl⟩)⟩

theorem step_loopDisconnected (hs : d.step .loopDisconnected = some (d', fx)) :
    ∃ e n, d.loop = .resetting e n ∧ d' = { d with loop := .sleeping e n } := by
  obtain ⟨e, n, hl, rfl, -⟩ := step_loopDisconnected_fx hs
  exact ⟨e, n, hl, rfl⟩

theorem step_wakeUp (hs : d.step .wakeUp = some (d', fx)) :
    ∃ e n, d.loop = .sleeping e n ∧ d' = (d.attempt e (n + 1)).1 := by
  obtain ⟨e, n, hl, rfl, -⟩ := step_wakeUp_fx hs
  exact ⟨e, n, hl, rfl⟩

theorem step_drained (hs : d.step .drained = some (d', fx)) :
    d.closing = .draining ∧ (d.loop = .finished ∨ d.loop = .unstarted) ∧
      d' = (d.finishDraining false).1 := by
  obtain ⟨hc, hl, rfl, -⟩ := step_drained_fx hs
  exact ⟨hc, hl, rfl⟩

theorem step_deadline (hs : d.step .deadline = some (d', fx)) :
    d.closing = .draining ∧ d' = (d.finishDraining true).1 := by
  obtain ⟨hc, rfl, -⟩ := step_deadline_fx hs
  exact ⟨hc, rfl⟩

theorem step_closeDisconnected (hs : d.step .closeDisconnected = some (d', fx)) :
    d.closing = .disconnecting ∧ d' = { d with closing := .closed } := by
  obtain ⟨hc, rfl, -⟩ := step_closeDisconnected_fx hs
  exact ⟨hc, rfl⟩

end Events

/-! ### The capacity is fixed -/

theorem finishDraining_capacity (d : Dispatcher) (timedOut : Bool) :
    (d.finishDraining timedOut).1.capacity = d.capacity := by
  rw [finishDraining_eq]
  split
  · rw [abandon_eq]
  · rfl

theorem step_capacity {d d' : Dispatcher} {ev : Event} {fx : List Effect}
    (hs : d.step ev = some (d', fx)) : d'.capacity = d.capacity := by
  cases ev with
  | submit t e =>
      rcases step_submit hs with ⟨-, rfl⟩ | ⟨-, -, -, rfl⟩ | ⟨-, -, rfl⟩
      · rfl
      · rw [notify_eq]
      · rfl
  | start => rcases step_start hs with ⟨-, rfl⟩ | ⟨-, rfl⟩ <;> rfl
  | close =>
      rcases step_close hs with ⟨-, rfl⟩ | ⟨-, rfl⟩
      · rw [notify_eq]
      · rfl
  | resume =>
      rcases step_resume hs with ⟨-, -, -, rfl⟩ | ⟨-, -, -, -, rfl⟩ | ⟨e, rest, -, -, rfl⟩ |
        ⟨-, rfl⟩ | ⟨o, -, -, rfl⟩
      · rfl
      · rfl
      · obtain ⟨l, heq, -⟩ := attempt_eq { d with queue := rest, inFlight := 1 } e 0
        rw [heq]
      · rfl
      · rw [takeWaiters_eq _ _ (by simp)]
  | connectDone f =>
      obtain ⟨e, n, -, ⟨-, rfl⟩ | ⟨x, -, rfl⟩⟩ := step_connectDone hs
      · rfl
      · obtain ⟨_, _, _, l, heq, -⟩ := failed_eq d e n x
        rw [heq]
  | sendDone f =>
      obtain ⟨e, n, -, ⟨-, -, rfl⟩ | ⟨-, -, rfl⟩ | ⟨x, -, rfl⟩⟩ := step_sendDone hs
      · rfl
      · rfl
      · obtain ⟨_, _, _, l, heq, -⟩ := failed_eq d e n x
        rw [heq]
  | loopDisconnected =>
      obtain ⟨e, n, -, rfl⟩ := step_loopDisconnected hs
      rfl
  | wakeUp =>
      obtain ⟨e, n, -, rfl⟩ := step_wakeUp hs
      obtain ⟨l, heq, -⟩ := attempt_eq d e (n + 1)
      rw [heq]
  | drained =>
      obtain ⟨-, -, rfl⟩ := step_drained hs
      exact finishDraining_capacity d false
  | deadline =>
      obtain ⟨-, rfl⟩ := step_deadline hs
      exact finishDraining_capacity d true
  | closeDisconnected =>
      obtain ⟨-, rfl⟩ := step_closeDisconnected hs
      rfl

theorem Reachable.capacity {d₀ d : Dispatcher} (hr : Reachable d₀ d) :
    d.capacity = d₀.capacity := by
  induction hr with
  | refl => rfl
  | step _ hs ih => rw [step_capacity hs, ih]

end Dispatcher

end LogRouter
