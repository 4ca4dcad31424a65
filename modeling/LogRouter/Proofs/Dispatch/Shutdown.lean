import LogRouter.Proofs.Dispatch.Order

/-!
What a dispatcher is once it has shut down.

The closing ends its drain either when the loop is over or when the deadline passes, and then
gives up on whatever is still held, refuses the waiting submitters and resets the session.  From
then on the dispatcher is quiet (`Dispatcher.Quiet`): nothing is held or waiting, there is no
session, every submitter has heard, and no event opens a session or calls the sink again.

That rests on one condition.  After giving up, the loop checks for the abandonment before each try
and after each send, but not after a connect: a connect that is still under way when the deadline
passes comes back after the session was reset, marks it open and sends the abandoned envelope.
So the dispatcher is quiet after shutting down along every run in which the deadline does not pass
while the loop waits on a connect (`Dispatcher.ConnectTimely`), and not along the others.
-/

namespace LogRouter

namespace Dispatcher

/-- A run in which the drain deadline never passes while the loop waits on a connect. -/
def ConnectTimely (tr : List (Dispatcher × Event)) : Prop :=
  ∀ p ∈ tr, p.2 = .deadline → p.1.loop.isConnecting = false

theorem ConnectTimely.snoc_iff {tr : List (Dispatcher × Event)} {d : Dispatcher} {ev : Event} :
    ConnectTimely (tr ++ [(d, ev)]) ↔
      ConnectTimely tr ∧ (ev = .deadline → d.loop.isConnecting = false) := by
  simp [ConnectTimely, or_imp, forall_and]

/-- A dispatcher that has shut down: closed and past its drain, it holds nothing, nobody waits,
there is no session and the loop waits on no connect; a delivery still under way was abandoned. -/
structure Quiet (d : Dispatcher) : Prop where
  closing : d.closing = .disconnecting ∨ d.closing = .closed
  closed : d.closed = true
  waiters : d.waiters = []
  queue : d.queue = []
  inFlight : d.inFlight = 0
  connected : d.connected = false
  connecting : d.loop.isConnecting = false
  busy : d.loop.envelope?.isSome = true → d.abandoned = true

section Steps

variable {d d' : Dispatcher} {fx : List Effect}

/-- Only the closing moves the closing: it starts the drain, ends it on one of two events, and
is told when the session is reset. -/
theorem step_closing {ev : Event} (hs : d.step ev = some (d', fx)) :
    d'.closing = d.closing ∨ d.closing = .running ∧ d'.closing = .draining ∨
      d.closing = .draining ∧ (ev = .drained ∨ ev = .deadline) ∨
      d.closing = .disconnecting ∧ d'.closing = .closed := by
  cases ev with
  | submit t e =>
      rcases step_submit hs with ⟨-, rfl⟩ | ⟨-, -, -, rfl⟩ | ⟨-, -, rfl⟩
      · exact .inl rfl
      · exact .inl (by simp [notify_eq])
      · exact .inl rfl
  | start =>
      rcases step_start hs with ⟨-, rfl⟩ | ⟨-, rfl⟩ <;> exact .inl rfl
  | close =>
      rcases step_close hs with ⟨hr, rfl⟩ | ⟨-, rfl⟩
      · exact .inr (.inl ⟨hr, by simp [notify_eq]⟩)
      · exact .inl rfl
  | resume =>
      rcases step_resume hs with ⟨-, -, -, rfl⟩ | ⟨-, -, -, -, rfl⟩ | ⟨e, rest, -, -, rfl⟩ |
        ⟨-, rfl⟩ | ⟨o, -, -, rfl⟩
      · exact .inl rfl
      · exact .inl rfl
      · obtain ⟨l, hl, -⟩ := attempt_eq { d with queue := rest, inFlight := 1 } e 0
        exact .inl (by rw [hl])
      · exact .inl rfl
      · exact .inl (by rw [takeWaiters_eq _ _ (by simp)])
  | connectDone f =>
      obtain ⟨e, n, -, ⟨-, rfl⟩ | ⟨x, -, rfl⟩⟩ := step_connectDone hs
      · exact .inl rfl
      · obtain ⟨lost, retries, connected, l, hl, -⟩ := failed_eq d e n x
        exact .inl (by rw [hl])
  | sendDone f =>
      obtain ⟨e, n, -, ⟨-, -, rfl⟩ | ⟨-, -, rfl⟩ | ⟨x, -, rfl⟩⟩ := step_sendDone hs
      · exact .inl rfl
      · exact .inl rfl
      · obtain ⟨lost, retries, connected, l, hl, -⟩ := failed_eq d e n x
        exact .inl (by rw [hl])
  | loopDisconnected =>
      obtain ⟨e, n, -, rfl⟩ := step_loopDisconnected hs
      exact .inl rfl
  | wakeUp =>
      obtain ⟨e, n, -, rfl⟩ := step_wakeUp hs
      obtain ⟨l, hl, -⟩ := attempt_eq d e (n + 1)
      exact .inl (by rw [hl])
  | drained =>
      obtain ⟨hd, -, -⟩ := step_drained hs
      exact .inr (.inr (.inl ⟨hd, .inl rfl⟩))
  | deadline =>
      obtain ⟨hd, -⟩ := step_deadline hs
      exact .inr (.inr (.inl ⟨hd, .inr rfl⟩))
  | closeDisconnected =>
      obtain ⟨hd, rfl⟩ := step_closeDisconnected hs
      exact .inr (.inr (.inr ⟨hd, rfl⟩))

theorem Quiet.withLoop (h : d.Quiet) {l : LoopPoint} (hc : l.isConnecting = false)
    (hl : l.envelope? = none) : ({ d with loop := l } : Dispatcher).Quiet :=
  ⟨h.closing, h.closed, h.waiters, h.queue, h.inFlight, h.connected, hc,
    fun hb => (by simp [hl] at hb)⟩

/-- Ending the drain leaves the dispatcher quiet, when the loop then waits on no connect and, if
the drain ended without the deadline, delivers nothing. -/
theorem Quiet.finishDraining (hc : d.Consistent) (hdr : d.closing = .draining) (timedOut : Bool)
    (hconn : d.loop.isConnecting = false) (hidle : timedOut = false → d.loop.envelope? = none) :
    (d.finishDraining timedOut).1.Quiet := by
  have hcl : d.closed = true := hc.closing (by rw [hdr]; nofun)
  rw [finishDraining_eq]
  split
  · -- gave up: everything held is gone and what the loop still delivers was abandoned
    rw [abandon_eq]
    exact ⟨.inl rfl, hcl, rfl, rfl, rfl, rfl, by simpa using hconn, fun _ => rfl⟩
  · rename_i hkeep
    -- the drain ended on its own with nothing held and nobody waiting
    simp only [Bool.or_eq_true, not_or] at hkeep
    obtain ⟨⟨hto, hheld⟩, hw⟩ := hkeep
    have hempty : d.queue.length + d.inFlight = 0 := by simpa [held] using hheld
    have hq : d.queue = [] := List.eq_nil_of_length_eq_zero (by omega)
    have hin : d.inFlight = 0 := by omega
    replace hw : d.waiters = [] := by simpa using hw
    refine ⟨.inl rfl, hcl, hw, hq, hin, rfl, hconn, fun hb => ?_⟩
    rw [hidle (by simpa using hto)] at hb
    cases hb

/-- A quiet dispatcher stays quiet and calls the sink no more. -/
theorem Quiet.step (h : d.Quiet) {ev : Event} (hs : d.step ev = some (d', fx)) :
    d'.Quiet ∧ sinkCalls fx = [] := by
  cases ev with
  | submit t e =>
      rcases step_submit_fx hs with ⟨-, rfl, rfl⟩ | ⟨hopen, -⟩ | ⟨hopen, -⟩
      · exact ⟨h, rfl⟩
      all_goals
        rw [h.closed] at hopen
        cases hopen
  | start =>
      obtain ⟨⟨hl, rfl⟩ | ⟨-, rfl⟩, rfl⟩ := step_start_fx hs
      · exact ⟨h.withLoop rfl rfl, rfl⟩
      · exact ⟨h, rfl⟩
  | close =>
      rcases step_close_fx hs with ⟨hr, -⟩ | ⟨-, rfl, rfl⟩
      · rcases h.closing with hc | hc <;> rw [hc] at hr <;> cases hr
      · exact ⟨h, rfl⟩
  | resume =>
      rcases step_resume_fx hs with ⟨-, -, -, rfl, rfl⟩ | ⟨-, -, -, -, rfl, rfl⟩ |
        ⟨e, rest, -, hq, -⟩ | ⟨-, rfl, rfl⟩ | ⟨o, -, -, rfl, rfl⟩
      · exact ⟨h.withLoop rfl rfl, rfl⟩
      · exact ⟨h.withLoop rfl rfl, rfl⟩
      · rw [h.queue] at hq
        cases hq
      · exact ⟨⟨h.closing, h.closed, h.waiters, h.queue, rfl, h.connected, rfl, nofun⟩, rfl⟩
      · -- the slot is freed and, with nobody waiting, nobody comes in
        obtain ⟨-, -, hcalls⟩ := takeWaiters_views
          ({ d with inFlight := 0, loop := .top } : Dispatcher) (d.waiters.length + 1)
        rw [takeWaiters_eq _ _ (by simp)]
        refine ⟨⟨h.closing, h.closed, ?_, ?_, rfl, h.connected, rfl, nofun⟩, by simpa using hcalls⟩
        · simp [h.waiters]
        · simp [h.queue, h.waiters]
  | connectDone f =>
      obtain ⟨e, n, hl, -⟩ := step_connectDone_fx hs
      have hconn := h.connecting
      rw [hl] at hconn
      cases hconn
  | sendDone f =>
      obtain ⟨e, n, hl, hcases⟩ := step_sendDone_fx hs
      -- a send still under way was abandoned, so its answer ends the delivery
      have ha : d.abandoned = true := h.busy (by rw [hl]; rfl)
      rcases hcases with ⟨-, -, rfl, rfl⟩ | ⟨-, hna, -⟩ | ⟨x, -, rfl, rfl⟩
      · exact ⟨h.withLoop rfl rfl, rfl⟩
      · rw [ha] at hna
        cases hna
      · obtain ⟨-, -, hcalls⟩ := failed_views d e n x
        rcases failed_cases d e n x with ⟨-, hd⟩ | ⟨hna, -⟩ | ⟨hna, -⟩
        · rw [hd]
          refine ⟨h.withLoop rfl rfl, ?_⟩
          simp [hcalls, ha]
        all_goals
          rw [ha] at hna
          cases hna
  | loopDisconnected =>
      obtain ⟨e, n, hl, rfl, rfl⟩ := step_loopDisconnected_fx hs
      exact ⟨⟨h.closing, h.closed, h.waiters, h.queue, h.inFlight, h.connected, rfl,
        fun _ => h.busy (by rw [hl]; rfl)⟩, rfl⟩
  | wakeUp =>
      obtain ⟨e, n, hl, rfl, rfl⟩ := step_wakeUp_fx hs
      -- the retry finds the buffer abandoned and gives up
      have ha : d.abandoned = true := h.busy (by rw [hl]; rfl)
      obtain ⟨-, -, hcalls⟩ := attempt_views d e (n + 1)
      rcases attempt_cases d e (n + 1) with ⟨-, hd⟩ | ⟨hna, -⟩ | ⟨hna, -⟩
      · rw [hd]
        refine ⟨h.withLoop rfl rfl, ?_⟩
        simp [hcalls, ha]
      all_goals
        rw [ha] at hna
        cases hna
  | drained =>
      obtain ⟨hdr, -⟩ := step_drained hs
      rcases h.closing with hc | hc <;> rw [hc] at hdr <;> cases hdr
  | deadline =>
      obtain ⟨hdr, -⟩ := step_deadline hs
      rcases h.closing with hc | hc <;> rw [hc] at hdr <;> cases hdr
  | closeDisconnected =>
      obtain ⟨-, rfl, rfl⟩ := step_closeDisconnected_fx hs
      exact ⟨⟨.inr rfl, h.closed, h.waiters, h.queue, h.inFlight, h.connected, h.connecting,
        h.busy⟩, rfl⟩

end Steps

/-- Once nobody waits, every submitter has heard: let in, or turned away. -/
theorem Orderly.settled {W : List Waiter} {late : List Nat} {A : List (Option SinkFailure)}
    {d : Dispatcher} {fx : List Effect} (h : Orderly W late A d fx) (hw : d.waiters = []) :
    (admissions fx ++ rejections fx).Perm (W.map (·.ticket) ++ late) := by
  obtain ⟨j, bs, -, hS, -⟩ := h
  rw [hS.admitted]
  cases hab : d.abandoned
  · -- nobody was turned away from the line, so all of it came in
    have hrest : W.drop j = [] := by rw [← hS.waiting hab, hw]
    have htake : W.take j = W := by
      rw [← List.take_append_drop j W, hrest, List.append_nil, List.take_take, Nat.min_self]
    have hrej := hS.rejected
    rw [hab, if_neg Bool.false_ne_true, List.nil_append] at hrej
    rw [htake]
    exact hrej.append_left _
  · -- the rest of the line was turned away
    have hrej := hS.rejected
    rw [hab, if_pos rfl] at hrej
    have hsplit : W.map (·.ticket) = (W.take j).map (·.ticket) ++ (W.drop j).map (·.ticket) := by
      rw [← List.map_append, List.take_append_drop]
    rw [hsplit, List.append_assoc]
    exact hrej.append_left _

/-- A quiet dispatcher stays quiet along every run, which calls the sink no more. -/
theorem Run.quiet {d₀ d : Dispatcher} {tr : List (Dispatcher × Event)} {fx : List Effect}
    (h₀ : d₀.Quiet) (h : Run d₀ tr d fx) : d.Quiet ∧ sinkCalls fx = [] := by
  induction h with
  | nil => exact ⟨h₀, rfl⟩
  | step _ ev hs ih =>
      obtain ⟨hq, hcalls⟩ := ih.1.step hs
      exact ⟨hq, by rw [sinkCalls_append, ih.2, hcalls, List.nil_append]⟩

/-- Along a run from a new dispatcher in which the deadline never passes while the loop waits on a
connect, every state past the drain is quiet. -/
theorem Run.quiet_of_connectTimely {c initialBackoff maxBackoff : Nat}
    {tr : List (Dispatcher × Event)} {d : Dispatcher} {fx : List Effect}
    (h : Run (init c initialBackoff maxBackoff) tr d fx) (ht : ConnectTimely tr)
    (hcl : d.closing = .disconnecting ∨ d.closing = .closed) : d.Quiet := by
  have hc₀ := Consistent.init c initialBackoff maxBackoff
  induction h with
  | nil => rcases hcl with hcl | hcl <;> cases hcl
  | step h ev hs ih =>
      obtain ⟨ht, hev⟩ := ConnectTimely.snoc_iff.1 ht
      rcases step_closing hs with hsame | ⟨-, hdr⟩ | ⟨hdr, hend⟩ | ⟨hdis, -⟩
      · exact ((ih ht (hsame ▸ hcl)).step hs).1
      · rcases hcl with hcl | hcl <;> rw [hcl] at hdr <;> cases hdr
      · -- the drain ends here
        have hc := h.reachable.consistent hc₀
        rcases hend with rfl | rfl
        · obtain ⟨-, hl, rfl⟩ := step_drained hs
          refine Quiet.finishDraining hc hdr false ?_ fun _ => ?_ <;>
            rcases hl with hl | hl <;> rw [hl] <;> rfl
        · obtain ⟨-, rfl⟩ := step_deadline hs
          exact Quiet.finishDraining hc hdr true (hev rfl) nofun
      · exact ((ih ht (.inl hdis)).step hs).1

/-! ### Quiet once closed -/

/-- **Once closed, the dispatcher is quiet, provided no connect is under way when the deadline
passes.**  Along a run from a new dispatcher in which the drain deadline never passes while the
loop waits on a connect, once the closing has completed: nobody waits and nothing is held; every
submitter, whether it came while open or after, has been let in or turned away; there is no
session; and along every run from there on the session stays closed and the sink is not called. -/
theorem closed_dispatcher_stays_quiet {c initialBackoff maxBackoff : Nat}
    {tr : List (Dispatcher × Event)} {d : Dispatcher} {fx : List Effect}
    (h : Run (init c initialBackoff maxBackoff) tr d fx) (ht : ConnectTimely tr)
    (hcl : d.closing = .closed) :
    d.waiters = [] ∧ d.queue = [] ∧ d.inFlight = 0 ∧
      (admissions fx ++ rejections fx).Perm
        ((openSubmits tr).map (·.ticket) ++ lateSubmits tr) ∧
      d.connected = false ∧
      ∀ (tr' : List (Dispatcher × Event)) (d' : Dispatcher) (fx' : List Effect),
        Run d tr' d' fx' → d'.connected = false ∧ sinkCalls fx' = [] := by
  have hq := h.quiet_of_connectTimely ht (.inr hcl)
  refine ⟨hq.waiters, hq.queue, hq.inFlight, h.orderly.settled hq.waiters, hq.connected,
    fun _ _ _ h' => ?_⟩
  obtain ⟨hq', hcalls⟩ := Run.quiet hq h'
  exact ⟨hq'.connected, hcalls⟩

/-- A submitter let in, a second turned away at closing, and the drain run out on a send that
hangs: once closed, the dispatcher is quiet. -/
theorem hung_send_then_closed_is_quiet :
    ∃ tr d fx, Run (init 1 0 0) tr d fx ∧ ConnectTimely tr ∧ d.closing = .closed ∧
      admissions fx = [0] ∧ rejections fx = [1] ∧
      (d.waiters = [] ∧ d.queue = [] ∧ d.inFlight = 0 ∧
        (admissions fx ++ rejections fx).Perm
          ((openSubmits tr).map (·.ticket) ++ lateSubmits tr) ∧
        d.connected = false ∧
        ∀ (tr' : List (Dispatcher × Event)) (d' : Dispatcher) (fx' : List Effect),
          Run d tr' d' fx' → d'.connected = false ∧ sinkCalls fx' = []) := by
  have h₁ := (@Run.nil (init 1 0 0)).step .start rfl
  have h₂ := h₁.step (.submit 0 default) rfl
  have h₃ := h₂.step .resume rfl
  have h₄ := h₃.step (.connectDone none) rfl
  have h₅ := h₄.step .close rfl
  have h₆ := h₅.step (.submit 1 default) rfl
  have h₇ := h₆.step .deadline rfl
  have h₈ := h₇.step .closeDisconnected rfl
  refine ⟨_, _, _, h₈, ?_⟩
  suffices ht : ConnectTimely _ from
    ⟨ht, rfl, rfl, rfl, closed_dispatcher_stays_quiet h₈ ht rfl⟩
  -- the deadline passes while the send hangs
  intro p hp hdl
  simp only [List.cons_append, List.nil_append, List.mem_cons, List.not_mem_nil, or_false] at hp
  rcases hp with rfl | rfl | rfl | rfl | rfl | rfl | rfl | rfl <;> first | rfl | cases hdl

/-- A connect under way when the deadline passes comes back after the closing completed: it opens
the session again and sends the envelope that was given up on. -/
theorem late_connect_reopens_closed_dispatcher :
    ∃ tr d fx d' fx', Run (init 1 0 0) tr d fx ∧ d.closing = .closed ∧ d.connected = false ∧
      d.abandoned = true ∧ d.step (.connectDone none) = some (d', fx') ∧
      d'.connected = true ∧ sinkCalls fx' = [.send default] := by
  have h₁ := (@Run.nil (init 1 0 0)).step .start rfl
  have h₂ := h₁.step (.submit 0 default) rfl
  have h₃ := h₂.step .resume rfl
  have h₄ := h₃.step .close rfl
  have h₅ := h₄.step .deadline rfl
  have h₆ := h₅.step .closeDisconnected rfl
  exact ⟨_, _, _, _, _, h₆, rfl, rfl, rfl, rfl, rfl, rfl⟩

end Dispatcher

end LogRouter
