import LogRouter.Proofs.Dispatch.Trace

/-!
Submitters are served in the order they came, and the sink sees envelopes in that order.

The submitters of a run are those that came while the dispatcher was open (`openSubmits`) and
those that came once it was closed (`lateSubmits`).  Along every run from a new dispatcher the
dispatcher has let in a prefix of the first, in order: those it let in at once and those that
waited are one line, served first come first served.  The rest of that line is still waiting,
unless the drain deadline gave up on it and turned it away; everyone who came late was turned away.

The sink is handed envelopes in blocks, one block per envelope the loop has taken, in the order
they were let in: a block is the sends of one delivery, its tries and retries, and the loop starts
the next one only after the delivery ended.  So no envelope overtakes another, and every block but
the one under way holds a send.

The sink's answers to the sends fall into the same blocks: every send of a block but its last was
answered by a failure worth retrying, and the last by a success, a refusal, or a failure after which
the buffer was abandoned, unless the loop still waits on it.  So no send follows a success or a
refusal within its block.

The invariant carries the admission count `j` and the blocks `bs` (`Served`), ties the last
block to the envelope the loop is delivering (`Delivering`), and cuts the answers into the blocks
`as` (`Answered`).
-/

namespace LogRouter

/-- The submitter a submit brings: its ticket and its envelope. -/
def Event.submitter? : Event → Option Waiter
  | .submit t e => some ⟨t, e⟩
  | _ => none

/-- The sink's answer to a send, when an event is one: `none` for a send that went through. -/
def Event.sendAnswer? : Event → Option (Option SinkFailure)
  | .sendDone f => some f
  | _ => none

namespace Dispatcher

/-- The submitters that came while the dispatcher was open, in order. -/
def openSubmits (tr : List (Dispatcher × Event)) : List Waiter :=
  tr.filterMap fun p => if p.1.closed then none else p.2.submitter?

/-- The tickets of the submitters that came once it was closed, in order. -/
def lateSubmits (tr : List (Dispatcher × Event)) : List Nat :=
  tr.filterMap fun p => if p.1.closed then p.2.submitter?.map (·.ticket) else none

@[simp] theorem openSubmits_nil : openSubmits [] = [] := rfl
@[simp] theorem lateSubmits_nil : lateSubmits [] = [] := rfl

@[simp] theorem openSubmits_snoc (tr : List (Dispatcher × Event)) (d : Dispatcher) (ev : Event) :
    openSubmits (tr ++ [(d, ev)]) =
      openSubmits tr ++ (if d.closed then none else ev.submitter?).toList := by
  simp only [openSubmits, List.filterMap_append, List.filterMap_cons, List.filterMap_nil]
  cases (if d.closed then none else ev.submitter?) <;> rfl

@[simp] theorem lateSubmits_snoc (tr : List (Dispatcher × Event)) (d : Dispatcher) (ev : Event) :
    lateSubmits (tr ++ [(d, ev)]) =
      lateSubmits tr ++ (if d.closed then ev.submitter?.map (·.ticket) else none).toList := by
  simp only [lateSubmits, List.filterMap_append, List.filterMap_cons, List.filterMap_nil]
  cases (if d.closed then ev.submitter?.map (·.ticket) else none) <;> rfl

/-- The sink's answers to the sends of a run, in order. -/
def sendAnswers (tr : List (Dispatcher × Event)) : List (Option SinkFailure) :=
  tr.filterMap fun p => p.2.sendAnswer?

@[simp] theorem sendAnswers_nil : sendAnswers [] = [] := rfl

@[simp] theorem sendAnswers_snoc (tr : List (Dispatcher × Event)) (d : Dispatcher) (ev : Event) :
    sendAnswers (tr ++ [(d, ev)]) = sendAnswers tr ++ ev.sendAnswer?.toList := by
  simp only [sendAnswers, List.filterMap_append, List.filterMap_cons, List.filterMap_nil]
  cases ev.sendAnswer? <;> rfl

/-- Whether an answer to a send leaves the delivery to retry it, the session being up: a failure
that is not final. -/
def retriable : Option SinkFailure → Bool
  | some f => !f.isFinal
  | none => false

/-- The sends that blocks stand for: each block's envelope, as many times as it counts. -/
def blockSends (bs : List (Envelope × Nat)) : List Envelope :=
  bs.flatMap fun b => List.replicate b.2 b.1

@[simp] theorem blockSends_nil : blockSends [] = [] := rfl

@[simp] theorem blockSends_append (bs bs' : List (Envelope × Nat)) :
    blockSends (bs ++ bs') = blockSends bs ++ blockSends bs' := List.flatMap_append

@[simp] theorem blockSends_singleton (e : Envelope) (k : Nat) :
    blockSends [(e, k)] = List.replicate k e := by
  simp [blockSends]

/-- How a run has served the submitters `W` that came while open and the tickets `late` of those
that came after: the first `j` of `W` let in, in order, and the rest waiting or turned away; and
the envelopes taken by the loop sent in the blocks `bs`, in the order they were let in. -/
structure Served (W : List Waiter) (late : List Nat) (d : Dispatcher) (fx : List Effect)
    (j : Nat) (bs : List (Envelope × Nat)) : Prop where
  le : j ≤ W.length
  admitted : admissions fx = (W.take j).map (·.ticket)
  waiting : d.abandoned = false → d.waiters = W.drop j
  rejected : (rejections fx).Perm ((if d.abandoned then (W.drop j).map (·.ticket) else []) ++ late)
  blocks : sends fx = blockSends bs
  taken : bs.map Prod.fst ++ d.queue <+: (W.take j).map (·.envelope)
  all_taken : d.abandoned = false → bs.map Prod.fst ++ d.queue = (W.take j).map (·.envelope)
  sealed : ∀ b ∈ bs.dropLast, 0 < b.2

/-- How the blocks follow the loop: the last block is the envelope the loop delivers, with a send
once the loop waits on one; and between deliveries, unless abandoned, every block holds a send. -/
structure Delivering (d : Dispatcher) (bs : List (Envelope × Nat)) : Prop where
  current : ∀ e, d.loop.envelope? = some e →
    ∃ bs₀ k, bs = bs₀ ++ [(e, k)] ∧ (d.loop.isSending = true → 0 < k)
  settled : d.loop.envelope? = none → d.abandoned = false → ∀ b ∈ bs, 0 < b.2

/-- Blocks answered in full: an answer for each send, each but the last a failure worth retrying. -/
def AnsweredInFull (bs : List (Envelope × Nat)) (as : List (List (Option SinkFailure))) : Prop :=
  as.length = bs.length ∧
    ∀ p ∈ bs.zip as, p.2.length = p.1.2 ∧ ∀ x ∈ p.2.dropLast, retriable x = true

/-- The answers `A`, cut into those to the blocks `bs₀` and those, `a`, to the `k` sends of the
block under way: the earlier blocks answered in full, and every send of the last but `pending`
answered by a failure worth retrying. -/
structure Trying (A : List (Option SinkFailure)) (bs₀ : List (Envelope × Nat))
    (as₀ : List (List (Option SinkFailure))) (a : List (Option SinkFailure)) (k pending : Nat) :
    Prop where
  flat : A = (as₀ ++ [a]).flatten
  full : AnsweredInFull bs₀ as₀
  worthRetrying : ∀ x ∈ a, retriable x = true
  count : a.length + pending = k

/-- How the sink has answered the blocks `bs`, its answers `A` cut block by block into `as`: all
in full while the loop `l` delivers nothing, and while it delivers `e`, the blocks before `e`'s in
full and `e`'s tried, with one send unanswered while the loop waits on it. -/
def Answered (A : List (Option SinkFailure)) (bs : List (Envelope × Nat))
    (as : List (List (Option SinkFailure))) (l : LoopPoint) : Prop :=
  l.envelope? = none ∧ A = as.flatten ∧ AnsweredInFull bs as ∨
    ∃ e bs₀ as₀ a k, l.envelope? = some e ∧ bs = bs₀ ++ [(e, k)] ∧ as = as₀ ++ [a] ∧
      Trying A bs₀ as₀ a k l.isSending.toNat

/-- A run that has served its submitters in order and its sink in blocks, with the sink's
answers `A`. -/
def Orderly (W : List Waiter) (late : List Nat) (A : List (Option SinkFailure)) (d : Dispatcher)
    (fx : List Effect) : Prop :=
  ∃ j bs as, Served W late d fx j bs ∧ Delivering d bs ∧ Answered A bs as d.loop

section Answers

variable {A : List (Option SinkFailure)} {bs₀ : List (Envelope × Nat)}
  {bs : List (Envelope × Nat)} {as as₀ : List (List (Option SinkFailure))}
  {a : List (Option SinkFailure)} {e : Envelope} {k : Nat}

theorem AnsweredInFull.snoc (h : AnsweredInFull bs₀ as₀) (hlen : a.length = k)
    (hr : ∀ x ∈ a.dropLast, retriable x = true) :
    AnsweredInFull (bs₀ ++ [(e, k)]) (as₀ ++ [a]) := by
  obtain ⟨hl, hp⟩ := h
  refine ⟨by simp [hl], fun p hmem => ?_⟩
  rw [List.zip_append hl.symm] at hmem
  rcases List.mem_append.1 hmem with hmem | hmem
  · exact hp p hmem
  · rw [List.mem_singleton.1 hmem]
    exact ⟨hlen, hr⟩

theorem Trying.answeredInFull (h : Trying A bs₀ as₀ a k 0) :
    A = (as₀ ++ [a]).flatten ∧ AnsweredInFull (bs₀ ++ [(e, k)]) (as₀ ++ [a]) :=
  ⟨h.flat, h.full.snoc h.count fun x hx => h.worthRetrying x (List.dropLast_subset a hx)⟩

theorem Trying.send (h : Trying A bs₀ as₀ a k 0) : Trying A bs₀ as₀ a (k + 1) 1 :=
  ⟨h.flat, h.full, h.worthRetrying, by rw [← h.count]⟩

theorem Trying.answer (h : Trying A bs₀ as₀ a k 1) (e : Envelope) (x : Option SinkFailure) :
    A ++ [x] = (as₀ ++ [a ++ [x]]).flatten ∧
      AnsweredInFull (bs₀ ++ [(e, k)]) (as₀ ++ [a ++ [x]]) := by
  refine ⟨by simp [h.flat], h.full.snoc ?_ ?_⟩
  · rw [List.length_append, List.length_singleton]
    exact h.count
  · rw [List.dropLast_concat]
    exact h.worthRetrying

theorem Trying.retry (h : Trying A bs₀ as₀ a k 1) {x : Option SinkFailure}
    (hx : retriable x = true) : Trying (A ++ [x]) bs₀ as₀ (a ++ [x]) k 0 := by
  refine ⟨by simp [h.flat], h.full, fun y hy => ?_, ?_⟩
  · rcases List.mem_append.1 hy with hy | hy
    · exact h.worthRetrying y hy
    · rw [List.mem_singleton.1 hy]
      exact hx
  · rw [List.length_append, List.length_singleton]
    exact h.count

theorem AnsweredInFull.retriable (h : AnsweredInFull bs as) :
    ∀ p ∈ bs.zip as, ∀ x ∈ p.2.take (p.1.2 - 1), retriable x = true := by
  intro p hp x hx
  obtain ⟨hlen, hr⟩ := h.2 p hp
  rw [← hlen, ← List.dropLast_eq_take] at hx
  exact hr x hx

theorem Answered.init : Answered [] [] [] .unstarted :=
  .inl ⟨rfl, rfl, rfl, nofun⟩

theorem Answered.move {l l' : LoopPoint} (h : Answered A bs as l)
    (he : l'.envelope? = l.envelope?) (hs : l'.isSending = l.isSending) : Answered A bs as l' := by
  unfold Answered
  rw [he, hs]
  exact h

theorem Answered.idle {l : LoopPoint} (h : Answered A bs as l) (hn : l.envelope? = none) :
    A = as.flatten ∧ AnsweredInFull bs as := by
  rcases h with ⟨-, h⟩ | ⟨e, bs₀, as₀, a, k, he, -⟩
  · exact h
  · rw [hn] at he
    cases he

theorem Answered.delivering {l : LoopPoint} (h : Answered A bs as l) (he : l.envelope? = some e) :
    ∃ bs₀ as₀ a k, bs = bs₀ ++ [(e, k)] ∧ as = as₀ ++ [a] ∧
      Trying A bs₀ as₀ a k l.isSending.toNat := by
  rcases h with ⟨hn, -⟩ | ⟨e', bs₀, as₀, a, k, he', rfl, rfl, hT⟩
  · rw [he] at hn
    cases hn
  · rw [he] at he'
    cases he'
    exact ⟨bs₀, as₀, a, k, rfl, rfl, hT⟩

/-- The answers read block by block: every block answered in full but the last, which lacks the
answer to its last send while the loop waits on it, and every answer but the one to a block's
last send worth retrying. -/
theorem Answered.blocks {l : LoopPoint} (h : Answered A bs as l) :
    A = as.flatten ∧ as.length = bs.length ∧
      (∀ p ∈ bs.zip as, ∀ x ∈ p.2.take (p.1.2 - 1), retriable x = true) ∧
      (∀ p ∈ (bs.zip as).dropLast, p.2.length = p.1.2) ∧
      (∀ b a, (bs.zip as).getLast? = some (b, a) →
        a.length = b.2 ∨ a.length + 1 = b.2 ∧ l.isSending = true) := by
  rcases h with ⟨-, hflat, hfull⟩ | ⟨e, bs₀, as₀, a, k, -, rfl, rfl, hT⟩
  · refine ⟨hflat, hfull.1, hfull.retriable, fun p hp => (hfull.2 p (List.dropLast_subset _ hp)).1,
      fun b a hlast => .inl (hfull.2 (b, a) (List.mem_of_getLast? hlast)).1⟩
  · have hzip : (bs₀ ++ [(e, k)]).zip (as₀ ++ [a]) = bs₀.zip as₀ ++ [((e, k), a)] := by
      rw [List.zip_append hT.full.1.symm]
      rfl
    refine ⟨hT.flat, by simp [hT.full.1], ?_, ?_, ?_⟩
    · -- the block under way has only answers worth retrying
      intro p hp
      rw [hzip] at hp
      rcases List.mem_append.1 hp with hp | hp
      · exact hT.full.retriable p hp
      · rw [List.mem_singleton.1 hp]
        exact fun x hx => hT.worthRetrying x (List.mem_of_mem_take hx)
    · rw [hzip, List.dropLast_concat]
      exact fun p hp => (hT.full.2 p hp).1
    · intro b a' hlast
      rw [hzip, List.getLast?_concat] at hlast
      cases hlast
      cases hs : l.isSending
      · exact .inl (by simpa [hs] using hT.count)
      · exact .inr ⟨by simpa [hs] using hT.count, rfl⟩

end Answers

section Steps

variable {W : List Waiter} {late : List Nat} {A : List (Option SinkFailure)} {d d' : Dispatcher}
  {fx fx' : List Effect} {j : Nat} {bs bs' : List (Envelope × Nat)}
  {as as₀ : List (List (Option SinkFailure))} {a : List (Option SinkFailure)}

theorem Orderly.init (capacity initialBackoff maxBackoff : Nat) :
    Orderly [] [] [] (init capacity initialBackoff maxBackoff) [] :=
  ⟨0, [], [], ⟨Nat.le_refl 0, rfl, fun _ => rfl, List.Perm.refl _, rfl, List.prefix_refl _,
    fun _ => rfl, nofun⟩, ⟨nofun, fun _ _ => nofun⟩, Answered.init⟩

/-- A move that leaves the queue, the line and the abandonment alone and lets no one in or out
keeps the run served, with the blocks grown by its sends. -/
theorem Served.move (h : Served W late d fx j bs) (hq : d'.queue = d.queue)
    (hw : d'.waiters = d.waiters) (ha : d'.abandoned = d.abandoned)
    (hadm : admissions fx' = []) (hrej : rejections fx' = [])
    (hfst : bs'.map Prod.fst = bs.map Prod.fst) (hlast : bs'.dropLast = bs.dropLast)
    (hsends : blockSends bs ++ sends fx' = blockSends bs') :
    Served W late d' (fx ++ fx') j bs' := by
  refine ⟨h.le, ?_, ?_, ?_, ?_, ?_, ?_, ?_⟩
  · simp [hadm, h.admitted]
  · rw [ha, hw]
    exact h.waiting
  · simpa [hrej, ha] using h.rejected
  · rw [sends_append, h.blocks, hsends]
  · rw [hq, hfst]
    exact h.taken
  · rw [ha, hq, hfst]
    exact h.all_taken
  · rw [hlast]
    exact h.sealed

theorem Served.quiet (h : Served W late d fx j bs) (hq : d'.queue = d.queue)
    (hw : d'.waiters = d.waiters) (ha : d'.abandoned = d.abandoned)
    (hfx : admissions fx' = [] ∧ rejections fx' = [] ∧ sends fx' = []) :
    Served W late d' (fx ++ fx') j bs :=
  h.move hq hw ha hfx.1 hfx.2.1 rfl rfl (by rw [hfx.2.2, List.append_nil])

theorem Delivering.move (h : Delivering d bs) (hl : d'.loop.envelope? = d.loop.envelope?)
    (hs : d'.loop.isSending = d.loop.isSending) (ha : d'.abandoned = d.abandoned) :
    Delivering d' bs :=
  ⟨fun e he => by
      rw [hs]
      exact h.current e (hl ▸ he),
    fun hn hna => h.settled (hl ▸ hn) (ha ▸ hna)⟩

/-- Between deliveries the blocks follow the loop once, unless abandoned, each holds a send. -/
theorem Delivering.idle (hl : d.loop.envelope? = none)
    (hpos : d.abandoned = false → ∀ b ∈ bs, 0 < b.2) : Delivering d bs :=
  ⟨fun _ he => (by rw [hl] at he; cases he), fun _ => hpos⟩

/-- While the loop delivers the envelope of the last block, the blocks follow it once that block
holds a send whenever the loop waits on one. -/
theorem Delivering.last {bs₀ : List (Envelope × Nat)} {e : Envelope} {k : Nat}
    (hl : d.loop.envelope? = some e) (hk : d.loop.isSending = true → 0 < k) :
    Delivering d (bs₀ ++ [(e, k)]) :=
  ⟨fun _ he => by
      rw [hl] at he
      cases he
      exact ⟨bs₀, k, rfl, hk⟩,
    fun hn => by
      rw [hl] at hn
      cases hn⟩

theorem Served.all_pos {bs₀ : List (Envelope × Nat)} {e : Envelope} {k : Nat}
    (h : Served W late d fx j (bs₀ ++ [(e, k)])) (hk : 0 < k) : ∀ b ∈ bs₀ ++ [(e, k)], 0 < b.2 := by
  intro b hb
  rcases List.mem_append.1 hb with hb | hb
  · exact h.sealed b (by rw [List.dropLast_concat]; exact hb)
  · rw [List.mem_singleton.1 hb]
    exact hk

/-- A try for the envelope of the last block sends it once when there is a session, and ends the
delivery when the buffer is abandoned. -/
theorem Served.attempt {bs₀ : List (Envelope × Nat)} {e : Envelope} {k : Nat}
    (h : Served W late d fx j (bs₀ ++ [(e, k)])) (hT : Trying A bs₀ as₀ a k 0) (n : Nat) :
    Orderly W late A (d.attempt e n).1 (fx ++ (d.attempt e n).2) := by
  obtain ⟨hadm, hrej, hcalls⟩ := attempt_views d e n
  rcases attempt_cases d e n with ⟨ha, hd⟩ | ⟨ha, hc, hd⟩ | ⟨ha, hc, hd⟩ <;> rw [hd]
  · have hs : sends (d.attempt e n).2 = [] := by simp [sends, hcalls, ha]
    exact ⟨j, _, _, h.quiet rfl rfl rfl ⟨hadm, hrej, hs⟩, .idle rfl fun hna => by simp [ha] at hna,
      .inl ⟨rfl, hT.answeredInFull⟩⟩
  · have hs : sends (d.attempt e n).2 = [] := by simp [sends, hcalls, ha, hc]
    exact ⟨j, _, _, h.quiet rfl rfl rfl ⟨hadm, hrej, hs⟩, .last rfl (fun hsend => by cases hsend),
      .inr ⟨e, bs₀, as₀, a, k, rfl, rfl, rfl, hT⟩⟩
  · -- one more send in the last block, its answer awaited
    have hs : sends (d.attempt e n).2 = [e] := by simp [sends, hcalls, ha, hc]
    exact ⟨j, bs₀ ++ [(e, k + 1)], _,
      h.move rfl rfl rfl hadm hrej (by simp) (by simp) (by simp [hs, List.replicate_succ']),
      .last rfl fun _ => Nat.succ_pos k, .inr ⟨e, bs₀, as₀, a, k + 1, rfl, rfl, rfl, hT.send⟩⟩

/-- A failed try for the envelope of the last block sends nothing; it ends the delivery only when
the envelope was refused, which takes a send, or abandoned, and leaves the block answered in full;
otherwise the block is tried again, every answer so far worth retrying. -/
theorem Served.failed {bs₀ : List (Envelope × Nat)} {e : Envelope} {k : Nat}
    (h : Served W late d fx j (bs₀ ++ [(e, k)])) (n : Nat) (f : SinkFailure)
    (hpos : (d.connected && f.isFinal) = true → 0 < k)
    (hfull : A = (as₀ ++ [a]).flatten ∧ AnsweredInFull (bs₀ ++ [(e, k)]) (as₀ ++ [a]))
    (hretry : d.abandoned = false → (d.connected && f.isFinal) = false → Trying A bs₀ as₀ a k 0) :
    Orderly W late A (d.failed e n f).1 (fx ++ (d.failed e n f).2) := by
  obtain ⟨hadm, hrej, hcalls⟩ := failed_views d e n f
  have hs : sends (d.failed e n f).2 = [] := by
    rw [sends, hcalls]
    split <;> rfl
  rcases failed_cases d e n f with ⟨ha, hd⟩ | ⟨ha, hr, hd⟩ | ⟨ha, hr, hd⟩ <;> rw [hd]
  · exact ⟨j, _, _, h.quiet rfl rfl rfl ⟨hadm, hrej, hs⟩, .idle rfl fun hna => by simp [ha] at hna,
      .inl ⟨rfl, hfull⟩⟩
  · exact ⟨j, _, _, h.quiet rfl rfl rfl ⟨hadm, hrej, hs⟩, .idle rfl fun _ => h.all_pos (hpos hr),
      .inl ⟨rfl, hfull⟩⟩
  · exact ⟨j, _, _, h.quiet rfl rfl rfl ⟨hadm, hrej, hs⟩, .last rfl (fun hsend => by cases hsend),
      .inr ⟨e, bs₀, as₀, a, k, rfl, rfl, rfl, hretry ha hr⟩⟩

/-- Letting waiters in takes the next of the line, in order, and queues their envelopes behind the
others; once abandoned there is no line left to take from. -/
theorem Served.admit (h : Served W late d fx j bs) (hwab : d.abandoned = true → d.waiters = [])
    {d₁ : Dispatcher} (hq : d₁.queue = d.queue) (hw : d₁.waiters = d.waiters)
    (ha : d₁.abandoned = d.abandoned) (hl : d₁.loop ≠ .parked) (fuel : Nat) :
    Served W late (d₁.takeWaiters fuel).1 (fx ++ (d₁.takeWaiters fuel).2)
      (j + d₁.admitted fuel) bs := by
  obtain ⟨hadm, hrej, hcalls⟩ := takeWaiters_views d₁ fuel
  have hs : sends (d₁.takeWaiters fuel).2 = [] := sends_eq_nil_of_sinkCalls hcalls
  have hlen : d₁.admitted fuel ≤ d₁.waiters.length := by
    simp only [Dispatcher.admitted]
    omega
  rw [takeWaiters_eq fuel d₁ hl]
  cases hab : d.abandoned
  · -- the line is the rest of `W`, and its first `admitted` come in
    have hw' : d₁.waiters = W.drop j := hw ▸ h.waiting hab
    have hall : bs.map Prod.fst ++ (d₁.queue ++ (d₁.waiters.take (d₁.admitted fuel)).map (·.envelope)) =
        (W.take (j + d₁.admitted fuel)).map (·.envelope) := by
      rw [hq, hw', List.take_add, List.map_append, ← h.all_taken hab, List.append_assoc]
    refine ⟨?_, ?_, fun _ => ?_, ?_, ?_, ?_, fun _ => hall, h.sealed⟩
    · have := h.le
      rw [hw', List.length_drop] at hlen
      omega
    · rw [admissions_append, h.admitted, hadm, hw', List.take_add, List.map_append]
    · simp [hw', List.drop_drop]
    · simpa [hrej, ha, hab] using h.rejected
    · rw [sends_append, hs, List.append_nil]
      exact h.blocks
    · simp only at hall ⊢
      exact ⟨[], by rw [List.append_nil, hall]⟩
  · -- abandoned: nobody waits, so nobody comes in
    have h0 : d₁.admitted fuel = 0 := by
      rw [hw, hwab hab] at hlen
      exact Nat.le_zero.1 hlen
    rw [h0, Nat.add_zero]
    refine h.quiet ?_ ?_ ?_ ⟨?_, hrej, hs⟩
    · simp [hq]
    · simp [hw]
    · exact ha
    · rw [hadm, h0]
      rfl

theorem Served.finishDraining (h : Served W late d fx j bs) (hd : Delivering d bs)
    (hA : Answered A bs as d.loop) (hwab : d.abandoned = true → d.waiters = []) (timedOut : Bool) :
    Orderly W late A (d.finishDraining timedOut).1 (fx ++ (d.finishDraining timedOut).2) := by
  obtain ⟨hadm, hrej, hcalls⟩ := finishDraining_views d timedOut
  have hs : sends (d.finishDraining timedOut).2 = [] := by simp [sends, hcalls]
  rw [finishDraining_eq]
  split
  · rename_i hgive
    rw [if_pos hgive] at hrej
    rw [abandon_eq]
    refine ⟨j, bs, as, ⟨h.le, ?_, nofun, ?_, ?_, ?_, nofun, h.sealed⟩, ⟨?_, nofun⟩,
      hA.move (by simp) (by simp)⟩
    · simp [hadm, h.admitted]
    · -- the line turned away is the rest of `W`
      rw [rejections_append, hrej, if_pos rfl]
      cases hab : d.abandoned
      · have hperm := h.rejected
        rw [hab, if_neg Bool.false_ne_true, List.nil_append] at hperm
        rw [h.waiting hab]
        exact (hperm.append_right _).trans List.perm_append_comm
      · have hperm := h.rejected
        rw [hab, if_pos rfl] at hperm
        simpa [hwab hab] using hperm
    · rw [sends_append, hs, List.append_nil]
      exact h.blocks
    · rw [List.append_nil]
      exact (List.prefix_append _ _).trans h.taken
    · intro e he
      simpa using hd.current e (by simpa using he)
  · rename_i hkeep
    rw [if_neg hkeep] at hrej
    exact ⟨j, bs, as, h.quiet rfl rfl rfl ⟨hadm, hrej, hs⟩, hd.move rfl rfl rfl, hA⟩

/-- A submitter joins the line of those that came while open, at its end, and is let in at once
when the line is empty and there is room; once closed it is turned away. -/
theorem Served.submit (h : Served W late d fx j bs) (hd : Delivering d bs)
    (hA : Answered A bs as d.loop) (hc : d.Consistent) {t : Nat} {e : Envelope}
    (hs : d.step (.submit t e) = some (d', fx')) :
    Orderly (W ++ if d.closed then [] else [⟨t, e⟩]) (late ++ if d.closed then [t] else []) A
      d' (fx ++ fx') := by
  rcases step_submit_fx hs with ⟨hcl, rfl, rfl⟩ | ⟨hcl, hw, -, rfl, rfl⟩ | ⟨hcl, -, rfl, rfl⟩
  · -- closed: turned away at once
    rw [if_pos hcl, if_pos hcl, List.append_nil]
    refine ⟨j, bs, as, ⟨h.le, by simp [h.admitted], h.waiting, ?_, by simp [h.blocks], h.taken,
      h.all_taken, h.sealed⟩, hd, hA⟩
    rw [rejections_append, ← List.append_assoc]
    exact h.rejected.append_right _
  -- open: nothing abandoned yet
  all_goals
    have hna : d.abandoned = false := by
      cases ha : d.abandoned
      · rfl
      · rw [(hc.abandoned ha).2] at hcl
        cases hcl
    rw [if_neg (by simp [hcl]), if_neg (by simp [hcl]), List.append_nil]
  · -- an empty line and room: let in at once, behind everyone before
    have hj : j = W.length := by
      have hdrop := h.waiting hna
      rw [hw, eq_comm, List.drop_eq_nil_iff] at hdrop
      exact Nat.le_antisymm h.le hdrop
    subst hj
    have hall : bs.map Prod.fst ++ (d.queue ++ [e]) =
        ((W ++ [(⟨t, e⟩ : Waiter)]).take (W.length + 1)).map (·.envelope) := by
      have hall₀ := h.all_taken hna
      rw [List.take_length] at hall₀
      rw [List.take_length_add_append, List.map_append, ← List.append_assoc, hall₀]
      rfl
    rw [notify_eq]
    refine ⟨W.length + 1, bs, as, ⟨by simp, ?_, fun _ => ?_, ?_, ?_, ?_, fun _ => hall, h.sealed⟩,
      hd.move (by simp) (by simp) rfl, hA.move (by simp) (by simp)⟩
    · rw [admissions_append, h.admitted, List.take_length_add_append, List.take_length]
      simp
    · simp [hw]
    · simpa [hna] using h.rejected
    · simp [h.blocks]
    · simp only at hall ⊢
      exact ⟨[], by rw [List.append_nil, hall]⟩
  · -- the submitter waits at the end of the line
    refine ⟨j, bs, as, ⟨by simpa using Nat.le_succ_of_le h.le, ?_, fun _ => ?_, ?_, ?_, ?_,
      fun _ => ?_, h.sealed⟩, hd.move rfl rfl rfl, hA⟩
    · rw [List.take_append_of_le_length h.le, List.append_nil]
      exact h.admitted
    · rw [List.drop_append_of_le_length h.le, ← h.waiting hna]
    · simpa [hna] using h.rejected
    · simp [h.blocks]
    · rw [List.take_append_of_le_length h.le]
      exact h.taken
    · rw [List.take_append_of_le_length h.le]
      exact h.all_taken hna

/-- The sink's answer to a send joins the block of the send: it ends the delivery when the send
went through or was refused, or the buffer was abandoned, and otherwise is worth retrying and the
block is tried again. -/
theorem Served.sendDone (h : Served W late d fx j bs) (hd : Delivering d bs)
    (hA : Answered A bs as d.loop) (hf : d.Flight) {f : Option SinkFailure}
    (hs : d.step (.sendDone f) = some (d', fx')) :
    Orderly W late (A ++ [f]) d' (fx ++ fx') := by
  obtain ⟨e, m, hl, hcases⟩ := step_sendDone_fx hs
  obtain ⟨bs₀, as₀, a, k, rfl, rfl, hT⟩ := hA.delivering (show d.loop.envelope? = some e by rw [hl]; rfl)
  rw [hl] at hT
  have hk : 0 < k := by
    rw [← hT.count]
    exact Nat.succ_pos _
  obtain ⟨hflat, hfull⟩ := hT.answer e f
  rcases hcases with ⟨-, ha, rfl, rfl⟩ | ⟨-, -, rfl, rfl⟩ | ⟨x, rfl, rfl, rfl⟩
  · exact ⟨j, _, _, h.quiet rfl rfl rfl ⟨rfl, rfl, rfl⟩, .idle rfl fun hna => by simp [ha] at hna,
      .inl ⟨rfl, hflat, hfull⟩⟩
  · -- sent: the block under way is over, and it holds a send
    exact ⟨j, _, _, h.quiet rfl rfl rfl ⟨rfl, rfl, rfl⟩, .idle rfl fun _ => h.all_pos hk,
      .inl ⟨rfl, hflat, hfull⟩⟩
  · -- with the session up, only a failure that is not final is retried
    refine h.failed m x (fun _ => hk) ⟨hflat, hfull⟩ fun hna hr => hT.retry ?_
    have hconn : d.connected = true := hf.sending (by rw [hl]; rfl) hna
    simpa [retriable, hconn] using hr

/-- Every event but a submit or the answer to a send keeps the run served, with the same
submitters and answers. -/
theorem Served.other (h : Served W late d fx j bs) (hd : Delivering d bs)
    (hA : Answered A bs as d.loop) (hc : d.Consistent) (hf : d.Flight) {ev : Event}
    (hev : ev.submitter? = none) (hans : ev.sendAnswer? = none)
    (hs : d.step ev = some (d', fx')) :
    Orderly W late A d' (fx ++ fx') := by
  cases ev with
  | submit t e => cases hev
  | sendDone f => cases hans
  | start =>
      obtain ⟨⟨hl, rfl⟩ | ⟨-, rfl⟩, rfl⟩ := step_start_fx hs
      · exact ⟨j, bs, as, h.quiet rfl rfl rfl ⟨rfl, rfl, rfl⟩,
          hd.move (by rw [hl]; rfl) (by rw [hl]; rfl) rfl, hA.move (by rw [hl]; rfl) (by rw [hl]; rfl)⟩
      · exact ⟨j, bs, as, by simpa using h, hd, hA⟩
  | close =>
      rcases step_close_fx hs with ⟨-, rfl, rfl⟩ | ⟨-, rfl, rfl⟩
      · rw [notify_eq]
        exact ⟨j, bs, as, h.quiet rfl rfl rfl ⟨rfl, rfl, rfl⟩, hd.move (by simp) (by simp) rfl,
          hA.move (by simp) (by simp)⟩
      · exact ⟨j, bs, as, by simpa using h, hd, hA⟩
  | resume =>
      rcases step_resume_fx hs with ⟨hl, -, -, rfl, rfl⟩ | ⟨hl, -, -, -, rfl, rfl⟩ |
        ⟨e, rest, hl, hq, rfl, rfl⟩ | ⟨hl, rfl, rfl⟩ | ⟨o, hl, -, rfl, rfl⟩
      · exact ⟨j, bs, as, h.quiet rfl rfl rfl ⟨rfl, rfl, rfl⟩,
          hd.move (by rw [hl]; rfl) (by rw [hl]; rfl) rfl, hA.move (by rw [hl]; rfl) (by rw [hl]; rfl)⟩
      · exact ⟨j, bs, as, h.quiet rfl rfl rfl ⟨rfl, rfl, rfl⟩,
          hd.move (by rw [hl]; rfl) (by rw [hl]; rfl) rfl, hA.move (by rw [hl]; rfl) (by rw [hl]; rfl)⟩
      · -- the head of the queue opens a new block, every earlier one holding a send and answered
        have hna : d.abandoned = false := by
          cases ha : d.abandoned
          · rfl
          · rw [(hf.abandoned ha).1] at hq
            cases hq
        have hpos : ∀ b ∈ bs, 0 < b.2 := hd.settled (by rw [hl]; rfl) hna
        have hS : Served W late { d with queue := rest, inFlight := 1 } fx j (bs ++ [(e, 0)]) := by
          refine ⟨h.le, h.admitted, h.waiting, h.rejected, by simp [h.blocks], ?_, fun _ => ?_, ?_⟩
          · simpa [hq] using h.taken
          · simpa [hq] using h.all_taken hna
          · simpa using hpos
        obtain ⟨hflat, hfull⟩ := hA.idle (by rw [hl]; rfl)
        have hT : Trying A bs as [] 0 0 := ⟨by simp [hflat], hfull, fun _ => nofun, rfl⟩
        exact hS.attempt hT 0
      · exact ⟨j, bs, as, h.quiet rfl rfl rfl ⟨rfl, rfl, rfl⟩,
          hd.move (by rw [hl]; rfl) (by rw [hl]; rfl) rfl, hA.move (by rw [hl]; rfl) (by rw [hl]; rfl)⟩
      · -- the slot is freed and the next of the line comes in
        have hS₁ : Served W late d (fx ++ [({ d with inFlight := 0 } : Dispatcher).gauge]) j bs :=
          h.quiet rfl rfl rfl ⟨rfl, rfl, rfl⟩
        have hS := hS₁.admit (fun ha => (hc.abandoned ha).1)
          (show ({ d with inFlight := 0, loop := .top } : Dispatcher).queue = d.queue from rfl)
          rfl rfl (by simp) (d.waiters.length + 1)
        rw [List.append_assoc, List.singleton_append] at hS
        refine ⟨_, bs, as, hS, hd.move ?_ ?_ ?_, hA.move ?_ ?_⟩
        all_goals rw [takeWaiters_eq _ _ (by simp)]
        all_goals
          rw [hl]
          rfl
  | connectDone f =>
      obtain ⟨e, m, hl, hcases⟩ := step_connectDone_fx hs
      obtain ⟨bs₀, as₀, a, k, rfl, rfl, hT⟩ :=
        hA.delivering (show d.loop.envelope? = some e by rw [hl]; rfl)
      rw [hl] at hT
      rcases hcases with ⟨-, rfl, rfl⟩ | ⟨x, -, rfl, rfl⟩
      · -- connected: the first send of the block under way
        exact ⟨j, bs₀ ++ [(e, k + 1)], _, h.move rfl rfl rfl rfl rfl (by simp) (by simp)
          (by simp [List.replicate_succ']), .last rfl fun _ => Nat.succ_pos k,
          .inr ⟨e, bs₀, as₀, a, k + 1, rfl, rfl, rfl, hT.send⟩⟩
      · have hconn : d.connected = false := hf.connecting (by rw [hl]; rfl)
        exact h.failed m x (by simp [hconn]) hT.answeredInFull fun _ _ => hT
  | loopDisconnected =>
      obtain ⟨e, m, hl, rfl, rfl⟩ := step_loopDisconnected_fx hs
      exact ⟨j, bs, as, h.quiet rfl rfl rfl ⟨rfl, rfl, rfl⟩,
        hd.move (by rw [hl]; rfl) (by rw [hl]; rfl) rfl, hA.move (by rw [hl]; rfl) (by rw [hl]; rfl)⟩
  | wakeUp =>
      obtain ⟨e, m, hl, rfl, rfl⟩ := step_wakeUp_fx hs
      obtain ⟨bs₀, as₀, a, k, rfl, rfl, hT⟩ :=
        hA.delivering (show d.loop.envelope? = some e by rw [hl]; rfl)
      rw [hl] at hT
      exact h.attempt hT (m + 1)
  | drained =>
      obtain ⟨-, -, rfl, rfl⟩ := step_drained_fx hs
      exact h.finishDraining hd hA (fun ha => (hc.abandoned ha).1) false
  | deadline =>
      obtain ⟨-, rfl, rfl⟩ := step_deadline_fx hs
      exact h.finishDraining hd hA (fun ha => (hc.abandoned ha).1) true
  | closeDisconnected =>
      obtain ⟨-, rfl, rfl⟩ := step_closeDisconnected_fx hs
      exact ⟨j, bs, as, h.quiet rfl rfl rfl ⟨rfl, rfl, rfl⟩, hd.move rfl rfl rfl, hA⟩

/-- Every event keeps the run served; a submit adds its submitter to those that came while open,
or to those that came after, and the answer to a send joins the answers. -/
theorem Orderly.step (h : Orderly W late A d fx) (hc : d.Consistent) (hf : d.Flight) {ev : Event}
    (hs : d.step ev = some (d', fx')) :
    Orderly (W ++ (if d.closed then none else ev.submitter?).toList)
      (late ++ (if d.closed then ev.submitter?.map (·.ticket) else none).toList)
      (A ++ ev.sendAnswer?.toList) d' (fx ++ fx') := by
  obtain ⟨j, bs, as, hS, hD, hA⟩ := h
  -- a submit brings a submitter, the answer to a send an answer, and no other event either
  cases ev with
  | submit t e =>
      have hO := hS.submit hD hA hc hs
      cases hcl : d.closed <;> simpa [hcl, Event.submitter?, Event.sendAnswer?] using hO
  | sendDone f => simpa [Event.submitter?, Event.sendAnswer?] using hS.sendDone hD hA hf hs
  | _ => simpa [Event.submitter?, Event.sendAnswer?] using hS.other hD hA hc hf rfl rfl hs

end Steps

/-- Along every run from a new dispatcher the submitters and the sink are served in order. -/
theorem Run.orderly {c initialBackoff maxBackoff : Nat} {tr : List (Dispatcher × Event)}
    {d : Dispatcher} {fx : List Effect} (h : Run (init c initialBackoff maxBackoff) tr d fx) :
    Orderly (openSubmits tr) (lateSubmits tr) (sendAnswers tr) d fx := by
  have hc₀ := Consistent.init c initialBackoff maxBackoff
  induction h with
  | nil => exact Orderly.init c initialBackoff maxBackoff
  | step h ev hs ih =>
      have hr := h.reachable
      rw [openSubmits_snoc, lateSubmits_snoc, sendAnswers_snoc]
      exact ih.step (hr.consistent hc₀) (hr.flight hc₀ (Flight.init c initialBackoff maxBackoff)) hs

/-! ### Served in order -/

/-- **Submitters are served in the order they came, and the sink sees envelopes in that order.**
Along every run from a new dispatcher: the submitters let in are the first `j` of those that came
while it was open, in the order they came, whether let in at once or after waiting; the rest of
them still wait, in that order, unless the buffer was abandoned, when they were turned away, as
was everyone who came once it was closed.  The sends are blocks, one per envelope the loop took,
in the order they were let in, each its envelope repeated over the tries of its delivery; every
block but the last holds a send, and the last is the delivery under way whenever there is one.
The sink's answers fall into the same blocks: every block is answered in full but the one whose
last send the loop waits on, and within a block every send but the last was answered by a failure
worth retrying, so no send follows a success or a refusal. -/
theorem submitters_and_sends_in_call_order {c initialBackoff maxBackoff : Nat}
    {tr : List (Dispatcher × Event)} {d : Dispatcher} {fx : List Effect}
    (h : Run (init c initialBackoff maxBackoff) tr d fx) :
    ∃ j ≤ (openSubmits tr).length,
      admissions fx = ((openSubmits tr).take j).map (·.ticket) ∧
      (d.abandoned = false → d.waiters = (openSubmits tr).drop j) ∧
      (rejections fx).Perm
        ((if d.abandoned then ((openSubmits tr).drop j).map (·.ticket) else []) ++ lateSubmits tr) ∧
      ∃ bs : List (Envelope × Nat),
        sends fx = bs.flatMap (fun b => List.replicate b.2 b.1) ∧
        (∀ b ∈ bs.dropLast, 0 < b.2) ∧
        bs.map Prod.fst ++ d.queue <+: ((openSubmits tr).take j).map (·.envelope) ∧
        (d.abandoned = false →
          bs.map Prod.fst ++ d.queue = ((openSubmits tr).take j).map (·.envelope)) ∧
        (∀ e, d.loop.envelope? = some e → ∃ k, bs.getLast? = some (e, k)) ∧
        ∃ as : List (List (Option SinkFailure)),
          sendAnswers tr = as.flatten ∧ as.length = bs.length ∧
          (∀ p ∈ bs.zip as, ∀ x ∈ p.2.take (p.1.2 - 1), retriable x = true) ∧
          (∀ p ∈ (bs.zip as).dropLast, p.2.length = p.1.2) ∧
          (∀ b a, (bs.zip as).getLast? = some (b, a) →
            a.length = b.2 ∨ a.length + 1 = b.2 ∧ d.loop.isSending = true) := by
  obtain ⟨j, bs, as, hS, hD, hA⟩ := h.orderly
  refine ⟨j, hS.le, hS.admitted, hS.waiting, hS.rejected, bs, hS.blocks, hS.sealed, hS.taken,
    hS.all_taken, fun e he => ?_, as, hA.blocks⟩
  obtain ⟨bs₀, k, rfl, -⟩ := hD.current e he
  exact ⟨k, List.getLast?_concat⟩

/-- Two submitters on a dispatcher of capacity one: the second waits, the first envelope is sent
after a failed connect and a retry, and then the second is let in. -/
theorem waiting_submitter_follows_retried_send :
    ∃ tr d fx, Run (init 1 0 0) tr d fx ∧ admissions fx = [0, 1] ∧
      sends fx = [⟨[], [0]⟩] ∧ d.queue = [⟨[], [1]⟩] ∧
      ∃ j ≤ (openSubmits tr).length,
        admissions fx = ((openSubmits tr).take j).map (·.ticket) ∧
        (d.abandoned = false → d.waiters = (openSubmits tr).drop j) ∧
        (rejections fx).Perm
          ((if d.abandoned then ((openSubmits tr).drop j).map (·.ticket) else []) ++
            lateSubmits tr) ∧
        ∃ bs : List (Envelope × Nat),
          sends fx = bs.flatMap (fun b => List.replicate b.2 b.1) ∧
          (∀ b ∈ bs.dropLast, 0 < b.2) ∧
          bs.map Prod.fst ++ d.queue <+: ((openSubmits tr).take j).map (·.envelope) ∧
          (d.abandoned = false →
            bs.map Prod.fst ++ d.queue = ((openSubmits tr).take j).map (·.envelope)) ∧
          (∀ e, d.loop.envelope? = some e → ∃ k, bs.getLast? = some (e, k)) ∧
          ∃ as : List (List (Option SinkFailure)),
            sendAnswers tr = as.flatten ∧ as.length = bs.length ∧
            (∀ p ∈ bs.zip as, ∀ x ∈ p.2.take (p.1.2 - 1), retriable x = true) ∧
            (∀ p ∈ (bs.zip as).dropLast, p.2.length = p.1.2) ∧
            (∀ b a, (bs.zip as).getLast? = some (b, a) →
              a.length = b.2 ∨ a.length + 1 = b.2 ∧ d.loop.isSending = true) := by
  have h₁ := (@Run.nil (init 1 0 0)).step .start rfl
  have h₂ := h₁.step (.submit 0 ⟨[], [0]⟩) rfl
  have h₃ := h₂.step (.submit 1 ⟨[], [1]⟩) rfl
  have h₄ := h₃.step .resume rfl
  have h₅ := h₄.step (.connectDone (some .broken)) rfl
  have h₆ := h₅.step .loopDisconnected rfl
  have h₇ := h₆.step .wakeUp rfl
  have h₈ := h₇.step (.connectDone none) rfl
  have h₉ := h₈.step (.sendDone none) rfl
  have h₁₀ := h₉.step .resume rfl
  exact ⟨_, _, _, h₁₀, rfl, rfl, rfl, submitters_and_sends_in_call_order h₁₀⟩

end Dispatcher

end LogRouter
