import LogRouter.Lines

/-!
The lines of a stream do not depend on how it arrives.

A connection hands its bytes to a line buffer chunk by chunk and flushes the buffer when it ends
(`LineBuffer.linesOf`).  When no line of the stream is longer than the buffer's limit, what comes
out is the stream cut at its line feeds, each piece without one carriage return at its end, less
the pieces that are then empty, whatever the chunks were (`lines_independent_of_chunks`).  A longer
line is cut at the limit wherever a chunk leaves it unfinished, so its pieces depend on the chunks;
but whatever the stream and the chunks, a push leaves no line feed and at most the limit in the
buffer, and the lines put together are the stream less its line feeds and some of its carriage
returns (`lines_lose_only_breaks`).  Which carriage returns: those that end a line or the stream,
and also one that a cut leaves at the end of a piece (`cut_loses_carriage_return`).

Everything rests on one fact about splitting, `splitOn_append`: splitting `xs ++ ys` keeps the
finished pieces of `xs` and splits its unfinished last piece followed by `ys`.  A push is that step,
the held bytes being the unfinished piece; so a run of pushes tracks the split of the whole
stream, and the held bytes always begin a line of it.
-/

namespace LogRouter

namespace LineBuffer

/-! ### Splitting at a separator -/

section Split

variable {α : Type} [BEq α] (a : α)

theorem not_mem_of_mem_splitOn [LawfulBEq α] {xs l : List α} (h : l ∈ xs.splitOn a) : a ∉ l := by
  induction xs generalizing l with
  | nil =>
    simp [List.splitOn_nil] at h
    simp [h]
  | cons x xs ih =>
    rw [List.splitOn_cons_eq_if_modifyHead] at h
    split at h
    · rcases List.mem_cons.1 h with rfl | h
      · simp
      · exact ih h
    · rename_i hx
      obtain ⟨q, qs, hq⟩ := List.exists_cons_of_ne_nil (List.splitOn_ne_nil a xs)
      rw [hq, List.modifyHead_cons] at h
      rcases List.mem_cons.1 h with rfl | h
      · have hq' : a ∉ q := ih (hq ▸ List.mem_cons_self ..)
        simp only [List.mem_cons, not_or]
        exact ⟨fun e => hx (by simp [e]), hq'⟩
      · exact ih (hq ▸ List.mem_cons_of_mem _ h)

theorem getLastD_mem_splitOn (xs : List α) : (xs.splitOn a).getLastD [] ∈ xs.splitOn a := by
  rw [List.getLastD_eq_getLast?, List.getLast?_eq_some_getLast (List.splitOn_ne_nil a xs)]
  exact List.getLast_mem _

theorem splitOn_append_of_not_mem [LawfulBEq α] {xs : List α} (h : a ∉ xs) (ys : List α) :
    (xs ++ ys).splitOn a = (ys.splitOn a).modifyHead (xs ++ ·) := by
  induction xs with
  | nil =>
    obtain ⟨q, qs, hq⟩ := List.exists_cons_of_ne_nil (List.splitOn_ne_nil a ys)
    rw [List.nil_append, hq]
    rfl
  | cons x xs ih =>
    simp only [List.mem_cons, not_or] at h
    have hx : (x == a) = false := beq_eq_false_iff_ne.2 (Ne.symm h.1)
    rw [List.cons_append, List.splitOn_cons_eq_if_modifyHead, hx, ih h.2, List.modifyHead_modifyHead]
    rfl

/-- **Splitting goes piece by piece.**  Splitting `xs ++ ys` keeps the finished pieces of `xs`
and splits its last, unfinished piece followed by `ys`. -/
theorem splitOn_append (xs ys : List α) :
    (xs ++ ys).splitOn a =
      (xs.splitOn a).dropLast ++ ((xs.splitOn a).getLastD [] ++ ys).splitOn a := by
  induction xs with
  | nil => simp
  | cons x xs ih =>
    obtain ⟨q, qs, hq⟩ := List.exists_cons_of_ne_nil (List.splitOn_ne_nil a xs)
    rw [List.cons_append, List.splitOn_cons_eq_if_modifyHead, List.splitOn_cons_eq_if_modifyHead,
      ih, hq]
    split
    · simp
    · rename_i hx
      -- a byte that is not the separator joins the first piece, which may also be the last
      cases qs with
      | nil =>
        show List.modifyHead (List.cons x) (List.splitOn a (q ++ ys)) =
          List.splitOn a (x :: (q ++ ys))
        rw [List.splitOn_cons_eq_if_modifyHead, if_neg hx]
      | cons q' qs => simp

theorem head_splitOn_eq_nil_iff [LawfulBEq α] (xs : List α) :
    (xs.splitOn a).head? = some [] ↔ xs = [] ∨ xs.head? = some a := by
  cases xs with
  | nil => simp
  | cons x xs =>
    rw [List.splitOn_cons_eq_if_modifyHead]
    by_cases hx : x = a
    · simp [hx]
    · obtain ⟨q, qs, hq⟩ := List.exists_cons_of_ne_nil (List.splitOn_ne_nil a xs)
      simp [hx, hq]

end Split

theorem intercalate_eq_flatten {α : Type} (a : α) {ps : List (List α)} (h : ps ≠ []) :
    [a].intercalate ps = (ps.dropLast.map (· ++ [a])).flatten ++ ps.getLastD [] := by
  induction ps with
  | nil => exact absurd rfl h
  | cons p ps ih =>
    cases ps with
    | nil => simp
    | cons q qs =>
      rw [List.intercalate_cons_cons, ih (List.cons_ne_nil q qs)]
      simp

/-! ### Cutting long remainders -/

theorem cutLong_of_length_le {limit : Nat} {held : List UInt8} (h : held.length ≤ limit) (fuel : Nat) :
    cutLong limit fuel held = ([], held) := by
  cases fuel with
  | zero => rfl
  | succ fuel =>
    have hnot : ¬(limit < held.length ∧ 0 < limit) := fun hc => absurd h (Nat.not_le.2 hc.1)
    simp [cutLong, hnot]

theorem cutLong_suffix (limit fuel : Nat) (held : List UInt8) : (cutLong limit fuel held).2 <:+ held := by
  induction fuel generalizing held with
  | zero => exact List.suffix_refl held
  | succ fuel ih =>
    unfold cutLong
    split
    · exact (ih (held.drop limit)).trans (List.drop_suffix limit held)
    · exact List.suffix_refl held

/-- Fuel beyond the length over the limit is enough to bring the remainder within the limit. -/
theorem cutLong_length_le {limit : Nat} (hlimit : 0 < limit) (fuel : Nat) {held : List UInt8}
    (h : held.length ≤ fuel + limit) : (cutLong limit fuel held).2.length ≤ limit := by
  induction fuel generalizing held with
  | zero => simpa [cutLong] using h
  | succ fuel ih =>
    unfold cutLong
    split
    · -- each cut takes `limit` bytes, at least one
      have hdrop : (held.drop limit).length ≤ fuel + limit := by
        rw [List.length_drop]
        omega
      exact ih hdrop
    · rename_i hcut
      show held.length ≤ limit
      omega

/-! ### Handing out a line -/

/-- A line without one carriage return at its end. -/
def dropCR (line : List UInt8) : List UInt8 :=
  if line.getLast? = some 0x0D then line.dropLast else line

theorem emit_eq (line : List UInt8) :
    emit line = if (dropCR line).isEmpty then [] else [dropCR line] := rfl

@[simp] theorem flatten_emit (line : List UInt8) : (emit line).flatten = dropCR line := by
  rw [emit_eq]
  split <;> simp_all

/-- Handing out lines drops one carriage return from the end of each and leaves out those that
are then empty. -/
theorem flatMap_emit (pieces : List (List UInt8)) :
    pieces.flatMap emit = (pieces.map dropCR).filter (!·.isEmpty) := by
  induction pieces with
  | nil => rfl
  | cons p ps ih =>
    rw [List.flatMap_cons, ih, emit_eq]
    split <;> simp_all

/-! ### Bytes kept

`KeepsText out src` says that `out` is `src` less its line feeds and some of its carriage returns:
every other byte of `src` is in `out`, in order, and `out` adds nothing. -/

/-- `out` is `src` with its line feeds and some carriage returns taken out. -/
def KeepsText (out src : List UInt8) : Prop :=
  List.Sublist out src ∧ out.filter (· != 0x0D) = src.filter (fun b => b != 0x0A && b != 0x0D)

theorem filter_breaks_of_not_mem {src : List UInt8} (h : 0x0A ∉ src) :
    src.filter (fun b => b != 0x0A && b != 0x0D) = src.filter (· != 0x0D) := by
  refine List.filter_congr fun b hb => ?_
  have hne : b ≠ 0x0A := fun e => h (e ▸ hb)
  simp [hne]

theorem KeepsText.self {src : List UInt8} (h : 0x0A ∉ src) : KeepsText src src :=
  ⟨List.Sublist.refl src, (filter_breaks_of_not_mem h).symm⟩

theorem KeepsText.append {o₁ o₂ s₁ s₂ : List UInt8} (h₁ : KeepsText o₁ s₁) (h₂ : KeepsText o₂ s₂) :
    KeepsText (o₁ ++ o₂) (s₁ ++ s₂) :=
  ⟨h₁.1.append h₂.1, by rw [List.filter_append, List.filter_append, h₁.2, h₂.2]⟩

theorem KeepsText.lf {out src : List UInt8} (h : KeepsText out src) : KeepsText out (src ++ [0x0A]) :=
  ⟨h.1.trans (List.sublist_append_left _ _), by simp [h.2]⟩

theorem KeepsText.dropCR {line : List UInt8} (h : 0x0A ∉ line) : KeepsText (dropCR line) line := by
  rw [KeepsText, filter_breaks_of_not_mem h]
  unfold LineBuffer.dropCR
  split
  · rename_i hcr
    obtain ⟨ys, rfl⟩ := List.getLast?_eq_some_iff.1 hcr
    rw [List.dropLast_concat]
    exact ⟨List.sublist_append_left ys [0x0D], by simp⟩
  · exact ⟨List.Sublist.refl line, rfl⟩

theorem KeepsText.splice {l m o s₁ s₂ : List UInt8} (h₁ : KeepsText (l ++ m) s₁)
    (h₂ : KeepsText o (m ++ s₂)) (hm : 0x0A ∉ m) : KeepsText (l ++ o) (s₁ ++ s₂) := by
  refine ⟨?_, ?_⟩
  · have hsub : List.Sublist (l ++ o) (l ++ m ++ s₂) := by
      rw [List.append_assoc]
      exact h₂.1.append_left l
    exact hsub.trans (h₁.1.append (List.Sublist.refl s₂))
  · have hm' := filter_breaks_of_not_mem hm
    calc (l ++ o).filter (· != 0x0D)
        = l.filter (· != 0x0D) ++ (m ++ s₂).filter (fun b => b != 0x0A && b != 0x0D) := by
          rw [List.filter_append, h₂.2]
      _ = (l ++ m).filter (· != 0x0D) ++ s₂.filter (fun b => b != 0x0A && b != 0x0D) := by
          rw [List.filter_append, List.filter_append, hm', List.append_assoc]
      _ = (s₁ ++ s₂).filter (fun b => b != 0x0A && b != 0x0D) := by
          rw [h₁.2, List.filter_append]

theorem cutLong_keepsText (limit fuel : Nat) {held : List UInt8} (h : 0x0A ∉ held) :
    KeepsText ((cutLong limit fuel held).1.flatten ++ (cutLong limit fuel held).2) held := by
  induction fuel generalizing held with
  | zero => exact KeepsText.self h
  | succ fuel ih =>
    unfold cutLong
    split
    · have htake : 0x0A ∉ held.take limit := fun hm => h (List.mem_of_mem_take hm)
      have hdrop : 0x0A ∉ held.drop limit := fun hm => h (List.mem_of_mem_drop hm)
      have hcut := (KeepsText.dropCR htake).append (ih hdrop)
      rw [List.take_append_drop] at hcut
      simpa [List.append_assoc] using hcut
    · exact KeepsText.self h

theorem flatMap_emit_keepsText {pieces : List (List UInt8)} (h : ∀ p ∈ pieces, 0x0A ∉ p) :
    KeepsText (pieces.flatMap emit).flatten (pieces.map (· ++ [0x0A])).flatten := by
  induction pieces with
  | nil => exact ⟨List.Sublist.refl [], rfl⟩
  | cons p ps ih =>
    have hp := (KeepsText.dropCR (h p (List.mem_cons_self ..))).lf
    have hps := ih fun q hq => h q (List.mem_cons_of_mem _ hq)
    simpa using hp.append hps

/-! ### One push

A push splits the held bytes followed by the chunk.  The finished pieces are handed out; the last
piece is held, less the cuts made while it is longer than the limit. -/

section Push

variable (b : LineBuffer) (chunk : List UInt8)

theorem push_eq : b.push chunk =
    (((b.held ++ chunk).splitOn 0x0A).dropLast.flatMap emit ++
        (cutLong b.limit ((b.held ++ chunk).splitOn 0x0A |>.getLastD []).length
          ((b.held ++ chunk).splitOn 0x0A |>.getLastD [])).1,
      { b with held := (cutLong b.limit ((b.held ++ chunk).splitOn 0x0A |>.getLastD []).length
          ((b.held ++ chunk).splitOn 0x0A |>.getLastD [])).2 }) :=
  rfl

theorem last_piece_no_lf : 0x0A ∉ ((b.held ++ chunk).splitOn 0x0A).getLastD [] :=
  not_mem_of_mem_splitOn 0x0A (getLastD_mem_splitOn 0x0A _)

theorem push_held_no_lf : 0x0A ∉ (b.push chunk).2.held := by
  rw [push_eq]
  exact fun hm => last_piece_no_lf b chunk ((cutLong_suffix _ _ _).subset hm)

theorem push_pending_le (hlimit : 0 < b.limit) : (b.push chunk).2.pending ≤ b.limit := by
  rw [push_eq]
  exact cutLong_length_le hlimit _ (Nat.le_add_right _ _)

/-- When the unfinished piece is within the limit, a push hands out the finished pieces and holds
the unfinished one. -/
theorem push_of_short (h : (((b.held ++ chunk).splitOn 0x0A).getLastD []).length ≤ b.limit) :
    b.push chunk = (((b.held ++ chunk).splitOn 0x0A).dropLast.flatMap emit,
      { b with held := ((b.held ++ chunk).splitOn 0x0A).getLastD [] }) := by
  rw [push_eq, cutLong_of_length_le h, List.append_nil]

theorem push_keepsText :
    KeepsText ((b.push chunk).1.flatten ++ (b.push chunk).2.held) (b.held ++ chunk) := by
  have hpieces : ∀ p ∈ ((b.held ++ chunk).splitOn 0x0A).dropLast, 0x0A ∉ p :=
    fun p hp => not_mem_of_mem_splitOn 0x0A (List.dropLast_subset _ hp)
  have hfinished := flatMap_emit_keepsText hpieces
  have hcut := cutLong_keepsText b.limit
    (((b.held ++ chunk).splitOn 0x0A).getLastD []).length (last_piece_no_lf b chunk)
  -- the held bytes and the chunk are the pieces joined by line feeds
  have hjoin : b.held ++ chunk =
      ((((b.held ++ chunk).splitOn 0x0A).dropLast.map (· ++ [0x0A])).flatten ++
        ((b.held ++ chunk).splitOn 0x0A).getLastD []) := by
    rw [← intercalate_eq_flatten 0x0A (List.splitOn_ne_nil _ _), List.intercalate_splitOn]
  have hkeeps := hfinished.append hcut
  rw [← hjoin] at hkeeps
  rw [push_eq]
  simpa [List.append_assoc] using hkeeps

end Push

/-! ### A stream pushed in chunks -/

/-- Pushes chunks in order: the lines they complete, in order, and the buffer after the last. -/
def pushAll (b : LineBuffer) : List (List UInt8) → List (List UInt8) × LineBuffer
  | [] => ([], b)
  | c :: cs =>
    let (lines, b') := b.push c
    let (more, b'') := b'.pushAll cs
    (lines ++ more, b'')

/-- The lines of a stream that arrives in chunks and then ends: those the pushes complete, then
those the flush hands out. -/
def linesOf (limit : Nat) (chunks : List (List UInt8)) : List (List UInt8) :=
  let (pushed, b) := pushAll ⟨limit, []⟩ chunks
  pushed ++ b.flush.1

@[simp] theorem pushAll_nil (b : LineBuffer) : b.pushAll [] = ([], b) := rfl

theorem pushAll_cons (b : LineBuffer) (c : List UInt8) (cs : List (List UInt8)) :
    b.pushAll (c :: cs) =
      ((b.push c).1 ++ ((b.push c).2.pushAll cs).1, ((b.push c).2.pushAll cs).2) :=
  rfl

theorem linesOf_eq (limit : Nat) (chunks : List (List UInt8)) :
    linesOf limit chunks =
      (pushAll ⟨limit, []⟩ chunks).1 ++ emit (pushAll ⟨limit, []⟩ chunks).2.held :=
  rfl

/-- **No short line is cut.**  While no line of the stream is longer than the limit, the pushes
and the flush hand out the lines of the held bytes and the rest of the stream, whatever the
chunks.  The held bytes start a line of that stream, so each push leaves within the limit. -/
theorem pushAll_of_short (cs : List (List UInt8)) (b : LineBuffer) (hb : 0x0A ∉ b.held)
    (hshort : ∀ l ∈ (b.held ++ cs.flatten).splitOn 0x0A, l.length ≤ b.limit) :
    (b.pushAll cs).1 ++ emit (b.pushAll cs).2.held =
      ((b.held ++ cs.flatten).splitOn 0x0A).flatMap emit := by
  induction cs generalizing b with
  | nil => simp [List.splitOn_eq_singleton hb]
  | cons c cs ih =>
    have hsplit := splitOn_append 0x0A (b.held ++ c) cs.flatten
    rw [List.flatten_cons, ← List.append_assoc] at hshort ⊢
    rw [hsplit] at hshort ⊢
    have hrest := last_piece_no_lf b c
    -- the unfinished piece begins a line of the stream, so it is within the limit
    have hlen : (((b.held ++ c).splitOn 0x0A).getLastD []).length ≤ b.limit := by
      obtain ⟨q, qs, hq⟩ := List.exists_cons_of_ne_nil (List.splitOn_ne_nil (0x0A : UInt8) cs.flatten)
      have hhead := hshort _ (List.mem_append_right _
        (by rw [splitOn_append_of_not_mem 0x0A hrest, hq]; exact List.mem_cons_self ..))
      simp only [List.length_append] at hhead
      omega
    have hnext := ih { b with held := ((b.held ++ c).splitOn 0x0A).getLastD [] } hrest
      (fun l hl => hshort l (List.mem_append_right _ hl))
    rw [pushAll_cons, push_of_short b c hlen, List.flatMap_append, ← hnext, List.append_assoc]

theorem pushAll_keepsText (cs : List (List UInt8)) (b : LineBuffer) (hb : 0x0A ∉ b.held) :
    KeepsText ((b.pushAll cs).1.flatten ++ (emit (b.pushAll cs).2.held).flatten)
      (b.held ++ cs.flatten) := by
  induction cs generalizing b with
  | nil => simpa using KeepsText.dropCR hb
  | cons c cs ih =>
    have hnext := ih (b.push c).2 (push_held_no_lf b c)
    have hspliced := (push_keepsText b c).splice hnext (push_held_no_lf b c)
    rw [pushAll_cons]
    simpa [List.append_assoc] using hspliced

/-! ### The stream without its line breaks -/

/-- The stream without its line feeds, and without each carriage return that comes right before a
line feed or ends the stream. -/
def dropBreaks : List UInt8 → List UInt8
  | [] => []
  | b :: rest =>
    if b = 0x0A then dropBreaks rest
    else if b = 0x0D ∧ (rest = [] ∨ rest.head? = some 0x0A) then dropBreaks rest
    else b :: dropBreaks rest

theorem dropCR_cons (b : UInt8) {q : List UInt8} (hq : q ≠ []) : dropCR (b :: q) = b :: dropCR q := by
  obtain ⟨u, q, rfl⟩ := List.exists_cons_of_ne_nil hq
  unfold dropCR
  rw [List.getLast?_cons_cons, List.dropLast_cons_cons]
  split <;> rfl

/-- Dropping one carriage return from the end of each line of a stream drops exactly its line
feeds and the carriage returns that end a line or the stream. -/
theorem flatten_map_dropCR (s : List UInt8) :
    ((s.splitOn 0x0A).map dropCR).flatten = dropBreaks s := by
  induction s with
  | nil => rfl
  | cons b rest ih =>
    rw [List.splitOn_cons_eq_if_modifyHead]
    by_cases hlf : b = 0x0A
    · simp [hlf, dropBreaks, ih, dropCR]
    · obtain ⟨q, qs, hq⟩ := List.exists_cons_of_ne_nil (List.splitOn_ne_nil (0x0A : UInt8) rest)
      have hb : (b == 0x0A) = false := beq_eq_false_iff_ne.2 hlf
      have hempty := head_splitOn_eq_nil_iff 0x0A rest
      rw [hq] at ih hempty
      rw [hb, if_neg Bool.false_ne_true, hq, List.modifyHead_cons]
      -- the first line of `rest` is empty exactly when `rest` ends or starts with a line feed
      cases q with
      | nil =>
        have hend : rest = [] ∨ rest.head? = some 0x0A := hempty.1 rfl
        by_cases hcr : b = 0x0D
        · simp [dropBreaks, hcr, hend, dropCR] at ih ⊢
          exact ih
        · simp [dropBreaks, hlf, hcr, dropCR] at ih ⊢
          exact ih
      | cons u q =>
        have hmid : ¬(rest = [] ∨ rest.head? = some 0x0A) := fun h => by simpa using hempty.2 h
        simp only [List.map_cons, List.flatten_cons] at ih ⊢
        rw [dropCR_cons b (List.cons_ne_nil u q)]
        simp [dropBreaks, hlf, hmid, ih]

/-! ### Lines whatever the chunks -/

/-- While no line of the stream is longer than the limit, the lines handed out are those of the
whole stream. -/
theorem linesOf_of_short {limit : Nat} {chunks : List (List UInt8)}
    (hshort : ∀ l ∈ chunks.flatten.splitOn 0x0A, l.length ≤ limit) :
    linesOf limit chunks = (chunks.flatten.splitOn 0x0A).flatMap emit := by
  rw [linesOf_eq]
  exact pushAll_of_short chunks ⟨limit, []⟩ List.not_mem_nil hshort

theorem linesOf_keepsText (limit : Nat) (chunks : List (List UInt8)) :
    KeepsText (linesOf limit chunks).flatten chunks.flatten := by
  rw [linesOf_eq, List.flatten_append]
  exact pushAll_keepsText chunks ⟨limit, []⟩ List.not_mem_nil

/-- **The lines of a stream do not depend on its chunks.**  With a limit of at least one byte,
when no line of the stream is longer than the limit, the lines handed out are the stream's pieces
between line feeds, each without one carriage return at its end, less those that are then empty,
however the stream was cut into chunks; and whatever the stream, after every push the buffer
holds no line feed and at most the limit. -/
theorem lines_independent_of_chunks (limit : Nat) (hlimit : 0 < limit) :
    (∀ chunks : List (List UInt8),
      (∀ piece ∈ chunks.flatten.splitOn 0x0A, piece.length ≤ limit) →
        linesOf limit chunks = ((chunks.flatten.splitOn 0x0A).map dropCR).filter (!·.isEmpty)) ∧
    ∀ held chunk : List UInt8,
      0x0A ∉ (push ⟨limit, held⟩ chunk).2.held ∧ (push ⟨limit, held⟩ chunk).2.pending ≤ limit := by
  refine ⟨fun chunks hshort => ?_, fun held chunk => ?_⟩
  · rw [linesOf_of_short hshort, flatMap_emit]
  · exact ⟨push_held_no_lf _ chunk, push_pending_le ⟨limit, held⟩ chunk hlimit⟩

/-- A line feed and the carriage return before it may arrive in different chunks. -/
theorem crlf_across_chunks :
    0 < 4 ∧ (∀ piece ∈ [0x61, 0x0A, 0x62, 0x0D, 0x0A, 0x63].splitOn (0x0A : UInt8), piece.length ≤ 4) ∧
      linesOf 4 [[0x61, 0x0A, 0x62, 0x0D], [0x0A, 0x63]] = [[0x61], [0x62], [0x63]] := by
  refine ⟨by decide, by decide, ?_⟩
  rw [(lines_independent_of_chunks 4 (by decide)).1 _ (by decide)]
  decide

/-- **Only line breaks are lost.**  Whatever the limit, the stream and its chunks, the lines handed out, put together, are the stream with its line feeds and some of its
carriage returns taken out; and when no line is longer than the limit, the carriage returns taken
out are exactly those that come right before a line feed or end the stream. -/
theorem lines_lose_only_breaks (limit : Nat) (chunks : List (List UInt8)) :
    KeepsText (linesOf limit chunks).flatten chunks.flatten ∧
      ((∀ piece ∈ chunks.flatten.splitOn 0x0A, piece.length ≤ limit) →
        (linesOf limit chunks).flatten = dropBreaks chunks.flatten) := by
  refine ⟨linesOf_keepsText limit chunks, fun hshort => ?_⟩
  -- leaving out empty lines changes nothing once they are put together
  rw [linesOf_of_short hshort, flatMap_emit, List.flatten_filter_not_isEmpty, flatten_map_dropCR]

/-- Two lines of a stream cut into two chunks, one ending in a carriage return, come out as they
are. -/
theorem split_stream_loses_only_breaks :
    (∀ piece ∈ [0x61, 0x0D, 0x0A, 0x0D, 0x62].splitOn (0x0A : UInt8), piece.length ≤ 2) ∧
      (linesOf 2 [[0x61, 0x0D], [0x0A, 0x0D, 0x62]]).flatten = [0x61, 0x0D, 0x62] := by
  refine ⟨by decide, ?_⟩
  rw [(lines_lose_only_breaks 2 _).2 (by decide)]
  decide

/-- A carriage return at the limit of a long line is lost: the line `ab\rcd` with a limit of three
is handed out as `ab` and `cd`. -/
theorem cut_loses_carriage_return :
    linesOf 3 [[0x61, 0x62, 0x0D, 0x63, 0x64]] = [[0x61, 0x62], [0x63, 0x64]] ∧
      (linesOf 3 [[0x61, 0x62, 0x0D, 0x63, 0x64]]).flatten ≠ dropBreaks [0x61, 0x62, 0x0D, 0x63, 0x64] := by
  decide

end LineBuffer

end LogRouter
