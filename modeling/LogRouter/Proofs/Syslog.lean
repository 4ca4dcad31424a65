import LogRouter.Syslog

/-!
The syslog lines the reader accepts, as a grammar.

A line is read exactly when it is

    '<' PRI '>' VERSION ' ' T ' ' T ' ' T ' ' T ' ' T ' ' SD (end | ' ' MSG)

with PRI one to three ASCII digits of value at most 191, VERSION `[1-9][0-9]?`, each `T` a
nonempty run of units that are not blank, SD either `-` or one or more bracketed elements, and MSG
anything at all.  An element holds units other than `]` and `"`, and quoted values; a quoted value
holds units other than `\` and `"`, and pairs of a backslash and any unit.  `Line` is a line as the
grammar builds it, `Line.Valid` says its parts are of the right shape, `Line.text` writes it and
`Line.fields` is what it means.  `Syslog.parse_eq_some_iff` says that the reader gives fields
exactly for the written valid lines, and gives their meaning.

The structured data is read by a small machine with four states (`DataState`), so each state gets
a soundness lemma (what the machine read is a piece of the grammar) and a completeness lemma (a
piece of the grammar is read in full), as for a quoted string:  `dataRest_quoted_sound` and
`dataRest_quoted_body`.  The grammar is nested, a quoted value inside an element inside the data,
so the soundness lemmas recur on the rest after a whole nested piece, by the length of the text.
-/

namespace LogRouter

namespace Syslog

/-! ### The grammar of a line -/

/-- The inside of a quoted value: units other than a backslash and a quote, and a backslash with
any unit after it. -/
inductive QuotedBody : Text → Prop
  | nil : QuotedBody []
  | plain {u : UInt16} {q : Text} : u ≠ 0x5C → u ≠ 0x22 → QuotedBody q → QuotedBody (u :: q)
  | escape (u : UInt16) {q : Text} : QuotedBody q → QuotedBody (0x5C :: u :: q)

/-- The inside of an element: units other than `]` and a quote, and quoted values. -/
inductive ElementBody : Text → Prop
  | nil : ElementBody []
  | plain {u : UInt16} {b : Text} : u ≠ 0x5D → u ≠ 0x22 → ElementBody b → ElementBody (u :: b)
  | quoted {q b : Text} : QuotedBody q → ElementBody b → ElementBody (0x22 :: q ++ 0x22 :: b)

/-- One or more bracketed elements, one right after the other. -/
inductive Elements : Text → Prop
  | one {b : Text} : ElementBody b → Elements (0x5B :: b ++ [0x5D])
  | cons {b d : Text} : ElementBody b → Elements d → Elements (0x5B :: b ++ 0x5D :: d)

/-- Structured data: `-`, or bracketed elements. -/
def IsData (d : Text) : Prop := d = [0x2D] ∨ Elements d

/-- A header token: a nonempty run of units that are not blank. -/
def IsToken (t : Text) : Prop := t ≠ [] ∧ ∀ u ∈ t, Text.isBlank u = false

/-- A version: a digit other than `0`, and at most one more digit. -/
def IsVersion (v : Text) : Prop :=
  ∃ d, Text.isDigit d = true ∧ d ≠ 0x30 ∧ (v = [d] ∨ ∃ e, Text.isDigit e = true ∧ v = [d, e])

/-- The value of a run of decimal digits. -/
def digitsValue (ds : Text) : Nat := ds.foldl (fun acc u => acc * 10 + Text.digitValue u) 0

/-- A syslog line as the grammar builds it: the priority's digits, the version, the five header
tokens, the structured data, and the message after one space, or `none` when the line ends right
after the structured data. -/
structure Line where
  priority : Text
  version : Text
  timestamp : Text
  hostname : Text
  appname : Text
  procid : Text
  msgid : Text
  data : Text
  message : Option Text

/-- What follows the structured data: nothing, or a space and the message. -/
def tailText : Option Text → Text
  | none => []
  | some m => 0x20 :: m

/-- The message field for what follows the structured data: one leading byte order mark
dropped, empty when there is no message. -/
def messageField : Option Text → Text
  | none => []
  | some (0xFEFF :: m) => m
  | some m => m

/-- A header token as a field: absent when it is `-`. -/
def tokenField (t : Text) : Option Text := if t = [0x2D] then none else some t

namespace Line

/-- The parts of a line have the shapes the grammar asks for. -/
structure Valid (l : Line) : Prop where
  priority_digits : ∀ u ∈ l.priority, Text.isDigit u = true
  priority_length : 1 ≤ l.priority.length ∧ l.priority.length ≤ 3
  priority_value : digitsValue l.priority ≤ 191
  version : IsVersion l.version
  timestamp : IsToken l.timestamp
  hostname : IsToken l.hostname
  appname : IsToken l.appname
  procid : IsToken l.procid
  msgid : IsToken l.msgid
  data : IsData l.data

/-- The text of a line. -/
def text (l : Line) : Text :=
  0x3C :: l.priority ++ 0x3E :: l.version ++ 0x20 :: l.timestamp ++ 0x20 :: l.hostname ++
    0x20 :: l.appname ++ 0x20 :: l.procid ++ 0x20 :: l.msgid ++ 0x20 :: l.data ++
    tailText l.message

/-- The fields a line means: facility and severity by the high and the low bits of the
priority, the header tokens, and the message. -/
def fields (l : Line) : Fields :=
  { msg := some (messageField l.message)
    facility := some (Text.ofString (facilities.getD (digitsValue l.priority >>> 3) ""))
    severity := some (Text.ofString (severities.getD (digitsValue l.priority &&& 7) ""))
    timestamp := tokenField l.timestamp
    hostname := tokenField l.hostname
    appname := tokenField l.appname
    procid := tokenField l.procid
    msgid := tokenField l.msgid }

end Line

/-! ### Reading structured data: each piece of the grammar is read in full -/

theorem dataRest_quoted_body {q : Text} (hq : QuotedBody q) (r : Text) :
    dataRest .quoted (q ++ 0x22 :: r) = dataRest .inside r := by
  induction hq with
  | nil => simp [dataRest]
  | plain hu hq' _ ih => simp [dataRest, hu, hq', ih]
  | escape u _ ih => simp [dataRest, ih]

theorem dataRest_inside_body {b : Text} (hb : ElementBody b) (r : Text) :
    dataRest .inside (b ++ 0x5D :: r) = dataRest .between r := by
  induction hb with
  | nil => simp [dataRest]
  | plain hu hq _ ih => simp [dataRest, hu, hq, ih]
  | quoted hq _ ih => simp [dataRest, dataRest_quoted_body hq, ih]

theorem dataRest_between_rest {r : Text} (hr : r.head? ≠ some 0x5B) :
    dataRest .between r = some r := by
  refine dataRest.eq_2 r fun r' heq => hr ?_
  rw [heq]
  rfl

/-- Bracketed elements are read in full, up to a rest that opens no further element. -/
theorem dataRest_elements {d : Text} (hd : Elements d) {r : Text} (hr : r.head? ≠ some 0x5B) :
    dataRest .between (d ++ r) = some r := by
  induction hd with
  | one hb => simp [dataRest, dataRest_inside_body hb, dataRest_between_rest hr]
  | cons hb _ ih => simp [dataRest, dataRest_inside_body hb, ih]

/-! ### Reading structured data: what is read is a piece of the grammar

The machine reads a quoted value inside an element inside the data, so the lemma for a state
calls the one for the state below and then itself on the rest after the whole nested piece.  That
rest is a strict suffix, and the recursion is on the length of the text.
-/

theorem dataRest_quoted_sound {t r : Text} (h : dataRest .quoted t = some r) :
    ∃ q t', QuotedBody q ∧ t = q ++ 0x22 :: t' ∧ dataRest .inside t' = some r := by
  match t, h with
  | [], h => simp [dataRest] at h
  | [u], h =>
    -- one unit alone never closes a value
    by_cases hb : u = 0x5C <;> by_cases hc : u = 0x22 <;> simp [dataRest, hb, hc] at h
  | u :: v :: t, h =>
    rw [dataRest.eq_6] at h
    by_cases hb : u = 0x5C
    · subst hb
      rw [if_pos rfl, dataRest.eq_8] at h
      obtain ⟨q, t', hq, rfl, h'⟩ := dataRest_quoted_sound h
      exact ⟨0x5C :: v :: q, t', .escape v hq, rfl, h'⟩
    · rw [if_neg hb] at h
      by_cases hc : u = 0x22
      · rw [if_pos hc] at h
        exact ⟨[], v :: t, .nil, by rw [hc]; rfl, h⟩
      · rw [if_neg hc] at h
        obtain ⟨q, t', hq, heq, h'⟩ := dataRest_quoted_sound h
        exact ⟨u :: q, t', .plain hb hc hq, by rw [heq]; rfl, h'⟩
termination_by t.length

theorem dataRest_inside_sound {t r : Text} (h : dataRest .inside t = some r) :
    ∃ b t', ElementBody b ∧ t = b ++ 0x5D :: t' ∧ dataRest .between t' = some r := by
  match t, h with
  | [], h => simp [dataRest] at h
  | u :: t, h =>
    rw [dataRest.eq_4] at h
    by_cases hq : u = 0x22
    · rw [if_pos hq] at h
      -- a whole quoted value, then the rest of the element after it
      obtain ⟨q, t', hq', ht, h'⟩ := dataRest_quoted_sound h
      have hshorter : t'.length < (u :: t).length := by
        rw [ht]
        simp only [List.length_cons, List.length_append]
        omega
      obtain ⟨b, t'', hb, rfl, h''⟩ := dataRest_inside_sound h'
      exact ⟨0x22 :: q ++ 0x22 :: b, t'', .quoted hq' hb, by simp [hq, ht], h''⟩
    · rw [if_neg hq] at h
      by_cases hc : u = 0x5D
      · rw [if_pos hc] at h
        exact ⟨[], t, .nil, by rw [hc]; rfl, h⟩
      · rw [if_neg hc] at h
        obtain ⟨b, t', hb, rfl, h'⟩ := dataRest_inside_sound h
        exact ⟨u :: b, t', .plain hc hq hb, rfl, h'⟩
termination_by t.length

theorem dataRest_between_sound {t r : Text} (h : dataRest .between t = some r) :
    t = r ∨ ∃ d, Elements d ∧ t = d ++ r := by
  match t, h with
  | [], h =>
    rw [dataRest.eq_2 _ (fun r' heq => List.cons_ne_nil _ _ heq.symm)] at h
    exact .inl (Option.some.inj h)
  | u :: t, h =>
    by_cases ho : u = 0x5B
    · subst ho
      rw [dataRest.eq_1] at h
      obtain ⟨b, t', hb, ht, h'⟩ := dataRest_inside_sound h
      have hshorter : t'.length < (0x5B :: t).length := by
        rw [ht]
        simp only [List.length_cons, List.length_append]
        omega
      rcases dataRest_between_sound h' with rfl | ⟨d, hd, rfl⟩
      · exact .inr ⟨0x5B :: b ++ [0x5D], .one hb, by simp [ht]⟩
      · exact .inr ⟨0x5B :: b ++ 0x5D :: d, .cons hb hd, by simp [ht]⟩
    · rw [dataRest.eq_2 _ (fun r' heq => ho (List.cons.inj heq).1)] at h
      exact .inl (Option.some.inj h)
termination_by t.length

/-- What is read as structured data is structured data. -/
theorem structuredDataRest_sound {t r : Text} (h : structuredDataRest t = some r) :
    ∃ d, IsData d ∧ t = d ++ r := by
  unfold structuredDataRest at h
  split at h
  · exact ⟨[0x2D], .inl rfl, by rw [Option.some.inj h]; rfl⟩
  · obtain ⟨b, t', hb, rfl, h'⟩ := dataRest_inside_sound h
    rcases dataRest_between_sound h' with rfl | ⟨d, hd, rfl⟩
    · exact ⟨0x5B :: b ++ [0x5D], .inr (.one hb), by simp⟩
    · exact ⟨0x5B :: b ++ 0x5D :: d, .inr (.cons hb hd), by simp⟩
  · simp at h

/-! ### Reading the header -/

theorem readPriority_digits {ds : Text} (hd : ∀ u ∈ ds, Text.isDigit u = true)
    (hl : 1 ≤ ds.length ∧ ds.length ≤ 3) (r : Text) :
    readPriority (0x3C :: ds ++ 0x3E :: r) = some (digitsValue ds, r) := by
  have hgt : Text.isDigit 0x3E = false := by decide
  have htake : (ds ++ 0x3E :: r).takeWhile Text.isDigit = ds := by
    simp [List.takeWhile_append_of_pos hd, hgt]
  have hdrop : (ds ++ 0x3E :: r).dropWhile Text.isDigit = 0x3E :: r := by
    simp [List.dropWhile_append_of_pos hd, hgt]
  simp only [List.cons_append, readPriority, htake, hdrop, hl, and_self, if_true]
  rfl

/-- What is read as a priority is one to three digits between angle brackets. -/
theorem readPriority_sound {t : Text} {pri : Nat} {r : Text} (h : readPriority t = some (pri, r)) :
    ∃ ds, (∀ u ∈ ds, Text.isDigit u = true) ∧ (1 ≤ ds.length ∧ ds.length ≤ 3) ∧
      pri = digitsValue ds ∧ t = 0x3C :: ds ++ 0x3E :: r := by
  unfold readPriority at h
  split at h
  · rename_i t
    split at h
    · rename_i rest hdrop
      dsimp only at h
      split at h
      · rename_i hl
        simp only [Option.some.injEq, Prod.mk.injEq] at h
        obtain ⟨rfl, rfl⟩ := h
        refine ⟨t.takeWhile Text.isDigit, ?_, hl, rfl, ?_⟩
        · intro u hu
          exact List.all_eq_true.mp List.all_takeWhile u hu
        · rw [List.cons_append, ← hdrop, List.takeWhile_append_dropWhile]
      · simp at h
    · simp at h
  · simp at h

theorem readVersion_version {v : Text} (hv : IsVersion v) (r : Text) :
    readVersion (v ++ 0x20 :: r) = some r := by
  obtain ⟨d, hd, hd0, rfl | ⟨e, he, rfl⟩⟩ := hv
  · simp [readVersion, hd, hd0]
  · have he32 : e ≠ 0x20 := by
      rintro rfl
      exact absurd he (by decide)
    rw [List.cons_append, List.cons_append, List.nil_append, readVersion.eq_2 d e r he32]
    simp [hd, hd0, he]

theorem readVersion_sound {t r : Text} (h : readVersion t = some r) :
    ∃ v, IsVersion v ∧ t = v ++ 0x20 :: r := by
  unfold readVersion at h
  split at h
  · rename_i d rest
    split at h
    · rename_i hd
      exact ⟨[d], ⟨d, hd.1, hd.2, .inl rfl⟩, by rw [Option.some.inj h]; rfl⟩
    · simp at h
  · rename_i d e rest _
    split at h
    · rename_i hd
      exact ⟨[d, e], ⟨d, hd.1, hd.2.1, .inr ⟨e, hd.2.2, rfl⟩⟩, by rw [Option.some.inj h]; rfl⟩
    · simp at h
  · simp at h

theorem readToken_token {tok : Text} (ht : IsToken tok) (r : Text) :
    readToken (tok ++ 0x20 :: r) = some (tok, 0x20 :: r) := by
  have hsp : Text.isBlank 0x20 = true := by decide
  have hnb : ∀ u ∈ tok, (!Text.isBlank u) = true := fun u hu => by simp [ht.2 u hu]
  have htake : (tok ++ 0x20 :: r).takeWhile (fun u => !Text.isBlank u) = tok := by
    simp [List.takeWhile_append_of_pos hnb, hsp]
  have hdrop : (tok ++ 0x20 :: r).dropWhile (fun u => !Text.isBlank u) = 0x20 :: r := by
    simp [List.dropWhile_append_of_pos hnb, hsp]
  simp [readToken, htake, hdrop, ht.1]

theorem readToken_sound {t tok r : Text} (h : readToken t = some (tok, r)) :
    IsToken tok ∧ t = tok ++ r ∧ ∀ u, r.head? = some u → Text.isBlank u = true := by
  unfold readToken at h
  dsimp only at h
  split at h
  · simp at h
  · rename_i hne
    simp only [Option.some.injEq, Prod.mk.injEq] at h
    obtain ⟨rfl, rfl⟩ := h
    refine ⟨⟨by simpa using hne, fun u hu => ?_⟩, List.takeWhile_append_dropWhile.symm, ?_⟩
    · simpa using List.all_eq_true.mp List.all_takeWhile u hu
    · intro u hu
      have hnot := List.head?_dropWhile_not (fun u => !Text.isBlank u) t
      rw [hu] at hnot
      simpa using hnot

theorem readTokens_tokens {a b c d e : Text} (ha : IsToken a) (hb : IsToken b) (hc : IsToken c)
    (hd : IsToken d) (he : IsToken e) (r : Text) :
    readTokens (a ++ 0x20 :: b ++ 0x20 :: c ++ 0x20 :: d ++ 0x20 :: e ++ 0x20 :: r) =
      some ([a, b, c, d, e], 0x20 :: r) := by
  simp [readTokens, readToken_token ha, readToken_token hb, readToken_token hc,
    readToken_token hd, readToken_token he]

/-- What is read as the five header tokens is five tokens, the first four each followed by a
space, and a rest that starts blank or is empty. -/
theorem readTokens_sound {t : Text} {toks : List Text} {r : Text}
    (h : readTokens t = some (toks, r)) :
    ∃ a b c d e, IsToken a ∧ IsToken b ∧ IsToken c ∧ IsToken d ∧ IsToken e ∧
      toks = [a, b, c, d, e] ∧
      t = a ++ 0x20 :: b ++ 0x20 :: c ++ 0x20 :: d ++ 0x20 :: e ++ r ∧
      ∀ u, r.head? = some u → Text.isBlank u = true := by
  simp only [readTokens, Option.bind_eq_bind, Option.pure_def, Option.bind_eq_some_iff] at h
  -- peel one token and the space after it at a time
  obtain ⟨⟨a, r1⟩, h1, h⟩ := h
  split at h
  case h_2 => simp at h
  rename_i r1' heq1
  simp only [Option.bind_some, Option.bind_eq_some_iff] at h
  obtain ⟨⟨b, r2⟩, h2, h⟩ := h
  split at h
  case h_2 => simp at h
  rename_i r2' heq2
  simp only [Option.bind_eq_some_iff] at h
  obtain ⟨⟨c, r3⟩, h3, h⟩ := h
  split at h
  case h_2 => simp at h
  rename_i r3' heq3
  simp only [Option.bind_eq_some_iff] at h
  obtain ⟨⟨d, r4⟩, h4, h⟩ := h
  split at h
  case h_2 => simp at h
  rename_i r4' heq4
  simp only [Option.bind_eq_some_iff, Option.some.injEq, Prod.mk.injEq] at h
  obtain ⟨⟨e, r5⟩, h5, rfl, rfl⟩ := h
  obtain ⟨ha, rfl, -⟩ := readToken_sound h1
  obtain ⟨hb, rfl, -⟩ := readToken_sound h2
  obtain ⟨hc, rfl, -⟩ := readToken_sound h3
  obtain ⟨hd, rfl, -⟩ := readToken_sound h4
  obtain ⟨he, rfl, hrest⟩ := readToken_sound h5
  dsimp only at heq1 heq2 heq3 heq4 ⊢
  subst heq1 heq2 heq3 heq4
  exact ⟨a, b, c, d, e, ha, hb, hc, hd, he, rfl, by simp, hrest⟩

/-! ### Reading what follows the header -/

theorem messageOf_tailText (m : Option Text) : messageOf (tailText m) = some (messageField m) := by
  match m with
  | none => rfl
  | some [] => rfl
  | some (u :: m) =>
    rw [tailText, messageOf.eq_2]
    by_cases hb : u = 0xFEFF
    · subst hb
      rfl
    · rw [if_neg (show ¬u = byteOrderMark from hb),
        messageField.eq_3 _ (fun m' heq => hb (List.cons.inj heq).1)]

/-- What is read as a message follows the structured data as the end of the line, or a space and
the message. -/
theorem messageOf_sound {t msg : Text} (h : messageOf t = some msg) :
    ∃ m, t = tailText m ∧ msg = messageField m := by
  match t, h with
  | [], h => exact ⟨none, rfl, (Option.some.inj h).symm⟩
  | u :: m, h =>
    by_cases hu : u = 0x20
    · subst hu
      have hread : messageOf (0x20 :: m) = some (messageField (some m)) := messageOf_tailText (some m)
      rw [hread] at h
      exact ⟨some m, rfl, (Option.some.inj h).symm⟩
    · rw [messageOf.eq_4 _ (fun heq => List.cons_ne_nil _ _ heq)
        (fun m' heq => hu (List.cons.inj heq).1)] at h
      simp at h

/-- Structured data is read in full, up to the end of the line or the space before the message. -/
theorem structuredDataRest_data {d : Text} (hd : IsData d) (m : Option Text) :
    structuredDataRest (d ++ tailText m) = some (tailText m) := by
  have htail : (tailText m).head? ≠ some 0x5B := by
    cases m <;> simp [tailText]
  rcases hd with rfl | hd
  · rfl
  · cases hd with
    | one hb =>
        rw [← dataRest_elements (.one hb) htail]
        rfl
    | cons hb hd' =>
        rw [← dataRest_elements (.cons hb hd') htail]
        rfl

theorem structuredDataRest_head {t r : Text} (h : structuredDataRest t = some r) :
    ∃ u, t.head? = some u ∧ Text.isBlank u = false := by
  unfold structuredDataRest at h
  split at h
  · exact ⟨0x2D, rfl, by decide⟩
  · exact ⟨0x5B, rfl, by decide⟩
  · simp at h

/-! ### The reader gives fields exactly for the lines of the grammar -/

theorem shiftRight_three (n : Nat) : n >>> 3 = n / 8 := Nat.shiftRight_eq_div_pow n 3

theorem and_seven (n : Nat) : n &&& 7 = n % 8 := Nat.and_two_pow_sub_one_eq_mod n 3

/-- A valid line is read, and gives the fields it means. -/
theorem parse_text {l : Line} (hl : l.Valid) : parse l.text = some l.fields := by
  have htext : l.text = 0x3C :: (l.priority ++ 0x3E :: (l.version ++ 0x20 ::
      (l.timestamp ++ 0x20 :: l.hostname ++ 0x20 :: l.appname ++ 0x20 :: l.procid ++ 0x20 ::
        l.msgid ++ 0x20 :: (l.data ++ tailText l.message)))) := by
    simp [Line.text]
  have hpri := readPriority_digits hl.priority_digits hl.priority_length
  have hver := readVersion_version hl.version
  have htoks := readTokens_tokens hl.timestamp hl.hostname hl.appname hl.procid hl.msgid
  have hdata := structuredDataRest_data hl.data l.message
  have hle : ¬digitsValue l.priority > 191 := Nat.not_lt.mpr hl.priority_value
  rw [htext]
  simp only [parse, List.cons_append] at hpri ⊢
  rw [hpri]
  simp only [Option.bind_eq_bind, Option.pure_def, Option.bind_some, hle, if_false, hver, htoks,
    hdata, messageOf_tailText]
  simp [Line.fields, tokenField, present, shiftRight_three, and_seven]

/-- Whatever the reader accepts is a valid line, and the fields it gives are that line's. -/
theorem parse_sound {line : Text} {f : Fields} (h : parse line = some f) :
    ∃ l : Line, l.Valid ∧ l.text = line ∧ l.fields = f := by
  simp only [parse, Option.bind_eq_bind, Option.pure_def, Option.bind_eq_some_iff] at h
  obtain ⟨⟨pri, r1⟩, hpri, h⟩ := h
  dsimp only at h
  split at h
  case isTrue => simp at h
  rename_i hle
  simp only [Option.bind_eq_some_iff, Option.some.injEq] at h
  obtain ⟨r2, hver, ⟨toks, r3⟩, htoks, afterData, hdata, msg, hmsg, rfl⟩ := h
  obtain ⟨ds, hdig, hlen, rfl, rfl⟩ := readPriority_sound hpri
  obtain ⟨v, hv, rfl⟩ := readVersion_sound hver
  obtain ⟨a, b, c, d, e, ha, hb, hc, hd, he, rfl, rfl, hblank⟩ := readTokens_sound htoks
  -- the fifth token ends at a blank unit or at the end, and the data never starts blank, so
  -- the unit that ends it is the one space the grammar asks for
  obtain ⟨rest, rfl, hdata⟩ : ∃ rest, r3 = 0x20 :: rest ∧ structuredDataRest rest = some afterData := by
    dsimp only at hdata
    split at hdata
    · exact ⟨_, rfl, hdata⟩
    · obtain ⟨u, hu, hub⟩ := structuredDataRest_head hdata
      rw [hblank u hu] at hub
      exact absurd hub (by decide)
  obtain ⟨sd, hsd, rfl⟩ := structuredDataRest_sound hdata
  obtain ⟨m, rfl, rfl⟩ := messageOf_sound hmsg
  refine ⟨⟨ds, v, a, b, c, d, e, sd, m⟩,
    ⟨hdig, hlen, Nat.le_of_not_lt hle, hv, ha, hb, hc, hd, he, hsd⟩, by simp [Line.text], ?_⟩
  simp [Line.fields, tokenField, present, shiftRight_three, and_seven]

/-- **The reader accepts exactly the lines of the grammar.**  A text is read as a syslog line
exactly when it is the text of a valid `Line`, and then the fields it gives are that line's:
facility and severity named by the high and the low bits of the priority, each header token
other than `-`, and the message less one leading byte order mark.  In particular writing valid
parts into a line and reading it gives back what they mean. -/
theorem parse_eq_some_iff (line : Text) (f : Fields) :
    parse line = some f ↔ ∃ l : Line, l.Valid ∧ l.text = line ∧ l.fields = f := by
  constructor
  · exact parse_sound
  · rintro ⟨l, hl, rfl, rfl⟩
    exact parse_text hl

end Syslog

end LogRouter
