import LogRouter.Number.Parse
import LogRouter.Proofs.Syslog
import LogRouter.Proofs.Template

/-!
Decimal digits and the numbers they stand for.

A text of decimal digits spells a natural number, `Syslog.digitsValue`, the most significant digit
first; a number written out with `Text.ofNat` is such a text and spells the number back
(`Text.digits_ofNat`).  Read as a number, with `Double.ofNumberText`, a text of digits is the
double nearest to the number it spells (`Double.ofNumberText_of_digits`).

Up to `2^53` that double is the number itself (`Double.toInt?_ofNat`).  A positive number below
`2^53` has at most 53 binary digits, so `ofRatio` shifts it to a significand of exactly 53 digits
with nothing left over to round, and the bits it writes read back, field by field, as that
significand and the shift (`Double.shape_normal`).
-/

namespace LogRouter

/-! ### Digits -/

namespace Text

theorem pow_ten_succ (n : Nat) : Nat.pow 10 (n + 1) = Nat.pow 10 n * 10 := rfl

theorem foldl_digitValue_eq (acc : Nat) (ds : Text) :
    ds.foldl (fun acc u => acc * 10 + digitValue u) acc =
      acc * Nat.pow 10 ds.length + Syslog.digitsValue ds := by
  induction ds generalizing acc with
  | nil => simp [Syslog.digitsValue]
  | cons u rest ih =>
    have hrest : Syslog.digitsValue (u :: rest) = digitValue u * Nat.pow 10 rest.length +
        Syslog.digitsValue rest := by
      rw [Syslog.digitsValue, List.foldl_cons, Nat.zero_mul, Nat.zero_add, ih]
    rw [List.foldl_cons, ih, hrest, List.length_cons, pow_ten_succ]
    grind

theorem digitsValue_cons (u : UInt16) (rest : Text) :
    Syslog.digitsValue (u :: rest) = digitValue u * Nat.pow 10 rest.length +
      Syslog.digitsValue rest := by
  rw [Syslog.digitsValue, List.foldl_cons, Nat.zero_mul, Nat.zero_add, foldl_digitValue_eq]

theorem digitsValue_lt {ds : Text} (h : ∀ u ∈ ds, isDigit u = true) :
    Syslog.digitsValue ds < Nat.pow 10 ds.length := by
  induction ds with
  | nil => simp [Syslog.digitsValue]
  | cons u rest ih =>
    have hu : digitValue u ≤ 9 := by
      have := h u (List.mem_cons_self ..)
      simp [isDigit, digitValue] at this ⊢
      omega
    have hrest := ih fun x hx => h x (List.mem_cons_of_mem u hx)
    rw [digitsValue_cons, List.length_cons, pow_ten_succ]
    calc digitValue u * Nat.pow 10 rest.length + Syslog.digitsValue rest
        < digitValue u * Nat.pow 10 rest.length + Nat.pow 10 rest.length := by omega
      _ = (digitValue u + 1) * Nat.pow 10 rest.length := by rw [Nat.add_mul, Nat.one_mul]
      _ ≤ Nat.pow 10 rest.length * 10 := by rw [Nat.mul_comm]; exact Nat.mul_le_mul_left _ (by omega)

theorem readDigits_of_digits {ds : Text} (h : ∀ u ∈ ds, isDigit u = true) :
    readDigits ds = (Syslog.digitsValue ds, ds.length, []) := by
  induction ds with
  | nil => rfl
  | cons u rest ih =>
    rw [readDigits, if_pos (h u (List.mem_cons_self ..)), ih fun x hx => h x (List.mem_cons_of_mem u hx),
      digitsValue_cons, List.length_cons]

theorem isBlank_of_isDigit {u : UInt16} (h : isDigit u = true) : isBlank u = false :=
  isBlank_of_isWordUnit (by simp [isWordUnit, h])

theorem trim_of_digits {ds : Text} (h : ∀ u ∈ ds, isDigit u = true) : trim ds = ds := by
  have hstart : ∀ l : Text, (∀ u ∈ l, isDigit u = true) → l.dropWhile isBlank = l := by
    intro l hl
    cases l with
    | nil => rfl
    | cons u rest =>
      exact List.dropWhile_cons_of_neg (by simp [isBlank_of_isDigit (hl u (List.mem_cons_self ..))])
  rw [trim, trimStart, trimEnd, hstart ds h, hstart ds.reverse (fun u hu => h u (List.mem_reverse.1 hu)),
    List.reverse_reverse]

theorem unitsOfChar_digit {c : Char} (h : c.isDigit = true) :
    Text.unitsOfChar c = [c.toNat.toUInt16] ∧ Text.isDigit c.toNat.toUInt16 = true ∧
      Text.digitValue c.toNat.toUInt16 = c.toNat - '0'.toNat := by
  have hc : 48 ≤ c.toNat ∧ c.toNat ≤ 57 := by
    simp [Char.isDigit, UInt32.le_iff_toNat_le] at h
    exact h
  have hu : c.toNat.toUInt16.toNat = c.toNat := by
    simp [Nat.toUInt16]
    omega
  refine ⟨by simp [Text.unitsOfChar]; omega, ?_, ?_⟩
  · simp [Text.isDigit, hu]
    omega
  · simp [Text.digitValue, hu]

theorem foldl_digitValue {cs : List Char} (h : ∀ c ∈ cs, c.isDigit = true) (init : Nat) :
    (cs.flatMap Text.unitsOfChar).foldl (fun acc u => acc * 10 + Text.digitValue u) init =
      Nat.ofDigitChars 10 cs init := by
  induction cs generalizing init with
  | nil => rfl
  | cons c cs ih =>
      obtain ⟨hunits, -, hvalue⟩ := unitsOfChar_digit (h c (List.mem_cons_self ..))
      rw [List.flatMap_cons, hunits, List.singleton_append, List.foldl_cons, hvalue,
        Nat.ofDigitChars_cons, Nat.mul_comm, ih fun x hx => h x (List.mem_cons_of_mem c hx)]

/-- A number written in decimal is one or more digits, and they read back as the number. -/
theorem digits_ofNat (n : Nat) : Text.ofNat n ≠ [] ∧ (∀ u ∈ Text.ofNat n, Text.isDigit u = true) ∧
    Syslog.digitsValue (Text.ofNat n) = n := by
  have hd : ∀ c ∈ Nat.toDigits 10 n, c.isDigit = true := fun c hc =>
    Nat.isDigit_of_mem_toDigits (by decide) (by decide) hc
  refine ⟨?_, ?_, ?_⟩
  · obtain ⟨c, cs, hcs⟩ :=
      List.exists_cons_of_ne_nil (show Nat.toDigits 10 n ≠ [] from Nat.toDigits_ne_nil)
    have hunits := (unitsOfChar_digit (hd c (by simp [hcs]))).1
    rw [Text.ofNat, Text.ofString, Nat.toList_repr, hcs, List.flatMap_cons, hunits]
    simp
  · intro u hu
    simp only [Text.ofNat, Text.ofString, Nat.toList_repr, List.mem_flatMap] at hu
    obtain ⟨c, hc, hu⟩ := hu
    obtain ⟨hunits, hdigit, -⟩ := unitsOfChar_digit (hd c hc)
    rw [hunits, List.mem_singleton] at hu
    rw [hu]
    exact hdigit
  · rw [Syslog.digitsValue, Text.ofNat, Text.ofString, Nat.toList_repr, foldl_digitValue hd,
      Nat.ofDigitChars_ten_toDigits]

end Text

/-! ### Reading digits as a number -/

/-- A non-empty text of digits is one decimal literal: no sign, no fraction, no exponent. -/
theorem readDecimal_of_digits {ds : Text} (hne : ds ≠ []) (h : ∀ u ∈ ds, Text.isDigit u = true) :
    readDecimal ds = some (⟨false, Syslog.digitsValue ds, 0⟩, []) := by
  obtain ⟨u, rest, rfl⟩ := List.exists_cons_of_ne_nil hne
  have hu : Text.isDigit u = true := h u (List.mem_cons_self ..)
  have hplus : u ≠ 0x2B := by
    rintro rfl
    exact absurd hu (by decide)
  have hminus : u ≠ 0x2D := by
    rintro rfl
    exact absurd hu (by decide)
  simp [readDecimal, hplus, hminus, Text.readDigits_of_digits h, DecimalLiteral.readExponent]

namespace Double

/-- A non-empty text of digits reads as the number its digits spell. -/
theorem ofNumberText_of_digits {ds : Text} (hne : ds ≠ []) (h : ∀ u ∈ ds, Text.isDigit u = true) :
    ofNumberText ds = ofNat (Syslog.digitsValue ds) := by
  have hall : ds.all Text.isDigit = true := List.all_eq_true.2 h
  unfold ofNumberText
  dsimp only
  rw [Text.trim_of_digits h]
  split
  · exact absurd rfl hne
  -- a prefix `0x`, `0o` or `0b` would put a letter among the digits
  any_goals exact absurd (h _ (List.mem_cons_of_mem _ (List.mem_cons_self ..))) (by decide)
  have hinf : ¬(ds = Text.ofString "Infinity" ∨ ds = Text.ofString "+Infinity") := by
    rintro (rfl | rfl) <;> exact absurd hall (by decide)
  have hneg : ds ≠ Text.ofString "-Infinity" := by
    rintro rfl
    exact absurd hall (by decide)
  rw [if_neg hinf, if_neg hneg, readDecimal_of_digits hne h]
  rfl

/-! ### Natural numbers up to `2^53` are doubles exactly -/

theorem exponentField_eq (x : Double) : x.exponentField = x.bits.toNat / Nat.pow 2 52 % 2048 := by
  rw [exponentField, UInt64.toNat_and, UInt64.toNat_shiftRight]
  have h : (0x7FF : UInt64).toNat = 2 ^ 11 - 1 := rfl
  rw [h, Nat.and_two_pow_sub_one_eq_mod, Nat.shiftRight_eq_div_pow]
  rfl

theorem fractionField_eq (x : Double) : x.fractionField = x.bits.toNat % Nat.pow 2 52 := by
  rw [fractionField, UInt64.toNat_and]
  have h : (0xFFFFFFFFFFFFF : UInt64).toNat = 2 ^ 52 - 1 := rfl
  rw [h, Nat.and_two_pow_sub_one_eq_mod]

theorem signBit_eq_false {x : Double} (h : x.bits.toNat < Nat.pow 2 63) : x.signBit = false := by
  have hz : x.bits >>> 63 = 0 := by
    apply UInt64.toNat_inj.mp
    rw [UInt64.toNat_shiftRight, Nat.shiftRight_eq_div_pow]
    exact Nat.div_eq_of_lt h
  simp [signBit, hz]

/-- The bits of a positive normal value read back as its significand and exponent: the biased
exponent sits above bit 52 and the fraction, the significand without its hidden bit, below it. -/
theorem shape_normal {sig : Nat} {k : Int} (hsig₁ : Nat.pow 2 52 ≤ sig) (hsig₂ : sig < Nat.pow 2 53)
    (hk₁ : -1074 ≤ k) (hk₂ : k + 1075 < 2047) :
    shape ⟨UInt64.ofNat ((k + 1075).toNat * Nat.pow 2 52 + (sig - Nat.pow 2 52))⟩ =
      .finite false sig k := by
  -- the powers as numerals, for `omega`
  have h52 : Nat.pow 2 52 = 4503599627370496 := rfl
  have h53 : Nat.pow 2 53 = 9007199254740992 := rfl
  have h63 : Nat.pow 2 63 = 9223372036854775808 := rfl
  rw [h53] at hsig₂
  rw [h52] at hsig₁ ⊢
  have hbits : (UInt64.ofNat ((k + 1075).toNat * 4503599627370496 + (sig - 4503599627370496))).toNat =
      (k + 1075).toNat * 4503599627370496 + (sig - 4503599627370496) := by
    rw [UInt64.toNat_ofNat', Nat.mod_eq_of_lt]
    omega
  unfold shape
  rw [exponentField_eq, fractionField_eq, signBit_eq_false (by rw [hbits, h63]; omega)]
  dsimp only
  rw [hbits, h52, if_neg (by omega), if_neg (by omega)]
  simp only [Shape.finite.injEq, true_and]
  constructor <;> omega

/-- A positive number below `2^53`, shifted up by `52 - log2 n` places, has exactly 53 binary
digits. -/
theorem significand_nat {n : Nat} (hn : n ≠ 0) (h : n < Nat.pow 2 53) :
    n.log2 ≤ 52 ∧ Nat.pow 2 52 ≤ n * Nat.pow 2 (52 - n.log2) ∧
      n * Nat.pow 2 (52 - n.log2) < Nat.pow 2 53 := by
  have hl : n.log2 ≤ 52 := Nat.lt_succ_iff.1 ((Nat.log2_lt hn).2 h)
  have hlo : Nat.pow 2 n.log2 ≤ n := Nat.log2_self_le hn
  have hhi : n < Nat.pow 2 (n.log2 + 1) := Nat.lt_log2_self
  have hpos : 0 < Nat.pow 2 (52 - n.log2) := Nat.two_pow_pos _
  refine ⟨hl, ?_, ?_⟩
  · calc Nat.pow 2 52 = Nat.pow 2 (n.log2 + (52 - n.log2)) := by rw [Nat.add_sub_cancel' hl]
      _ = Nat.pow 2 n.log2 * Nat.pow 2 (52 - n.log2) := Nat.pow_add 2 _ _
      _ ≤ n * Nat.pow 2 (52 - n.log2) := Nat.mul_le_mul_right _ hlo
  · calc n * Nat.pow 2 (52 - n.log2) < Nat.pow 2 (n.log2 + 1) * Nat.pow 2 (52 - n.log2) :=
          Nat.mul_lt_mul_of_pos_right hhi hpos
      _ = Nat.pow 2 (n.log2 + 1 + (52 - n.log2)) := (Nat.pow_add 2 _ _).symm
      _ = Nat.pow 2 53 := by congr 1; omega

theorem scaleOf_nat {n : Nat} (hn : n ≠ 0) (h : n < Nat.pow 2 53) :
    scaleOf n 1 = (n.log2 : Int) - 52 := by
  have hlo : Nat.pow 2 n.log2 ≤ n := Nat.log2_self_le hn
  obtain ⟨hl, hsig, -⟩ := significand_nat hn h
  have hk : ((n.log2 : Int) - ((Nat.log2 1 : Nat) : Int) - 52) = (n.log2 : Int) - 52 := by
    rw [show Nat.log2 1 = 0 from rfl]
    omega
  unfold scaleOf
  simp only [hk]
  by_cases h52 : n.log2 = 52
  · -- `n` has its 53 binary digits already
    have hz : ((n.log2 : Int) - 52).toNat = 0 := by omega
    have hnot : ¬ n < Nat.pow 2 52 * (1 * Nat.pow 2 0) := by
      rw [h52] at hlo
      exact Nat.not_lt.2 hlo
    simp only [if_pos (show (n.log2 : Int) - 52 ≥ 0 by omega), hz, hnot, decide_false,
      Bool.false_eq_true, if_false]
    omega
  · have hshift : (-((n.log2 : Int) - 52)).toNat = 52 - n.log2 := by omega
    simp only [if_neg (show ¬ ((n.log2 : Int) - 52 ≥ 0) by omega), hshift, Nat.mul_one,
      Nat.not_lt.2 hsig, decide_false, Bool.false_eq_true, if_false]
    omega

theorem divScaled_nat {n : Nat} (hl : n.log2 ≤ 52) :
    divScaled n 1 ((n.log2 : Int) - 52) = (n * Nat.pow 2 (52 - n.log2), 0, 1) := by
  unfold divScaled
  by_cases h52 : n.log2 = 52
  · have hz : ((n.log2 : Int) - 52).toNat = 0 := by omega
    rw [if_pos (by omega), hz, h52]
    show (n / 1, n % 1, 1) = (n * 1, 0, 1)
    rw [Nat.div_one, Nat.mod_one, Nat.mul_one]
  · have hshift : (-((n.log2 : Int) - 52)).toNat = 52 - n.log2 := by omega
    rw [if_neg (by omega), hshift, Nat.div_one, Nat.mod_one]

/-- Below `2^53` a positive number rounds to itself: its significand is the number shifted, and
nothing is left over to round. -/
theorem ofRatio_nat {n : Nat} (hn : n ≠ 0) (h : n < Nat.pow 2 53) :
    ofRatio false n 1 = ⟨UInt64.ofNat (((n.log2 : Int) - 52 + 1075).toNat * Nat.pow 2 52 +
      (n * Nat.pow 2 (52 - n.log2) - Nat.pow 2 52))⟩ := by
  obtain ⟨hl, hsig₁, hsig₂⟩ := significand_nat hn h
  unfold ofRatio
  rw [if_neg (by omega), scaleOf_nat hn h]
  dsimp only
  rw [divScaled_nat hl]
  -- no remainder: nothing rounds up
  have hup : (decide (2 * 0 > 1) || (2 * 0 == 1 && n * Nat.pow 2 (52 - n.log2) % 2 == 1)) = false :=
    rfl
  simp only [hup, Bool.false_eq_true, if_false, if_neg (Nat.ne_of_lt hsig₂),
    if_neg (Nat.not_lt.2 hsig₁), if_neg (show ¬ ((n.log2 : Int) - 52 + 1075 ≥ 2047) by omega)]

theorem decimalLength_le {n : Nat} (h : n < Nat.pow 2 53) : decimalLength n ≤ 16 := by
  unfold decimalLength
  simp only [Nat.repr, String.length_ofList]
  exact (Nat.length_toDigits_le_iff (by decide) (by decide)).2 (Nat.lt_trans h (by decide))

theorem ofNat_eq_ofRatio {n : Nat} (hn : n ≠ 0) (h : n < Nat.pow 2 53) :
    ofNat n = ofRatio false n 1 := by
  have hd := decimalLength_le h
  unfold ofNat ofDecimal
  rw [if_neg hn, if_neg (by omega), if_neg (by omega), if_pos (by omega),
    show Nat.pow 10 (Int.toNat 0) = 1 from rfl, Nat.mul_one]

/-- Every natural number up to `2^53` is a double exactly. -/
theorem toInt?_ofNat {n : Nat} (h : n ≤ Nat.pow 2 53) : (ofNat n).toInt? = some (n : Int) := by
  by_cases h0 : n = 0
  · subst h0
    decide +kernel
  by_cases htop : n = Nat.pow 2 53
  · subst htop
    decide +kernel
  have hlt : n < Nat.pow 2 53 := by omega
  obtain ⟨hl, hsig₁, hsig₂⟩ := significand_nat h0 hlt
  rw [ofNat_eq_ofRatio h0 hlt, ofRatio_nat h0 hlt, toInt?,
    shape_normal hsig₁ hsig₂ (by omega) (by omega)]
  dsimp only
  by_cases h52 : n.log2 = 52
  · -- already 53 binary digits: the significand is the number
    have hz : ((n.log2 : Int) - 52).toNat = 0 := by omega
    rw [if_pos (by omega), hz, h52]
    simp only [Bool.false_eq_true, if_false]
    show some ((n * 1 * 1 : Nat) : Int) = some (n : Int)
    rw [Nat.mul_one, Nat.mul_one]
  · -- fewer: the significand is the number shifted up, and shifting back leaves no fraction
    have hshift : (-((n.log2 : Int) - 52)).toNat = 52 - n.log2 := by omega
    have hpos : 0 < Nat.pow 2 (52 - n.log2) := Nat.two_pow_pos _
    rw [if_neg (by omega), hshift, Nat.mul_mod_left, if_pos rfl, Nat.mul_div_cancel _ hpos]
    simp only [Bool.false_eq_true, if_false]

end Double

end LogRouter
