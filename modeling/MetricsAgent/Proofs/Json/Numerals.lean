import MetricsAgent.Proofs.Json.Grammar
import MetricsAgent.Proofs.Number.Shortest

/-!
# Numbers in documents

A whole number and a finite floating point number are written as the grammar has numbers, and what
is written stands for this number (`numberText_int`, `numberText_float`).  A floating point number is
laid out around its shortest digits in one of three ways; each of them writes the same decimal.
-/

namespace MetricsAgent

open CharClass

/-! ## Digits -/

namespace CharClass

lemma digitValue?_of_isAsciiDigit {c : Char} (hc : isAsciiDigit c = true) :
    digitValue? c = some (c.toNat - 48) := by
  have hbounds : 48 ≤ c.toNat ∧ c.toNat ≤ 57 := by
    unfold isAsciiDigit at hc
    simpa [Char.le_def, UInt32.le_iff_toNat_le] using hc
  unfold digitValue? digitZeros
  rw [List.find?_cons_of_pos (by simp [hbounds])]
  rfl

lemma foldl_digits (cs : List Char) (n : ℕ) :
    cs.foldl (fun n c => 10 * n + (digitValue? c).getD 0) n
      = n * 10 ^ cs.length + digitsValue cs := by
  induction cs generalizing n with
  | nil => simp [digitsValue]
  | cons c cs ih =>
    have hhead : digitsValue (c :: cs) = _ := ih (10 * 0 + (digitValue? c).getD 0)
    rw [List.foldl_cons, ih, hhead, List.length_cons, pow_succ]
    ring

/-- Digits behind others weigh less. -/
lemma digitsValue_append (cs ds : List Char) :
    digitsValue (cs ++ ds) = digitsValue cs * 10 ^ ds.length + digitsValue ds := by
  rw [digitsValue, List.foldl_append]
  exact foldl_digits ds _

lemma digitsValue_zero : digitsValue ['0'] = 0 := rfl

lemma digitsValue_zeros (n : ℕ) : digitsValue (List.replicate n '0') = 0 := by
  induction n with
  | zero => rfl
  | succ n ih =>
    rw [List.replicate_succ', digitsValue_append, ih]
    rfl

lemma isAsciiDigit_of_mem_toDigits {n : ℕ} {c : Char} (hc : c ∈ Nat.toDigits 10 n) :
    isAsciiDigit c = true :=
  isAsciiDigit_of_isDigit (Nat.isDigit_of_mem_toDigits (by decide) (by decide) hc)

/-- A number in base ten is read as itself. -/
lemma digitsValue_toDigits (n : ℕ) : digitsValue (Nat.toDigits 10 n) = n := by
  have hstep (k : ℕ) (c : Char) (hc : c ∈ Nat.toDigits 10 n) :
      10 * k + (digitValue? c).getD 0 = 10 * k + (c.toNat - '0'.toNat) := by
    rw [digitValue?_of_isAsciiDigit (isAsciiDigit_of_mem_toDigits hc)]
    rfl
  unfold digitsValue
  rw [List.foldl_ext _ _ 0 hstep, ← Nat.ofDigitChars_eq_foldl, Nat.ofDigitChars_ten_toDigits]

lemma digitsValue_lt {cs : List Char} (h : ∀ c ∈ cs, isAsciiDigit c = true) :
    digitsValue cs < 10 ^ cs.length := by
  induction cs with
  | nil => exact Nat.one_pos
  | cons c cs ih =>
    have hc := h c List.mem_cons_self
    have hbounds : c.toNat - 48 ≤ 9 := by
      unfold isAsciiDigit at hc
      simp only [Char.le_def, UInt32.le_iff_toNat_le, Bool.and_eq_true, decide_eq_true_eq] at hc
      have hhigh : c.toNat ≤ 57 := hc.2
      omega
    have hrest := ih fun d hd => h d (List.mem_cons_of_mem c hd)
    have hone : digitsValue [c] = c.toNat - 48 := by
      simp [digitsValue, digitValue?_of_isAsciiDigit hc]
    rw [← List.singleton_append, digitsValue_append, hone, List.length_append, List.length_singleton,
      pow_add]
    nlinarith

/-- A number but zero has no zero in front. -/
lemma toDigits_ne_zero_cons {n : ℕ} (hn : n ≠ 0) (ds : List Char) :
    Nat.toDigits 10 n ≠ '0' :: ds := by
  intro h
  have hvalue := digitsValue_toDigits n
  have hlength := Decimal.tenTo_length_le hn
  have hdigits : ∀ c ∈ ds, isAsciiDigit c = true := fun c hc =>
    isAsciiDigit_of_mem_toDigits (n := n) (by rw [h]; exact List.mem_cons_of_mem _ hc)
  rw [Decimal.length_decimalText, h, List.length_cons, Nat.add_sub_cancel] at hlength
  rw [h, ← List.singleton_append, digitsValue_append] at hvalue
  rw [digitsValue_zero, Nat.zero_mul, Nat.zero_add] at hvalue
  exact absurd (hvalue ▸ digitsValue_lt hdigits) (Nat.not_lt.mpr hlength)

end CharClass

/-! ## Whole numbers -/

namespace Json

lemma whole_toDigits (n : ℕ) : Whole (Nat.toDigits 10 n) := by
  refine ⟨⟨Nat.toDigits_ne_nil, fun c hc => isAsciiDigit_of_mem_toDigits hc⟩, fun ds h => ?_⟩
  rcases eq_or_ne n 0 with rfl | hn
  · exact (List.cons.inj h).2.symm
  · exact absurd h (toDigits_ne_zero_cons hn ds)

/-- A whole number is written as the grammar has it. -/
theorem numberText_int (n : ℤ) : NumberText (.int n) (signedText n).toList := by
  have htext := NumberText.int (decide (n < 0)) (whole_toDigits n.natAbs)
  rw [digitsValue_toDigits] at htext
  unfold signedText decimalText
  by_cases hn : n < 0
  · have hvalue : (if decide (n < 0) = true then -(n.natAbs : ℤ) else n.natAbs) = n := by
      rw [if_pos (decide_eq_true hn)]
      omega
    rw [hvalue] at htext
    rw [if_pos hn, String.toList_append, String.toList_ofList, String.toList_ofList]
    rwa [minus, if_pos (decide_eq_true hn)] at htext
  · have hvalue : (if decide (n < 0) = true then -(n.natAbs : ℤ) else n.natAbs) = n := by
      rw [if_neg (by simpa using hn)]
      omega
    rw [hvalue] at htext
    rw [if_neg hn, String.toList_ofList]
    rwa [minus, if_neg (by simpa using hn)] at htext

/-! ## Floating point numbers -/

/-- The digits of a number without the zeros at its end. -/
structure Significant (n : ℕ) (ds : List Char) (zeros : ℕ) : Prop extends Digits ds where
  ne_zero_cons (ds' : List Char) : ds ≠ '0' :: ds'
  length : (decimalText n).length = ds.length + zeros
  value : n = digitsValue ds * 10 ^ zeros

lemma Significant.whole {n zeros : ℕ} {ds : List Char} (h : Significant n ds zeros) : Whole ds :=
  ⟨h.toDigits, fun ds' hds => absurd hds (h.ne_zero_cons ds')⟩

lemma Significant.whole_take {n zeros w : ℕ} {ds : List Char} (h : Significant n ds zeros)
    (hw : 0 < w) : Whole (ds.take w) := by
  obtain ⟨d, ds', rfl⟩ := List.exists_cons_of_ne_nil h.ne_nil
  obtain ⟨w, rfl⟩ := Nat.exists_eq_add_one_of_ne_zero hw.ne'
  refine ⟨⟨by simp, fun c hc => h.digit c (List.mem_of_mem_take hc)⟩, fun ds'' hds => ?_⟩
  rw [List.take_succ_cons] at hds
  exact absurd (by rw [(List.cons.inj hds).1]) (h.ne_zero_cons ds')

lemma exponent_exponentText (k : ℤ) :
    Exponent (some k) ('e' :: (Decimal.exponentText k).toList) := by
  have hpadded : (padZeros 2 k.natAbs).toList
      = List.replicate (2 - (decimalText k.natAbs).length) '0' ++ Nat.toDigits 10 k.natAbs := by
    rw [padZeros, String.toList_append, String.toList_ofList, decimalText, String.toList_ofList]
  have hdigits : Digits (padZeros 2 k.natAbs).toList := by
    rw [hpadded]
    refine ⟨by simp [Nat.toDigits_ne_nil], fun c hc => ?_⟩
    rcases List.mem_append.mp hc with hc | hc
    · rw [List.eq_of_mem_replicate hc]
      rfl
    · exact isAsciiDigit_of_mem_toDigits hc
  have hvalue : digitsValue (padZeros 2 k.natAbs).toList = k.natAbs := by
    rw [hpadded, digitsValue_append, digitsValue_zeros, digitsValue_toDigits, Nat.zero_mul,
      Nat.zero_add]
  unfold Decimal.exponentText
  by_cases hk : k < 0
  · have htext : Exponent _ ('e' :: '-' :: _) := .minus (.inl rfl) hdigits
    rw [hvalue, show -(k.natAbs : ℤ) = k by omega] at htext
    rw [if_pos hk, String.toList_append]
    exact htext
  · have htext : Exponent _ ('e' :: '+' :: _) := .plus (.inl rfl) hdigits
    rw [hvalue, show (k.natAbs : ℤ) = k by omega] at htext
    rw [if_neg hk, String.toList_append]
    exact htext

lemma exists_significant {n : ℕ} (hn : n ≠ 0) : ∃ ds zeros,
    (Decimal.dropTrailingZeros (decimalText n)).toList = ds ∧ Significant n ds zeros := by
  obtain ⟨l, hl⟩ : ∃ l, l = Nat.toDigits 10 n := ⟨_, rfl⟩
  obtain ⟨zs, hzs⟩ : ∃ zs, zs = l.reverse.takeWhile (· == '0') := ⟨_, rfl⟩
  obtain ⟨ds, hds⟩ : ∃ ds, ds = (l.reverse.dropWhile (· == '0')).reverse := ⟨_, rfl⟩
  have hzeros : zs = List.replicate zs.length '0' := by
    refine List.eq_replicate_of_mem fun c hc => ?_
    rw [hzs] at hc
    simpa using List.mem_takeWhile_imp hc
  have hsplit : l = ds ++ List.replicate zs.length '0' := by
    rw [← List.reverse_replicate, ← hzeros, hds, hzs, ← List.reverse_append,
      List.takeWhile_append_dropWhile, List.reverse_reverse]
  have hvalue : n = digitsValue ds * 10 ^ zs.length := by
    rw [← digitsValue_toDigits n, ← hl, hsplit, digitsValue_append, digitsValue_zeros,
      List.length_replicate, Nat.add_zero]
  have hne : ds ≠ [] := by
    rintro rfl
    rw [digitsValue, List.foldl_nil, Nat.zero_mul] at hvalue
    exact hn hvalue
  refine ⟨ds, zs.length, ?_, ⟨hne, fun c hc => ?_⟩, fun ds' h => ?_, ?_, hvalue⟩
  · rw [Decimal.dropTrailingZeros, decimalText, String.toList_ofList, String.toList_ofList, hds, hl]
  · refine isAsciiDigit_of_mem_toDigits (n := n) ?_
    rw [← hl, hsplit]
    exact List.mem_append_left _ hc
  · refine toDigits_ne_zero_cons hn (ds' ++ List.replicate zs.length '0') ?_
    rw [← hl, hsplit, h, List.cons_append]
  · rw [Decimal.length_decimalText, ← hl, hsplit, List.length_append, List.length_replicate]

section Float

variable {negative : Bool} {m : ℕ} {e : ℤ} (hm : 0 < m) (h : Binary64.Canonical m e)

include hm

/-- A number that writes the value of the shortest digits stands for the value. -/
lemma numberText_of_value {ds ps es : List Char} {part : Option (List Char)} {k : Option ℤ}
    (hds : Whole ds) (hpart : Fraction part ps) (hexponent : Exponent k es)
    (hany : part.isSome ∨ k.isSome)
    (hvalue : (digitsValue (ds ++ part.getD []) : ℚ) * 10 ^ (k.getD 0 - (part.getD []).length)
      = (Decimal.shortest m e).value) :
    NumberText (.float (.finite negative m e h)) (minus negative ++ (ds ++ ps ++ es)) := by
  have hnear := Decimal.shortest_near hm h
  rw [← hvalue] at hnear
  have htext := NumberText.float negative hds hpart hexponent hany
  rwa [Decimal.toBinary64_eq hm h hnear] at htext

variable {ds : List Char} {zeros : ℕ} {w : ℤ}
  (hds : Significant (Decimal.shortest m e).digits ds zeros)

include hds

omit hm in
/-- The decimal as its significant digits and a power of ten. -/
lemma value_shortest : (Decimal.shortest m e).value
    = digitsValue ds * 10 ^ ((zeros : ℤ) + (Decimal.shortest m e).exponent) := by
  rw [Decimal.Digits.value, zpow_add₀ (by norm_num), ← mul_assoc, zpow_natCast]
  congr 1
  exact_mod_cast hds.value

/-- A number below one: a zero, a point and zeros in front of the digits. -/
lemma numberText_below (hw : (zeros : ℤ) + (Decimal.shortest m e).exponent = w - ds.length)
    (hle : w ≤ 0) : NumberText (.float (.finite negative m e h))
      (minus negative ++ (['0'] ++ '.' :: (List.replicate (-w).toNat '0' ++ ds) ++ [])) := by
  have hpart : Digits (List.replicate (-w).toNat '0' ++ ds) := by
    refine ⟨by simp [hds.ne_nil], fun c hc => ?_⟩
    rcases List.mem_append.mp hc with hc | hc
    · rw [List.eq_of_mem_replicate hc]
      rfl
    · exact hds.digit c hc
  refine numberText_of_value hm h (whole_toDigits 0) (.present hpart) .absent (.inl rfl) ?_
  rw [value_shortest hds, hw, Option.getD_some, digitsValue_append, digitsValue_append,
    digitsValue_zeros, digitsValue_zero]
  congr 2
  · simp
  · simp only [Option.getD_none, List.length_append, List.length_replicate]
    omega

/-- A whole number: zeros behind the digits, and a zero behind the point. -/
lemma numberText_whole (hw : (zeros : ℤ) + (Decimal.shortest m e).exponent = w - ds.length)
    (hle : (ds.length : ℤ) ≤ w) : NumberText (.float (.finite negative m e h))
      (minus negative ++ (ds ++ List.replicate (w - ds.length).toNat '0' ++ ['.', '0'] ++ [])) := by
  obtain ⟨i, hi⟩ := Int.eq_ofNat_of_zero_le (show 0 ≤ w - ds.length by omega)
  have hwhole : Whole (ds ++ List.replicate (w - ds.length).toNat '0') := by
    refine ⟨⟨by simp [hds.ne_nil], fun c hc => ?_⟩, fun ds' h => ?_⟩
    · rcases List.mem_append.mp hc with hc | hc
      · exact hds.digit c hc
      · rw [List.eq_of_mem_replicate hc]
        rfl
    · obtain ⟨d, ds'', hcons⟩ := List.exists_cons_of_ne_nil hds.ne_nil
      rw [hcons, List.cons_append] at h
      exact absurd (hcons.trans (by rw [(List.cons.inj h).1])) (hds.ne_zero_cons ds'')
  have hpoint : Digits ['0'] := (whole_toDigits 0).toDigits
  refine numberText_of_value hm h hwhole (.present hpoint) .absent (.inl rfl) ?_
  rw [value_shortest hds, hw, Option.getD_some, digitsValue_append, digitsValue_append,
    digitsValue_zeros, digitsValue_zero, hi]
  simp only [Option.getD_none, List.length_replicate, List.length_singleton, Int.toNat_natCast]
  push_cast
  rw [zpow_natCast]
  norm_num
  ring

/-- A point among the digits. -/
lemma numberText_among (hw : (zeros : ℤ) + (Decimal.shortest m e).exponent = w - ds.length)
    (hpos : 0 < w) (hlt : w < ds.length) : NumberText (.float (.finite negative m e h))
      (minus negative ++ (ds.take w.toNat ++ '.' :: ds.drop w.toNat ++ [])) := by
  have hpart : Digits (ds.drop w.toNat) :=
    ⟨by simp [List.drop_eq_nil_iff]; omega, fun c hc => hds.digit c (List.mem_of_mem_drop hc)⟩
  refine numberText_of_value hm h (hds.whole_take (by omega)) (.present hpart) .absent (.inl rfl) ?_
  rw [value_shortest hds, hw, Option.getD_some, List.take_append_drop]
  congr 2
  simp only [Option.getD_none, List.length_drop]
  omega

/-- A power of ten behind one digit, or behind one digit, a point and the others. -/
lemma numberText_scientific {k : ℤ}
    (hk : (zeros : ℤ) + (Decimal.shortest m e).exponent = k + 1 - ds.length) :
    NumberText (.float (.finite negative m e h))
      (minus negative ++ (ds.take 1 ++ (if ds.drop 1 = [] then [] else '.' :: ds.drop 1)
        ++ 'e' :: (Decimal.exponentText k).toList)) := by
  have hwhole := hds.whole_take Nat.one_pos
  have hlength := List.length_pos_of_ne_nil hds.ne_nil
  split_ifs with hone
  · refine numberText_of_value hm h hwhole .absent (exponent_exponentText k) (.inr rfl) ?_
    have hds' : ds.take 1 = ds := by
      rw [← List.append_nil (ds.take 1), ← hone, List.take_append_drop]
    rw [List.drop_eq_nil_iff] at hone
    rw [value_shortest hds, hk, Option.getD_none, List.append_nil, hds']
    congr 2
    simp only [Option.getD_some, List.length_nil]
    omega
  · have hpart : Digits (ds.drop 1) :=
      ⟨hone, fun c hc => hds.digit c (List.mem_of_mem_drop hc)⟩
    refine numberText_of_value hm h hwhole (.present hpart) (exponent_exponentText k) (.inr rfl) ?_
    rw [value_shortest hds, hk, Option.getD_some, List.take_append_drop]
    congr 2
    simp only [Option.getD_some, List.length_drop]
    omega

end Float

/-- The text of digits with a point among them or behind them. -/
lemma toList_positional_of_pos {s : String} {w : ℤ} (hw : 0 < w) (suffix : String) :
    ((Decimal.positional s w).1 ++ (if (Decimal.positional s w).2.isEmpty then suffix
      else "." ++ (Decimal.positional s w).2)).toList
      = s.toList.take w.toNat ++ List.replicate (w.toNat - s.toList.length) '0'
        ++ if s.toList.drop w.toNat = [] then suffix.toList else '.' :: s.toList.drop w.toNat := by
  unfold Decimal.positional
  dsimp only
  rw [if_neg (by omega)]
  dsimp only
  rw [String.toList_append, String.toList_ofList]
  congr 1
  by_cases hempty : s.toList.drop w.toNat = []
  · rw [if_pos hempty, hempty]
    rfl
  · rw [if_neg hempty, if_neg (by simpa using hempty), String.toList_append,
      String.toList_ofList, String.toList_ofList]
    rfl

lemma toList_positional_of_nonpos {s : String} {w : ℤ} (hw : w ≤ 0) (hs : s.toList ≠ [])
    (suffix : String) :
    ((Decimal.positional s w).1 ++ (if (Decimal.positional s w).2.isEmpty then suffix
      else "." ++ (Decimal.positional s w).2)).toList
      = ['0'] ++ '.' :: (List.replicate (-w).toNat '0' ++ s.toList) := by
  unfold Decimal.positional
  dsimp only
  rw [if_pos hw]
  dsimp only
  have hne : (String.ofList (List.replicate (-w).toNat '0' ++ s.toList)).isEmpty ≠ true := by
    rw [ne_eq, String.isEmpty_iff, ← String.toList_eq_nil_iff, String.toList_ofList]
    simp [hs]
  rw [if_neg hne, String.toList_append, String.toList_append, String.toList_ofList,
    String.toList_ofList, String.toList_ofList]
  rfl

/-- A finite floating point number is written as the grammar has it. -/
theorem numberText_float {x : Binary64} (hx : x.isFinite = true) :
    NumberText (.float x) (numberStyle.render x).toList := by
  cases x with
  | nan => cases hx
  | infinite negative => cases hx
  | finite negative m e h =>
    have hsign : (if negative = true then "-" else "").toList = minus negative := by
      cases negative <;> rfl
    unfold Decimal.Style.render
    dsimp only
    by_cases hm : m = 0
    · subst hm
      have he : e = -1074 := h.normal.resolve_right (by decide)
      subst he
      have hzero := NumberText.float negative (whole_toDigits 0)
        (.present (whole_toDigits 0).toDigits) .absent (.inl rfl)
      rw [if_pos rfl, String.append_assoc, String.toList_append, hsign]
      exact hzero
    · rw [if_neg hm]
      have hpos := Nat.pos_of_ne_zero hm
      obtain ⟨ds, zeros, htext, hds⟩ :=
        exists_significant (Decimal.digits_shortest_pos hpos h).ne'
      obtain ⟨k, hk⟩ : ∃ k : ℤ, k = ((decimalText (Decimal.shortest m e).digits).length : ℤ) - 1
          + (Decimal.shortest m e).exponent := ⟨_, rfl⟩
      rw [← hk]
      have hlength := hds.length
      have hw : (zeros : ℤ) + (Decimal.shortest m e).exponent = k + 1 - ds.length := by omega
      by_cases hpositional : numberStyle.leastPositional ≤ k ∧ k < numberStyle.positionalBelow
      · rw [if_pos hpositional, String.append_assoc, String.toList_append, hsign]
        rcases le_or_gt (k + 1) 0 with hle | hgt
        · rw [toList_positional_of_nonpos hle (by rw [htext]; exact hds.ne_nil), htext]
          simpa using numberText_below hpos h hds hw hle
        · rw [toList_positional_of_pos hgt, htext]
          rcases le_or_gt (ds.length : ℤ) (k + 1) with hwhole | hamong
          · have hsuffix : numberStyle.wholeSuffix.toList = ['.', '0'] := rfl
            rw [if_pos (List.drop_eq_nil_iff.mpr (by omega)), List.take_of_length_le (by omega),
              hsuffix, show (k + 1).toNat - ds.length = (k + 1 - ds.length).toNat by omega]
            simpa using numberText_whole hpos h hds hw hwhole
          · rw [if_neg (by rw [List.drop_eq_nil_iff]; omega),
              show (k + 1).toNat - ds.length = 0 by omega]
            simpa using numberText_among hpos h hds hw hgt hamong
      · rw [if_neg hpositional, String.toList_append, String.toList_append,
          String.append_assoc, String.toList_append, hsign,
          toList_positional_of_pos Int.one_pos, htext]
        have hone : (1 : ℤ).toNat - ds.length = 0 := by
          have := List.length_pos_of_ne_nil hds.ne_nil
          omega
        rw [hone]
        simpa using numberText_scientific hpos h hds hw

end Json
end MetricsAgent
