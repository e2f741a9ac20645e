import Mathlib.Data.List.Basic
import Mathlib.Data.List.TakeWhile
import MetricsAgent.Number.Reader

/-!
# Numbers read back

A whole number that is written in base ten is read as itself, as long as it has no more digits than
a text may have (`NumberText.integer_decimalText`).
-/

namespace MetricsAgent

open CharClass

lemma tenTo_lt_tenTo {i k : ℕ} (h : i < k) : tenTo i < tenTo k :=
  Nat.pow_lt_pow_right (by decide) h

lemma length_toDigits_le {n k : ℕ} (hn : n < tenTo k) (hk : 0 < k) :
    (Nat.toDigits 10 n).length ≤ k :=
  (Nat.length_toDigits_le_iff (by decide) hk).mpr hn

/-! ## Digits -/

section Digit

variable {c : Char}

lemma toNat_of_isDigit (hc : c.isDigit = true) : 48 ≤ c.toNat ∧ c.toNat ≤ 57 :=
  Char.isDigit_iff_toNat.mp hc

lemma isBlank_of_isDigit (hc : c.isDigit = true) : isBlank c = false := by
  have hbounds := toNat_of_isDigit hc
  unfold isBlank
  simp
  omega

lemma ne_of_isDigit (hc : c.isDigit = true) {d : Char} (hd : d.isDigit = false) : c ≠ d := by
  rintro rfl
  rw [hc] at hd
  cases hd

lemma isAsciiDigit_of_isDigit (hc : c.isDigit = true) : isAsciiDigit c = true := by
  have hbounds := toNat_of_isDigit hc
  unfold isAsciiDigit
  simp only [Char.le_def, UInt32.le_iff_toNat_le, Bool.and_eq_true, decide_eq_true_eq]
  exact hbounds

lemma digitIn?_of_isDigit (hc : c.isDigit = true) :
    NumberText.digitIn? 10 c = some (c.toNat - 48) := by
  have hascii := isAsciiDigit_of_isDigit hc
  have hbounds := toNat_of_isDigit hc
  have hvalue : hexValue c = c.toNat - 48 := by rw [hexValue, if_pos hascii]
  have hhex : isHexDigit c = true := by rw [isHexDigit, hascii]; rfl
  rw [NumberText.digitIn?, hhex, hvalue, Bool.true_and, if_pos (by simp; omega)]

lemma isAsciiBlank_of_isDigit (hc : c.isDigit = true) : NumberText.isAsciiBlank c = false := by
  have hbounds := toNat_of_isDigit hc
  unfold NumberText.isAsciiBlank
  rw [Bool.or_eq_false_iff, beq_eq_false_iff_ne]
  exact ⟨ne_of_isDigit hc rfl, by simp; omega⟩

end Digit

/-! ## Texts of digits -/

lemma dropWhile_eq_self {p : Char → Bool} {l : List Char} (h : ∀ c ∈ l, p c = false) :
    l.dropWhile p = l := by
  rw [List.dropWhile_eq_self_iff]
  intro hl
  rw [h _ (List.getElem_mem hl)]
  exact Bool.false_ne_true

lemma trimBoth_ofList {p : Char → Bool} {l : List Char} (h : ∀ c ∈ l, p c = false) :
    trimBoth p (String.ofList l) = String.ofList l := by
  unfold trimBoth
  rw [String.toList_ofList, dropWhile_eq_self h, dropWhile_eq_self (by simpa using h),
    List.reverse_reverse]

namespace NumberText

variable {l : List Char}

lemma plainChars_ofList (hl : ∀ c ∈ l, c.isDigit = true) : plainChars (String.ofList l) = l := by
  have hascii : l.all (·.toNat < 128) = true := by
    rw [List.all_eq_true]
    intro c hc
    have hbounds := toNat_of_isDigit (hl c hc)
    exact decide_eq_true (by omega)
  unfold plainChars
  rw [String.toList_ofList]
  dsimp only
  rw [if_pos hascii]

lemma splitSign_of_isDigit (hl : ∀ c ∈ l, c.isDigit = true) : splitSign l = (false, l) := by
  unfold splitSign
  split
  · exact absurd (hl _ List.mem_cons_self) (by decide)
  · exact absurd (hl _ List.mem_cons_self) (by decide)
  · rfl

lemma withoutBaseMark_ten (l : List Char) : withoutBaseMark 10 l = l := by
  unfold withoutBaseMark
  split
  · exact if_neg (by simp)
  · rfl

lemma hasDoubleUnderscore_of_isDigit (hl : ∀ c ∈ l, c.isDigit = true) :
    hasDoubleUnderscore l = false := by
  induction l with
  | nil => rfl
  | cons c l ih =>
    rw [hasDoubleUnderscore]
    · exact ih fun d hd => hl d (List.mem_cons_of_mem c hd)
    · rintro _ rfl
      exact absurd (hl '_' List.mem_cons_self) (by decide)

lemma filterMap_digitIn? (hl : ∀ c ∈ l, c.isDigit = true) :
    l.filterMap (digitIn? 10) = l.map fun c => c.toNat - '0'.toNat := by
  rw [← List.filterMap_eq_map]
  exact List.filterMap_congr fun c hc => digitIn?_of_isDigit (hl c hc)

/-- Digits are read as the number that they write, if they are not too many. -/
lemma integer_ofList (hl : ∀ c ∈ l, c.isDigit = true) (hne : l ≠ [])
    (hlength : l.length ≤ digitLimit) :
    integer 10 (String.ofList l) = .ok (Nat.ofDigitChars 10 l 0) := by
  have hrun : (l.takeWhile fun c => (digitIn? 10 c).isSome || c == '_') = l := by
    rw [List.takeWhile_eq_self_iff]
    intro c hc
    rw [digitIn?_of_isDigit (hl c hc)]
    rfl
  have hhead : (l.head? == some '_') = false := by
    rw [beq_eq_false_iff_ne]
    exact fun h => absurd (hl '_' (List.mem_of_head? h)) (by decide)
  have hlast : (l.getLast? == some '_') = false := by
    rw [beq_eq_false_iff_ne]
    exact fun h => absurd (hl '_' (List.mem_of_getLast? h)) (by decide)
  unfold integer
  rw [plainChars_ofList hl, dropWhile_eq_self fun c hc => isAsciiBlank_of_isDigit (hl c hc)]
  dsimp only
  rw [splitSign_of_isDigit hl]
  dsimp only
  rw [withoutBaseMark_ten, hrun, filterMap_digitIn? hl, hhead, hlast,
    hasDoubleUnderscore_of_isDigit hl, List.drop_length]
  rw [if_neg (by simpa using hne), if_neg (by simpa using hlength), if_neg (by simp),
    List.foldl_map, Nat.ofDigitChars_eq_foldl]
  rfl

/-- A number in base ten is read as itself, if it has not too many digits. -/
theorem integer_decimalText {n : ℕ} (hn : n < tenTo digitLimit) :
    integer 10 (decimalText n) = .ok n := by
  have hdigits (c : Char) (hc : c ∈ Nat.toDigits 10 n) : c.isDigit = true :=
    Nat.isDigit_of_mem_toDigits (by decide) (by decide) hc
  rw [decimalText, integer_ofList hdigits Nat.toDigits_ne_nil (length_toDigits_le hn (by decide)),
    Nat.ofDigitChars_ten_toDigits]

end NumberText
end MetricsAgent
