import Mathlib.Tactic.Linarith
import MetricsAgent.Number.Binary64

/-!
# The range of floating point numbers

A whole number rounds to a finite value exactly if it is less than `Binary64.overflow`, the middle
between the largest finite value and the next power of two (`Binary64.isFinite_ofInt`).  Up to there
the exponent of the nearest value follows the binary logarithm of the number.
-/

namespace MetricsAgent

/-! ## Powers -/

lemma twoTo_le_twoTo {i k : ℕ} (h : i ≤ k) : twoTo i ≤ twoTo k :=
  Nat.pow_le_pow_right (by decide) h

lemma twoTo_add (i k : ℕ) : twoTo (i + k) = twoTo i * twoTo k :=
  Nat.pow_add 2 i k

lemma twoTo_log2_le {n : ℕ} (hn : n ≠ 0) : twoTo n.log2 ≤ n :=
  Nat.log2_self_le hn

lemma lt_twoTo_log2 (n : ℕ) : n < twoTo (n.log2 + 1) :=
  Nat.lt_log2_self

/-! ## Rounding -/

lemma le_roundHalfEven (num den : ℕ) : num / den ≤ roundHalfEven num den := by
  unfold roundHalfEven
  dsimp only
  split_ifs <;> omega

lemma roundHalfEven_le (num den : ℕ) : roundHalfEven num den ≤ num / den + 1 := by
  unfold roundHalfEven
  dsimp only
  split_ifs <;> omega

lemma roundHalfEven_one (num : ℕ) : roundHalfEven num 1 = num := by
  unfold roundHalfEven
  rw [Nat.mod_one, Nat.div_one, if_pos Nat.one_pos]

/-- A half is rounded away from an odd number. -/
lemma roundHalfEven_le_iff {num den q : ℕ} (hden : 0 < den) (hq : q % 2 = 1) :
    roundHalfEven num den ≤ q ↔ 2 * num < (2 * q + 1) * den := by
  have hsplit := Nat.div_add_mod num den
  have hrest := Nat.mod_lt num hden
  rcases lt_trichotomy (num / den) q with hlt | heq | hgt
  · have hbound : den * (num / den + 1) ≤ den * q := Nat.mul_le_mul_left den hlt
    refine iff_of_true ((roundHalfEven_le num den).trans hlt) ?_
    nlinarith
  · unfold roundHalfEven
    rw [heq] at hsplit ⊢
    have htwice : 2 * num < (2 * q + 1) * den ↔ 2 * (num % den) < den := by
      constructor <;> intro h <;> nlinarith
    rw [htwice]
    dsimp only
    split_ifs <;> omega
  · have hbound : den * (q + 1) ≤ den * (num / den) := Nat.mul_le_mul_left den hgt
    refine iff_of_false (fun hle => ?_) ?_
    · exact absurd (le_roundHalfEven num den) (by omega)
    · have hle : den * (num / den) ≤ num := Nat.mul_div_le num den
      nlinarith

namespace Binary64

/-! ## Whole numbers -/

/-- The least whole number that is too large for a finite value. -/
def overflow : ℕ :=
  twoTo 1024 - twoTo 970

lemma twoTo_le_overflow {k : ℕ} (hk : k ≤ 1023) : twoTo k ≤ overflow := by
  have hhalf : twoTo 1024 = twoTo 1023 * 2 := twoTo_succ 1023
  have hsmall : twoTo 970 ≤ twoTo 1023 := twoTo_le_twoTo (by decide)
  have hle := twoTo_le_twoTo hk
  unfold overflow
  omega

lemma overflow_lt : overflow < twoTo 1024 := by
  have hlarge : twoTo 970 ≤ twoTo 1024 := twoTo_le_twoTo (by decide)
  have hpos := twoTo_pos 970
  unfold overflow
  omega

lemma binaryExponent_one {n : ℕ} (hn : n ≠ 0) : binaryExponent n 1 = n.log2 := by
  unfold binaryExponent
  have hone : Nat.log2 1 = 0 := rfl
  rw [hone]
  dsimp only
  rw [if_pos]
  · exact Int.sub_zero _
  · have hle := twoTo_log2_le hn
    rw [Nat.cast_zero, Int.sub_zero, Int.toNat_natCast, Nat.one_mul]
    exact hle.trans (Nat.le_mul_of_pos_right n (twoTo_pos _))

lemma isFinite_pack (negative : Bool) (m : ℕ) (e : ℤ) :
    (if h : Canonical m e then finite negative m e h else infinite negative).isFinite = true ↔
      Canonical m e := by
  split_ifs with hcanonical
  · exact iff_of_true rfl hcanonical
  · exact iff_of_false Bool.false_ne_true hcanonical

/-- A whole number rounds to a finite value exactly if its mantissa and exponent are in range. -/
lemma isFinite_ofRatio_one {negative : Bool} {n m : ℕ} {e : ℤ} (hn : n ≠ 0)
    (he : e = (n.log2 : ℤ) - 52) (hm : roundHalfEven (n * twoTo (-e).toNat) (twoTo e.toNat) = m) :
    (ofRatio negative n 1).isFinite = true ↔
      if m = twoTo 53 then Canonical (twoTo 52) (e + 1) else Canonical m e := by
  have hexponent : max (binaryExponent n 1 - 52) (-1074) = e := by
    rw [binaryExponent_one hn]
    omega
  unfold ofRatio
  rw [if_neg hn, hexponent]
  dsimp only
  rw [Nat.one_mul, hm]
  by_cases htop : m = twoTo 53
  · rw [if_pos htop, if_pos htop]
    exact isFinite_pack negative (twoTo 52) (e + 1)
  · rw [if_neg htop, if_neg htop]
    exact isFinite_pack negative m e

/-- A whole number of at most 53 bits is a value itself. -/
lemma isFinite_ofRatio_small {negative : Bool} {n : ℕ} (hn : n ≠ 0) (hsmall : n.log2 ≤ 52) :
    (ofRatio negative n 1).isFinite = true := by
  have hscaled : roundHalfEven (n * twoTo (-((n.log2 : ℤ) - 52)).toNat)
      (twoTo ((n.log2 : ℤ) - 52).toNat) = n * twoTo (52 - n.log2) := by
    rw [show ((n.log2 : ℤ) - 52).toNat = 0 by omega,
      show (-((n.log2 : ℤ) - 52)).toNat = 52 - n.log2 by omega]
    exact roundHalfEven_one _
  have hlow : twoTo 52 ≤ n * twoTo (52 - n.log2) := by
    have hle := Nat.mul_le_mul_right (twoTo (52 - n.log2)) (twoTo_log2_le hn)
    rwa [← twoTo_add, Nat.add_sub_cancel' hsmall] at hle
  have hhigh : n * twoTo (52 - n.log2) < twoTo 53 := by
    have hlt := Nat.mul_lt_mul_of_pos_right (lt_twoTo_log2 n) (twoTo_pos (52 - n.log2))
    rwa [← twoTo_add, show n.log2 + 1 + (52 - n.log2) = 53 by omega] at hlt
  rw [isFinite_ofRatio_one hn rfl hscaled, if_neg hhigh.ne]
  exact ⟨hhigh, by omega, by omega, .inr hlow⟩

/-- The mantissa of a larger number is cut to 53 bits, and may round up to the next power of two. -/
lemma isFinite_ofRatio_large {negative : Bool} {n s : ℕ} (hn : n ≠ 0) (hs : n.log2 = s + 52) :
    (ofRatio negative n 1).isFinite = true ↔
      s < 971 ∨ s = 971 ∧ roundHalfEven n (twoTo s) < twoTo 53 := by
  have hcut : roundHalfEven (n * twoTo (-((n.log2 : ℤ) - 52)).toNat)
      (twoTo ((n.log2 : ℤ) - 52).toNat) = roundHalfEven n (twoTo s) := by
    rw [show ((n.log2 : ℤ) - 52).toNat = s by omega,
      show (-((n.log2 : ℤ) - 52)).toNat = 0 by omega]
    exact congrArg (roundHalfEven · (twoTo s)) (Nat.mul_one n)
  have hlow : twoTo 52 ≤ roundHalfEven n (twoTo s) := by
    refine le_trans ?_ (le_roundHalfEven n (twoTo s))
    rw [Nat.le_div_iff_mul_le (twoTo_pos s), ← twoTo_add, Nat.add_comm, ← hs]
    exact twoTo_log2_le hn
  have hhigh : roundHalfEven n (twoTo s) ≤ twoTo 53 := by
    refine (roundHalfEven_le n (twoTo s)).trans (Nat.succ_le_of_lt ?_)
    rw [Nat.div_lt_iff_lt_mul (twoTo_pos s), ← twoTo_add,
      show 53 + s = n.log2 + 1 by omega]
    exact lt_twoTo_log2 n
  rw [isFinite_ofRatio_one hn rfl hcut]
  split_ifs with htop
  · have hcanonical (h : s < 971) : Canonical (twoTo 52) ((n.log2 : ℤ) - 52 + 1) :=
      ⟨by decide, by omega, by omega, .inr le_rfl⟩
    refine ⟨fun h => .inl ?_, fun h => hcanonical ?_⟩
    · have := h.exponent_le
      omega
    · omega
  · have hcanonical (h : s ≤ 971) : Canonical (roundHalfEven n (twoTo s)) ((n.log2 : ℤ) - 52) :=
      ⟨lt_of_le_of_ne hhigh htop, by omega, by omega, .inr hlow⟩
    refine ⟨fun h => ?_, fun h => hcanonical ?_⟩
    · have := h.exponent_le
      have := h.mantissa_lt
      omega
    · omega

/-- A whole number rounds to a finite value exactly if it is below the middle between the largest
one and the next power of two. -/
theorem isFinite_ofInt (n : ℕ) : (ofInt n).isFinite = true ↔ n < overflow := by
  rcases eq_or_ne n 0 with rfl | hn
  · exact iff_of_true rfl ((twoTo_pos 0).trans_le (twoTo_le_overflow (by decide)))
  show (ofRatio (decide ((n : ℤ) < 0)) n 1).isFinite = true ↔ n < overflow
  have hlower := twoTo_log2_le hn
  have hupper := lt_twoTo_log2 n
  rcases le_or_gt n.log2 52 with hsmall | hlarge
  · refine iff_of_true (isFinite_ofRatio_small hn hsmall) (hupper.trans_le ?_)
    exact twoTo_le_overflow (by omega)
  obtain ⟨s, hs⟩ : ∃ s, n.log2 = s + 52 := ⟨n.log2 - 52, by omega⟩
  rw [isFinite_ofRatio_large hn hs]
  rcases lt_trichotomy s 971 with hlt | rfl | hgt
  · exact iff_of_true (.inl hlt) (hupper.trans_le (twoTo_le_overflow (by omega)))
  · -- The largest exponent, where a mantissa that rounds up to 54 bits is out of range.
    have hodd : (twoTo 53 - 1) % 2 = 1 := by decide
    have hround : roundHalfEven n (twoTo 971) ≤ twoTo 53 - 1 ↔ _ :=
      roundHalfEven_le_iff (twoTo_pos 971) hodd
    have hmiddle : (2 * (twoTo 53 - 1) + 1) * twoTo 971 = 2 * overflow := by decide +kernel
    have hpos := twoTo_pos 53
    rw [hmiddle] at hround
    omega
  · have htop : twoTo 1024 ≤ twoTo n.log2 := twoTo_le_twoTo (by omega)
    exact iff_of_false (by omega) ((overflow_lt.le.trans (htop.trans hlower)).not_gt)

end Binary64
end MetricsAgent
