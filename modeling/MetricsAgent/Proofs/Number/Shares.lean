import MetricsAgent.Proofs.Number.Rounding

/-!
# Shares

A share is a number between nought and one.  Rounding keeps it there, and moves it by at most
`2^-54` (`Binary64.sharesNear_ofRatio`): the mantissa moves by at most a half, and the exponent of a
number below one is `-53` or less.  The share that is left of one is a share again, so what two
roundings make of it is off by at most twice as much (`Binary64.sharesNear_one_sub`).
-/

namespace MetricsAgent

/-! ## Mantissas -/

lemma abs_roundHalfEven_sub_le {num den : ℕ} (hden : 0 < den) :
    |(roundHalfEven num den : ℚ) - num / den| ≤ 1 / 2 := by
  have hdenpos : (0 : ℚ) < den := by exact_mod_cast hden
  have hsplit := Nat.div_add_mod num den
  have hrest := Nat.mod_lt num hden
  obtain ⟨k, hk⟩ : ∃ k, k = num / den := ⟨_, rfl⟩
  obtain ⟨r, hr⟩ : ∃ r, r = num % den := ⟨_, rfl⟩
  have hnum : (num : ℚ) / den = k + r / den := by
    rw [← hk, ← hr] at hsplit
    rw [← hsplit]
    push_cast
    field_simp
  have hlow : (0 : ℚ) ≤ r / den := by positivity
  have hdown (h : 2 * r ≤ den) : (r : ℚ) / den ≤ 1 / 2 := by
    rw [div_le_iff₀ hdenpos]
    have : ((2 * r : ℕ) : ℚ) ≤ den := by exact_mod_cast h
    push_cast at this
    linarith
  have hup (h : den ≤ 2 * r) : (1 / 2 : ℚ) ≤ r / den := by
    rw [le_div_iff₀ hdenpos]
    have : (den : ℚ) ≤ (2 * r : ℕ) := by exact_mod_cast h
    push_cast at this
    linarith
  have hhigh : (r : ℚ) / den ≤ 1 := by
    rw [div_le_one hdenpos]
    exact_mod_cast (hr ▸ hrest).le
  unfold roundHalfEven
  rw [hnum, ← hk, ← hr, abs_le]
  dsimp only
  split_ifs with hlt hgt heven
  · have := hdown hlt.le
    constructor <;> linarith
  · have := hup hgt.le
    push_cast
    constructor <;> linarith
  · have := hdown (by omega)
    constructor <;> linarith
  · have := hup (by omega)
    push_cast
    constructor <;> linarith

lemma le_of_abs_sub_le {m n : ℕ} {q : ℚ} (hnear : |(m : ℚ) - q| ≤ 1 / 2) (hq : q < n) : m ≤ n := by
  have hlt : (m : ℚ) < (n + 1 : ℕ) := by
    push_cast
    linarith [(abs_le.mp hnear).2]
  exact Nat.lt_succ_iff.mp (by exact_mod_cast hlt)

lemma ge_of_abs_sub_le {m n : ℕ} {q : ℚ} (hnear : |(m : ℚ) - q| ≤ 1 / 2) (hq : n ≤ q) : n ≤ m := by
  have hlt : (n : ℚ) < (m + 1 : ℕ) := by
    push_cast
    linarith [(abs_le.mp hnear).1]
  exact Nat.lt_succ_iff.mp (by exact_mod_cast hlt)

namespace Binary64

/-! ## Rounding a share -/

/-- A floating point number stands for a number between nought and one that is no farther from
another number than a bound. -/
def SharesNear (x : Binary64) (v bound : ℚ) : Prop :=
  ∃ q, x.toRat? = some q ∧ 0 ≤ q ∧ q ≤ 1 ∧ |q - v| ≤ bound

section Scaled

variable {num den : ℕ} {e : ℤ} (hnum : num ≠ 0) (hden : den ≠ 0)

include hnum hden

lemma binaryExponent_neg (hbelow : (num / den : ℚ) < 1) : binaryExponent num den < 0 := by
  have hlt : (2 : ℚ) ^ binaryExponent num den < 2 ^ (0 : ℤ) := by
    rw [zpow_zero]
    exact (binaryExponent_spec hnum hden).1.trans_lt hbelow
  exact (zpow_lt_zpow_iff_right₀ (by norm_num)).mp hlt

lemma scaled_lt (he : binaryExponent num den - 52 ≤ e) : (num / den / 2 ^ e : ℚ) < twoTo 53 := by
  rw [cast_twoTo, div_lt_iff₀ (zpow_pos (by norm_num) e), ← zpow_natCast,
    ← zpow_add₀ (by norm_num)]
  refine (binaryExponent_spec hnum hden).2.trans_le (zpow_le_zpow_right₀ (by norm_num) ?_)
  push_cast
  omega

lemma le_scaled (he : e = binaryExponent num den - 52) : (twoTo 52 : ℚ) ≤ num / den / 2 ^ e := by
  rw [cast_twoTo, le_div_iff₀ (zpow_pos (by norm_num) e), ← zpow_natCast,
    ← zpow_add₀ (by norm_num)]
  refine le_trans (zpow_le_zpow_right₀ (by norm_num) ?_) (binaryExponent_spec hnum hden).1
  push_cast
  omega

/-- The mantissa to which a number below one is rounded, before it is made canonical. -/
lemma roundHalfEven_scaled (hbelow : (num / den : ℚ) < 1)
    (he : e = max (binaryExponent num den - 52) (-1074)) :
    ∃ m, roundHalfEven (num * twoTo (-e).toNat) (den * twoTo e.toNat) = m ∧ e ≤ -53 ∧
      m ≤ twoTo 53 ∧ (e = -1074 ∨ twoTo 52 ≤ m) ∧ |(m : ℚ) * 2 ^ e - num / den| ≤ 2 ^ e / 2 := by
  have hpow : (0 : ℚ) < 2 ^ e := zpow_pos (by norm_num) e
  have hnegative := binaryExponent_neg hnum hden hbelow
  obtain ⟨m, hm⟩ : ∃ m, roundHalfEven (num * twoTo (-e).toNat) (den * twoTo e.toNat) = m :=
    ⟨_, rfl⟩
  have hnear : |(m : ℚ) - num / den / 2 ^ e| ≤ 1 / 2 := by
    rw [← hm, ← scaled_eq]
    exact abs_roundHalfEven_sub_le (Nat.mul_pos (Nat.pos_of_ne_zero hden) (twoTo_pos e.toNat))
  refine ⟨m, hm, by omega, ?_, ?_, ?_⟩
  · exact le_of_abs_sub_le hnear (scaled_lt hnum hden (he ▸ le_max_left _ _))
  · rcases max_choice (binaryExponent num den - 52) (-1074) with hmax | hmax
    · exact .inr (ge_of_abs_sub_le hnear (le_scaled hnum hden (he.trans hmax)))
    · exact .inl (he.trans hmax)
  · have hsplit : (m : ℚ) * 2 ^ e - num / den = (m - num / den / 2 ^ e) * 2 ^ e := by
      field_simp
    rw [hsplit, abs_mul, abs_of_pos hpow]
    calc |(m : ℚ) - num / den / 2 ^ e| * 2 ^ e
        ≤ 1 / 2 * 2 ^ e := mul_le_mul_of_nonneg_right hnear hpow.le
      _ = 2 ^ e / 2 := by ring

omit hden in
/-- The value of a number below one once it was rounded. -/
lemma toRat?_ofRatio_of_scaled {m : ℕ} (he : e = max (binaryExponent num den - 52) (-1074))
    (hm : roundHalfEven (num * twoTo (-e).toNat) (den * twoTo e.toNat) = m) (hsmall : e ≤ -53)
    (htop : m ≤ twoTo 53) (hnormal : e = -1074 ∨ twoTo 52 ≤ m) :
    (ofRatio false num den).toRat? = some ((m : ℚ) * 2 ^ e) := by
  have hleast : -1074 ≤ e := he ▸ le_max_right _ _
  unfold ofRatio
  rw [if_neg hnum, ← he]
  dsimp only
  rw [hm]
  by_cases hcarry : m = twoTo 53
  · -- The mantissa has one digit too many, and a nought at its end.
    rw [if_pos hcarry]
    dsimp only
    rw [dif_pos ⟨by decide, by omega, by omega, .inr le_rfl⟩, toRat?, if_neg Bool.false_ne_true,
      twoPow_eq, hcarry, cast_twoTo, cast_twoTo, zpow_add₀ (by norm_num)]
    congr 1
    ring
  · rw [if_neg hcarry]
    dsimp only
    rw [dif_pos ⟨lt_of_le_of_ne htop hcarry, hleast, by omega, hnormal⟩, toRat?,
      if_neg Bool.false_ne_true, twoPow_eq]

end Scaled

lemma toRat?_zeroOf (negative : Bool) : (zeroOf negative).toRat? = some 0 := by
  rw [zeroOf, toRat?]
  simp

lemma ofRatio_self {den : ℕ} (hden : 0 < den) :
    ofRatio false den den = .finite false (twoTo 52) (-52)
      ⟨by decide, by decide, by decide, .inr le_rfl⟩ := by
  have hone : (den / den : ℚ) = 1 := div_self (by exact_mod_cast hden.ne')
  refine ofRatio_eq hden.ne' hden.ne' _ (.of_lt ?_ ?_)
  · rw [hone, lowerMiddle, if_pos ⟨rfl, by decide⟩, cast_twoTo]
    norm_num
  · rw [hone, upperMiddle, cast_twoTo]
    norm_num

/-- Rounding a share gives a share that is hardly off. -/
theorem sharesNear_ofRatio {num den : ℕ} (hden : 0 < den) (hle : num ≤ den) :
    (ofRatio false num den).SharesNear (num / den) (1 / 2 ^ 54) := by
  by_cases hnum : num = 0
  · subst hnum
    exact ⟨0, toRat?_zeroOf false, le_rfl, zero_le_one, by norm_num⟩
  by_cases hself : num = den
  · subst hself
    refine ⟨1, ?_, zero_le_one, le_rfl, ?_⟩
    · rw [ofRatio_self hden, toRat?, if_neg Bool.false_ne_true, twoPow_eq, cast_twoTo]
      norm_num
    · rw [div_self (by exact_mod_cast hnum)]
      norm_num
  have hdenpos : (0 : ℚ) < den := by exact_mod_cast hden
  have hbelow : (num / den : ℚ) < 1 := by
    rw [div_lt_one hdenpos]
    exact_mod_cast lt_of_le_of_ne hle hself
  obtain ⟨e, he⟩ : ∃ e, e = max (binaryExponent num den - 52) (-1074) := ⟨_, rfl⟩
  obtain ⟨m, hm, hsmall, htop, hnormal, hnear⟩ :=
    roundHalfEven_scaled hnum hden.ne' hbelow he
  have hpow : (2 : ℚ) ^ e ≤ 2 ^ (-53 : ℤ) := zpow_le_zpow_right₀ (by norm_num) hsmall
  have hvalue := toRat?_ofRatio_of_scaled hnum he hm hsmall htop hnormal
  refine ⟨m * 2 ^ e, hvalue, by positivity, ?_, ?_⟩
  · have hm' : (m : ℚ) ≤ 2 ^ 53 := by
      rw [← cast_twoTo]
      exact_mod_cast htop
    calc (m : ℚ) * 2 ^ e ≤ 2 ^ 53 * 2 ^ (-53 : ℤ) := by gcongr
      _ = 1 := by norm_num
  · refine hnear.trans ?_
    calc (2 : ℚ) ^ e / 2 ≤ 2 ^ (-53 : ℤ) / 2 := by gcongr
      _ = 1 / 2 ^ 54 := by norm_num

/-! ## The share that is left -/

lemma sharesNear_ofRat {q : ℚ} (hnonneg : 0 ≤ q) (hle : q ≤ 1) :
    (ofRat q).SharesNear q (1 / 2 ^ 54) := by
  have hnum : (q.num.natAbs : ℚ) / q.den = q := by
    have habs : ((q.num.natAbs : ℤ) : ℚ) = q.num := by
      rw [Int.natAbs_of_nonneg (Rat.num_nonneg.mpr hnonneg)]
    rw [← Int.cast_natCast, habs, Rat.num_div_den]
  have hparts : q.num.natAbs ≤ q.den := by
    have hden : (0 : ℚ) < q.den := by exact_mod_cast q.den_pos
    rw [← hnum, div_le_one hden] at hle
    exact_mod_cast hle
  have hshare := sharesNear_ofRatio q.den_pos hparts
  rw [hnum] at hshare
  rwa [ofRat, decide_eq_false (not_lt.mpr hnonneg)]

/-- A difference is rounded once. -/
lemma toRat?_sub {x y : Binary64} {p q : ℚ} (hx : x.toRat? = some p) (hy : y.toRat? = some q) :
    (x - y).toRat? = (ofRat (p - q)).toRat? := by
  show (x.add y.neg).toRat? = _
  cases x with
  | finite s m e h =>
    cases y with
    | finite t n k h' =>
      have hneg : (Binary64.finite (!t) n k h').toRat? = some (-q) := by
        cases hy
        cases t <;> simp [toRat?]
      rw [neg, add, hx, hneg]
      dsimp only
      rw [← sub_eq_add_neg]
      split_ifs with hzero
      · rw [hzero, toRat?_zeroOf]
        exact (toRat?_zeroOf false).symm
      · rfl
    | _ => cases hy
  | _ => cases hx

lemma toRat?_ofInt_one : (ofInt 1).toRat? = some 1 := by
  rw [show ofInt 1 = ofRatio false 1 1 from rfl, ofRatio_self Nat.one_pos, toRat?,
    if_neg Bool.false_ne_true, twoPow_eq, cast_twoTo]
  norm_num

/-- What is left of one by a share that was rounded is hardly off. -/
theorem sharesNear_one_sub {num den : ℕ} (hden : 0 < den) (hle : num ≤ den) :
    (ofInt 1 - ofRatio false num den).SharesNear (1 - num / den) (1 / 2 ^ 53) := by
  obtain ⟨p, hp, hnonneg, hone, hnear⟩ := sharesNear_ofRatio hden hle
  obtain ⟨q, hq, hqnonneg, hqone, hqnear⟩ :=
    sharesNear_ofRat (sub_nonneg.mpr hone) (sub_le_self 1 hnonneg)
  refine ⟨q, by rw [toRat?_sub toRat?_ofInt_one hp, hq], hqnonneg, hqone, ?_⟩
  have hsplit : q - (1 - num / den) = (q - (1 - p)) - (p - num / den) := by ring
  calc |q - (1 - num / den)| ≤ |q - (1 - p)| + |p - num / den| := by
        rw [hsplit]
        exact abs_sub _ _
    _ ≤ 1 / 2 ^ 54 + 1 / 2 ^ 54 := add_le_add hqnear hnear
    _ = 1 / 2 ^ 53 := by norm_num

end Binary64
end MetricsAgent
