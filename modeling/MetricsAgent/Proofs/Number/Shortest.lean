import MetricsAgent.Proofs.Number.Reading
import MetricsAgent.Proofs.Number.Rounding

/-!
# Shortest digits

The digits that are chosen for a value lie between the middles to its neighbours
(`Decimal.shortest_near`): a grid of seventeen digits is fine enough to have a point there, so the
search never ends without one.  A decimal that lies there is read as the value
(`Decimal.toBinary64_eq`).
-/

namespace MetricsAgent.Decimal

open Binary64

/-! ## Powers of ten -/

lemma tenPow_eq (e : ℤ) : tenPow e = 10 ^ e := by
  unfold tenPow
  split_ifs with he
  · obtain ⟨n, rfl⟩ := Int.eq_ofNat_of_zero_le he
    rw [Int.toNat_natCast, cast_tenTo, zpow_natCast]
  · obtain ⟨n, hn⟩ := Int.eq_ofNat_of_zero_le (show 0 ≤ -e by omega)
    rw [hn, Int.toNat_natCast, cast_tenTo, one_div, ← zpow_natCast, ← zpow_neg, ← hn, neg_neg]

lemma ten_zpow_pos (e : ℤ) : (0 : ℚ) < 10 ^ e :=
  zpow_pos (by norm_num) e

lemma length_decimalText (n : ℕ) : (decimalText n).length = (Nat.toDigits 10 n).length := by
  rw [decimalText, String.length_ofList]

lemma lt_tenTo_length (n : ℕ) : n < tenTo (decimalText n).length := by
  rw [length_decimalText]
  exact (Nat.length_toDigits_le_iff (by decide) Nat.length_toDigits_pos).mp le_rfl

lemma tenTo_length_le {n : ℕ} (hn : n ≠ 0) : tenTo ((decimalText n).length - 1) ≤ n := by
  rw [length_decimalText]
  rcases Nat.eq_zero_or_pos ((Nat.toDigits 10 n).length - 1) with hone | hmore
  · rw [hone]
    exact Nat.pos_of_ne_zero hn
  · by_contra hlt
    have hlength := (Nat.length_toDigits_le_iff (by decide) hmore).mpr (Nat.lt_of_not_le hlt)
    omega

/-- The length of a number in base ten. -/
lemma ten_zpow_length {n : ℕ} (hn : n ≠ 0) :
    (10 : ℚ) ^ (((decimalText n).length : ℤ) - 1) ≤ n ∧
      (n : ℚ) < 10 ^ ((decimalText n).length : ℤ) := by
  have hlength : 0 < (decimalText n).length := by
    rw [length_decimalText]
    exact Nat.length_toDigits_pos
  have hlow : (tenTo ((decimalText n).length - 1) : ℚ) ≤ n := by
    exact_mod_cast tenTo_length_le hn
  have hhigh : (n : ℚ) < (tenTo (decimalText n).length : ℕ) := by
    exact_mod_cast lt_tenTo_length n
  rw [cast_tenTo, ← zpow_natCast, Nat.cast_sub hlength] at hlow
  rw [cast_tenTo] at hhigh
  exact ⟨by exact_mod_cast hlow, by exact_mod_cast hhigh⟩

/-- The decimal exponent of a number is not too large. -/
lemma ten_zpow_decimalExponent_le {q : ℚ} (hq : 0 < q) : (10 : ℚ) ^ decimalExponent q ≤ q := by
  have hnum : q.num.natAbs ≠ 0 := by
    have := Rat.num_pos.mpr hq
    omega
  have hfraction : (q.num.natAbs : ℚ) / q.den = q := by
    rw [Nat.cast_natAbs, abs_of_pos (Rat.num_pos.mpr hq)]
    exact Rat.num_div_den q
  have hden : (0 : ℚ) < q.den := by exact_mod_cast q.den_pos
  obtain ⟨d, hd⟩ : ∃ d : ℤ, d = ((decimalText q.num.natAbs).length : ℤ)
      - ((decimalText q.den).length : ℤ) := ⟨_, rfl⟩
  have hleast : (10 : ℚ) ^ (d - 1) ≤ q := by
    rw [← hfraction, le_div_iff₀ hden]
    calc (10 : ℚ) ^ (d - 1) * q.den
        ≤ 10 ^ (d - 1) * 10 ^ ((decimalText q.den).length : ℤ) :=
          mul_le_mul_of_nonneg_left (ten_zpow_length q.den_ne_zero).2.le (ten_zpow_pos _).le
      _ = 10 ^ (((decimalText q.num.natAbs).length : ℤ) - 1) := by
          rw [← zpow_add₀ (by norm_num)]
          congr 1
          omega
      _ ≤ q.num.natAbs := (ten_zpow_length hnum).1
  unfold decimalExponent
  dsimp only
  rw [← hd, tenPow_eq, tenPow_eq]
  split_ifs with h1 h2
  · exact h1
  · exact h2
  · exact hleast

/-! ## The interval of a value -/

lemma roundingInterval_eq {m : ℕ} (hm : 0 < m) (e : ℤ) :
    roundingInterval m e = (lowerMiddle m e, upperMiddle m e, m % 2 == 0) := by
  have hquarter : (2 : ℚ) ^ (e - 2) = 2 ^ e / 4 := by
    rw [zpow_sub₀ (by norm_num)]
    norm_num
  have hbelow (b : ℕ) (hb : b ≤ 2) : ((4 * m - b : ℕ) : ℚ) = 4 * m - b := by
    rw [Nat.cast_sub (by omega)]
    push_cast
    rfl
  unfold roundingInterval lowerMiddle upperMiddle
  dsimp only
  rw [twoPow_eq, hquarter, hbelow _ (by split_ifs <;> omega)]
  refine Prod.ext ?_ (Prod.ext ?_ rfl)
  · dsimp only
    split_ifs <;> push_cast <;> ring
  · dsimp only
    push_cast
    ring

lemma lowerMiddle_pos {m : ℕ} (hm : 0 < m) (e : ℤ) : 0 < lowerMiddle m e := by
  have hone : (1 : ℚ) ≤ m := by exact_mod_cast hm
  refine mul_pos ?_ (zpow_pos (by norm_num) e)
  split_ifs <;> linarith

/-- What the search tests of a number. -/
lemma inside_iff {m : ℕ} {e : ℤ} {v : ℚ} :
    (if (m % 2 == 0) = true then decide (lowerMiddle m e ≤ v ∧ v ≤ upperMiddle m e)
      else decide (lowerMiddle m e < v ∧ v < upperMiddle m e)) = true ↔ Near m e v := by
  split_ifs with heven
  · rw [decide_eq_true_iff]
    have hodd : ¬m % 2 = 1 := by
      have := beq_iff_eq.mp heven
      omega
    exact ⟨fun h => ⟨h.1, h.2, fun h => absurd h hodd⟩, fun h => ⟨h.lower, h.upper⟩⟩
  · rw [decide_eq_true_iff]
    have hodd : m % 2 = 1 := by
      have : m % 2 ≠ 0 := by simpa using heven
      omega
    exact ⟨fun h => ⟨h.1.le, h.2.le, fun _ => h⟩, fun h => h.strict hodd⟩

/-! ## The search -/

section Search

variable {m : ℕ} {e : ℤ} {q : ℚ} {p : ℤ} {d : Digits}

/-- The number that digits and an exponent write. -/
def Digits.value (d : Digits) : ℚ :=
  d.digits * 10 ^ d.exponent

/-- What is found on a grid lies between the middles. -/
lemma near_of_gridHit (hm : 0 < m) (h : gridHit q (roundingInterval m e) p = some d) :
    Near m e d.value := by
  unfold gridHit at h
  rw [roundingInterval_eq hm, tenPow_eq] at h
  dsimp only at h
  split at h
  · rename_i hdown hup
    rw [inside_iff] at hdown hup
    split_ifs at h <;> cases h <;> first | exact hdown | exact hup
  · rename_i hdown _
    rw [inside_iff] at hdown
    cases h
    exact hdown
  · rename_i _ hup
    rw [inside_iff] at hup
    cases h
    exact hup
  · cases h

/-- Two neighbours on a grid that is finer than the interval of a number between them cannot both
miss it. -/
lemma gridHit_ne_none (hm : 0 < m) (hlow : lowerMiddle m e < q) (hhigh : q < upperMiddle m e)
    (hfine : (10 : ℚ) ^ p < upperMiddle m e - lowerMiddle m e) :
    gridHit q (roundingInterval m e) p ≠ none := by
  have hstep : (0 : ℚ) < 10 ^ p := ten_zpow_pos p
  have hq : 0 < q := (lowerMiddle_pos hm e).trans hlow
  obtain ⟨g, hg⟩ : ∃ g, g = (q / 10 ^ p).floor.toNat := ⟨_, rfl⟩
  have hfloor : (g : ℤ) = (q / 10 ^ p).floor := by
    rw [hg]
    exact Int.toNat_of_nonneg (Rat.le_floor_iff.mpr (by exact_mod_cast (div_pos hq hstep).le))
  have hdown : (g : ℚ) * 10 ^ p ≤ q := by
    have hle := Rat.floor_le (q / 10 ^ p)
    rw [← hfloor, le_div_iff₀ hstep] at hle
    exact_mod_cast hle
  have hup : q < ((g + 1 : ℕ) : ℚ) * 10 ^ p := by
    have hlt := Rat.lt_floor_add_one (q / 10 ^ p)
    rw [← hfloor, div_lt_iff₀ hstep] at hlt
    exact_mod_cast hlt
  intro h
  unfold gridHit at h
  rw [roundingInterval_eq hm, tenPow_eq] at h
  dsimp only at h
  rw [← hg] at h
  split at h
  · split_ifs at h
  · cases h
  · cases h
  · rename_i hmiss hmiss'
    rw [← Bool.not_eq_true, inside_iff] at hmiss hmiss'
    have hbelow : (g : ℚ) * 10 ^ p ≤ lowerMiddle m e :=
      not_lt.mp fun hlt => hmiss (.of_lt hlt (hdown.trans_lt hhigh))
    have habove : upperMiddle m e ≤ ((g + 1 : ℕ) : ℚ) * 10 ^ p :=
      not_lt.mp fun hlt => hmiss' (.of_lt (hlow.trans hup) hlt)
    push_cast at habove
    linarith

/-- Seventeen digits are fine enough. -/
lemma seventeen_fine (hm : 0 < m) (h : Canonical m e) :
    (10 : ℚ) ^ (decimalExponent (m * 2 ^ e) - 16) < upperMiddle m e - lowerMiddle m e := by
  have hpow : (0 : ℚ) < 2 ^ e := zpow_pos (by norm_num) e
  have hmpos : (0 : ℚ) < m := by exact_mod_cast hm
  have hexponent := ten_zpow_decimalExponent_le (mul_pos hmpos hpow)
  have hmantissa : (m : ℚ) < 2 ^ 53 := by
    rw [← cast_twoTo]
    exact_mod_cast h.mantissa_lt
  rw [zpow_sub₀ (by norm_num), div_lt_iff₀ (by norm_num)]
  refine hexponent.trans_lt ?_
  unfold upperMiddle lowerMiddle
  split_ifs with hnarrow
  · have hm52 : (m : ℚ) = 2 ^ 52 := by
      rw [hnarrow.1, cast_twoTo]
    rw [hm52]
    norm_num
    nlinarith
  · have hwidth : ((m : ℚ) + 1 / 2) * 2 ^ e - (m - 1 / 2) * 2 ^ e = 2 ^ e := by ring
    have hlarge : (m : ℚ) < 10 ^ (16 : ℤ) := hmantissa.trans (by norm_num)
    rw [hwidth, mul_comm]
    exact mul_lt_mul_of_pos_left hlarge hpow

/-- The shortest digits of a value lie between the middles to its neighbours. -/
theorem shortest_near (hm : 0 < m) (h : Canonical m e) : Near m e (shortest m e).value := by
  have hpow : (0 : ℚ) < 2 ^ e := zpow_pos (by norm_num) e
  have hlow : lowerMiddle m e < m * 2 ^ e := by
    refine mul_lt_mul_of_pos_right ?_ hpow
    split_ifs <;> linarith
  have hhigh : m * 2 ^ e < upperMiddle m e :=
    mul_lt_mul_of_pos_right (by linarith) hpow
  unfold shortest
  dsimp only
  rw [twoPow_eq]
  cases hfound : (List.range 17).findSome? fun n : ℕ =>
      gridHit (m * 2 ^ e) (roundingInterval m e) (decimalExponent (m * 2 ^ e) - n) with
  | some d =>
    obtain ⟨n, -, hn⟩ := List.exists_of_findSome?_eq_some hfound
    exact near_of_gridHit hm hn
  | none =>
    have hlast := List.findSome?_eq_none_iff.mp hfound 16 (by simp)
    exact absurd hlast (gridHit_ne_none hm hlow hhigh (seventeen_fine hm h))

lemma digits_shortest_pos (hm : 0 < m) (h : Canonical m e) : 0 < (shortest m e).digits := by
  have hpos := (lowerMiddle_pos hm e).trans_le (shortest_near hm h).lower
  by_contra hzero
  rw [Digits.value, Nat.eq_zero_of_not_pos hzero, Nat.cast_zero, zero_mul] at hpos
  exact lt_irrefl _ hpos

end Search

/-! ## Reading -/

lemma two_zpow_pos (e : ℤ) : (0 : ℚ) < 2 ^ e :=
  zpow_pos (by norm_num) e

lemma upperMiddle_lt {m : ℕ} {e : ℤ} (h : Canonical m e) : upperMiddle m e < 10 ^ (310 : ℤ) := by
  have hmantissa : (m : ℚ) + 1 ≤ 2 ^ 53 := by
    rw [← cast_twoTo]
    exact_mod_cast h.mantissa_lt
  have hexponent : (2 : ℚ) ^ e ≤ 2 ^ (971 : ℤ) :=
    zpow_le_zpow_right₀ (by norm_num) h.exponent_le
  calc upperMiddle m e ≤ 2 ^ 53 * 2 ^ (971 : ℤ) :=
        mul_le_mul (by linarith) hexponent (two_zpow_pos e).le (by norm_num)
    _ = (twoTo 1024 : ℕ) := by
      rw [cast_twoTo, ← zpow_natCast, ← zpow_natCast, ← zpow_add₀ (by norm_num)]
      rfl
    _ < (tenTo 310 : ℕ) := by exact_mod_cast (show twoTo 1024 < tenTo 310 by decide +kernel)
    _ = 10 ^ (310 : ℤ) := by
      rw [cast_tenTo, ← zpow_natCast]
      rfl

lemma lt_lowerMiddle {m : ℕ} {e : ℤ} (hm : 0 < m) (h : Canonical m e) :
    (10 : ℚ) ^ (-330 : ℤ) < lowerMiddle m e := by
  have hone : (1 : ℚ) ≤ m := by exact_mod_cast hm
  have hexponent : (2 : ℚ) ^ (-1074 : ℤ) ≤ 2 ^ e :=
    zpow_le_zpow_right₀ (by norm_num) h.exponent_ge
  have hsmall : (10 : ℚ) ^ (-330 : ℤ) < 2 ^ (-1075 : ℤ) := by
    have hnat : ((twoTo 1075 : ℕ) : ℚ) < (tenTo 330 : ℕ) := by
      exact_mod_cast (show twoTo 1075 < tenTo 330 by decide +kernel)
    rw [cast_twoTo, cast_tenTo, ← zpow_natCast, ← zpow_natCast] at hnat
    rw [zpow_neg, zpow_neg, inv_lt_inv₀ (ten_zpow_pos _) (two_zpow_pos _)]
    exact hnat
  calc (10 : ℚ) ^ (-330 : ℤ) < 2 ^ (-1075 : ℤ) := hsmall
    _ = 1 / 2 * 2 ^ (-1074 : ℤ) := by
      rw [show (-1075 : ℤ) = -1 + -1074 by norm_num, zpow_add₀ (by norm_num)]
      norm_num
    _ ≤ lowerMiddle m e := by
      refine mul_le_mul ?_ hexponent (two_zpow_pos _).le ?_ <;> split_ifs <;> linarith

/-- The values lie well within the range that is read. -/
lemma size_bounds {m n : ℕ} {e k : ℤ} (hm : 0 < m) (h : Canonical m e) (hn : n ≠ 0)
    (hnear : Near m e (n * 10 ^ k)) :
    -400 ≤ ((decimalText n).length : ℤ) + k ∧ ((decimalText n).length : ℤ) + k ≤ 400 := by
  obtain ⟨hleast, hmost⟩ := ten_zpow_length hn
  have hlow : (10 : ℚ) ^ (((decimalText n).length : ℤ) - 1 + k) ≤ n * 10 ^ k := by
    rw [zpow_add₀ (by norm_num)]
    exact mul_le_mul_of_nonneg_right hleast (ten_zpow_pos k).le
  have hhigh : (n : ℚ) * 10 ^ k < 10 ^ (((decimalText n).length : ℤ) + k) := by
    rw [zpow_add₀ (by norm_num)]
    exact mul_lt_mul_of_pos_right hmost (ten_zpow_pos k)
  have hupper := upperMiddle_lt h
  have hlower := lt_lowerMiddle hm h
  have h1 := (zpow_lt_zpow_iff_right₀ (by norm_num : (1 : ℚ) < 10)).mp
    (hlow.trans_lt (hnear.upper.trans_lt hupper))
  have h2 := (zpow_lt_zpow_iff_right₀ (by norm_num : (1 : ℚ) < 10)).mp
    (hlower.trans (hnear.lower.trans_lt hhigh))
  omega

/-- A decimal that lies between the middles to the neighbours of a value is read as the value. -/
theorem toBinary64_eq {negative : Bool} {m n : ℕ} {e k : ℤ} (hm : 0 < m) (h : Canonical m e)
    (hnear : Near m e (n * 10 ^ k)) : toBinary64 negative n k = .finite negative m e h := by
  have hn : n ≠ 0 := by
    rintro rfl
    have hpos := (lowerMiddle_pos hm e).trans_le hnear.lower
    rw [Nat.cast_zero, zero_mul] at hpos
    exact lt_irrefl _ hpos
  obtain ⟨hleast, hmost⟩ := size_bounds hm h hn hnear
  unfold toBinary64
  dsimp only
  rw [if_neg (by omega), if_neg (by omega)]
  split_ifs with hk
  · obtain ⟨i, rfl⟩ := Int.eq_ofNat_of_zero_le hk
    refine ofRatio_eq (Nat.mul_ne_zero hn (tenTo_pos _).ne') one_ne_zero h ?_
    rw [Int.toNat_natCast]
    push_cast
    rw [cast_tenTo, div_one, ← zpow_natCast]
    exact hnear
  · obtain ⟨i, hi⟩ := Int.eq_ofNat_of_zero_le (show 0 ≤ -k by omega)
    refine ofRatio_eq hn (tenTo_pos _).ne' h ?_
    rw [hi, Int.toNat_natCast, cast_tenTo, ← zpow_natCast, ← hi, zpow_neg, div_inv_eq_mul]
    exact hnear

end MetricsAgent.Decimal
