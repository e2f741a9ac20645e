import Mathlib.Algebra.Order.Field.Power
import Mathlib.Data.Rat.Cast.Order
import Mathlib.Tactic.FieldSimp
import Mathlib.Tactic.Linarith
import Mathlib.Tactic.NormNum
import Mathlib.Tactic.Positivity
import Mathlib.Tactic.Ring
import MetricsAgent.Number.Decimal
import MetricsAgent.Proofs.Number.Range

/-!
# Rounding to the nearest value

An exact number that lies between the middles to the neighbours of a value rounds to this value
(`Binary64.ofRatio_eq`).  The middles themselves belong to the value whose mantissa is even.
-/

namespace MetricsAgent

/-! ## Powers as exact numbers -/

lemma cast_twoTo (n : ℕ) : (twoTo n : ℚ) = 2 ^ n := by
  show ((2 ^ n : ℕ) : ℚ) = 2 ^ n
  norm_num

lemma cast_tenTo (n : ℕ) : (tenTo n : ℚ) = 10 ^ n := by
  show ((10 ^ n : ℕ) : ℚ) = 10 ^ n
  norm_num

namespace Binary64

lemma twoPow_eq (e : ℤ) : twoPow e = 2 ^ e := by
  unfold twoPow
  split_ifs with he
  · obtain ⟨n, rfl⟩ := Int.eq_ofNat_of_zero_le he
    rw [Int.toNat_natCast, cast_twoTo, zpow_natCast]
  · obtain ⟨n, hn⟩ := Int.eq_ofNat_of_zero_le (show 0 ≤ -e by omega)
    rw [hn, Int.toNat_natCast, cast_twoTo, one_div, ← zpow_natCast, ← zpow_neg, ← hn, neg_neg]

/-- Scaling a fraction by a power of two that may be negative. -/
lemma scaled_eq (num den : ℕ) (e : ℤ) :
    ((num * twoTo (-e).toNat : ℕ) : ℚ) / (den * twoTo e.toNat : ℕ) = num / den / 2 ^ e := by
  have htwo : (2 : ℚ) ^ e = 2 ^ e.toNat / 2 ^ (-e).toNat := by
    rw [← zpow_natCast, ← zpow_natCast, ← zpow_sub₀ (by norm_num)]
    congr 1
    omega
  rw [htwo]
  push_cast
  rw [cast_twoTo, cast_twoTo]
  field_simp

/-! ## Exponents -/

lemma two_zpow_log2 {n : ℕ} (hn : n ≠ 0) :
    (2 : ℚ) ^ (n.log2 : ℤ) ≤ n ∧ (n : ℚ) < 2 ^ ((n.log2 : ℤ) + 1) := by
  have hlow : twoTo n.log2 ≤ n := twoTo_log2_le hn
  have hhigh : n < twoTo (n.log2 + 1) := lt_twoTo_log2 n
  have hlow' : (twoTo n.log2 : ℚ) ≤ n := by exact_mod_cast hlow
  have hhigh' : (n : ℚ) < (twoTo (n.log2 + 1) : ℕ) := by exact_mod_cast hhigh
  rw [cast_twoTo] at hlow' hhigh'
  exact ⟨by exact_mod_cast hlow', by exact_mod_cast hhigh'⟩

/-- The binary exponent of a fraction. -/
lemma binaryExponent_spec {num den : ℕ} (hnum : num ≠ 0) (hden : den ≠ 0) :
    (2 : ℚ) ^ binaryExponent num den ≤ num / den ∧
      (num / den : ℚ) < 2 ^ (binaryExponent num den + 1) := by
  obtain ⟨hnumlow, hnumhigh⟩ := two_zpow_log2 hnum
  obtain ⟨hdenlow, hdenhigh⟩ := two_zpow_log2 hden
  have hdenpos : (0 : ℚ) < den := by exact_mod_cast Nat.pos_of_ne_zero hden
  have hpow (e : ℤ) : (0 : ℚ) < 2 ^ e := zpow_pos (by norm_num) e
  obtain ⟨d, hd⟩ : ∃ d : ℤ, d = (num.log2 : ℤ) - (den.log2 : ℤ) := ⟨_, rfl⟩
  have hcompare : den * twoTo d.toNat ≤ num * twoTo (-d).toNat ↔ (2 : ℚ) ^ d ≤ num / den := by
    have hscale : (0 : ℚ) < (den * twoTo d.toNat : ℕ) := by
      exact_mod_cast Nat.mul_pos (Nat.pos_of_ne_zero hden) (twoTo_pos _)
    rw [← one_le_div (hpow d), ← scaled_eq, one_le_div hscale]
    exact Nat.cast_le.symm
  unfold binaryExponent
  dsimp only
  rw [← hd]
  by_cases hle : (2 : ℚ) ^ d ≤ num / den
  · rw [if_pos (hcompare.mpr hle)]
    refine ⟨hle, ?_⟩
    rw [div_lt_iff₀ hdenpos]
    calc (num : ℚ) < 2 ^ ((num.log2 : ℤ) + 1) := hnumhigh
      _ = 2 ^ (d + 1) * 2 ^ (den.log2 : ℤ) := by rw [← zpow_add₀ (by norm_num)]; congr 1; omega
      _ ≤ 2 ^ (d + 1) * den := mul_le_mul_of_nonneg_left hdenlow (hpow _).le
  · rw [if_neg (hcompare.not.mpr hle)]
    refine ⟨?_, by simpa using hle⟩
    rw [le_div_iff₀ hdenpos]
    calc (2 : ℚ) ^ (d - 1) * den ≤ 2 ^ (d - 1) * 2 ^ ((den.log2 : ℤ) + 1) :=
          mul_le_mul_of_nonneg_left hdenhigh.le (hpow _).le
      _ = 2 ^ (num.log2 : ℤ) := by rw [← zpow_add₀ (by norm_num)]; congr 1; omega
      _ ≤ num := hnumlow

/-- A fraction has one binary exponent. -/
lemma binaryExponent_eq {num den : ℕ} (hnum : num ≠ 0) (hden : den ≠ 0) {b : ℤ}
    (hlow : (2 : ℚ) ^ b ≤ num / den) (hhigh : (num / den : ℚ) < 2 ^ (b + 1)) :
    binaryExponent num den = b := by
  obtain ⟨hlow', hhigh'⟩ := binaryExponent_spec hnum hden
  have hle := (zpow_lt_zpow_iff_right₀ (by norm_num : (1 : ℚ) < 2)).mp (hlow.trans_lt hhigh')
  have hge := (zpow_lt_zpow_iff_right₀ (by norm_num : (1 : ℚ) < 2)).mp (hlow'.trans_lt hhigh)
  omega

/-! ## Mantissas -/

/-- A fraction rounds to the whole number that it is within a half of; the halves themselves round
to an even one. -/
lemma roundHalfEven_eq {num den q : ℕ} (hden : 0 < den) (hlow : (q : ℚ) - 1 / 2 ≤ num / den)
    (hhigh : (num / den : ℚ) ≤ q + 1 / 2)
    (hodd : q % 2 = 1 → (q : ℚ) - 1 / 2 < num / den ∧ (num / den : ℚ) < q + 1 / 2) :
    roundHalfEven num den = q := by
  have hdenpos : (0 : ℚ) < den := by exact_mod_cast hden
  have hsplit := Nat.div_add_mod num den
  have hrest := Nat.mod_lt num hden
  rw [le_div_iff₀ hdenpos] at hlow
  rw [div_le_iff₀ hdenpos] at hhigh
  rw [lt_div_iff₀ hdenpos, div_lt_iff₀ hdenpos] at hodd
  have hlow' : 2 * q * den ≤ 2 * num + den := by
    have : ((2 * q * den : ℕ) : ℚ) ≤ (2 * num + den : ℕ) := by push_cast; linarith
    exact_mod_cast this
  have hhigh' : 2 * num ≤ 2 * q * den + den := by
    have : ((2 * num : ℕ) : ℚ) ≤ (2 * q * den + den : ℕ) := by push_cast; linarith
    exact_mod_cast this
  have hodd' : q % 2 = 1 → 2 * q * den < 2 * num + den ∧ 2 * num < 2 * q * den + den := by
    intro hq
    obtain ⟨hl, hh⟩ := hodd hq
    have hl' : ((2 * q * den : ℕ) : ℚ) < (2 * num + den : ℕ) := by push_cast; linarith
    have hh' : ((2 * num : ℕ) : ℚ) < (2 * q * den + den : ℕ) := by push_cast; linarith
    exact ⟨by exact_mod_cast hl', by exact_mod_cast hh'⟩
  obtain ⟨k, hk⟩ : ∃ k, k = num / den := ⟨_, rfl⟩
  obtain ⟨r, hr⟩ : ∃ r, r = num % den := ⟨_, rfl⟩
  unfold roundHalfEven
  dsimp only
  rw [← hk, ← hr] at hsplit ⊢
  rw [← hr] at hrest
  have hle : k ≤ q := by
    by_contra hlt
    have hstep : den * (q + 1) ≤ den * k := Nat.mul_le_mul_left den (by omega)
    nlinarith
  have hge : q ≤ k + 1 := by
    by_contra hlt
    have hstep : den * (k + 2) ≤ den * q := Nat.mul_le_mul_left den (by omega)
    nlinarith
  obtain rfl | rfl : q = k ∨ q = k + 1 := by omega
  · have htwice : 2 * r ≤ den := by nlinarith
    have hstrict : q % 2 = 1 → 2 * r < den := fun hq => by nlinarith [hodd' hq]
    split_ifs <;> omega
  · have htwice : den ≤ 2 * r := by nlinarith
    have hstrict : (k + 1) % 2 = 1 → den < 2 * r := fun hq => by nlinarith [hodd' hq]
    split_ifs <;> omega

/-! ## The numbers that round to a value -/

/-- The middle between `m · 2^e` and the value below it, and the middle to the value above it. -/
def lowerMiddle (m : ℕ) (e : ℤ) : ℚ :=
  (m - if m = twoTo 52 ∧ -1074 < e then 1 / 4 else 1 / 2) * 2 ^ e

def upperMiddle (m : ℕ) (e : ℤ) : ℚ :=
  (m + 1 / 2) * 2 ^ e

/-- A number is nearer to `m · 2^e` than to any other value, or as near to it and `m` is even. -/
structure Near (m : ℕ) (e : ℤ) (v : ℚ) : Prop where
  lower : lowerMiddle m e ≤ v
  upper : v ≤ upperMiddle m e
  strict : m % 2 = 1 → lowerMiddle m e < v ∧ v < upperMiddle m e

lemma Near.of_lt {m : ℕ} {e : ℤ} {v : ℚ} (hlow : lowerMiddle m e < v)
    (hhigh : v < upperMiddle m e) : Near m e v :=
  ⟨hlow.le, hhigh.le, fun _ => ⟨hlow, hhigh⟩⟩

section OfRatio

variable {negative : Bool} {num den m : ℕ} {e : ℤ} (hnum : num ≠ 0) (hden : den ≠ 0)
  (h : Canonical m e) (hnear : Near m e (num / den))

include hnum hden hnear

/-- Among the numbers whose mantissa is cut at the exponent of the value. -/
lemma ofRatio_eq_of_exponent (hexponent : max (binaryExponent num den - 52) (-1074) = e) :
    ofRatio negative num den = finite negative m e h := by
  have hpow : (0 : ℚ) < 2 ^ e := zpow_pos (by norm_num) e
  have hhalf : ((m : ℚ) - 1 / 2) * 2 ^ e ≤ lowerMiddle m e := by
    refine mul_le_mul_of_nonneg_right ?_ hpow.le
    split_ifs <;> linarith
  have hround : roundHalfEven (num * twoTo (-e).toNat) (den * twoTo e.toNat) = m := by
    refine roundHalfEven_eq (Nat.mul_pos (Nat.pos_of_ne_zero hden) (twoTo_pos _)) ?_ ?_ ?_
    · rw [scaled_eq, le_div_iff₀ hpow]
      exact hhalf.trans hnear.lower
    · rw [scaled_eq, div_le_iff₀ hpow]
      exact hnear.upper
    · intro hodd
      rw [scaled_eq, lt_div_iff₀ hpow, div_lt_iff₀ hpow]
      exact ⟨hhalf.trans_lt (hnear.strict hodd).1, (hnear.strict hodd).2⟩
  have htop : m ≠ twoTo 53 := h.mantissa_lt.ne
  unfold ofRatio
  rw [if_neg hnum, hexponent]
  dsimp only
  rw [hround, if_neg htop]
  exact dif_pos h

/-- Just below a power of two the values lie closer: from there one rounds up to the next exponent. -/
lemma ofRatio_eq_of_lt (hleast : -1074 < e) (hlt : (num / den : ℚ) < 2 ^ (e + 52)) :
    ofRatio negative num den = finite negative m e h := by
  have hpow : (0 : ℚ) < 2 ^ e := zpow_pos (by norm_num) e
  have hbound : (num / den : ℚ) < 2 ^ 52 * 2 ^ e := by
    rwa [zpow_add₀ (by norm_num), mul_comm] at hlt
  have hnormal : twoTo 52 ≤ m := h.normal.resolve_left hleast.ne'
  have hm : m = twoTo 52 := by
    by_contra hne
    have hlower := hnear.lower
    unfold lowerMiddle at hlower
    rw [if_neg fun hand => hne hand.1] at hlower
    have hstep : ((twoTo 52 + 1 : ℕ) : ℚ) ≤ m := by exact_mod_cast (show twoTo 52 + 1 ≤ m by omega)
    push_cast at hstep
    rw [cast_twoTo] at hstep
    nlinarith
  have hlower : ((2 : ℚ) ^ 52 - 1 / 4) * 2 ^ e ≤ num / den := by
    have hlower := hnear.lower
    unfold lowerMiddle at hlower
    rwa [if_pos ⟨hm, hleast⟩, hm, cast_twoTo] at hlower
  have hexponent : binaryExponent num den = e + 51 := by
    refine binaryExponent_eq hnum hden ?_ (by rwa [add_assoc])
    rw [zpow_add₀ (by norm_num)]
    norm_num at hlower ⊢
    linarith
  have hcut : max (binaryExponent num den - 52) (-1074) = e - 1 := by
    rw [hexponent]
    omega
  have hprev : (2 : ℚ) ^ (e - 1) = 2 ^ e / 2 := by
    rw [zpow_sub₀ (by norm_num), zpow_one]
  have hround : roundHalfEven (num * twoTo (-(e - 1)).toNat) (den * twoTo (e - 1).toNat)
      = twoTo 53 := by
    have hprevpos : (0 : ℚ) < 2 ^ e / 2 := half_pos hpow
    refine roundHalfEven_eq (Nat.mul_pos (Nat.pos_of_ne_zero hden) (twoTo_pos _)) ?_ ?_ ?_
    · rw [scaled_eq, hprev, le_div_iff₀ hprevpos, cast_twoTo]
      norm_num at hlower ⊢
      linarith
    · rw [scaled_eq, hprev, div_le_iff₀ hprevpos, cast_twoTo]
      norm_num at hbound ⊢
      linarith
    · intro hodd
      exact absurd hodd (by decide)
  subst hm
  unfold ofRatio
  rw [if_neg hnum, hcut]
  dsimp only
  rw [hround, if_pos rfl]
  dsimp only
  rw [Int.sub_add_cancel]
  exact dif_pos h

/-- A number rounds to the value that it is nearest to. -/
theorem ofRatio_eq : ofRatio negative num den = finite negative m e h := by
  have hhigh : (num / den : ℚ) < 2 ^ (e + 52 + 1) := by
    have hm : (m : ℚ) + 1 ≤ 2 ^ 53 := by
      rw [← cast_twoTo]
      exact_mod_cast h.mantissa_lt
    have hpow : (0 : ℚ) < 2 ^ e := zpow_pos (by norm_num) e
    have hupper := hnear.upper
    unfold upperMiddle at hupper
    rw [add_assoc, zpow_add₀ (by norm_num)]
    have hlt : (m + 1 / 2) * (2 : ℚ) ^ e < 2 ^ e * 2 ^ ((52 : ℤ) + 1) := by
      rw [mul_comm]
      refine mul_lt_mul_of_pos_left ?_ hpow
      norm_num at hm ⊢
      linarith
    exact hupper.trans_lt hlt
  rcases le_or_gt ((2 : ℚ) ^ (e + 52)) (num / den) with hlow | hlow
  · refine ofRatio_eq_of_exponent hnum hden h hnear ?_
    rw [binaryExponent_eq hnum hden hlow hhigh]
    have := h.exponent_ge
    omega
  · rcases h.exponent_ge.lt_or_eq with hleast | hleast
    · exact ofRatio_eq_of_lt hnum hden h hnear hleast hlow
    · refine ofRatio_eq_of_exponent hnum hden h hnear ?_
      have hle := (zpow_lt_zpow_iff_right₀ (by norm_num : (1 : ℚ) < 2)).mp
        ((binaryExponent_spec hnum hden).1.trans_lt hlow)
      omega

end OfRatio

/-! ## Signs -/

lemma isNegative_pack (negative : Bool) (m : ℕ) (e : ℤ) :
    (if h : Canonical m e then finite negative m e h else infinite negative).isNegative
      = negative := by
  split_ifs
  · rfl
  · rfl

/-- Rounding keeps the sign. -/
lemma isNegative_ofRatio (negative : Bool) (num den : ℕ) :
    (ofRatio negative num den).isNegative = negative := by
  unfold ofRatio
  split
  · rfl
  · dsimp only
    exact isNegative_pack _ _ _

lemma exists_toRat? {x : Binary64} (hx : x.isFinite = true) (hsign : x.isNegative = false) :
    ∃ q, x.toRat? = some q ∧ 0 ≤ q := by
  cases x with
  | nan => cases hx
  | infinite negative => cases hx
  | finite negative m e h =>
    cases hsign
    refine ⟨_, rfl, ?_⟩
    rw [if_neg Bool.false_ne_true, twoPow_eq]
    positivity

end Binary64
end MetricsAgent
