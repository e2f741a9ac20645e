import Mathlib.Tactic.Ring
import MetricsAgent.Calendar.Reader
import MetricsAgent.Proofs.Calendar.Days
import MetricsAgent.Proofs.Results

/-!
# What is read is a time

Whether a time is given by the number of seconds since 1970 or by a text with a date, what the reader
makes of it is a time of the calendar, unless it lies in the year 0 (`DateTime.proper_of_read`).
-/

namespace MetricsAgent.DateTime

/-! ## Numbers of seconds -/

lemma proper_ofLocalMicros {micros : ℤ} (hlow : -62167219200 * 1000000 ≤ micros)
    (hhigh : micros < 253402300800 * 1000000)
    (hyear : (ofLocalMicros micros (some 0)).date.year ≠ 0) :
    (ofLocalMicros micros (some 0)).Proper := by
  unfold ofLocalMicros at hyear ⊢
  dsimp only at hyear ⊢
  rw [Int.fdiv_eq_ediv_of_nonneg _ (by decide), Int.fdiv_eq_ediv_of_nonneg _ (by decide)] at hyear ⊢
  refine ⟨Date.proper_ofDays (by omega) (by omega) hyear, ?_, ?_, ?_, ?_, ?_⟩
  · dsimp only
    omega
  · dsimp only
    omega
  · dsimp only
    omega
  · dsimp only
    omega
  · rintro o ⟨⟩
    decide

/-- A number of seconds that is accepted is one from the year 0 to the year 9999. -/
lemma proper_of_ofTimestamp {seconds : ℤ} {micros : ℕ} {t : DateTime}
    (h : ofTimestamp seconds micros = .ok t) (hyear : t.date.year ≠ 0) : t.Proper := by
  unfold ofTimestamp at h
  obtain ⟨-, h⟩ := of_ite_eq_ok h nofun
  obtain ⟨p, hp⟩ : ∃ p : ℤ × ℕ, p = (if seconds.natAbs ≤ millisecondWatershed.natAbs
    then (seconds, 0) else (seconds.fdiv 1000, (seconds.fmod 1000).toNat * 1000)) := ⟨_, rfl⟩
  rw [← hp] at h
  dsimp only at h
  have hpart : (micros + p.2) % 1000000 < 1000000 := Nat.mod_lt _ (by decide)
  generalize p.1 + (((micros + p.2) / 1000000 : ℕ) : ℤ) = s at h
  generalize (micros + p.2) % 1000000 = u at h hpart
  obtain ⟨hlow, h⟩ := of_ite_eq_ok h nofun
  obtain ⟨hhigh, h⟩ := of_ite_eq_ok h nofun
  cases h
  exact proper_ofLocalMicros (by omega) (by omega) hyear

lemma proper_of_ofSeconds {x : Binary64} {t : DateTime} (h : ofSeconds x = .ok t)
    (hyear : t.date.year ≠ 0) : t.Proper := by
  unfold ofSeconds at h
  split at h
  · cases h
  · exact proper_of_ofTimestamp h hyear

lemma proper_of_ofFraction {x : Binary64} {t : DateTime} (h : ofFraction x = .ok t)
    (hyear : t.date.year ≠ 0) : t.Proper :=
  proper_of_ofTimestamp h hyear

/-! ## Digits -/

lemma byteDigit?_le {b : UInt8} {n : ℕ} (h : byteDigit? b = some n) : n ≤ 9 := by
  unfold byteDigit? at h
  split at h
  · next hb =>
    simp only [Bool.and_eq_true, decide_eq_true_eq, UInt8.le_iff_toNat_le] at hb
    cases h
    have hnine : b.toNat ≤ 57 := hb.2
    omega
  · cases h

lemma foldl_digits_none (bs : List UInt8) :
    bs.foldl (fun n? b => do return 10 * (← n?) + (← byteDigit? b)) (none : Option ℕ) = none := by
  induction bs with
  | nil => rfl
  | cons b bs ih => exact ih

lemma byteDigits?_lt {bs : List UInt8} {n : ℕ} (h : byteDigits? bs = some n) :
    n < 10 ^ bs.length := by
  suffices hfold : ∀ k, bs.foldl (fun n? b => do return 10 * (← n?) + (← byteDigit? b)) (some k)
      = some n → n < (k + 1) * 10 ^ bs.length by
    simpa using hfold 0 h
  clear h
  induction bs with
  | nil =>
    rintro k ⟨⟩
    simp
  | cons b bs ih =>
    intro k h
    rw [List.foldl_cons] at h
    cases hb : byteDigit? b with
    | none =>
      rw [hb] at h
      cases (foldl_digits_none bs).symm.trans h
    | some x =>
      have hx := byteDigit?_le hb
      rw [hb] at h
      have hstep := ih (10 * k + x) h
      calc n < (10 * k + x + 1) * 10 ^ bs.length := hstep
        _ ≤ 10 * (k + 1) * 10 ^ bs.length := Nat.mul_le_mul_right _ (by omega)
        _ = (k + 1) * 10 ^ (b :: bs).length := by
          rw [List.length_cons]
          ring

lemma byteDigits?_take_lt {bs : List UInt8} {k n : ℕ} (h : byteDigits? (bs.take k) = some n) :
    n < 10 ^ k :=
  calc n < 10 ^ (bs.take k).length := byteDigits?_lt h
    _ ≤ 10 ^ k := Nat.pow_le_pow_right (by decide) (List.length_take_le k bs)

/-! ## Dates and clocks -/

lemma proper_of_dateAtStart {bs : List UInt8} {d : Date} (h : dateAtStart bs = .ok d)
    (hyear : d.year ≠ 0) : d.Proper := by
  unfold dateAtStart at h
  obtain ⟨-, h⟩ := of_ite_eq_ok h nofun
  cases hy : byteDigits? (bs.take 4) with
  | none =>
    rw [hy] at h
    cases h
  | some year =>
    rw [hy] at h
    dsimp only at h
    obtain ⟨-, h⟩ := of_ite_eq_ok h nofun
    cases hm : byteDigits? ((bs.drop 5).take 2) with
    | none =>
      rw [hm] at h
      cases h
    | some month =>
      rw [hm] at h
      dsimp only at h
      obtain ⟨-, h⟩ := of_ite_eq_ok h nofun
      cases hd : byteDigits? ((bs.drop 8).take 2) with
      | none =>
        rw [hd] at h
        cases h
      | some day =>
        rw [hd] at h
        dsimp only at h
        obtain ⟨hmonth, h⟩ := of_ite_eq_ok h nofun
        obtain ⟨hday, h⟩ := of_ite_eq_ok h nofun
        cases h
        have hlt : year < 10000 := byteDigits?_take_lt hy
        exact ⟨Nat.one_le_iff_ne_zero.mpr hyear, by dsimp only; omega, by dsimp only; omega,
          by dsimp only; omega, by dsimp only; omega, by dsimp only; omega⟩

/-- Whether a clock shows a time of day. -/
def IsClock (h m s u : ℕ) : Prop :=
  h < 24 ∧ m < 60 ∧ s < 60 ∧ u < 1000000

lemma isClock_of_clock? {bs rest : List UInt8} {h m s u : ℕ}
    (hclock : clock? bs = some ((h, m, s, u), rest)) : IsClock h m s u := by
  unfold clock? at hclock
  obtain ⟨⟨hour, bs⟩, -, hclock⟩ := Option.bind_eq_some_iff.mp hclock
  dsimp only at hclock
  split at hclock
  · obtain ⟨⟨minute, bs⟩, -, hclock⟩ := Option.bind_eq_some_iff.mp hclock
    dsimp only at hclock
    split at hclock
    · cases hclock
    · next hbounds =>
      split at hclock
      · obtain ⟨⟨second, bs⟩, -, hclock⟩ := Option.bind_eq_some_iff.mp hclock
        dsimp only at hclock
        split at hclock
        · cases hclock
        · next hsecond =>
          split at hclock
          · split at hclock
            · split at hclock
              · cases hclock
              · obtain ⟨micro, hmicro, hclock⟩ := Option.bind_eq_some_iff.mp hclock
                cases hclock
                exact ⟨by omega, by omega, by omega, byteDigits?_take_lt hmicro⟩
            · cases hclock
              exact ⟨by omega, by omega, by omega, by decide⟩
          · cases hclock
            exact ⟨by omega, by omega, by omega, by decide⟩
      · cases hclock
        exact ⟨by omega, by omega, by decide, by decide⟩
  · cases hclock

lemma natAbs_lt_of_signed {sign o : ℤ} {m seconds : ℕ} {rest : List UInt8}
    (hsign : sign.natAbs = 1)
    (h : (if 59 < m ∨ 86400 ≤ seconds ∨ rest ≠ [] then none else some (some (sign * (seconds : ℤ))))
      = some (some o)) : o.natAbs < 86400 := by
  split at h
  · cases h
  · next hbounds =>
    cases h
    rw [Int.natAbs_mul, hsign, Nat.one_mul, Int.natAbs_natCast]
    omega

lemma natAbs_lt_of_zone? {bs : List UInt8} {o : ℤ} (h : zone? bs = some (some o)) :
    o.natAbs < 86400 := by
  unfold zone? at h
  dsimp only at h
  split at h
  · cases h
  · cases h
    decide
  · cases h
    decide
  · obtain ⟨_, -, h⟩ := Option.bind_eq_some_iff.mp h
    obtain ⟨_, -, h⟩ := Option.bind_eq_some_iff.mp h
    exact natAbs_lt_of_signed rfl h
  · obtain ⟨_, -, h⟩ := Option.bind_eq_some_iff.mp h
    obtain ⟨_, -, h⟩ := Option.bind_eq_some_iff.mp h
    exact natAbs_lt_of_signed rfl h
  · obtain ⟨_, -, h⟩ := Option.bind_eq_some_iff.mp h
    obtain ⟨_, -, h⟩ := Option.bind_eq_some_iff.mp h
    exact natAbs_lt_of_signed rfl h
  · cases h

/-! ## Texts -/

lemma proper_midnight {d : Date} (hd : d.Proper) : (DateTime.mk d 0 0 0 0 none).Proper :=
  ⟨hd, by simp, by simp, by simp, by simp, nofun⟩

lemma proper_of_full? {bs : List UInt8} {t : DateTime} (h : full? bs = some t)
    (hyear : t.date.year ≠ 0) : t.Proper := by
  unfold full? at h
  obtain ⟨date, hdate, h⟩ := Option.bind_eq_some_iff.mp h
  obtain ⟨joint, -, h⟩ := Option.bind_eq_some_iff.mp h
  split at h
  · obtain ⟨⟨⟨hour, minute, second, micro⟩, rest⟩, hclock, h⟩ := Option.bind_eq_some_iff.mp h
    obtain ⟨offset, hzone, h⟩ := Option.bind_eq_some_iff.mp h
    cases h
    have hread : dateAtStart bs = .ok date := by
      cases hd : dateAtStart bs with
      | error e =>
        rw [hd] at hdate
        cases hdate
      | ok d =>
        rw [hd] at hdate
        cases hdate
        rfl
    obtain ⟨hh, hm, hs, hu⟩ := isClock_of_clock? hclock
    refine ⟨proper_of_dateAtStart hread hyear, hh, hm, hs, hu, ?_⟩
    rintro o rfl
    exact natAbs_lt_of_zone? hzone
  · cases h

/-- What is read from a text is a time of the calendar, unless it lies in the year 0. -/
theorem proper_of_read {bs : List UInt8} {t : DateTime} (h : read bs = .ok t)
    (hyear : t.date.year ≠ 0) : t.Proper := by
  unfold read at h
  dsimp only at h
  split at h
  · next hfull =>
    cases h
    exact proper_of_full? hfull hyear
  · next hnumber =>
    cases h
    split at hnumber
    · exact proper_of_ofTimestamp hnumber hyear
    · exact proper_of_ofFraction hnumber hyear
    · cases hnumber
  · split at h
    · next hdate =>
      obtain ⟨-, h⟩ := of_ite_eq_ok h nofun
      cases h
      exact proper_midnight (proper_of_dateAtStart hdate hyear)
    · split at h <;> cases h

end MetricsAgent.DateTime
