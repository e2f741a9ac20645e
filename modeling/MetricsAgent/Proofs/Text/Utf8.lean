import Mathlib.Tactic.Common
import MetricsAgent.Text.Utf8

/-!
# Texts as bytes

The bytes of a text are those of its characters one after the other, and decoding them gives the
text back (`Utf8.decode_toUTF8`).
-/

namespace MetricsAgent.Utf8

open String (utf8EncodeChar)

/-! ## The bytes of a text -/

lemma toList_loop (bs : ByteArray) (i : ℕ) (passed : List UInt8) :
    ByteArray.toList.loop bs i passed = passed.reverse ++ bs.data.toList.drop i := by
  fun_induction ByteArray.toList.loop bs i passed with
  | case1 i passed hlt ih =>
    have hi : i < bs.data.toList.length := by simpa using hlt
    have hget : bs.get! i = bs.data.toList[i] := by
      rw [Array.getElem_toList]
      exact getElem!_pos bs.data i (by simpa using hlt)
    rw [ih, List.drop_eq_getElem_cons hi, hget]
    simp
  | case2 i passed hge =>
    have hi : bs.data.toList.length ≤ i := by simpa using hge
    simp [List.drop_eq_nil_of_le hi]

lemma toList_toUTF8 (s : String) : s.toUTF8.toList = s.toList.flatMap utf8EncodeChar := by
  have hbytes : s.toUTF8 = (s.toList.flatMap utf8EncodeChar).toByteArray :=
    String.utf8Encode_toList.symm
  rw [hbytes, ByteArray.toList, toList_loop, List.toList_data_toByteArray]
  simp

/-! ## Characters -/

lemma lead?_two : ∀ n < 32, 2 ≤ n → lead? (UInt8.ofNat (n + 192)) = some (1, 0x80, 0xBF) := by
  decide

lemma lead?_three : ∀ n < 16, lead? (UInt8.ofNat (n + 224)) =
    some (2, if n = 0 then 0xA0 else 0x80, if n = 13 then 0x9F else 0xBF) := by
  decide

lemma lead?_four : ∀ n < 5, lead? (UInt8.ofNat (n + 240)) =
    some (3, if n = 0 then 0x90 else 0x80, if n = 4 then 0x8F else 0xBF) := by
  decide

lemma toNat_ofNat {n : ℕ} (h : n < 256) : (UInt8.ofNat n).toNat = n := by
  rw [UInt8.toNat_ofNat']
  exact Nat.mod_eq_of_lt h

/-- A byte that continues a character adds its six bits. -/
lemma continuation_cons {low high : UInt8} {value count d : ℕ} {rest : List UInt8} (hd : d < 64)
    (hlow : low.toNat ≤ d + 128) (hhigh : d + 128 ≤ high.toNat) :
    continuation low high value (count + 1) (UInt8.ofNat (d + 128) :: rest) =
      ((continuation 0x80 0xBF (64 * value + d) count rest).1,
        (continuation 0x80 0xBF (64 * value + d) count rest).2 + 1) := by
  have hbyte : (UInt8.ofNat (d + 128)).toNat = d + 128 := toNat_ofNat (by omega)
  have hrange : (low ≤ UInt8.ofNat (d + 128) && UInt8.ofNat (d + 128) ≤ high) = true := by
    simp only [UInt8.le_iff_toNat_le, hbyte, Bool.and_eq_true, decide_eq_true_eq]
    exact ⟨hlow, hhigh⟩
  rw [continuation, if_pos hrange, hbyte, Nat.add_sub_cancel]

/-- A leading byte with all bytes that have to follow. -/
lemma first_of_lead? {b low high : UInt8} {rest : List UInt8} {count v : ℕ} (bits : ℕ)
    (hb : 128 ≤ b.toNat) (hlead : lead? b = some (count, low, high))
    (hbits : (if count = 1 then b.toNat - 0xC0 else if count = 2 then b.toNat - 0xE0
      else b.toNat - 0xF0) = bits)
    (h : continuation low high bits count rest = (v, count)) :
    first b rest = .ok (Char.ofNat v, count + 1) := by
  have hlarge : ¬b < 0x80 := by
    rw [UInt8.lt_iff_toNat_lt]
    exact Nat.not_lt.mpr hb
  unfold first
  rw [if_neg hlarge, hlead]
  dsimp only
  rw [hbits, h, if_pos rfl]

lemma first_one {v : ℕ} (hv : v ≤ 127) (rest : List UInt8) :
    first (UInt8.ofNat v) rest = .ok (Char.ofNat v, 1) := by
  have hbyte : (UInt8.ofNat v).toNat = v := toNat_ofNat (by omega)
  have hsmall : UInt8.ofNat v < 0x80 := by
    rw [UInt8.lt_iff_toNat_lt, hbyte]
    exact Nat.lt_succ_of_le hv
  unfold first
  rw [if_pos hsmall, hbyte]

lemma first_two {d e : ℕ} (hd : d < 32) (hlow : 2 ≤ d) (he : e < 64) (rest : List UInt8) :
    first (UInt8.ofNat (d + 192)) (UInt8.ofNat (e + 128) :: rest) =
      .ok (Char.ofNat (64 * d + e), 2) := by
  have hbyte : (UInt8.ofNat (d + 192)).toNat = d + 192 := toNat_ofNat (by omega)
  refine first_of_lead? d (by omega) (lead?_two d hd hlow) ?_ ?_
  · rw [if_pos rfl, hbyte, Nat.add_sub_cancel]
  · rw [continuation_cons he (by simp) (by simp; omega)]
    rfl

lemma first_three {d e f : ℕ} (hd : d < 16) (hlow : d = 0 → 32 ≤ e) (hhigh : d = 13 → e < 32)
    (he : e < 64) (hf : f < 64) (rest : List UInt8) :
    first (UInt8.ofNat (d + 224)) (UInt8.ofNat (e + 128) :: UInt8.ofNat (f + 128) :: rest) =
      .ok (Char.ofNat (64 * (64 * d + e) + f), 3) := by
  have hbyte : (UInt8.ofNat (d + 224)).toNat = d + 224 := toNat_ofNat (by omega)
  refine first_of_lead? d (by omega) (lead?_three d hd) ?_ ?_
  · rw [if_neg (by decide), if_pos rfl, hbyte, Nat.add_sub_cancel]
  · rw [continuation_cons he (by split <;> simp; omega) (by split <;> simp <;> omega),
      continuation_cons hf (by simp) (by simp; omega)]
    rfl

lemma first_four {d e f g : ℕ} (hd : d < 5) (hlow : d = 0 → 16 ≤ e) (hhigh : d = 4 → e < 16)
    (he : e < 64) (hf : f < 64) (hg : g < 64) (rest : List UInt8) :
    first (UInt8.ofNat (d + 240))
      (UInt8.ofNat (e + 128) :: UInt8.ofNat (f + 128) :: UInt8.ofNat (g + 128) :: rest) =
      .ok (Char.ofNat (64 * (64 * (64 * d + e) + f) + g), 4) := by
  have hbyte : (UInt8.ofNat (d + 240)).toNat = d + 240 := toNat_ofNat (by omega)
  refine first_of_lead? d (by omega) (lead?_four d hd) ?_ ?_
  · rw [if_neg (by decide), if_neg (by decide), hbyte, Nat.add_sub_cancel]
  · rw [continuation_cons he (by split <;> simp; omega) (by split <;> simp <;> omega),
      continuation_cons hf (by simp) (by simp; omega),
      continuation_cons hg (by simp) (by simp; omega)]
    rfl

/-- The first of the bytes of a character and those behind it are read as the character. -/
lemma first_utf8EncodeChar (c : Char) (rest : List UInt8) :
    ∃ b bs, utf8EncodeChar c = b :: bs ∧ first b (bs ++ rest) = .ok (c, bs.length + 1) := by
  have hvalid : c.toNat < 0xD800 ∨ 0xDFFF < c.toNat ∧ c.toNat < 0x110000 := c.valid
  have hc : Char.ofNat c.toNat = c := Char.ofNat_toNat c
  unfold utf8EncodeChar
  rw [show c.val.toNat = c.toNat from rfl]
  generalize c.toNat = v at hvalid hc
  subst hc
  dsimp only
  split_ifs with hone htwo hthree
  · exact ⟨_, _, rfl, first_one hone _⟩
  · refine ⟨_, _, rfl, ?_⟩
    have hfirst := first_two (d := v / 64 % 32) (e := v % 64) (by omega) (by omega) (by omega) rest
    rwa [show 64 * (v / 64 % 32) + v % 64 = v by omega] at hfirst
  · refine ⟨_, _, rfl, ?_⟩
    have hfirst := first_three (d := v / 4096 % 16) (e := v / 64 % 64) (f := v % 64) (by omega)
      (by omega) (by omega) (by omega) (by omega) rest
    rwa [show 64 * (64 * (v / 4096 % 16) + v / 64 % 64) + v % 64 = v by omega] at hfirst
  · refine ⟨_, _, rfl, ?_⟩
    have hfirst := first_four (d := v / 262144 % 8) (e := v / 4096 % 64) (f := v / 64 % 64)
      (g := v % 64) (by omega) (by omega) (by omega) (by omega) (by omega) (by omega) rest
    rwa [show 64 * (64 * (64 * (v / 262144 % 8) + v / 4096 % 64) + v / 64 % 64) + v % 64 = v by
      omega] at hfirst

/-! ## Texts -/

lemma decodeSteps_flatMap {cs : List Char} {fuel position : ℕ}
    (h : (cs.flatMap utf8EncodeChar).length ≤ fuel) :
    decodeSteps fuel position (cs.flatMap utf8EncodeChar) = .ok cs := by
  induction cs generalizing fuel position with
  | nil =>
    unfold decodeSteps
    rfl
  | cons c cs ih =>
    obtain ⟨b, bs, hencode, hfirst⟩ := first_utf8EncodeChar c (cs.flatMap utf8EncodeChar)
    rw [List.flatMap_cons, hencode] at h ⊢
    cases fuel with
    | zero => simp at h
    | succ fuel =>
      have hfuel : (cs.flatMap utf8EncodeChar).length ≤ fuel := by
        simp only [List.cons_append, List.length_cons, List.length_append] at h
        omega
      rw [List.cons_append, decodeSteps, hfirst]
      dsimp only
      rw [Nat.add_sub_cancel, List.drop_left, ih hfuel]
      rfl

/-- The bytes of a text decode to the text. -/
theorem decode_toUTF8 (s : String) : decode s.toUTF8.toList = .ok s := by
  unfold decode
  rw [toList_toUTF8, decodeSteps_flatMap (Nat.le_refl _)]
  exact congrArg Except.ok (String.ofList_toList)

end MetricsAgent.Utf8
