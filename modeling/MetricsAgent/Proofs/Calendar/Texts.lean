import MetricsAgent.Calendar.Reader
import MetricsAgent.Proofs.Calendar.Days
import MetricsAgent.Proofs.Json.Numerals
import MetricsAgent.Proofs.Text.Utf8

/-!
# Times as texts

A time is written in documents with all digits of its date and clock and, if it has one, with its
offset in hours and minutes.  Where the offset is in whole minutes nothing is lost: the text is read
as the time (`DateTime.read_documentText`).
-/

namespace MetricsAgent

open CharClass
open String (utf8EncodeChar)

namespace DateTime

/-- An offset in whole minutes, if there is one. -/
def InMinutes (t : DateTime) : Prop :=
  ∀ o, t.offset = some o → 60 ∣ o

/-! ## Digits -/

/-- Bytes that are the digits of a number, in a given width. -/
structure ByteNumber (width n : ℕ) (bs : List UInt8) : Prop where
  length : bs.length = width
  digit : ∀ b ∈ bs, (byteDigit? b).isSome = true
  value : byteDigits? bs = some n

lemma utf8EncodeChar_of_isAsciiDigit {c : Char} (hc : isAsciiDigit c = true) :
    ∃ b, utf8EncodeChar c = [b] ∧ byteDigit? b = digitValue? c := by
  have hbounds : 48 ≤ c.toNat ∧ c.toNat ≤ 57 := by
    unfold isAsciiDigit at hc
    simpa [Char.le_def, UInt32.le_iff_toNat_le] using hc
  have hbyte : (UInt8.ofNat c.toNat).toNat = c.toNat := Utf8.toNat_ofNat (by omega)
  have hencode : utf8EncodeChar c = [UInt8.ofNat c.toNat] := by
    unfold utf8EncodeChar
    exact if_pos (show c.toNat ≤ 127 by omega)
  refine ⟨_, hencode, ?_⟩
  rw [digitValue?_of_isAsciiDigit hc, byteDigit?, if_pos (by
    simp only [UInt8.le_iff_toNat_le, hbyte, Bool.and_eq_true, decide_eq_true_eq]
    exact hbounds), hbyte]

lemma byteDigits?_flatMap {cs : List Char} (hcs : ∀ c ∈ cs, isAsciiDigit c = true) (n : ℕ) :
    (cs.flatMap utf8EncodeChar).foldl (fun n? b => do return 10 * (← n?) + (← byteDigit? b)) (some n)
      = some (cs.foldl (fun n c => 10 * n + (digitValue? c).getD 0) n) := by
  induction cs generalizing n with
  | nil => rfl
  | cons c cs ih =>
    obtain ⟨hc, hcs⟩ := List.forall_mem_cons.mp hcs
    obtain ⟨b, hencode, hbyte⟩ := utf8EncodeChar_of_isAsciiDigit hc
    have hdigit := digitValue?_of_isAsciiDigit hc
    rw [List.flatMap_cons, hencode, List.singleton_append, List.foldl_cons, hbyte, hdigit,
      List.foldl_cons, hdigit]
    exact ih hcs _

lemma byteNumber_of_digits {cs : List Char} (hcs : ∀ c ∈ cs, isAsciiDigit c = true) :
    ByteNumber cs.length (digitsValue cs) (cs.flatMap utf8EncodeChar) := by
  refine ⟨?_, ?_, byteDigits?_flatMap hcs 0⟩
  · induction cs with
    | nil => rfl
    | cons c cs ih =>
      obtain ⟨hc, hcs⟩ := List.forall_mem_cons.mp hcs
      obtain ⟨b, hencode, -⟩ := utf8EncodeChar_of_isAsciiDigit hc
      rw [List.flatMap_cons, hencode, List.singleton_append, List.length_cons, ih hcs,
        List.length_cons]
  · intro b hb
    obtain ⟨c, hc, hb⟩ := List.mem_flatMap.mp hb
    obtain ⟨b', hencode, hbyte⟩ := utf8EncodeChar_of_isAsciiDigit (hcs c hc)
    rw [hencode, List.mem_singleton] at hb
    rw [hb, hbyte, digitValue?_of_isAsciiDigit (hcs c hc)]
    rfl

lemma byteNumber_padZeros {width n : ℕ} (hn : n < tenTo width) (hwidth : 0 < width) :
    ByteNumber width n (padZeros width n).toUTF8.toList := by
  have htext : (padZeros width n).toList
      = List.replicate (width - (Nat.toDigits 10 n).length) '0' ++ Nat.toDigits 10 n := by
    rw [padZeros, String.toList_append, String.toList_ofList, Decimal.length_decimalText,
      decimalText, String.toList_ofList]
  have hdigits : ∀ c ∈ (padZeros width n).toList, isAsciiDigit c = true := by
    intro c hc
    rw [htext] at hc
    rcases List.mem_append.mp hc with hc | hc
    · rw [List.eq_of_mem_replicate hc]
      rfl
    · exact isAsciiDigit_of_mem_toDigits hc
  have hlength : (padZeros width n).toList.length = width := by
    have hle := length_toDigits_le hn hwidth
    rw [htext, List.length_append, List.length_replicate]
    omega
  have hvalue : digitsValue (padZeros width n).toList = n := by
    rw [htext, digitsValue_append, digitsValue_zeros, digitsValue_toDigits, Nat.zero_mul,
      Nat.zero_add]
  have hnumber := byteNumber_of_digits hdigits
  rwa [hlength, hvalue, ← Utf8.toList_toUTF8] at hnumber

lemma ByteNumber.twoDigits? {n : ℕ} {bs : List UInt8} (h : ByteNumber 2 n bs) (rest : List UInt8) :
    twoDigits? (bs ++ rest) = some (n, rest) := by
  obtain ⟨a, b, rfl⟩ := List.length_eq_two.mp h.length
  obtain ⟨x, hx⟩ := Option.isSome_iff_exists.mp (h.digit a (by simp))
  obtain ⟨y, hy⟩ := Option.isSome_iff_exists.mp (h.digit b (by simp))
  have hvalue := h.value
  simp [byteDigits?, hx, hy] at hvalue
  simp [DateTime.twoDigits?, hx, hy, hvalue]

/-! ## Dates -/

lemma dateAtStart_append {d : Date} (hd : d.Proper) {ys ms ds : List UInt8}
    (hy : ByteNumber 4 d.year ys) (hm : ByteNumber 2 d.month ms) (hday : ByteNumber 2 d.day ds)
    (rest : List UInt8) : dateAtStart (ys ++ 45 :: (ms ++ 45 :: (ds ++ rest))) = .ok d := by
  have hlong : ¬(ys ++ 45 :: (ms ++ 45 :: (ds ++ rest))).length < 10 := by
    simp only [List.length_append, List.length_cons, hy.length, hm.length, hday.length]
    omega
  have hmonth : ¬(d.month < 1 ∨ 12 < d.month) :=
    not_or.mpr ⟨Nat.not_lt.mpr hd.month_pos, Nat.not_lt.mpr hd.month_le⟩
  have hdays : ¬(d.day < 1 ∨ Date.daysInMonth d.year d.month < d.day) :=
    not_or.mpr ⟨Nat.not_lt.mpr hd.day_pos, Nat.not_lt.mpr hd.day_le⟩
  obtain ⟨y, ys, rfl⟩ := List.exists_of_length_succ _ hy.length
  obtain ⟨k, l, n, rfl⟩ := List.length_eq_three.mp (Nat.succ.inj hy.length)
  obtain ⟨a, b, rfl⟩ := List.length_eq_two.mp hm.length
  obtain ⟨p, q, rfl⟩ := List.length_eq_two.mp hday.length
  have hyear : byteDigits? [y, k, l, n] = some d.year := hy.value
  have hmonths : byteDigits? [a, b] = some d.month := hm.value
  have hdigits : byteDigits? [p, q] = some d.day := hday.value
  unfold dateAtStart
  rw [if_neg hlong]
  simp only [List.cons_append, List.nil_append, List.take_succ_cons, List.take_zero,
    List.drop_succ_cons, List.drop_zero, hyear, hmonths, hdigits]
  rw [if_neg hmonth, if_neg hdays]
  rfl

/-! ## Clocks -/

/-- What stands behind a clock: nothing that would belong to it. -/
structure EndsClock (bs : List UInt8) : Prop where
  digit : ∀ b ∈ bs.head?, byteDigit? b = none
  point : ∀ b ∈ bs.head?, b ≠ 46 ∧ b ≠ 44

lemma takeWhile_digits {width n : ℕ} {bs rest : List UInt8} (hbs : ByteNumber width n bs)
    (hrest : EndsClock rest) :
    (bs ++ rest).takeWhile (fun b => (byteDigit? b).isSome) = bs := by
  rw [List.takeWhile_append_of_pos hbs.digit]
  cases rest with
  | nil => simp
  | cons b rest =>
    have hb := hrest.digit b (by simp)
    rw [List.takeWhile_cons_of_neg (by simp [hb]), List.append_nil]

/-- The digits of a clock, with those of a part of a second unless there is none. -/
lemma clock?_append {h m s u : ℕ} {hs ms ss us rest : List UInt8} (hh : h < 24) (hm : m < 60)
    (hsec : s < 60) (hhs : ByteNumber 2 h hs) (hms : ByteNumber 2 m ms) (hss : ByteNumber 2 s ss)
    (hus : ByteNumber 6 u us) (hrest : EndsClock rest) :
    clock? (hs ++ 58 :: (ms ++ 58 :: (ss ++ ((if u = 0 then [] else 46 :: us) ++ rest))))
      = some ((h, m, s, u), rest) := by
  have hclock : ¬(23 < h ∨ 59 < m) := by omega
  have hsecond : ¬59 < s := by omega
  unfold clock?
  simp only [hhs.twoDigits?, hms.twoDigits?, hss.twoDigits?, Option.bind_eq_bind, Option.bind_some,
    if_neg hclock, if_neg hsecond]
  by_cases hu : u = 0
  · rw [if_pos hu, List.nil_append, hu]
    cases rest with
    | nil => rfl
    | cons b rest =>
      have hb := hrest.point b (by simp)
      exact if_neg (not_or.mpr hb)
  · have hsix : (us ++ List.replicate 6 48).take 6 = us := by
      rw [← hus.length]
      exact List.take_left
    have hne : us.isEmpty = false := by
      rw [List.isEmpty_eq_false_iff]
      rintro rfl
      cases hus.length
    rw [if_neg hu, List.cons_append]
    dsimp only
    rw [if_pos (.inl rfl), takeWhile_digits hus hrest, hne, hsix, hus.value, List.drop_left]
    rfl

/-! ## Offsets -/

lemma endsClock_nil : EndsClock [] := ⟨nofun, nofun⟩

lemma endsClock_cons {b : UInt8} {bs : List UInt8} (hdigit : byteDigit? b = none) (hdot : b ≠ 46)
    (hcomma : b ≠ 44) : EndsClock (b :: bs) := by
  constructor
  · rintro _ ⟨⟩
    exact hdigit
  · rintro _ ⟨⟩
    exact ⟨hdot, hcomma⟩

lemma endsClock_letter : EndsClock [90] :=
  endsClock_cons (by decide) (by decide) (by decide)

lemma endsClock_sign {b : UInt8} (hb : b = 43 ∨ b = 45) (rest : List UInt8) :
    EndsClock (b :: rest) := by
  rcases hb with rfl | rfl
  · exact endsClock_cons (by decide) (by decide) (by decide)
  · exact endsClock_cons (by decide) (by decide) (by decide)

/-- A sign with hours and minutes. -/
lemma zone?_append {sign : ℤ} {b : UInt8} {h m : ℕ} {hs ms : List UInt8}
    (hb : b = 43 ∧ sign = 1 ∨ b = 45 ∧ sign = -1) (hh : h < 24) (hm : m < 60)
    (hhs : ByteNumber 2 h hs) (hms : ByteNumber 2 m ms) :
    zone? (b :: (hs ++ 58 :: ms)) = some (some (sign * ((h * 3600 + m * 60 : ℕ) : ℤ))) := by
  have hends := hms.twoDigits? []
  rw [List.append_nil] at hends
  have hrange : ¬(59 < m ∨ 86400 ≤ h * 3600 + m * 60 ∨ ([] : List UInt8) ≠ []) := by
    simp
    omega
  rcases hb with ⟨rfl, rfl⟩ | ⟨rfl, rfl⟩
  · simp only [zone?, hhs.twoDigits?, Option.bind_eq_bind, Option.bind_some, hends, if_neg hrange]
  · simp only [zone?, hhs.twoDigits?, Option.bind_eq_bind, Option.bind_some, hends, if_neg hrange]

lemma toUTF8_append (s s' : String) :
    (s ++ s').toUTF8.toList = s.toUTF8.toList ++ s'.toUTF8.toList := by
  rw [Utf8.toList_toUTF8, Utf8.toList_toUTF8, Utf8.toList_toUTF8, String.toList_append,
    List.flatMap_append]

lemma toUTF8_hyphen : "-".toUTF8.toList = [45] := Utf8.toList_toUTF8 "-"

lemma toUTF8_plus : "+".toUTF8.toList = [43] := Utf8.toList_toUTF8 "+"

lemma toUTF8_colon : ":".toUTF8.toList = [58] := Utf8.toList_toUTF8 ":"

lemma toUTF8_point : ".".toUTF8.toList = [46] := Utf8.toList_toUTF8 "."

lemma toUTF8_joint : "T".toUTF8.toList = [84] := Utf8.toList_toUTF8 "T"

/-- An offset in whole minutes as it is written. -/
lemma exists_offset {o : ℤ} (hday : o.natAbs < 86400) (hminutes : 60 ∣ o) :
    ∃ b bs, (offsetText o).toUTF8.toList = b :: bs ∧ (b = 43 ∨ b = 45) ∧
      zone? (b :: bs) = some (some o) := by
  have hseconds : o.natAbs % 60 = 0 := by omega
  have hh : ByteNumber 2 (o.natAbs / 3600) (padZeros 2 (o.natAbs / 3600)).toUTF8.toList :=
    byteNumber_padZeros (show _ < 100 by omega) (by decide)
  have hm : ByteNumber 2 (o.natAbs / 60 % 60) (padZeros 2 (o.natAbs / 60 % 60)).toUTF8.toList :=
    byteNumber_padZeros (show _ < 100 by omega) (by decide)
  have hparts : o.natAbs / 3600 * 3600 + o.natAbs / 60 % 60 * 60 = o.natAbs := by omega
  unfold offsetText
  dsimp only
  rw [if_pos hseconds, String.append_empty]
  simp only [toUTF8_append]
  by_cases ho : o < 0
  · have hzone := zone?_append (.inr ⟨rfl, rfl⟩) (by omega) (by omega) hh hm
    rw [hparts, show (-1 : ℤ) * (o.natAbs : ℤ) = o by omega] at hzone
    refine ⟨45, _, ?_, .inr rfl, hzone⟩
    rw [if_pos ho, toUTF8_hyphen, toUTF8_colon]
    simp
  · have hzone := zone?_append (.inl ⟨rfl, rfl⟩) (by omega) (by omega) hh hm
    rw [hparts, show (1 : ℤ) * (o.natAbs : ℤ) = o by omega] at hzone
    refine ⟨43, _, ?_, .inl rfl, hzone⟩
    rw [if_neg ho, toUTF8_plus, toUTF8_colon]
    simp

/-- What is written of the offset of a time. -/
def zoneText (offset : Option ℤ) : String :=
  (offset.map fun o => if o = 0 then "Z" else
    offsetText (if o < 0 then -(-o / 60 * 60) else o / 60 * 60)).getD ""

lemma documentText_eq (t : DateTime) : t.documentText = t.clockText "T" ++ zoneText t.offset := rfl

/-- The offset of a time is read as it was, if it is in whole minutes. -/
lemma zone?_zoneText {t : DateTime} (ht : t.Proper) (hminutes : t.InMinutes) :
    zone? (zoneText t.offset).toUTF8.toList = some t.offset ∧
      EndsClock (zoneText t.offset).toUTF8.toList := by
  cases hoffset : t.offset with
  | none =>
    rw [zoneText, Option.map_none, Option.getD_none, Utf8.toList_toUTF8]
    exact ⟨rfl, endsClock_nil⟩
  | some o =>
    have hday := ht.offset o hoffset
    have hwhole := hminutes o hoffset
    rw [zoneText, Option.map_some, Option.getD_some]
    by_cases hzero : o = 0
    · rw [if_pos hzero, Utf8.toList_toUTF8, hzero]
      exact ⟨rfl, endsClock_letter⟩
    · have hsame : (if o < 0 then -(-o / 60 * 60) else o / 60 * 60) = o := by
        split_ifs <;> omega
      obtain ⟨b, bs, htext, hb, hzone⟩ := exists_offset hday hwhole
      rw [if_neg hzero, hsame, htext]
      exact ⟨hzone, endsClock_sign hb bs⟩

/-! ## Times -/

/-- A date, the letter between date and clock, and a clock with its offset. -/
lemma full?_append {d : Date} (hd : d.Proper) {ys ms ds rest zone : List UInt8} {h m s u : ℕ}
    {offset : Option ℤ} (hy : ByteNumber 4 d.year ys) (hm : ByteNumber 2 d.month ms)
    (hday : ByteNumber 2 d.day ds) (hclock : clock? rest = some ((h, m, s, u), zone))
    (hzone : zone? zone = some offset) :
    full? (ys ++ 45 :: (ms ++ 45 :: (ds ++ 84 :: rest))) = some ⟨d, h, m, s, u, offset⟩ := by
  have hdate := dateAtStart_append hd hy hm hday (84 :: rest)
  have hlength : (ys ++ 45 :: (ms ++ 45 :: ds)).length = 10 := by
    simp only [List.length_append, List.length_cons, hy.length, hm.length, hday.length]
  have hsplit : ys ++ 45 :: (ms ++ 45 :: (ds ++ 84 :: rest))
      = (ys ++ 45 :: (ms ++ 45 :: ds)) ++ 84 :: rest := by
    simp
  have hjoint : (ys ++ 45 :: (ms ++ 45 :: (ds ++ 84 :: rest)))[10]? = some 84 := by
    rw [hsplit, List.getElem?_append_right (Nat.le_of_eq hlength), hlength]
    rfl
  have hdrop : (ys ++ 45 :: (ms ++ 45 :: (ds ++ 84 :: rest))).drop 11 = rest := by
    rw [hsplit, List.drop_append, hlength, List.drop_of_length_le (by omega)]
    rfl
  unfold full?
  rw [hdate, hjoint, hdrop]
  simp only [Except.toOption, Option.bind_eq_bind, Option.bind_some, hclock, hzone]
  rfl

lemma full?_documentText {t : DateTime} (ht : t.Proper) (hminutes : t.InMinutes) :
    full? t.documentText.toUTF8.toList = some t := by
  obtain ⟨hzone, hends⟩ := zone?_zoneText ht hminutes
  have hyear : ByteNumber 4 t.date.year (padZeros 4 t.date.year).toUTF8.toList :=
    byteNumber_padZeros (Nat.lt_succ_of_le ht.date.year_le) (by decide)
  have hmonth : ByteNumber 2 t.date.month (padZeros 2 t.date.month).toUTF8.toList :=
    byteNumber_padZeros (show _ < 100 by have := ht.date.month_le; omega) (by decide)
  have hday : ByteNumber 2 t.date.day (padZeros 2 t.date.day).toUTF8.toList :=
    byteNumber_padZeros (show _ < 100 by
      have := ht.date.day_le
      have := Date.daysInMonth_le t.date.year t.date.month
      omega) (by decide)
  have hh : ByteNumber 2 t.hour (padZeros 2 t.hour).toUTF8.toList :=
    byteNumber_padZeros (show _ < 100 by have := ht.hour; omega) (by decide)
  have hm : ByteNumber 2 t.minute (padZeros 2 t.minute).toUTF8.toList :=
    byteNumber_padZeros (show _ < 100 by have := ht.minute; omega) (by decide)
  have hs : ByteNumber 2 t.second (padZeros 2 t.second).toUTF8.toList :=
    byteNumber_padZeros (show _ < 100 by have := ht.second; omega) (by decide)
  have hmicro : ByteNumber 6 t.micro (padZeros 6 t.micro).toUTF8.toList :=
    byteNumber_padZeros ht.micro (by decide)
  have hfraction : (if t.micro = 0 then "" else "." ++ padZeros 6 t.micro).toUTF8.toList
      = if t.micro = 0 then [] else 46 :: (padZeros 6 t.micro).toUTF8.toList := by
    split_ifs
    · exact Utf8.toList_toUTF8 ""
    · rw [toUTF8_append, toUTF8_point, List.singleton_append]
  have hclock := clock?_append ht.hour ht.minute ht.second hh hm hs hmicro hends
  rw [documentText_eq, clockText, Date.text]
  simp only [toUTF8_append, toUTF8_hyphen, toUTF8_colon, toUTF8_joint, hfraction]
  simp only [List.append_assoc, List.cons_append, List.nil_append]
  exact full?_append ht.date hyear hmonth hday hclock hzone

/-- A time is read as it was from what documents hold of it, if its offset is in whole minutes. -/
theorem read_documentText {t : DateTime} (ht : t.Proper) (hminutes : t.InMinutes) :
    read t.documentText.toUTF8.toList = .ok t := by
  unfold read
  rw [full?_documentText ht hminutes]

end DateTime

end MetricsAgent
