import Mathlib.Data.List.Forall2
import Mathlib.Data.Nat.Digits.Defs
import MetricsAgent.Proofs.Number.Reading
import MetricsAgent.Proofs.Settings.Interval

/-!
# Durations and their grammar

A text is read as a duration exactly if it follows the grammar `Duration.Follows`, and as the number
that its digits write times the seconds of its unit (`Duration.parse_iff_follows`).  The reader takes
as many characters of a class as there are, the grammar allows any cut; both come to the same because
no digit is blank and no letter of a unit is either.

A section of settings in which the interval is a text is accepted exactly if it is accepted without
it and the text is a duration that is long enough.
-/

namespace MetricsAgent

open CharClass Read

/-! ## Classes of characters -/

namespace CharClass

/-- No run of digits has a blank character in it. -/
lemma isBlank_of_digit {c : Char} (hc : isDigit c = true) : isBlank c = false := by
  rw [isDigit, digitValue?, Option.isSome_map, List.find?_isSome] at hc
  obtain ⟨z, hz, hrun⟩ := hc
  rw [Bool.and_eq_true, decide_eq_true_eq, decide_eq_true_eq] at hrun
  have hgaps : ∀ z ∈ digitZeros, z = 48 ∨ (1632 ≤ z ∧ z + 9 < 0x1680) ∨
      (0x1680 < z ∧ z + 9 < 0x2000) ∨ 0x3000 < z := by
    decide
  have hgap := hgaps z hz
  unfold isBlank
  simp
  omega

lemma takeWhile_eq_nil {p : Char → Bool} {l : List Char} (h : ∀ c ∈ l, p c = false) :
    l.takeWhile p = [] := by
  cases l with
  | nil => rfl
  | cons c l => rw [List.takeWhile_cons_of_neg (by simp [h c List.mem_cons_self])]

end CharClass

/-! ## The grammar -/

namespace Duration

/-- How a unit is written: by its letter, and seconds also by nothing at all. -/
inductive TimeUnit.Spelt : TimeUnit → List Char → Prop
  | unmarked : Spelt .seconds []
  | seconds : Spelt .seconds ['s']
  | minutes : Spelt .minutes ['m']
  | hours : Spelt .hours ['h']

/-- Blanks, digits of any script, blanks, a unit, blanks; only the digits have to be there. -/
inductive Follows : List Char → Written → Prop
  | intro {lead digits gap mark trail : List Char} {unit : TimeUnit}
      (hlead : ∀ c ∈ lead, isBlank c = true) (hdigits : ∀ c ∈ digits, isDigit c = true)
      (hne : digits ≠ []) (hgap : ∀ c ∈ gap, isBlank c = true) (hunit : unit.Spelt mark)
      (htrail : ∀ c ∈ trail, isBlank c = true) :
      Follows (lead ++ (digits ++ (gap ++ (mark ++ trail)))) ⟨digits, unit⟩

/-- A number that digits write in base ten, the last one weighing least. -/
def Denotes (digits : List Char) (n : ℕ) : Prop :=
  ∃ values, List.Forall₂ (fun c d => digitValue? c = some d) digits values ∧
    Nat.ofDigits 10 values.reverse = n

/-! ## Reading by the grammar -/

lemma TimeUnit.ofChar?_eq_some_iff {c : Char} {unit : TimeUnit} :
    TimeUnit.ofChar? c = some unit ↔ unit.Spelt [c] := by
  unfold TimeUnit.ofChar?
  constructor
  · intro h
    split at h
    · next hc =>
      cases h
      rw [beq_iff_eq.mp hc]
      exact .seconds
    · split at h
      · next hc =>
        cases h
        rw [beq_iff_eq.mp hc]
        exact .minutes
      · split at h
        · next hc =>
          cases h
          rw [beq_iff_eq.mp hc]
          exact .hours
        · cases h
  · intro h
    cases h <;> rfl

lemma TimeUnit.Spelt.isMark {unit : TimeUnit} {mark : List Char} (h : unit.Spelt mark) :
    ∀ c ∈ mark, isBlank c = false ∧ isDigit c = false := by
  intro c hc
  cases h with
  | unmarked => cases hc
  | seconds | minutes | hours =>
    obtain rfl := List.mem_singleton.mp hc
    decide

/-- What is read follows the grammar. -/
lemma follows_of_ofChars? {cs : List Char} {w : Written} (h : Written.ofChars? cs = some w) :
    Follows cs w := by
  let body := cs.dropWhile isBlank
  let tail := (body.dropWhile isDigit).dropWhile isBlank
  have hcut : cs.takeWhile isBlank ++ (body.takeWhile isDigit
      ++ ((body.dropWhile isDigit).takeWhile isBlank ++ tail)) = cs := by
    rw [List.takeWhile_append_dropWhile, List.takeWhile_append_dropWhile,
      List.takeWhile_append_dropWhile]
  have hfollows {mark trail : List Char} {unit : TimeUnit} (hne : body.takeWhile isDigit ≠ [])
      (htail : tail = mark ++ trail) (hunit : unit.Spelt mark)
      (htrail : ∀ c ∈ trail, isBlank c = true) : Follows cs ⟨body.takeWhile isDigit, unit⟩ := by
    have htaken (p : Char → Bool) (l : List Char) : ∀ c ∈ l.takeWhile p, p c = true :=
      fun _ => List.mem_takeWhile_imp
    have hread := Follows.intro (htaken isBlank cs) (htaken isDigit body) hne
      (htaken isBlank (body.dropWhile isDigit)) hunit htrail
    rwa [← htail, hcut] at hread
  unfold Written.ofChars? at h
  dsimp only at h
  split at h
  · cases h
  · next hne =>
    have hsome : body.takeWhile isDigit ≠ [] := fun hnil => hne (by rw [hnil]; rfl)
    split at h
    · next htail =>
      cases h
      exact hfollows hsome htail .unmarked (List.forall_mem_nil _)
    · next c rest htail =>
      split at h
      · next unit hunit =>
        split at h
        · next hrest =>
          cases h
          exact hfollows hsome htail (TimeUnit.ofChar?_eq_some_iff.mp hunit)
            (List.all_eq_true.mp hrest)
        · cases h
      · cases h

/-- What follows the grammar is read. -/
lemma ofChars?_of_follows {cs : List Char} {w : Written} (h : Follows cs w) :
    Written.ofChars? cs = some w := by
  cases h with
  | @intro lead digits gap mark trail unit hlead hdigits hne hgap hunit htrail =>
    have hrest : ∀ c ∈ gap ++ (mark ++ trail), isDigit c = false := by
      have hblank {c : Char} (hc : isBlank c = true) : isDigit c = false := by
        by_contra hdigit
        rw [isBlank_of_digit (by simpa using hdigit)] at hc
        cases hc
      intro c hc
      rcases List.mem_append.mp hc with hc | hc
      · exact hblank (hgap c hc)
      · rcases List.mem_append.mp hc with hc | hc
        · exact (hunit.isMark c hc).2
        · exact hblank (htrail c hc)
    have hbody : (lead ++ (digits ++ (gap ++ (mark ++ trail)))).dropWhile isBlank
        = digits ++ (gap ++ (mark ++ trail)) := by
      rw [List.dropWhile_append_of_pos hlead]
      cases digits with
      | nil => exact absurd rfl hne
      | cons c digits =>
        have hc : isBlank c = false := isBlank_of_digit (hdigits c List.mem_cons_self)
        rw [List.cons_append, List.dropWhile_cons_of_neg (by simp [hc])]
    have hwritten : (digits ++ (gap ++ (mark ++ trail))).takeWhile isDigit = digits := by
      rw [List.takeWhile_append_of_pos hdigits, takeWhile_eq_nil hrest, List.append_nil]
    have htail : ((digits ++ (gap ++ (mark ++ trail))).dropWhile isDigit).dropWhile isBlank
        = (mark ++ trail).dropWhile isBlank := by
      rw [List.dropWhile_append_of_pos hdigits, dropWhile_eq_self hrest,
        List.dropWhile_append_of_pos hgap]
    have hempty : digits.isEmpty = false := by simpa using hne
    unfold Written.ofChars?
    simp only [hbody, hwritten, htail, hempty, Bool.false_eq_true, if_false]
    have hall : trail.all isBlank = true := List.all_eq_true.mpr htrail
    cases hunit with
    | unmarked =>
      rw [List.nil_append, ← List.append_nil trail, List.dropWhile_append_of_pos htrail]
      rfl
    | seconds =>
      rw [List.singleton_append, List.dropWhile_cons_of_neg (by decide)]
      simp [TimeUnit.ofChar?, hall]
    | minutes =>
      rw [List.singleton_append, List.dropWhile_cons_of_neg (by decide)]
      simp [TimeUnit.ofChar?, hall]
    | hours =>
      rw [List.singleton_append, List.dropWhile_cons_of_neg (by decide)]
      simp [TimeUnit.ofChar?, hall]

lemma ofChars?_eq_some_iff {cs : List Char} {w : Written} :
    Written.ofChars? cs = some w ↔ Follows cs w :=
  ⟨follows_of_ofChars?, ofChars?_of_follows⟩

/-! ## The number -/

/-- Digits write one number, and it is the one that is read. -/
lemma denotes_iff {digits : List Char} (hdigits : ∀ c ∈ digits, isDigit c = true) {n : ℕ} :
    Denotes digits n ↔ digitsValue digits = n := by
  have hvalue {values : List ℕ}
      (h : List.Forall₂ (fun c d => digitValue? c = some d) digits values) :
      Nat.ofDigits 10 values.reverse = digitsValue digits := by
    rw [Nat.ofDigits_eq_foldr, List.foldr_reverse]
    have hfold (start : ℕ) : values.foldl (fun n d => d + 10 * n) start
        = digits.foldl (fun n c => 10 * n + (digitValue? c).getD 0) start := by
      clear hdigits
      induction h generalizing start with
      | nil => rfl
      | @cons c d digits values hc _ ih =>
        rw [List.foldl_cons, List.foldl_cons, hc, ih, Option.getD_some, Nat.add_comm]
    exact hfold 0
  constructor
  · rintro ⟨values, hvalues, rfl⟩
    exact (hvalue hvalues).symm
  · rintro rfl
    have hvalues : List.Forall₂ (fun c d => digitValue? c = some d) digits
        (digits.map fun c => (digitValue? c).getD 0) := by
      rw [List.forall₂_map_right_iff, List.forall₂_same]
      intro c hc
      obtain ⟨d, hd⟩ := Option.isSome_iff_exists.mp (hdigits c hc)
      rw [hd, Option.getD_some]
    exact ⟨_, hvalues, hvalue hvalues⟩

lemma Follows.isDigit {cs : List Char} {w : Written} (h : Follows cs w) :
    ∀ c ∈ w.digits, isDigit c = true := by
  cases h with
  | intro _ hdigits => exact hdigits

lemma parse_of_follows {s : String} {w : Written} (h : Follows s.toList w) :
    parse s = if 4300 < w.digits.length then .error (.tooLong w.digits.length)
      else .ok (digitsValue w.digits * w.unit.inSeconds) := by
  unfold parse
  rw [ofChars?_of_follows h]
  rfl

lemma parse_of_not_follows {s : String} (h : ¬ ∃ w, Follows s.toList w) :
    parse s = .error (.malformed s) := by
  have hnone : Written.ofChars? s.toList = none := by
    rw [Option.eq_none_iff_forall_ne_some]
    exact fun w hw => h ⟨w, follows_of_ofChars? hw⟩
  unfold parse
  rw [hnone]

/-- A text has one reading at most. -/
lemma Follows.unique {cs : List Char} {w w' : Written} (h : Follows cs w) (h' : Follows cs w') :
    w = w' :=
  Option.some.inj ((ofChars?_of_follows h).symm.trans (ofChars?_of_follows h'))

lemma parse_eq_ok_iff {s : String} {n : ℕ} :
    parse s = .ok n ↔ ∃ w k, Follows s.toList w ∧ w.digits.length ≤ 4300 ∧ Denotes w.digits k ∧
      n = k * w.unit.inSeconds := by
  by_cases hex : ∃ w, Follows s.toList w
  · obtain ⟨w, hw⟩ := hex
    rw [parse_of_follows hw]
    constructor
    · intro h
      split at h
      · cases h
      · next hlength =>
        cases h
        exact ⟨w, _, hw, not_lt.mp hlength, (denotes_iff hw.isDigit).mpr rfl, rfl⟩
    · rintro ⟨w', k, hw', hlength, hk, rfl⟩
      obtain rfl := hw.unique hw'
      rw [if_neg (not_lt.mpr hlength), (denotes_iff hw.isDigit).mp hk]
  · rw [parse_of_not_follows hex]
    refine iff_of_false nofun ?_
    rintro ⟨w, -, hw, -⟩
    exact hex ⟨w, hw⟩

lemma parse_eq_error_iff {s : String} {f : Fault} :
    parse s = .error f ↔ (f = .malformed s ∧ ¬ ∃ w, Follows s.toList w) ∨
      ∃ w, Follows s.toList w ∧ 4300 < w.digits.length ∧ f = .tooLong w.digits.length := by
  by_cases hex : ∃ w, Follows s.toList w
  · obtain ⟨w, hw⟩ := hex
    rw [parse_of_follows hw]
    constructor
    · intro h
      split at h
      · next hlength =>
        cases h
        exact .inr ⟨w, hw, hlength, rfl⟩
      · cases h
    · rintro (⟨-, hnot⟩ | ⟨w', hw', hlength, rfl⟩)
      · exact absurd ⟨w, hw⟩ hnot
      · obtain rfl := hw.unique hw'
        rw [if_pos hlength]
  · rw [parse_of_not_follows hex]
    constructor
    · intro h
      cases h
      exact .inl ⟨rfl, hex⟩
    · rintro (⟨rfl, -⟩ | ⟨w, hw, -⟩)
      · rfl
      · exact absurd ⟨w, hw⟩ hex

end Duration

/-! ## Records with an entry left out -/

/-- The entries of all other keys. -/
def Entries.without (es : Entries) (name : String) : Entries :=
  es.filter fun e => !e.1.sameKey (.text name)

lemma Scalar.eq_text_of_sameKey {k : Scalar} {name : String} (h : k.sameKey (.text name) = true) :
    k = .text name := by
  have hform : k.keyForm = .text name := (Scalar.sameKey_iff _ _).mp h
  obtain ⟨s, rfl⟩ := Scalar.isText_iff_keyForm.mpr ⟨name, hform⟩
  cases hform
  rfl

lemma Entries.field?_without (es : Entries) (name wire : String) :
    (es.without name).field? wire = if wire = name then none else es.field? wire := by
  unfold without field? get?
  rw [List.find?_filter]
  by_cases hwire : wire = name
  · subst hwire
    rw [if_pos rfl, Option.map_eq_none_iff, List.find?_eq_none]
    simp
  · rw [if_neg hwire]
    have htest : (fun e : Scalar × Value => !e.1.sameKey (.text name) && e.1.sameKey (.text wire))
        = fun e => e.1.sameKey (.text wire) := by
      funext e
      by_cases hsame : e.1.sameKey (.text wire) = true
      · rw [hsame, Scalar.eq_text_of_sameKey hsame]
        simp [Scalar.sameKey, Scalar.keyForm, hwire]
      · simp [hsame]
    rw [← htest]
    simp

namespace Read

variable {α : Type} {fields : List Field} {es : Entries} {name : String}

/-- Where every field has one name, a record has no strangers exactly if all keys are such names. -/
lemma strangers_eq_nil_iff (hnames : ∀ f ∈ fields, f.alternative = none) :
    strangers fields es = [] ↔ ∀ e ∈ es, ∃ f ∈ fields, e.1 = .text f.wire :=
  ⟨fun h _ he => exists_field_of_strangers hnames h _ (List.mem_map_of_mem he), strangers_eq_nil⟩

/-- A field may be left out: that makes no strangers. -/
lemma strangers_without (hnames : ∀ f ∈ fields, f.alternative = none)
    (hfield : ∃ f ∈ fields, f.wire = name) :
    strangers fields (es.without name) = [] ↔ strangers fields es = [] := by
  rw [strangers_eq_nil_iff hnames, strangers_eq_nil_iff hnames]
  constructor
  · intro h e he
    by_cases hsame : e.1.sameKey (.text name) = true
    · obtain ⟨f, hf, rfl⟩ := hfield
      exact ⟨f, hf, Scalar.eq_text_of_sameKey hsame⟩
    · exact h e (List.mem_filter.mpr ⟨he, by simpa using hsame⟩)
  · exact fun h e he => h e (List.mem_filter.mp he).1

lemma optional_without_of_ne {wire : String} {default : α} {read : Value → Checked α}
    (hne : wire ≠ name) :
    Field.optional ⟨wire, none⟩ (es.without name) default read
      = Field.optional ⟨wire, none⟩ es default read := by
  rw [Field.optional, Field.optional, find?_of_wire, find?_of_wire, Entries.field?_without,
    if_neg hne]

lemma optional_without {default : α} {read : Value → Checked α} :
    Field.optional ⟨name, none⟩ (es.without name) default read = .valid default :=
  optional_eq_default (by rw [Entries.field?_without, if_pos rfl]) nofun

end Read

/-! ## The interval -/

namespace CollectionSettings

lemma readInterval_text {s : String} {m : ℤ} :
    readInterval (.text s) = .valid m ↔ ∃ n : ℕ, Duration.parse s = .ok n ∧ 10 ≤ n ∧ m = n := by
  have hread (n : ℕ) : boundedInteger [.ofInt .atLeast shortestInterval] (.int n) = .valid m ↔
      10 ≤ n ∧ m = n := by
    constructor
    · intro h
      have hm := eq_of_readInterval_int h
      have hbound : (10 : ℤ) ≤ m := interval_of_readInterval (.int n) m h
      subst hm
      exact ⟨by omega, rfl⟩
    · rintro ⟨hn, rfl⟩
      exact readInterval_int (by omega)
  unfold readInterval
  dsimp only
  cases hparse : Duration.parse s with
  | error f => exact iff_of_false nofun (by simp)
  | ok n => simpa using hread n

/-- A section with a text as its interval: it is the one without an interval but for the interval,
and that is what the text denotes. -/
lemma check_of_text {es : Entries} {s : String} (hes : es.field? "interval" = some (.text s))
    {c : CollectionSettings} :
    check (.map es) = .valid c ↔ ∃ (n : ℕ) (d : CollectionSettings), Duration.parse s = .ok n ∧
      10 ≤ n ∧ check (.map (es.without "interval")) = .valid d ∧ c = { d with interval := n } := by
  have hgiven : Field.optional ⟨"interval", none⟩ es default.interval readInterval
      = (readInterval (.text s)).within (.name "interval") := optional_eq _ hes
  unfold check
  rw [closedRecord_eq_valid_iff]
  constructor
  · rintro ⟨hstrangers, hread⟩
    refine Checked.seq_elim hread fun _ metrics h hmetrics => ?_
    refine Checked.seq_elim h fun _ jitter h hjitter => ?_
    refine Checked.map_elim h fun interval hinterval => ?_
    rw [hgiven] at hinterval
    obtain ⟨n, hparse, hn, rfl⟩ := readInterval_text.mp (Checked.eq_of_within_eq_valid hinterval)
    refine ⟨n, ⟨default.interval, jitter, metrics⟩, hparse, hn, ?_, rfl⟩
    refine closedRecord_eq_valid_iff.mpr ⟨(strangers_without (by decide) (by decide)).mpr hstrangers, ?_⟩
    rw [readFields, optional_without, optional_without_of_ne (by decide),
      optional_without_of_ne (by decide), hjitter, hmetrics]
    rfl
  · rintro ⟨n, d, hparse, hn, hother, rfl⟩
    obtain ⟨hstrangers, hread⟩ := closedRecord_eq_valid_iff.mp hother
    refine ⟨(strangers_without (by decide) (by decide)).mp hstrangers, ?_⟩
    refine Checked.seq_elim hread fun _ metrics h hmetrics => ?_
    refine Checked.seq_elim h fun _ jitter h hjitter => ?_
    refine Checked.map_elim h fun _ _ => ?_
    rw [optional_without_of_ne (by decide)] at hjitter hmetrics
    rw [readFields, hgiven, readInterval_text.mpr ⟨n, hparse, hn, rfl⟩, hjitter, hmetrics]
    rfl

end CollectionSettings

namespace Duration

/-- A text is a duration exactly if it follows the grammar with no more digits than are read, and it
denotes the number of its digits in its unit; any other text is refused, for the one reason or the
other.  As the interval of collections a text is accepted exactly if it is a duration of ten seconds
at least, and that number is the interval then. -/
theorem parse_iff_follows (s : String) :
    (∀ n, parse s = .ok n ↔ ∃ w k, Follows s.toList w ∧ w.digits.length ≤ 4300 ∧
      Denotes w.digits k ∧ n = k * w.unit.inSeconds) ∧
    (∀ f, parse s = .error f ↔ (f = .malformed s ∧ ¬ ∃ w, Follows s.toList w) ∨
      ∃ w, Follows s.toList w ∧ 4300 < w.digits.length ∧ f = .tooLong w.digits.length) ∧
    ∀ es : Entries, es.field? "interval" = some (.text s) → ∀ c,
      CollectionSettings.check (.map es) = .valid c ↔
        ∃ (n : ℕ) (d : CollectionSettings), parse s = .ok n ∧ 10 ≤ n ∧
          CollectionSettings.check (.map (es.without "interval")) = .valid d ∧
          c = { d with interval := n } :=
  ⟨fun _ => parse_eq_ok_iff, fun _ => parse_eq_error_iff,
    fun _ hes _ => CollectionSettings.check_of_text hes⟩

/-- Five minutes, in digits of another script and with blanks of three kinds around them. -/
def fiveMinutes : String := "\u00A0\u0665 m\n"

/-- A section with that interval and one group of metrics, by its former name. -/
def fiveMinuteSection : Entries :=
  [(.text "metrics", .list [.text "pg_settings"]), (.text "interval", .text fiveMinutes)]

theorem parse_iff_follows_fiveMinutes :
    parse fiveMinutes = .ok 300 ∧ fiveMinuteSection.field? "interval" = some (.text fiveMinutes) ∧
      CollectionSettings.check (.map fiveMinuteSection)
        = .valid ⟨300, CollectionSettings.default.jitter, [.settings]⟩ := by
  obtain ⟨hparse, -, hcheck⟩ := parse_iff_follows fiveMinutes
  have hfollows : Follows fiveMinutes.toList ⟨['\u0665'], .minutes⟩ :=
    ofChars?_eq_some_iff.mp (by decide +kernel)
  have hdenotes : Denotes ['\u0665'] 5 := ⟨[5], .cons (by decide +kernel) .nil, rfl⟩
  have hok : parse fiveMinutes = .ok 300 :=
    (hparse 300).mpr ⟨_, 5, hfollows, by decide, hdenotes, rfl⟩
  have hgiven : fiveMinuteSection.field? "interval" = some (.text fiveMinutes) := rfl
  have hother : CollectionSettings.check (.map (fiveMinuteSection.without "interval"))
      = .valid ⟨60, CollectionSettings.default.jitter, [.settings]⟩ := rfl
  exact ⟨hok, hgiven, (hcheck _ hgiven _).mpr ⟨300, _, hok, by decide, hother, rfl⟩⟩

end Duration

end MetricsAgent
