import Mathlib.Algebra.Order.Monoid.Unbundled.WithTop
import Mathlib.Order.Interval.Set.Defs
import MetricsAgent.Proofs.Settings.Rereading

/-!
# Ranges of numbers

The bounds of a field are comparisons of floating point numbers; whether what passes them lies in the
range is another matter.  `Number.extended?` compares numbers exactly: it has an infinity at both ends
and no place for a NaN.  A number passes a bound exactly if it lies in the range that the bound
leaves (`Bound.violatedBy_ofFloat_iff`), so a NaN passes none.

Settings that were accepted have all their numbers in their ranges, and so do the delivery and the
schedule that are made with them (`Settings.liesIn_of_check`).  The time to wait for a connection is
bounded from below alone, and may be infinite.
-/

namespace MetricsAgent

open Read

/-! ## Exact comparison -/

/-- The exact numbers, with an infinity below and one above all of them. -/
abbrev Extended := WithBot (WithTop ℚ)

/-- The exact number or the infinity that a value stands for; a NaN stands for none. -/
def Binary64.extended? : Binary64 → Option Extended
  | .nan => none
  | .infinite true => some ⊥
  | .infinite false => some (⊤ : WithTop ℚ)
  | x => x.toRat?.map fun q => ((q : WithTop ℚ) : Extended)

/-- The exact number or the infinity that a number stands for. -/
def Number.extended? : Number → Option Extended
  | .int n => some ((n : ℚ) : WithTop ℚ)
  | .float x => x.extended?

/-- The number lies in a range; a NaN lies in none. -/
def Number.LiesIn (x : Number) (range : Set Extended) : Prop :=
  ∃ p ∈ range, x.extended? = some p

namespace Number

lemma extended?_of_toRat? {x : Number} {q : ℚ} (h : x.toRat? = some q) :
    x.extended? = some ((q : WithTop ℚ) : Extended) := by
  cases x with
  | int n =>
    cases h
    rfl
  | float y =>
    cases y with
    | nan => cases h
    | infinite negative => cases h
    | finite negative m e hcanonical =>
      exact congrArg (Option.map fun q : ℚ => ((q : WithTop ℚ) : Extended)) h

/-- A number is exact, a NaN or an infinity. -/
lemma cases_toRat? (x : Number) :
    (∃ q, x.toRat? = some q) ∨ x = .float .nan ∨ ∃ negative, x = .float (.infinite negative) := by
  cases x with
  | int n => exact .inl ⟨n, rfl⟩
  | float y =>
    cases y with
    | nan => exact .inr (.inl rfl)
    | infinite negative => exact .inr (.inr ⟨negative, rfl⟩)
    | finite negative m e h => exact .inl ⟨_, rfl⟩

section Limit

variable {y : Binary64} {q : ℚ}

lemma lt_limit_iff (hy : y.toRat? = some q) (x : Number) :
    x.lt (.float y) = true ↔ x.LiesIn (Set.Iio ((q : WithTop ℚ) : Extended)) := by
  have hlimit : (Number.float y).toRat? = some q := hy
  rcases x.cases_toRat? with ⟨p, hp⟩ | rfl | ⟨negative, rfl⟩
  · simp [LiesIn, lt, hp, hlimit, extended?_of_toRat? hp]
  · simp [LiesIn, nan_lt, extended?, Binary64.extended?]
  · cases y with
    | finite =>
      cases negative <;>
        simp [LiesIn, lt, toRat?, Binary64.toRat?, toBinary64, Binary64.lt, extended?,
          Binary64.extended?]
    | _ => cases hy

lemma limit_lt_iff (hy : y.toRat? = some q) (x : Number) :
    (Number.float y).lt x = true ↔ x.LiesIn (Set.Ioi ((q : WithTop ℚ) : Extended)) := by
  have hlimit : (Number.float y).toRat? = some q := hy
  rcases x.cases_toRat? with ⟨p, hp⟩ | rfl | ⟨negative, rfl⟩
  · simp [LiesIn, lt, hp, hlimit, extended?_of_toRat? hp]
  · simp [LiesIn, lt_nan, extended?, Binary64.extended?]
  · have htop : ((q : WithTop ℚ) : Extended) < ⊤ := WithBot.coe_lt_coe.mpr (WithTop.coe_lt_top q)
    cases y with
    | finite =>
      cases negative <;>
        simp [LiesIn, lt, toRat?, Binary64.toRat?, toBinary64, Binary64.lt, extended?,
          Binary64.extended?, htop]
    | _ => cases hy

lemma numEq_comm (x y : Number) : x.numEq y = y.numEq x := by
  have hfloat (a b : Binary64) : a.numEq b = b.numEq a := by
    cases a <;> cases b <;> simp [Binary64.numEq, Bool.beq_comm, Bool.beq_eq_decide_eq]
  unfold numEq
  cases x.toRat? <;> cases y.toRat? <;> simp only [hfloat x.toBinary64]
  exact Bool.beq_comm

lemma numEq_limit_iff (hy : y.toRat? = some q) (x : Number) :
    x.numEq (.float y) = true ↔ x.extended? = some ((q : WithTop ℚ) : Extended) := by
  have hlimit : (Number.float y).toRat? = some q := hy
  rcases x.cases_toRat? with ⟨p, hp⟩ | rfl | ⟨negative, rfl⟩
  · simp [numEq, hp, hlimit, extended?_of_toRat? hp]
  · simp [(Bool.or_eq_false_iff.mp (nan_le _)).2, extended?, Binary64.extended?]
  · cases y with
    | finite =>
      cases negative <;>
        simp [numEq, toRat?, Binary64.toRat?, toBinary64, Binary64.numEq, extended?,
          Binary64.extended?]
    | _ => cases hy

lemma le_limit_iff (hy : y.toRat? = some q) (x : Number) :
    x.le (.float y) = true ↔ x.LiesIn (Set.Iic ((q : WithTop ℚ) : Extended)) := by
  rw [le, Bool.or_eq_true, lt_limit_iff hy, numEq_limit_iff hy]
  constructor
  · rintro (⟨p, hp, hx⟩ | hx)
    · exact ⟨p, (Set.mem_Iio.mp hp).le, hx⟩
    · exact ⟨_, Set.self_mem_Iic, hx⟩
  · rintro ⟨p, hp, hx⟩
    rcases (Set.mem_Iic.mp hp).lt_or_eq with hlt | rfl
    · exact .inl ⟨p, hlt, hx⟩
    · exact .inr hx

lemma limit_le_iff (hy : y.toRat? = some q) (x : Number) :
    (Number.float y).le x = true ↔ x.LiesIn (Set.Ici ((q : WithTop ℚ) : Extended)) := by
  rw [le, Bool.or_eq_true, limit_lt_iff hy, numEq_comm, numEq_limit_iff hy]
  constructor
  · rintro (⟨p, hp, hx⟩ | hx)
    · exact ⟨p, (Set.mem_Ioi.mp hp).le, hx⟩
    · exact ⟨_, Set.self_mem_Ici, hx⟩
  · rintro ⟨p, hp, hx⟩
    rcases (Set.mem_Ici.mp hp).lt_or_eq with hlt | rfl
    · exact .inl ⟨p, hlt, hx⟩
    · exact .inr hx

end Limit

lemma LiesIn.and {x : Number} {range range' : Set Extended} (h : x.LiesIn range)
    (h' : x.LiesIn range') : x.LiesIn (range ∩ range') := by
  obtain ⟨p, hp, hx⟩ := h
  obtain ⟨p', hp', hx'⟩ := h'
  obtain rfl := Option.some.inj (hx.symm.trans hx')
  exact ⟨p, ⟨hp, hp'⟩, hx⟩

end Number

/-! ## Bounds -/

/-- The range that a relation to a limit leaves. -/
def Relation.range (limit : Extended) : Relation → Set Extended
  | .atLeast => Set.Ici limit
  | .above => Set.Ioi limit
  | .atMost => Set.Iic limit
  | .below => Set.Iio limit

/-- A number passes a bound exactly if it lies in the range that the bound leaves. -/
lemma Bound.violatedBy_ofFloat_iff {n : ℤ} {q : ℚ} (hn : (Binary64.ofInt n).toRat? = some q)
    (r : Relation) (x : Number) :
    (Bound.ofFloat r n).violatedBy x = false ↔ x.LiesIn (r.range ((q : WithTop ℚ) : Extended)) := by
  cases r with
  | atLeast => exact (Bool.not_eq_false' _).to_iff.trans (Number.limit_le_iff hn x)
  | above => exact (Bool.not_eq_false' _).to_iff.trans (Number.limit_lt_iff hn x)
  | atMost => exact (Bool.not_eq_false' _).to_iff.trans (Number.le_limit_iff hn x)
  | below => exact (Bool.not_eq_false' _).to_iff.trans (Number.lt_limit_iff hn x)

namespace Read

/-- A number that was accepted within bounds lies in the range of each of them. -/
lemma Rereads.liesIn {bounds : List Bound} {x : Number} (h : Rereads bounds x) (r : Relation) (n : ℤ)
    {q : ℚ} (hmem : .ofFloat r n ∈ bounds) (hn : (Binary64.ofInt n).toRat? = some q) :
    x.LiesIn (r.range ((q : WithTop ℚ) : Extended)) :=
  (Bound.violatedBy_ofFloat_iff hn r x).mp (h.within _ hmem)

end Read

/-! ## The fields -/

namespace IngestSettings

/-- The time to wait for an answer is positive and at most ten minutes. -/
lemma Accepted.liesIn_timeout {s : IngestSettings} (h : s.Accepted) :
    s.timeout.LiesIn (Set.Ioc 0 600) :=
  (h.timeout.liesIn (q := 0) .above 0 (by simp) (by decide +kernel)).and
    (h.timeout.liesIn (q := 600) .atMost 600 (by simp) (by decide +kernel))

/-- The delivery waits for an answer as long as the settings say. -/
lemma extended?_delivery {v : Value} {s : IngestSettings} (h : check v = .valid s) :
    s.delivery.timeout.extended? = s.timeout.extended? := by
  obtain ⟨es, -, hread⟩ := eq_of_closedRecord_eq_valid h
  refine Checked.seq_elim hread fun _ _ h _ => ?_
  refine Checked.seq_elim h fun _ _ h _ => ?_
  refine Checked.seq_elim h fun _ timeout h htimeout => ?_
  refine Checked.seq_elim h fun _ _ h _ => ?_
  refine Checked.map_elim h fun _ _ => ?_
  rcases optional_cases htimeout with ⟨_, w, -, hw⟩ | ⟨-, rfl⟩
  · obtain ⟨⟨x, rfl⟩, -⟩ := ensures_boundedNumber _ w timeout hw
    rfl
  · exact Number.extended?_of_toRat? (x := .float (.ofInt 30)) (q := 30) (by decide +kernel)

end IngestSettings

/-- The jitter is at most a minute. -/
lemma CollectionSettings.Accepted.liesIn_jitter {c : CollectionSettings} (h : c.Accepted) :
    c.jitter.LiesIn (Set.Icc 0 60) :=
  (h.jitter.liesIn (q := 0) .atLeast 0 (by simp) (by decide +kernel)).and
    (h.jitter.liesIn (q := 60) .atMost 60 (by simp) (by decide +kernel))

/-- The sample rate is a share. -/
lemma ReportingSettings.Accepted.liesIn_sampleRate {r : ReportingSettings} (h : r.Accepted) :
    r.sampleRate.LiesIn (Set.Icc 0 1) :=
  (h.sampleRate.liesIn (q := 0) .atLeast 0 (by simp) (by decide +kernel)).and
    (h.sampleRate.liesIn (q := 1) .atMost 1 (by simp) (by decide +kernel))

/-- The time to wait for a connection is positive. -/
lemma PoolSettings.Accepted.liesIn_acquireTimeout {p : PoolSettings} (h : p.Accepted) :
    p.acquireTimeout.LiesIn (Set.Ioi 0) :=
  h.acquireTimeout.liesIn (q := 0) .above 0 (by simp) (by decide +kernel)

/-! ## Accepted settings -/

/-- The schedule that is made of the settings waits no longer than they say. -/
lemma Mode.exists_schedule {s : Settings} (h : s.collection.Accepted) :
    ∃ plan : Schedule Number, schedule s = .ok plan ∧ plan.maxDelay = s.collection.jitter := by
  have hinterval : (Number.int s.collection.interval).le (.float 0) = false := by
    rw [← Bool.not_eq_true, Number.le_limit_iff (q := 0) (by decide +kernel)]
    rintro ⟨p, hp, hx⟩
    cases hx
    have hle : ((s.collection.interval : ℚ) : WithTop ℚ) ≤ ((0 : ℚ) : WithTop ℚ) :=
      WithBot.coe_le_coe.mp hp
    have hint : s.collection.interval ≤ 0 := by exact_mod_cast WithTop.coe_le_coe.mp hle
    have := h.interval
    omega
  have hjitter : s.collection.jitter.lt (.float 0) = false := by
    rw [← Bool.not_eq_true, Number.lt_limit_iff (q := 0) (by decide +kernel)]
    rintro ⟨p, hp, hx⟩
    obtain ⟨p', ⟨hp', -⟩, hx'⟩ := h.liesIn_jitter
    obtain rfl := Option.some.inj (hx.symm.trans hx')
    exact absurd hp' (not_le.mpr hp)
  refine ⟨⟨.int s.collection.interval, s.collection.jitter⟩, ?_, rfl⟩
  unfold schedule Schedule.make
  rw [if_neg (by simpa [Seconds.le, Seconds.ofNumber, Seconds.zero] using hinterval),
    if_neg (by simpa [Seconds.lt, Seconds.ofNumber, Seconds.zero] using hjitter)]
  rfl

namespace Settings

/-- Numbers of settings that were accepted lie in their ranges, and so do those that the delivery and
the schedule are made with. -/
theorem liesIn_of_check (v : Value) (s : Settings) (hcheck : check v = .valid s) :
    s.ingest.timeout.LiesIn (Set.Ioc 0 600) ∧ s.ingest.delivery.timeout.LiesIn (Set.Ioc 0 600) ∧
    s.database.pool.acquireTimeout.LiesIn (Set.Ioi 0) ∧
    s.collection.jitter.LiesIn (Set.Icc 0 60) ∧
    (∃ plan : Schedule Number, Mode.schedule s = .ok plan ∧ plan.maxDelay.LiesIn (Set.Icc 0 60)) ∧
    s.reporting.sampleRate.LiesIn (Set.Icc 0 1) := by
  have haccepted := accepted_of_check v s hcheck
  obtain ⟨⟨w, hw, -⟩, -⟩ := exists_sections hcheck
  have htimeout := haccepted.ingest.liesIn_timeout
  have hjitter := haccepted.collection.liesIn_jitter
  obtain ⟨plan, hplan, hdelay⟩ := Mode.exists_schedule haccepted.collection
  refine ⟨htimeout, ?_, haccepted.database.pool.liesIn_acquireTimeout, hjitter, ⟨plan, hplan, ?_⟩,
    haccepted.reporting.liesIn_sampleRate⟩
  · rwa [Number.LiesIn, IngestSettings.extended?_delivery hw]
  · rwa [hdelay]

/-- A mapping with a time to wait for a connection, and no other numbers. -/
def pooled (timeout : Value) : Value :=
  sample [("url", .text "mysql://db/app"), ("pool", .record [("acquire_timeout", timeout)])]

/-- What such a mapping is accepted as. -/
def pooledAs (timeout : Number) : Settings :=
  { sampled "mysql://db/app" with database.pool.acquireTimeout := timeout }

/-- An infinite time, given as a text as a placeholder leaves it, is positive; a NaN is refused, as a
text and as a number. -/
theorem liesIn_of_check_pooled :
    check (pooled (.text "inf")) = .valid (pooledAs (.float (.infinite false))) ∧
      (pooledAs (.float (.infinite false))).ingest.timeout.LiesIn (Set.Ioc 0 600) ∧
      (pooledAs (.float (.infinite false))).database.pool.acquireTimeout.LiesIn (Set.Ioi 0) ∧
      ∀ v ∈ [Value.text "nan", .float .nan], check (pooled v) = .invalid
        ⟨.bound (.ofFloat .above 0), [.name "database", .name "pool", .name "acquire_timeout"]⟩ [] := by
  have hinf : check (pooled (.text "inf")) = .valid (pooledAs (.float (.infinite false))) := rfl
  obtain ⟨htimeout, -, hpool, -⟩ := liesIn_of_check _ _ hinf
  refine ⟨hinf, htimeout, hpool, fun v hv => ?_⟩
  rcases List.mem_pair.mp hv with rfl | rfl <;> rfl

end Settings

end MetricsAgent
