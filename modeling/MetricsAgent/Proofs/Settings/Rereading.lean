import MetricsAgent.Proofs.Settings.Usable

/-!
# Settings read again

Settings that passed the check, written as a value and checked again, are the same settings up to the
kind of their numbers (`Settings.check_toValue`): numbers come back in floating point.  A section is
read again as soon as each of its values passes the test of its own field, so what is kept of the
first check is just that, one structure `Accepted` for each section.

Two defaults do not pass the tests of their fields.  A key and a URL that are not given are empty, and
empty ones are refused; so settings are read again exactly if both were given
(`Settings.rereads_iff`).  The same blank URL belongs to no database.  A NaN differs from itself and
would not be what it was, but each number has a bound, which refuses it (`Bound.ne_nan`).
-/

namespace MetricsAgent

open Read

/-! ## The same settings -/

/-- The number in floating point. -/
def Number.floating (x : Number) : Number :=
  .float x.toBinary64

def PoolSettings.floating (p : PoolSettings) : PoolSettings :=
  { p with acquireTimeout := p.acquireTimeout.floating }

def IngestSettings.floating (s : IngestSettings) : IngestSettings :=
  { s with timeout := s.timeout.floating }

def DatabaseSettings.floating (d : DatabaseSettings) : DatabaseSettings :=
  { d with pool := d.pool.floating }

def CollectionSettings.floating (c : CollectionSettings) : CollectionSettings :=
  { c with jitter := c.jitter.floating }

def ReportingSettings.floating (r : ReportingSettings) : ReportingSettings :=
  { r with sampleRate := r.sampleRate.floating }

/-- The settings with their numbers in floating point. -/
def Settings.floating (s : Settings) : Settings :=
  ⟨s.ingest.floating, s.database.floating, s.collection.floating, s.logging, s.reporting.floating⟩

/-- The settings that are numbers and may have a fraction. -/
def Settings.numbers (s : Settings) : List Number :=
  [s.ingest.timeout, s.database.pool.acquireTimeout, s.collection.jitter, s.reporting.sampleRate]

/-- Settings that are equal, their numbers compared as numbers. -/
structure Settings.Alike (s t : Settings) : Prop where
  numbers : List.Forall₂ (fun x y => x.numEq y = true) s.numbers t.numbers
  others : t = { s with
    ingest.timeout := t.ingest.timeout
    database.pool.acquireTimeout := t.database.pool.acquireTimeout
    collection.jitter := t.collection.jitter
    reporting.sampleRate := t.reporting.sampleRate }

/-! ## Numbers read again -/

namespace Number

/-- A NaN takes part in no comparison that holds, on either side. -/
lemma nan_le (y : Number) : (Number.float .nan).le y = false := by
  cases hy : y.toBinary64 <;>
    simp [le, lt, numEq, toRat?, toBinary64, Binary64.toRat?, Binary64.lt, Binary64.numEq]

lemma lt_nan (x : Number) : x.lt (.float .nan) = false := by
  have hlt : x.toBinary64.lt .nan = false := by cases x.toBinary64 <;> rfl
  unfold lt
  cases x.toRat? <;> exact hlt

lemma le_nan (x : Number) : x.le (.float .nan) = false := by
  have heq : x.toBinary64.numEq .nan = false := by cases x.toBinary64 <;> rfl
  rw [le, lt_nan, Bool.false_or]
  unfold numEq
  cases x.toRat? <;> exact heq

lemma nan_lt (y : Number) : (Number.float .nan).lt y = false :=
  (Bool.or_eq_false_iff.mp (nan_le y)).1

/-- What is a number equals itself. -/
lemma numEq_self {x : Number} (hx : x ≠ .float .nan) : x.numEq x = true := by
  cases x with
  | int n => simp [numEq, toRat?]
  | float y =>
    cases y with
    | nan => exact absurd rfl hx
    | infinite negative =>
      simp [numEq, toRat?, toBinary64, Binary64.toRat?, Binary64.numEq]
    | finite negative m e h => simp [numEq, toRat?, Binary64.toRat?]

end Number

/-- A NaN violates every bound. -/
lemma Bound.ne_nan {b : Bound} {x : Number} (h : b.violatedBy x = false) : x ≠ .float .nan := by
  rintro rfl
  obtain ⟨relation, limit⟩ := b
  cases relation <;>
    simp [violatedBy, Number.nan_lt, Number.lt_nan, Number.nan_le, Number.le_nan] at h

namespace Read

lemma boundedInteger_int {bounds : List Bound} {n : Int}
    (h : ∀ b ∈ bounds, b.violatedBy (.int n) = false) : boundedInteger bounds (.int n) = .valid n := by
  show (within bounds (.int n)).map (fun _ => n) = .valid n
  rw [within_of_forall h]
  rfl

lemma boundedNumber_float {bounds : List Bound} {x : Binary64}
    (h : ∀ b ∈ bounds, b.violatedBy (.float x) = false) :
    boundedNumber bounds (.float x) = .valid (.float x) :=
  within_of_forall h

/-- A number within bounds that is read again within them, in floating point, and that is the same
number then. -/
structure Rereads (bounds : List Bound) (x : Number) : Prop where
  within : ∀ b ∈ bounds, b.violatedBy x = false
  again : boundedNumber bounds (.ofNumber x) = .valid x.floating
  same : x.numEq x.floating = true

/-- One bound is enough for what is read to equal itself. -/
lemma ensures_rereads (b : Bound) (bounds : List Bound) :
    Ensures (boundedNumber (b :: bounds)) (Rereads (b :: bounds)) := by
  intro v x h
  obtain ⟨⟨y, rfl⟩, hbounds⟩ := ensures_boundedNumber _ v x h
  exact ⟨hbounds, boundedNumber_float hbounds,
    Number.numEq_self (Bound.ne_nan (hbounds b List.mem_cons_self))⟩

/-- A whole number, as defaults may be. -/
lemma rereads_int {bounds : List Bound} {n : Int} (hfinite : (Binary64.ofInt n).isFinite = true)
    (hbounds : ∀ x ∈ [Number.int n, .float (.ofInt n)], ∀ b ∈ bounds, b.violatedBy x = false)
    (hsame : (Number.int n).numEq (.float (.ofInt n)) = true) : Rereads bounds (.int n) := by
  refine ⟨hbounds _ (by simp), ?_, hsame⟩
  have hread : number (.ofNumber (.int n)) = .valid (.ofInt n) := by
    simp [Value.ofNumber, number, asText?, hfinite]
  unfold boundedNumber
  rw [hread]
  exact within_of_forall (hbounds _ (by simp))

/-! ## Texts and lists read again -/

lemma refine_text {test : String → Option String} {s : String} (h : test s = none) :
    refine test (text (.text s)) = .valid s := by
  simp [refine, text, Checked.andThen, h]

lemma nullable_name {α : Type} {read : Value → Checked α} {f : α → String} {o : Option α}
    (h : ∀ a ∈ o, read (.text (f a)) = .valid a) :
    nullable read (optionalText (o.map f)) = .valid o := by
  cases o with
  | none => rfl
  | some a =>
    show (read (.text (f a))).map some = .valid (some a)
    rw [h a rfl]
    rfl

lemma nullable_optionalText {read : Value → Checked String} {o : Option String}
    (h : ∀ s ∈ o, read (.text s) = .valid s) : nullable read (optionalText o) = .valid o := by
  have hread := nullable_name (f := id) h
  rwa [Option.map_id] at hread

lemma itemsFrom_map {α : Type} {read : Value → Checked α} {write : α → Value}
    (h : ∀ a, read (write a) = .valid a) (l : List α) (i : Nat) :
    itemsFrom read i (l.map write) = .valid l := by
  induction l generalizing i with
  | nil => rfl
  | cons a l ih => rw [List.map_cons, itemsFrom, h, ih, Checked.within_valid, Checked.map_valid,
      Checked.seq_valid]

/-! ## Records read again -/

lemma field?_text_cons (k : String) (v : Value) (es : Entries) (name : String) :
    Entries.field? ((.text k, v) :: es) name = if k = name then some v else es.field? name := by
  simp [Entries.field?, Entries.get?_cons, Scalar.sameKey, Scalar.keyForm]

/-- A record whose keys are names of fields has no strangers. -/
lemma strangers_eq_nil {fields : List Field} {es : Entries}
    (h : ∀ e ∈ es, ∃ f ∈ fields, e.1 = .text f.wire) : strangers fields es = [] := by
  unfold strangers
  rw [List.filterMap_eq_nil_iff]
  intro e he
  obtain ⟨f, hf, hname⟩ := h e he
  have hsome : (es.field? f.wire).isSome := by
    rw [Entries.field?, Entries.get?, Option.isSome_map, List.find?_isSome]
    exact ⟨e, he, by rw [hname]; exact Scalar.sameKey_refl _⟩
  obtain ⟨v, hv⟩ := Option.isSome_iff_exists.mp hsome
  have hused : f.wire ∈ fields.filterMap fun f => (f.find? es).map (·.1) :=
    List.mem_filterMap.mpr ⟨f, hf, by simp [Field.find?, hv]⟩
  obtain ⟨k, v⟩ := e
  cases hname
  simp [hused]

lemma closedRecord_record {α : Type} {title : String} {fields : List Field}
    {read : Entries → Checked α} {pairs : List (String × Value)} {a : α}
    (hnames : pairs.map (·.1) = fields.map (·.wire))
    (hread : read (pairs.map fun (k, v) => (.text k, v)) = .valid a) :
    closedRecord title fields read (.record pairs) = .valid a := by
  have hnone : strangers fields (pairs.map fun (k, v) => (.text k, v)) = [] := by
    refine strangers_eq_nil fun e he => ?_
    obtain ⟨p, hp, rfl⟩ := List.mem_map.mp he
    obtain ⟨f, hf, hwire⟩ := List.mem_map.mp (hnames ▸ List.mem_map_of_mem hp)
    exact ⟨f, hf, by rw [hwire]⟩
  show (read _).withIssues (strangers fields _) = .valid a
  rw [hread, hnone]
  rfl

/-- A default that does not pass the test of its field tells whether the field was given. -/
lemma iff_given {α : Type} {wire : String} {es : Entries} {read : Value → Checked α} {P : α → Prop}
    {default a : α} (hread : Ensures read P) (hdefault : ¬ P default)
    (h : Field.optional ⟨wire, none⟩ es default read = .valid a) :
    P a ↔ ((Value.map es).at? [.text wire]).isSome := by
  have hat : (Value.map es).at? [.text wire] = es.field? wire := by
    rw [Value.at?_map_cons, Entries.field?]
    cases es.get? (.text wire) <;> rfl
  have hfind := find?_of_wire wire es
  rw [hat]
  rcases optional_cases h with ⟨_, v, hsome, hv⟩ | ⟨hnone, rfl⟩
  · refine iff_of_true (hread v a hv) ?_
    rw [← Option.isSome_map, ← hfind, hsome]
    rfl
  · refine iff_of_false hdefault ?_
    rw [← Option.isSome_map, ← hfind, hnone]
    exact Bool.false_ne_true

end Read

/-! ## Sections -/

/-- The whole number that three defaults are. -/
lemma rereads_thirty {bounds : List Bound}
    (hbounds : ∀ x ∈ [Number.int 30, .float (.ofInt 30)], ∀ b ∈ bounds, b.violatedBy x = false) :
    Rereads bounds (.int 30) :=
  rereads_int (by decide +kernel) hbounds (by decide +kernel)

namespace PoolSettings

/-- What a pool was accepted for. -/
structure Accepted (p : PoolSettings) : Prop where
  usable : p.Usable
  acquireTimeout : Rereads [.ofFloat .above 0] p.acquireTimeout

lemma accepted_default : PoolSettings.default.Accepted :=
  ⟨usable_default, rereads_thirty (by decide +kernel)⟩

lemma accepted_of_check : Ensures check Accepted := by
  intro v p h
  refine ⟨usable_of_check v p h, ?_⟩
  obtain ⟨q, hq, htest⟩ := Checked.eq_of_andThen_eq_valid h
  obtain rfl : q = p := by
    split at htest
    · cases htest
      rfl
    · cases htest
  obtain ⟨es, -, hread⟩ := eq_of_closedRecord_eq_valid hq
  clear h hq htest
  refine Checked.seq_elim hread fun _ acquireTimeout h htimeout => ?_
  refine Checked.seq_elim h fun _ _ h _ => ?_
  refine Checked.map_elim h fun _ _ => ?_
  exact ensures_optional (ensures_rereads _ _) accepted_default.acquireTimeout htimeout

/-- A pool is read again. -/
lemma check_toValue {p : PoolSettings} (h : p.Accepted) : check p.toValue = .valid p.floating := by
  have hleast : boundedInteger [.ofInt .atLeast 0] (.int p.minConnections) = .valid _ :=
    boundedInteger_int (by simpa [Bound.violatedBy_ofInt_atLeast] using h.usable.least)
  have hmost : boundedInteger [.ofInt .atLeast 1] (.int p.maxConnections) = .valid _ :=
    boundedInteger_int (by simpa [Bound.violatedBy_ofInt_atLeast] using h.usable.most)
  have hrecord : closedRecord title fields readFields p.toValue = .valid p.floating := by
    refine closedRecord_record rfl ?_
    simp [readFields, optional_eq, field?_text_cons, hleast, hmost, h.acquireTimeout.again, floating]
  unfold check
  rw [hrecord]
  simp [refine, Checked.andThen, floating, not_lt.mpr h.usable.ordered]

end PoolSettings

namespace IngestSettings

/-- What the settings of an endpoint were accepted for, the key apart. -/
structure Accepted (s : IngestSettings) : Prop where
  endpoint : endpointFault? s.endpoint = none
  timeout : Rereads [.ofFloat .atMost 600, .ofFloat .above 0] s.timeout
  retries : ∀ b ∈ [Bound.ofInt .atMost 10, .ofInt .atLeast 0], b.violatedBy (.int s.retries) = false

lemma accepted_of_check : Ensures check Accepted := by
  intro v s h
  obtain ⟨es, -, hread⟩ := eq_of_closedRecord_eq_valid h
  refine Checked.seq_elim hread fun _ _ h _ => ?_
  refine Checked.seq_elim h fun _ retries h hretries => ?_
  refine Checked.seq_elim h fun _ timeout h htimeout => ?_
  refine Checked.seq_elim h fun _ endpoint h hendpoint => ?_
  refine Checked.map_elim h fun _ _ => ?_
  have haddress := ensures_required (ensures_refine text endpointFault?) hendpoint
  constructor
  · exact haddress
  · exact ensures_optional (ensures_rereads _ _) (rereads_thirty (by decide +kernel)) htimeout
  · exact ensures_optional (ensures_boundedInteger _) (by decide) hretries

lemma apiKeyFault?_eq_none_iff {v : Value} {s : IngestSettings} (h : check v = .valid s) :
    apiKeyFault? s.apiKey = none ↔ (v.at? [.text "api_key"]).isSome := by
  obtain ⟨es, rfl, hread⟩ := eq_of_closedRecord_eq_valid h
  refine Checked.seq_elim hread fun _ _ h _ => ?_
  refine Checked.seq_elim h fun _ _ h _ => ?_
  refine Checked.seq_elim h fun _ _ h _ => ?_
  refine Checked.seq_elim h fun _ _ h _ => ?_
  refine Checked.map_elim h fun apiKey hapiKey => ?_
  have hiff := iff_given (ensures_refine text apiKeyFault?) (by decide) hapiKey
  exact hiff

/-- The settings of an endpoint are read again if the key is not blank. -/
lemma check_toValue {s : IngestSettings} (h : s.Accepted) (hkey : apiKeyFault? s.apiKey = none) :
    check s.toValue = .valid s.floating := by
  refine closedRecord_record rfl ?_
  have hboolean (b : Bool) : boolean (.bool b) = .valid b := rfl
  simp [readFields, optional_eq, required_eq, field?_text_cons, refine_text hkey,
    refine_text h.endpoint, h.timeout.again, boundedInteger_int h.retries, hboolean, floating]

end IngestSettings

namespace DatabaseSettings

/-- What the settings of a database were accepted for, the URL apart. -/
structure Accepted (d : DatabaseSettings) : Prop where
  collector : ∀ path ∈ d.collector, collectorFault? path = none
  pool : d.pool.Accepted

lemma accepted_of_check : Ensures check Accepted := by
  intro v d h
  obtain ⟨es, -, hread⟩ := eq_of_closedRecord_eq_valid h
  refine Checked.seq_elim hread fun _ pool h hpool => ?_
  refine Checked.seq_elim h fun _ collector h hcollector => ?_
  refine Checked.seq_elim h fun _ _ h _ => ?_
  refine Checked.seq_elim h fun _ _ h _ => ?_
  refine Checked.map_elim h fun _ _ => ?_
  have hpath := ensures_optional (ensures_nullable (ensures_refine text collectorFault?))
    (by simp) hcollector
  constructor
  · exact hpath
  · exact ensures_optional PoolSettings.accepted_of_check PoolSettings.accepted_default hpool

/-- What the test of a URL makes sure of, and a blank one does not have, tells whether the URL was
given. -/
lemma url_iff_given {P : String → Prop} (htest : ∀ s, urlFault? s = none → P s) (hblank : ¬ P "")
    {v : Value} {d : DatabaseSettings} (h : check v = .valid d) :
    P d.url ↔ (v.at? [.text "url"]).isSome := by
  obtain ⟨es, rfl, hread⟩ := eq_of_closedRecord_eq_valid h
  refine Checked.seq_elim hread fun _ _ h _ => ?_
  refine Checked.seq_elim h fun _ _ h _ => ?_
  refine Checked.seq_elim h fun _ _ h _ => ?_
  refine Checked.seq_elim h fun _ _ h _ => ?_
  refine Checked.map_elim h fun url hurl => ?_
  have hread : Ensures (fun v => refine urlFault? (text v)) P :=
    fun v a ha => htest a (ensures_refine text urlFault? v a ha)
  have hiff := iff_given hread hblank hurl
  exact hiff

lemma oneOf_engine (e : Engine) : oneOf Engine.all Engine.name (.text e.name) = .valid e := by
  cases e <;> rfl

lemma oneOf_provider (p : Provider) :
    oneOf Provider.all Provider.name (.text p.name) = .valid p := by
  cases p <;> rfl

/-- The settings of a database are read again if its URL is one. -/
lemma check_toValue {d : DatabaseSettings} (h : d.Accepted) (hurl : urlFault? d.url = none) :
    check d.toValue = .valid d.floating := by
  have hengine : nullable (oneOf Engine.all Engine.name) (optionalText (d.engine.map Engine.name))
      = .valid d.engine :=
    nullable_name fun e _ => oneOf_engine e
  have hcollector : nullable (fun v => refine collectorFault? (text v)) (optionalText d.collector)
      = .valid d.collector :=
    nullable_optionalText fun path hpath => refine_text (h.collector path hpath)
  refine closedRecord_record rfl ?_
  simp [toEntries, readFields, optional_eq, field?_text_cons, refine_text hurl, hengine,
    oneOf_provider, hcollector, PoolSettings.check_toValue h.pool, floating]

end DatabaseSettings

namespace CollectionSettings

/-- What the settings of collections were accepted for. -/
structure Accepted (c : CollectionSettings) : Prop where
  interval : 10 ≤ c.interval
  jitter : Rereads [.ofFloat .atMost 60, .ofFloat .atLeast 0] c.jitter

lemma accepted_default : CollectionSettings.default.Accepted :=
  ⟨by decide, ensures_rereads _ _ (.float 5) _ (boundedNumber_float (by decide +kernel))⟩

lemma accepted_of_check : Ensures check Accepted := by
  intro v c h
  obtain ⟨es, -, hread⟩ := eq_of_closedRecord_eq_valid h
  refine Checked.seq_elim hread fun _ _ h _ => ?_
  refine Checked.seq_elim h fun _ jitter h hjitter => ?_
  refine Checked.map_elim h fun interval hinterval => ?_
  constructor
  · exact ensures_optional interval_of_readInterval (by decide) hinterval
  · exact ensures_optional (ensures_rereads _ _) accepted_default.jitter hjitter

lemma oneOf_group (g : MetricGroup) :
    oneOf MetricGroup.all MetricGroup.name (.text g.name) = .valid g := by
  cases g <;> rfl

/-- The name of a group is no former name of another. -/
lemma currentName_name (g : MetricGroup) : currentName (.text g.name) = .text g.name := by
  cases g <;> rfl

lemma readMetrics_names (l : List MetricGroup) :
    readMetrics (.list (l.map fun g => .text g.name)) = .valid l := by
  have hcurrent : (l.map fun g => Value.text g.name).map currentName
      = l.map fun g => Value.text g.name := by
    simp [currentName_name]
  show itemsFrom _ 0 ((l.map fun g => Value.text g.name).map currentName) = .valid l
  rw [hcurrent]
  exact itemsFrom_map oneOf_group l 0

/-- The settings of collections are read again. -/
lemma check_toValue {c : CollectionSettings} (h : c.Accepted) :
    check c.toValue = .valid c.floating := by
  have hinterval : readInterval (.int c.interval) = .valid c.interval :=
    boundedInteger_int
      (by simpa [Bound.violatedBy_ofInt_atLeast, shortestInterval] using h.interval)
  refine closedRecord_record rfl ?_
  simp [readFields, optional_eq, field?_text_cons, hinterval, h.jitter.again, readMetrics_names,
    floating]

end CollectionSettings

namespace LogSettings

lemma oneOf_levelName (l : LogLevel) :
    oneOf LogLevel.all LogLevel.name (levelName (.text l.name)) = .valid l := by
  cases l <;> rfl

lemma oneOf_formatName (f : LogFormat) :
    oneOf LogFormat.all LogFormat.name (formatName (.text f.name)) = .valid f := by
  cases f <;> rfl

/-- Any settings of the log are read again. -/
lemma check_toValue (l : LogSettings) : check l.toValue = .valid l := by
  have hfile : nullable text (optionalText l.file) = .valid l.file :=
    nullable_optionalText fun _ _ => rfl
  refine closedRecord_record rfl ?_
  simp [readFields, optional_eq, field?_text_cons, oneOf_levelName, oneOf_formatName, hfile]

end LogSettings

namespace ReportingSettings

/-- What the settings of error reports were accepted for. -/
structure Accepted (r : ReportingSettings) : Prop where
  sampleRate : Rereads [.ofFloat .atMost 1, .ofFloat .atLeast 0] r.sampleRate

lemma accepted_default : ReportingSettings.default.Accepted :=
  ⟨ensures_rereads _ _ (.float 0) _ (boundedNumber_float (by decide +kernel))⟩

lemma accepted_of_check : Ensures check Accepted := by
  intro v r h
  obtain ⟨es, -, hread⟩ := eq_of_closedRecord_eq_valid h
  refine Checked.seq_elim hread fun _ sampleRate h hrate => ?_
  refine Checked.seq_elim h fun _ _ h _ => ?_
  refine Checked.seq_elim h fun _ _ h _ => ?_
  refine Checked.map_elim h fun _ _ => ?_
  exact ⟨ensures_optional (ensures_rereads _ _) accepted_default.sampleRate hrate⟩

/-- The settings of error reports are read again. -/
lemma check_toValue {r : ReportingSettings} (h : r.Accepted) :
    check r.toValue = .valid r.floating := by
  have hoptional (o : Option String) : nullable text (optionalText o) = .valid o :=
    nullable_optionalText fun _ _ => rfl
  have hboolean (b : Bool) : boolean (.bool b) = .valid b := rfl
  refine closedRecord_record rfl ?_
  simp [readFields, optional_eq, field?_text_cons, hoptional, hboolean, h.sampleRate.again, floating]

end ReportingSettings

/-! ## All settings -/

namespace Settings

/-- What settings were accepted for, the key and the URL apart. -/
structure Accepted (s : Settings) : Prop where
  ingest : s.ingest.Accepted
  database : s.database.Accepted
  collection : s.collection.Accepted
  reporting : s.reporting.Accepted

lemma accepted_of_check : Ensures check Accepted := by
  intro v s h
  obtain ⟨es, -, hread⟩ := eq_of_closedRecord_eq_valid h
  refine Checked.seq_elim hread fun _ reporting h hreporting => ?_
  refine Checked.seq_elim h fun _ _ h _ => ?_
  refine Checked.seq_elim h fun _ collection h hcollection => ?_
  refine Checked.seq_elim h fun _ database h hdatabase => ?_
  refine Checked.map_elim h fun ingest hingest => ?_
  constructor
  · exact ensures_required IngestSettings.accepted_of_check hingest
  · exact ensures_required DatabaseSettings.accepted_of_check hdatabase
  · exact ensures_optional CollectionSettings.accepted_of_check CollectionSettings.accepted_default
      hcollection
  · exact ensures_optional ReportingSettings.accepted_of_check ReportingSettings.accepted_default
      hreporting

/-- A section that has to be there is read from its place. -/
lemma exists_section {α : Type} {wire : String} {es : Entries} {read : Value → Checked α} {a : α}
    (h : Field.required ⟨wire, none⟩ es read = .valid a) :
    ∃ v, read v = .valid a ∧ ∀ p, (Value.map es).at? (.text wire :: p) = v.at? p := by
  obtain ⟨_, v, hfind, hv⟩ := exists_of_required h
  rw [find?_of_wire, Option.map_eq_some_iff] at hfind
  obtain ⟨w, hw, hpair⟩ := hfind
  cases hpair
  exact ⟨_, hv, fun p => by rw [Value.at?_map_cons, ← Entries.field?, hw, Option.bind_some]⟩

/-- The two sections that have to be there, each read from its place. -/
lemma exists_sections {v : Value} {s : Settings} (h : check v = .valid s) :
    (∃ w, IngestSettings.check w = .valid s.ingest ∧ ∀ p, v.at? (.text "ingest" :: p) = w.at? p) ∧
      ∃ w, DatabaseSettings.check w = .valid s.database ∧
        ∀ p, v.at? (.text "database" :: p) = w.at? p := by
  obtain ⟨es, rfl, hread⟩ := eq_of_closedRecord_eq_valid h
  refine Checked.seq_elim hread fun _ _ h _ => ?_
  refine Checked.seq_elim h fun _ _ h _ => ?_
  refine Checked.seq_elim h fun _ _ h _ => ?_
  refine Checked.seq_elim h fun _ _ h hdatabase => ?_
  refine Checked.map_elim h fun _ hingest => ?_
  exact ⟨exists_section hingest, exists_section hdatabase⟩

lemma apiKeyFault?_eq_none_iff {v : Value} {s : Settings} (h : check v = .valid s) :
    IngestSettings.apiKeyFault? s.ingest.apiKey = none ↔
      (v.at? [.text "ingest", .text "api_key"]).isSome := by
  obtain ⟨⟨w, hw, hat⟩, -⟩ := exists_sections h
  rw [hat]
  exact IngestSettings.apiKeyFault?_eq_none_iff hw

lemma url_iff_given {P : String → Prop} (htest : ∀ s, DatabaseSettings.urlFault? s = none → P s)
    (hblank : ¬ P "") {v : Value} {s : Settings} (h : check v = .valid s) :
    P s.database.url ↔ (v.at? [.text "database", .text "url"]).isSome := by
  obtain ⟨-, w, hw, hat⟩ := exists_sections h
  rw [hat]
  exact DatabaseSettings.url_iff_given htest hblank hw

lemma urlFault?_eq_none_iff {v : Value} {s : Settings} (h : check v = .valid s) :
    DatabaseSettings.urlFault? s.database.url = none ↔
      (v.at? [.text "database", .text "url"]).isSome :=
  url_iff_given (fun _ => id) (by decide) h

/-- Settings that were accepted are read again if neither the key nor the URL is blank. -/
lemma check_toValue {s : Settings} (h : s.Accepted)
    (hkey : IngestSettings.apiKeyFault? s.ingest.apiKey = none)
    (hurl : DatabaseSettings.urlFault? s.database.url = none) :
    check s.toValue = .valid s.floating := by
  refine closedRecord_record rfl ?_
  simp [readFields, required_eq, optional_eq, field?_text_cons,
    IngestSettings.check_toValue h.ingest hkey, DatabaseSettings.check_toValue h.database hurl,
    CollectionSettings.check_toValue h.collection, LogSettings.check_toValue,
    ReportingSettings.check_toValue h.reporting, floating]

lemma alike_floating {s : Settings} (h : s.Accepted) : s.Alike s.floating := by
  refine ⟨?_, rfl⟩
  refine .cons h.ingest.timeout.same ?_
  refine .cons h.database.pool.acquireTimeout.same ?_
  refine .cons h.collection.jitter.same ?_
  exact .cons h.reporting.sampleRate.same .nil

/-- A blank key or URL is refused when it is read. -/
lemma faultless_of_check_toValue {s t : Settings} (h : check s.toValue = .valid t)
    (halike : s.Alike t) : IngestSettings.apiKeyFault? s.ingest.apiKey = none ∧
      DatabaseSettings.urlFault? s.database.url = none := by
  have hkey : s.ingest.apiKey = t.ingest.apiKey := by rw [halike.others]
  have hurl : s.database.url = t.database.url := by rw [halike.others]
  rw [hkey, hurl, apiKeyFault?_eq_none_iff h, urlFault?_eq_none_iff h]
  exact ⟨rfl, rfl⟩

/-- Settings that were accepted are the same when they are written and read again exactly if a key
and a URL were given; and the database that is meant is known exactly if a URL was given or the
database was named. -/
theorem rereads_iff (v : Value) (s : Settings) (hcheck : check v = .valid s) :
    ((∃ t, check s.toValue = .valid t ∧ s.Alike t) ↔
      (v.at? [.text "ingest", .text "api_key"]).isSome ∧
        (v.at? [.text "database", .text "url"]).isSome) ∧
    (s.database.resolvedEngine?.isSome ↔
      (v.at? [.text "database", .text "url"]).isSome ∨ s.database.engine.isSome) := by
  constructor
  · rw [← apiKeyFault?_eq_none_iff hcheck, ← urlFault?_eq_none_iff hcheck]
    constructor
    · rintro ⟨t, ht, halike⟩
      exact faultless_of_check_toValue ht halike
    · rintro ⟨hkey, hurl⟩
      have haccepted := accepted_of_check v s hcheck
      exact ⟨s.floating, check_toValue haccepted hkey hurl, alike_floating haccepted⟩
  · have hurl : (Engine.ofUrl? s.database.url).isSome ↔
        (v.at? [.text "database", .text "url"]).isSome := by
      refine url_iff_given (P := fun url => (Engine.ofUrl? url).isSome) ?_ (by decide) hcheck
      intro url hurl
      obtain ⟨e, he⟩ := DatabaseSettings.exists_of_urlFault? hurl
      rw [he]
      rfl
    rw [← hurl, DatabaseSettings.resolvedEngine?, Option.isSome_or, Bool.or_eq_true, or_comm]

/-- A mapping with a key and an endpoint, and with what is given of a database. -/
def sample (database : List (String × Value)) : Value :=
  .record [
    ("ingest", .record [("api_key", .text "k"), ("endpoint", .text "https://x.example/v1/ingest")]),
    ("database", .record database)]

/-- What such a mapping is accepted as, all the rest by default. -/
def sampled (url : String) : Settings :=
  ⟨⟨"k", "https://x.example/v1/ingest", .int 30, 3, true⟩, ⟨url, none, .auto, none, .default⟩,
    .default, .default, .default⟩

theorem rereads_iff_sample :
    check (sample [("url", .text "mysql://db/app")]) = .valid (sampled "mysql://db/app") ∧
      (∃ t, check (sampled "mysql://db/app").toValue = .valid t ∧
        (sampled "mysql://db/app").Alike t) ∧
      (sampled "mysql://db/app").database.resolvedEngine?.isSome := by
  have hcheck : check (sample [("url", .text "mysql://db/app")])
      = .valid (sampled "mysql://db/app") := rfl
  obtain ⟨hrereads, hengine⟩ := rereads_iff _ _ hcheck
  exact ⟨hcheck, hrereads.mpr ⟨rfl, rfl⟩, hengine.mpr (.inl rfl)⟩

/-- Without a URL settings are accepted that are refused when they are read again, all numbers being
finite. -/
theorem not_forall_rereads :
    ¬ ∀ v s, check v = .valid s → (∀ x ∈ s.numbers, x.toBinary64.isFinite = true) →
      (∃ t, check s.toValue = .valid t ∧ s.Alike t) ∧ s.database.resolvedEngine?.isSome := by
  intro h
  have hcheck : check (sample []) = .valid (sampled "") := rfl
  obtain ⟨⟨t, ht, halike⟩, -⟩ := h _ _ hcheck (by decide +kernel)
  obtain ⟨-, hurl⟩ := faultless_of_check_toValue ht halike
  exact absurd hurl (by decide)

end Settings

end MetricsAgent
