import MetricsAgent.Proofs.Settings.Expansion
import MetricsAgent.Proofs.Settings.Rereading

/-!
# The interval on the command line

An interval that is given on the command line goes over the one in the settings and leaves everything
else as it is (`Settings.load_interval`).  In the tree that is checked it changes one value, which is
put over whatever the layers below have under that key: a placeholder, a number, a value that would be
refused, or nothing.  The rest is what a record makes of a changed entry: a key of a field is no
stranger, and every other field is found where it was.
-/

namespace MetricsAgent

/-! ## Records with an entry changed -/

namespace Read

variable {α : Type} {fields : List Field} {es : Entries} {name : String}

lemma closedRecord_eq_valid_iff {title : String} {read : Entries → Checked α} {a : α} :
    closedRecord title fields read (.map es) = .valid a ↔
      strangers fields es = [] ∧ read es = .valid a := by
  show (read es).withIssues (strangers fields es) = .valid a ↔ _
  constructor
  · intro h
    refine ⟨?_, Checked.eq_of_withIssues_eq_valid h⟩
    rw [Checked.eq_of_withIssues_eq_valid h] at h
    cases hstrangers : strangers fields es with
    | nil => rfl
    | cons i is =>
      rw [hstrangers] at h
      cases h
  · rintro ⟨hstrangers, hread⟩
    rw [hstrangers, hread]
    rfl

/-- Where every field has one name, only these names are keys of a record without strangers. -/
lemma exists_field_of_strangers (hnames : ∀ f ∈ fields, f.alternative = none)
    (h : strangers fields es = []) : ∀ k ∈ es.keys, ∃ f ∈ fields, k = .text f.wire := by
  intro k hk
  obtain ⟨e, he, rfl⟩ := List.mem_map.mp hk
  obtain ⟨k, v⟩ := e
  have hknown := List.filterMap_eq_nil_iff.mp h _ he
  cases k with
  | text s =>
    have hused : s ∈ fields.filterMap fun f => (f.find? es).map (·.1) := by
      by_contra hnot
      simp [hnot] at hknown
    obtain ⟨f, hf, hfind⟩ := List.mem_filterMap.mp hused
    obtain ⟨wire, alternative⟩ := f
    obtain rfl : alternative = none := hnames _ hf
    rw [find?_of_wire, Option.map_map, Option.map_eq_some_iff] at hfind
    obtain ⟨_, -, rfl⟩ := hfind
    exact ⟨_, hf, rfl⟩
  | _ => cases hknown

/-- A field may be given a value of any kind: it is no stranger. -/
lemma strangers_put (hnames : ∀ f ∈ fields, f.alternative = none)
    (hfield : ∃ f ∈ fields, f.wire = name) (v : Value) (h : strangers fields es = []) :
    strangers fields (es.put (.text name) v) = [] := by
  obtain ⟨f, hf, rfl⟩ := hfield
  have hknown := exists_field_of_strangers hnames h
  refine strangers_eq_nil fun e he => ?_
  have hk : e.1 ∈ (es.put (.text f.wire) v).keys := List.mem_map_of_mem he
  rw [Entries.keys_put] at hk
  split at hk
  · exact hknown _ hk
  · rcases List.mem_append.mp hk with hold | hnew
    · exact hknown _ hold
    · exact ⟨f, hf, List.mem_singleton.mp hnew⟩

lemma find?_put_of_ne {wire : String} (v : Value) (hne : name ≠ wire) :
    Field.find? ⟨wire, none⟩ (es.put (.text name) v) = Field.find? ⟨wire, none⟩ es := by
  rw [find?_of_wire, find?_of_wire, Entries.field?_put, if_neg hne]

lemma required_put_of_ne {wire : String} {read : Value → Checked α} (v : Value)
    (hne : name ≠ wire) :
    Field.required ⟨wire, none⟩ (es.put (.text name) v) read
      = Field.required ⟨wire, none⟩ es read := by
  rw [Field.required, Field.required, find?_put_of_ne v hne]

lemma optional_put_of_ne {wire : String} {default : α} {read : Value → Checked α} (v : Value)
    (hne : name ≠ wire) :
    Field.optional ⟨wire, none⟩ (es.put (.text name) v) default read
      = Field.optional ⟨wire, none⟩ es default read := by
  rw [Field.optional, Field.optional, find?_put_of_ne v hne]

lemma optional_put {default : α} {read : Value → Checked α} (v : Value) :
    Field.optional ⟨name, none⟩ (es.put (.text name) v) default read
      = (read v).within (.name name) :=
  optional_eq default (by rw [Entries.field?_put, if_pos rfl])

end Read

open Read

/-! ## A single entry over a value -/

/-- A single entry that is no mapping is put into the mapping that is there, or is all there is. -/
lemma Value.exists_over_entry (k : Scalar) {v : Value} (hv : ¬ v.IsMapping)
    (current : Option Value) :
    ∃ base : Entries, (Value.map [(k, v)]).over current = .map (base.put k v) ∧
      (current = some (.map base) ∨ base = [] ∧ ∀ x, current = some x → ¬ x.IsMapping) := by
  by_cases hmap : ∃ base, current = some (.map base)
  · obtain ⟨base, rfl⟩ := hmap
    refine ⟨base, ?_, .inl rfl⟩
    rw [Value.over, Entries.merge, Entries.merge_nil, Value.over_of_not_isMapping hv]
  · have hnone : ∀ x, current = some x → ¬ x.IsMapping := by
      rintro _ hx ⟨base, rfl⟩
      exact hmap ⟨base, hx⟩
    exact ⟨[], by rw [Value.over_of_forall hnone, Entries.put], .inr ⟨rfl, hnone⟩⟩

/-! ## The section -/

namespace CollectionSettings

/-- The section that has an interval and nothing else. -/
def intervalOnly (n : Int) : Value :=
  .map [(.text "interval", .int n)]

lemma readInterval_int {n : Int} (hn : 10 ≤ n) : readInterval (.int n) = .valid n :=
  boundedInteger_int (by simpa [Bound.violatedBy_ofInt_atLeast, shortestInterval] using hn)

lemma eq_of_readInterval_int {n m : Int} (h : readInterval (.int n) = .valid m) : m = n := by
  obtain ⟨_, -, rfl⟩ :=
    Checked.eq_of_map_eq_valid (x := within [.ofInt .atLeast shortestInterval] (.int n)) h
  rfl

/-- A section that is accepted is accepted with another interval, and is the same otherwise. -/
lemma check_put {es : Entries} {c : CollectionSettings} {n : Int} (hn : 10 ≤ n)
    (h : check (.map es) = .valid c) :
    check (.map (es.put (.text "interval") (.int n))) = .valid { c with interval := n } := by
  obtain ⟨hstrangers, hread⟩ := closedRecord_eq_valid_iff.mp h
  have hknown : strangers fields (es.put (.text "interval") (.int n)) = [] :=
    strangers_put (by decide) (by decide) _ hstrangers
  refine closedRecord_eq_valid_iff.mpr ⟨hknown, ?_⟩
  refine Checked.seq_elim hread fun _ metrics h hmetrics => ?_
  refine Checked.seq_elim h fun _ jitter h hjitter => ?_
  refine Checked.map_elim h fun _ _ => ?_
  rw [readFields, optional_put, optional_put_of_ne _ (by decide), optional_put_of_ne _ (by decide),
    readInterval_int hn, hjitter, hmetrics]
  rfl

/-- A section in which the interval is a number has it as its interval. -/
lemma interval_of_check_put {es : Entries} {c : CollectionSettings} {n : Int}
    (h : check (.map (es.put (.text "interval") (.int n))) = .valid c) : c.interval = n := by
  obtain ⟨-, hread⟩ := closedRecord_eq_valid_iff.mp h
  refine Checked.seq_elim hread fun _ _ h _ => ?_
  refine Checked.seq_elim h fun _ _ h _ => ?_
  refine Checked.map_elim h fun interval hinterval => ?_
  rw [optional_put] at hinterval
  exact eq_of_readInterval_int (Checked.eq_of_within_eq_valid hinterval)

/-- An interval over a section that is accepted, or over none. -/
lemma check_over {current : Option Value} {c : CollectionSettings} {n : Int} (hn : 10 ≤ n)
    (h : (∃ v, current = some v ∧ check v = .valid c) ∨ current = none ∧ c = .default) :
    check ((intervalOnly n).over current) = .valid { c with interval := n } := by
  obtain ⟨base, hover, hbase⟩ :=
    Value.exists_over_entry (.text "interval") (v := .int n) nofun current
  have hcheck : check (.map base) = .valid c := by
    rcases h with ⟨v, rfl, hv⟩ | ⟨rfl, rfl⟩
    · obtain ⟨es, rfl, -⟩ := eq_of_closedRecord_eq_valid hv
      rcases hbase with hsome | ⟨-, hnone⟩
      · cases hsome
        exact hv
      · exact absurd ⟨es, rfl⟩ (hnone _ rfl)
    · rcases hbase with hsome | ⟨rfl, -⟩
      · cases hsome
      · rfl
  rw [intervalOnly, hover]
  exact check_put hn hcheck

/-- An interval over anything is the interval of what is accepted. -/
lemma interval_of_check_over {current : Option Value} {c : CollectionSettings} {n : Int}
    (h : check ((intervalOnly n).over current) = .valid c) : c.interval = n := by
  obtain ⟨base, hover, -⟩ :=
    Value.exists_over_entry (.text "interval") (v := .int n) nofun current
  rw [intervalOnly, hover] at h
  exact interval_of_check_put h

end CollectionSettings

/-! ## All sections -/

namespace Settings

/-- The sections with an interval over those that are there. -/
def withInterval (es : Entries) (n : Int) : Entries :=
  es.put (.text "collection")
    ((CollectionSettings.intervalOnly n).over (es.get? (.text "collection")))

lemma merge_overrides (es : Entries) (n : Int) :
    es.merge (Command.overrides (some n)) = withInterval es n := by
  rw [Command.overrides, Entries.merge, Entries.merge_nil]
  rfl

/-- A number is no placeholder, so it makes no difference when the interval is put there. -/
lemma expandEntries_withInterval (env : Environment) (es : Entries) (n : Int) :
    env.expandEntries (withInterval es n) = withInterval (env.expandEntries es) n := by
  have hnumber : env.expand (CollectionSettings.intervalOnly n)
      = CollectionSettings.intervalOnly n := by
    rw [CollectionSettings.intervalOnly, Environment.expand_map, Environment.expandEntries,
      Environment.expandEntries, Environment.expand_of_not_isOpen env id]
  rw [withInterval, Environment.expandEntries_put, Environment.expand_over, hnumber,
    ← Environment.get?_expandEntries]
  rfl

lemma named_withInterval {es : Entries} {n : Int} : (withInterval es n).Named ↔ es.Named := by
  have hname : (∃ s, KeyForm.text "collection" = .text s) := ⟨_, rfl⟩
  simp [withInterval, Entries.named_iff_keyForms, Entries.mem_keyForms_put, Scalar.keyForm,
    or_imp, forall_and]

/-- The section of the collections: it was read, or it is missing and has its defaults. -/
lemma collection_cases {es : Entries} {c : CollectionSettings}
    (h : Field.optional ⟨"collection", none⟩ es .default CollectionSettings.check = .valid c) :
    (∃ v, es.get? (.text "collection") = some v ∧ CollectionSettings.check v = .valid c) ∨
      es.get? (.text "collection") = none ∧ c = .default := by
  have hfind := find?_of_wire "collection" es
  rcases optional_cases h with ⟨_, v, hsome, hv⟩ | ⟨hnone, hdefault⟩
  · rw [hfind, Option.map_eq_some_iff] at hsome
    obtain ⟨_, hget, heq⟩ := hsome
    cases heq
    exact .inl ⟨v, hget, hv⟩
  · rw [hfind, Option.map_eq_none_iff] at hnone
    exact .inr ⟨hnone, hdefault⟩

/-- Settings that are accepted are accepted with another interval, and are the same otherwise. -/
lemma check_withInterval {es : Entries} {s : Settings} {n : Int} (hn : 10 ≤ n)
    (h : check (.map es) = .valid s) :
    check (.map (withInterval es n)) = .valid { s with collection.interval := n } := by
  obtain ⟨hstrangers, hread⟩ := closedRecord_eq_valid_iff.mp h
  have hknown : strangers fields (withInterval es n) = [] :=
    strangers_put (by decide) (by decide) _ hstrangers
  refine closedRecord_eq_valid_iff.mpr ⟨hknown, ?_⟩
  refine Checked.seq_elim hread fun _ reporting h hreporting => ?_
  refine Checked.seq_elim h fun _ logging h hlogging => ?_
  refine Checked.seq_elim h fun _ collection h hcollection => ?_
  refine Checked.seq_elim h fun _ database h hdatabase => ?_
  refine Checked.map_elim h fun ingest hingest => ?_
  have hover := CollectionSettings.check_over hn (collection_cases hcollection)
  rw [readFields, withInterval, optional_put, hover, required_put_of_ne _ (by decide),
    required_put_of_ne _ (by decide), optional_put_of_ne _ (by decide),
    optional_put_of_ne _ (by decide), hingest, hdatabase, hlogging, hreporting]
  rfl

lemma interval_of_check_withInterval {es : Entries} {s : Settings} {n : Int}
    (h : check (.map (withInterval es n)) = .valid s) : s.collection.interval = n := by
  obtain ⟨-, hread⟩ := closedRecord_eq_valid_iff.mp h
  refine Checked.seq_elim hread fun _ _ h _ => ?_
  refine Checked.seq_elim h fun _ _ h _ => ?_
  refine Checked.seq_elim h fun _ collection h hcollection => ?_
  refine Checked.seq_elim h fun _ _ h _ => ?_
  refine Checked.map_elim h fun _ _ => ?_
  rw [withInterval, optional_put] at hcollection
  exact CollectionSettings.interval_of_check_over (Checked.eq_of_within_eq_valid hcollection)

/-! ## Loading -/

lemma ofEntries_eq_ok_iff {es : Entries} {file : Option String} {s : Settings} :
    ofEntries es file = .ok s ↔ es.Named ∧ check (.map es) = .valid s := by
  by_cases hnamed : es.Named
  · rw [ofEntries_of_named hnamed, and_iff_right hnamed]
    split
    · next t hcheck => rw [hcheck, Except.ok.injEq, Checked.valid.injEq]
    · next i is hcheck =>
      rw [hcheck]
      split <;> exact iff_of_false nofun nofun
  · rw [ofEntries_of_not_named hnamed]
    exact iff_of_false nofun fun h => hnamed h.1

/-- The layers below the command line, put together. -/
def Below (h : Host) (named : Option String) (file : Option FilePath) (es : Entries) : Prop :=
  findFile h named = .ok file ∧
    ∃ layers, baseLayers h file = .ok layers ∧ es = Entries.mergeAll layers

lemma mergeAll_concat (layers : List Entries) (overrides : Entries) :
    Entries.mergeAll (layers ++ [overrides]) = (Entries.mergeAll layers).merge overrides := by
  rw [Entries.mergeAll_append, List.foldl_nil]

/-- Settings are loaded exactly if what is on the command line, over the layers below it, is
accepted. -/
lemma load_eq_ok_iff {h : Host} {named : Option String} {overrides : Entries} {l : Loaded} :
    load h named overrides = .ok l ↔ ∃ es, Below h named l.source es ∧
      Entries.Named (h.env.expandEntries (es.merge overrides)) ∧
        check (.map (h.env.expandEntries (es.merge overrides))) = .valid l.settings := by
  constructor
  · intro hload
    obtain ⟨file, hfile, hload⟩ := exists_of_bind_eq_ok hload
    obtain ⟨layers, hlayers, hload⟩ := exists_of_bind_eq_ok hload
    obtain ⟨s, hs, hl⟩ := exists_of_bind_eq_ok hload
    cases hl
    rw [mergeAll_concat] at hs
    exact ⟨_, ⟨hfile, layers, hlayers, rfl⟩, ofEntries_eq_ok_iff.mp hs⟩
  · rintro ⟨_, ⟨hfile, layers, hlayers, rfl⟩, haccepted⟩
    unfold load
    simp only [hfile, bind, Except.bind, hlayers, mergeAll_concat,
      ofEntries_eq_ok_iff.mpr haccepted]
    rfl

/-- An interval on the command line that is long enough changes the interval of the settings that
are loaded without it, and nothing else; and whenever settings are loaded with an interval on the
command line they have it, whatever the settings file and the environment say. -/
theorem load_interval (h : Host) (named : Option String) (n : Int) :
    (10 ≤ n → ∀ l, load h named (Command.overrides none) = .ok l →
      load h named (Command.overrides (some n))
        = .ok { l with settings.collection.interval := n }) ∧
    ∀ l, load h named (Command.overrides (some n)) = .ok l → l.settings.collection.interval = n := by
  constructor
  · intro hn l hload
    obtain ⟨es, hbelow, hnamed, hcheck⟩ := load_eq_ok_iff.mp hload
    rw [Command.overrides, Entries.merge_nil] at hnamed hcheck
    refine load_eq_ok_iff.mpr ⟨es, hbelow, ?_⟩
    rw [merge_overrides, expandEntries_withInterval, named_withInterval]
    exact ⟨hnamed, check_withInterval hn hcheck⟩
  · intro l hload
    obtain ⟨es, -, -, hcheck⟩ := load_eq_ok_iff.mp hload
    rw [merge_overrides, expandEntries_withInterval] at hcheck
    exact interval_of_check_withInterval hcheck

/-- A machine with a settings file that has an interval and a jitter of its own. -/
def filedHost (interval : String) : Host :=
  { watchedHost with files := ⟨[(["c.yaml"],
      ("collection:\n  interval: " ++ interval ++ "\n  jitter: 2\n").toUTF8.toList)], [], []⟩ }

/-- An interval in the settings file is replaced, and so is one that would be refused. -/
theorem load_interval_filedHost :
    ∃ l l', load (filedHost "5m") (some "c.yaml") (Command.overrides none) = .ok l ∧
      l.settings.collection.interval = 300 ∧
        load (filedHost "5m") (some "c.yaml") (Command.overrides (some 30))
          = .ok { l with settings.collection.interval := 30 } ∧
        load (filedHost "soon") (some "c.yaml") (Command.overrides (some 30)) = .ok l' ∧
          l'.settings.collection.interval = 30 := by
  have hplain : (load (filedHost "5m") (some "c.yaml") (Command.overrides none)).toOption.map
      (fun l => l.settings.collection.interval) = some 300 := by decide +kernel
  have hloads : (load (filedHost "soon") (some "c.yaml")
      (Command.overrides (some 30))).toOption.isSome = true := by decide +kernel
  cases hload : load (filedHost "5m") (some "c.yaml") (Command.overrides none) with
  | error f =>
    rw [hload] at hplain
    cases hplain
  | ok l =>
    cases hover : load (filedHost "soon") (some "c.yaml") (Command.overrides (some 30)) with
    | error f =>
      rw [hover] at hloads
      cases hloads
    | ok l' =>
      rw [hload] at hplain
      have hreplaced := (load_interval (filedHost "5m") (some "c.yaml") 30).1 (by decide) l hload
      have hinterval := (load_interval (filedHost "soon") (some "c.yaml") 30).2 l' hover
      exact ⟨l, l', rfl, Option.some.inj hplain, hreplaced, rfl, hinterval⟩

end Settings

end MetricsAgent
