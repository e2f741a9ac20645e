import MetricsAgent.Payload.Reader
import MetricsAgent.Proofs.Calendar.Readings
import MetricsAgent.Proofs.Json.Values
import MetricsAgent.Proofs.Validation.Accepted

/-!
# What validation gives

A reader that gives a property to whatever it accepts keeps it in lists, fields and records
(`Read.Gives`).  So a payload that was validated has times of the calendar only, and the mappings in
it have each name once (`Payload.wellFormed_of_validated`).
-/

namespace MetricsAgent

/-! ## Values with times of the calendar -/

/-- Dates and times are of the calendar; other scalars are as they are. -/
def Scalar.Proper : Scalar → Prop
  | .date d => d.Proper
  | .datetime t => t.Proper
  | _ => True

mutual

/-- All dates and times among the values in a value are of the calendar. -/
def Value.Proper : Value → Prop
  | .scalar s => s.Proper
  | .list xs => ItemsProper xs
  | .tuple xs => ItemsProper xs
  | .set ss => ∀ s ∈ ss, s.Proper
  | .map es => EntriesProper es

def ItemsProper : List Value → Prop
  | [] => True
  | x :: xs => x.Proper ∧ ItemsProper xs

def EntriesProper : List (Scalar × Value) → Prop
  | [] => True
  | (_, v) :: es => v.Proper ∧ EntriesProper es

end

lemma EntriesProper.of_field? {es : Entries} (hes : EntriesProper es) {name : String} {v : Value}
    (h : es.field? name = some v) : v.Proper := by
  induction es with
  | nil => cases h
  | cons e es ih =>
    obtain ⟨k, w⟩ := e
    obtain ⟨hw, hes⟩ := hes
    rw [Entries.field?, Entries.get?_cons] at h
    split at h
    · cases h
      exact hw
    · exact ih hes h

namespace Read

variable {α : Type}

/-- A reader gives a property to what it accepts. -/
def Gives (read : Value → Checked α) (P : α → Prop) : Prop :=
  ∀ v a, v.Proper → read v = .valid a → P a

/-! ## Readers -/

lemma gives_nullable {read : Value → Checked α} {P : α → Prop} (hread : Gives read P) :
    Gives (nullable read) fun x => ∀ a ∈ x, P a := by
  intro v x hv h
  unfold nullable at h
  split at h
  · cases h
    exact nofun
  · obtain ⟨a, ha, rfl⟩ := Checked.eq_of_map_eq_valid h
    rintro b ⟨⟩
    exact hread v a hv ha

lemma gives_itemsFrom {read : Value → Checked α} {P : α → Prop} (hread : Gives read P)
    {xs : List Value} (hxs : ItemsProper xs) {i : ℕ} {as : List α}
    (h : itemsFrom read i xs = .valid as) : ∀ a ∈ as, P a := by
  induction xs generalizing i as with
  | nil =>
    cases h
    exact nofun
  | cons x xs ih =>
    obtain ⟨hx, hxs⟩ := hxs
    obtain ⟨g, rest, hfirst, hrest, rfl⟩ := Checked.eq_of_seq_eq_valid h
    obtain ⟨a, ha, rfl⟩ := Checked.eq_of_map_eq_valid hfirst
    exact List.forall_mem_cons.mpr
      ⟨hread x a hx (Checked.eq_of_within_eq_valid ha), ih hxs hrest⟩

lemma itemsProper_map_scalar {ss : List Scalar} (h : ∀ s ∈ ss, s.Proper) :
    ItemsProper (ss.map .scalar) := by
  induction ss with
  | nil => trivial
  | cons s ss ih =>
    obtain ⟨hs, hss⟩ := List.forall_mem_cons.mp h
    exact ⟨hs, ih hss⟩

lemma gives_list {read : Value → Checked α} {P : α → Prop} (hread : Gives read P) :
    Gives (list read) fun as => ∀ a ∈ as, P a := by
  intro v as hv h
  cases v with
  | scalar s => cases h
  | list xs => exact gives_itemsFrom hread hv h
  | tuple xs => exact gives_itemsFrom hread hv h
  | set ss => exact gives_itemsFrom hread (itemsProper_map_scalar hv) h
  | map es => cases h

lemma gives_openRecord {title : String} {read : Entries → Checked α} {P : α → Prop}
    (hread : ∀ es a, EntriesProper es → read es = .valid a → P a) :
    Gives (openRecord title read) P := by
  intro v a hv h
  cases v with
  | map es => exact hread es a hv h
  | _ => cases h

/-! ## Fields -/

section Fields

variable {f : Field} {es : Entries} {read : Value → Checked α} {P : α → Prop} {a : α}

lemma proper_of_find? (hes : EntriesProper es) {name : String} {v : Value}
    (h : f.find? es = some (name, v)) : v.Proper := by
  unfold Field.find? at h
  split at h
  · next hwire =>
    cases h
    exact hes.of_field? hwire
  · obtain ⟨n, -, h⟩ := Option.bind_eq_some_iff.mp h
    obtain ⟨w, hw, h⟩ := Option.bind_eq_some_iff.mp h
    cases h
    exact hes.of_field? hw

lemma gives_optional (hread : Gives read P) (hes : EntriesProper es) {default : α}
    (hdefault : P default) (h : f.optional es default read = .valid a) : P a := by
  rcases optional_cases h with ⟨_, v, hfind, hv⟩ | ⟨-, rfl⟩
  · exact hread v a (proper_of_find? hes hfind) hv
  · exact hdefault

lemma gives_required (hread : Gives read P) (hes : EntriesProper es)
    (h : f.required es read = .valid a) : P a := by
  obtain ⟨_, v, hfind, hv⟩ := exists_of_required h
  exact hread v a (proper_of_find? hes hfind) hv

end Fields

/-! ## Times -/

lemma proper_of_settled {t u : DateTime} (ht : t.date.year ≠ 0 → t.Proper)
    (h : datetime.settled t = .valid u) : u.Proper := by
  unfold datetime.settled at h
  split at h
  · cases h
  · next hyear =>
    cases h
    exact ht hyear

lemma proper_of_ofNumber {x : Except DateTime.ReadError DateTime} {t : DateTime}
    (hx : ∀ u, x = .ok u → u.date.year ≠ 0 → u.Proper) (h : datetime.ofNumber x = .valid t) :
    t.Proper := by
  cases x with
  | error e => cases h
  | ok u => exact proper_of_settled (hx u rfl) h

lemma proper_of_ofBytes {bs : List UInt8} {t : DateTime} (h : datetime.ofBytes bs = .valid t) :
    t.Proper := by
  unfold datetime.ofBytes at h
  split at h
  · next hread => exact proper_of_settled (DateTime.proper_of_read hread) h
  · cases h

lemma gives_datetime : Gives datetime DateTime.Proper := by
  intro v t hv h
  unfold datetime at h
  split at h
  · cases h
    exact hv
  · cases h
    exact DateTime.proper_midnight hv
  · exact proper_of_ofBytes h
  · exact proper_of_ofBytes h
  · split at h
    · exact proper_of_ofNumber (fun _ => DateTime.proper_of_ofTimestamp) h
    · dsimp only at h
      split at h
      · exact proper_of_ofNumber (fun _ => DateTime.proper_of_ofSeconds) h
      · cases h
  · exact proper_of_ofNumber (fun _ => DateTime.proper_of_ofSeconds) h
  · cases h

/-! ## Names -/

lemma named_enter {acc : List (String × String)} (hacc : Named acc) (k v : String) :
    Named (if acc.any (·.1 == k) then acc.map fun p => if p.1 == k then (k, v) else p
      else acc ++ [(k, v)]) := by
  unfold Named at hacc ⊢
  split
  · have hnames : (acc.map fun p => if p.1 == k then (k, v) else p).map (·.1) = acc.map (·.1) := by
      rw [List.map_map]
      refine List.map_congr_left fun p _ => ?_
      by_cases hp : p.1 = k
      · simp [hp]
      · simp [hp]
    rw [hnames]
    exact hacc
  · next hk =>
    have hnew : k ∉ acc.map (·.1) := by simpa using hk
    rw [List.map_append]
    exact hacc.append (List.nodup_singleton _) (by simpa using hnew)

lemma named_lastOfEach (pairs : List (String × String)) : Named (lastOfEach pairs) :=
  List.foldlRecOn (motive := Named) pairs _ named_nil fun _ hacc p _ => named_enter hacc p.1 p.2

lemma gives_textMap : Gives textMap Named := by
  intro v pairs _ h
  cases v with
  | map es =>
    obtain ⟨found, -, rfl⟩ := Checked.eq_of_map_eq_valid h
    exact named_lastOfEach found
  | _ => cases h

end Read

/-! ## Parts of payloads -/

/-- The times in the statistics of a table. -/
def TableStatistics.times (t : TableStatistics) : List DateTime :=
  [t.lastVacuum, t.lastAutovacuum, t.lastAnalyze, t.lastAutoanalyze].filterMap id

open Read

lemma gives_time? {es : Entries} (hes : EntriesProper es) {name : String} {t : Option DateTime}
    (h : Field.time? name es = .valid t) : ∀ x ∈ t, x.Proper :=
  gives_optional (gives_nullable gives_datetime) hes (by simp) h

lemma TableStatistics.gives_check :
    Gives TableStatistics.check fun t => ∀ x ∈ t.times, x.Proper := by
  refine gives_openRecord fun es t hes h => ?_
  refine Checked.seq_elim h fun _ _ h hautoanalyze => ?_
  refine Checked.seq_elim h fun _ _ h hanalyze => ?_
  refine Checked.seq_elim h fun _ _ h hautovacuum => ?_
  refine Checked.seq_elim h fun _ _ h hvacuum => ?_
  iterate 10 refine Checked.seq_elim h fun _ _ h _ => ?_
  refine Checked.map_elim h fun _ _ => ?_
  refine List.forall_mem_filterMap.mpr ?_
  simp only [List.forall_mem_cons]
  exact ⟨gives_time? hes hvacuum, gives_time? hes hautovacuum, gives_time? hes hanalyze,
    gives_time? hes hautoanalyze, nofun⟩

lemma DatabaseIdentity.gives_check :
    Gives DatabaseIdentity.check fun d => Named d.providerDetails := by
  refine gives_openRecord fun es d hes h => ?_
  refine Checked.seq_elim h fun _ _ h hdetails => ?_
  iterate 2 refine Checked.seq_elim h fun _ _ h _ => ?_
  refine Checked.map_elim h fun _ _ => ?_
  exact gives_optional gives_textMap hes named_nil hdetails

/-! ## Payloads -/

namespace Payload

/-- The times in a payload. -/
def times (p : Payload) : List DateTime :=
  p.timestamp :: (p.tables.getD []).flatMap TableStatistics.times

/-- What validation sees to: times of the calendar, and names that stand once. -/
structure WellFormed (p : Payload) : Prop where
  times : ∀ t ∈ p.times, t.Proper
  details : Named p.database.providerDetails
  settings : ∀ es, p.settings = some es → ∃ pairs, es = textEntries pairs ∧ Named pairs

lemma gives_settings : Gives (fun v => (textMap v).map textEntries) fun es =>
    ∃ pairs, es = textEntries pairs ∧ Named pairs := by
  intro v es hv h
  obtain ⟨pairs, hpairs, rfl⟩ := Checked.eq_of_map_eq_valid h
  exact ⟨pairs, rfl, gives_textMap v pairs hv hpairs⟩

lemma named_of_identity {o : Origin} {es : Entries} {d : DatabaseIdentity}
    (hdatabase : ∀ d, o.database = some d → Named d.providerDetails) (hes : EntriesProper es)
    (h : identity o es = .valid d) : Named d.providerDetails := by
  unfold identity at h
  split at h
  · next hgiven =>
    cases h
    exact hdatabase _ hgiven
  · exact gives_required (P := fun d : DatabaseIdentity => Named d.providerDetails)
      DatabaseIdentity.gives_check hes h

/-- The fields of a payload, for a time and an identity that are given as they should be. -/
lemma wellFormed_of_readFields {o : Origin} {es : Entries} {p : Payload} (hnow : o.now.Proper)
    (hdatabase : ∀ d, o.database = some d → Named d.providerDetails) (hes : EntriesProper es)
    (h : readFields o es = .valid p) : p.WellFormed := by
  refine Checked.seq_elim h fun _ _ h _ => ?_
  refine Checked.seq_elim h fun _ settings h hsettings => ?_
  refine Checked.seq_elim h fun _ _ h _ => ?_
  refine Checked.seq_elim h fun _ tables h htables => ?_
  refine Checked.seq_elim h fun _ _ h _ => ?_
  refine Checked.seq_elim h fun _ database h hidentity => ?_
  refine Checked.seq_elim h fun _ _ h _ => ?_
  refine Checked.seq_elim h fun _ timestamp h htimestamp => ?_
  refine Checked.map_elim h fun _ _ => ?_
  have htimes := gives_optional (gives_nullable (gives_list TableStatistics.gives_check)) hes
    (by simp) htables
  refine ⟨List.forall_mem_cons.mpr ⟨gives_optional gives_datetime hes hnow htimestamp, ?_⟩,
    named_of_identity hdatabase hes hidentity,
    gives_optional (gives_nullable gives_settings) hes (by simp) hsettings⟩
  intro t ht
  obtain ⟨stats, hstats, hmem⟩ := List.mem_flatMap.mp ht
  cases tables with
  | none => cases hstats
  | some ts => exact htimes ts rfl stats hstats t hmem

/-- How payloads come about: from a value, from groups given by their names for a database whose
identity was validated, or by putting in parts that are complete already. -/
inductive Validated : Payload → Prop
  | check {now : DateTime} {v : Value} {p : Payload} (hnow : now.Proper) (hv : v.Proper)
    (h : Payload.check now v = .valid p) : Validated p
  | create {now : DateTime} {w : Value} {d : DatabaseIdentity} {connection : String}
    {groups : Entries} {p : Payload} (hnow : now.Proper) (hw : w.Proper)
    (hd : DatabaseIdentity.check w = .valid d) (hgroups : EntriesProper groups)
    (h : Payload.create now d connection groups = .ok (.valid p)) : Validated p
  | queries {p : Payload} (hp : Validated p) (qs : List QueryStatistics) :
    Validated (p.withQueries qs)
  | tables {p : Payload} (hp : Validated p) (ts : List TableStatistics)
    (hts : ∀ t ∈ ts, ∀ x ∈ t.times, x.Proper) : Validated (p.withTables ts)
  | indexes {p : Payload} (hp : Validated p) (is : List IndexStatistics) :
    Validated (p.withIndexes is)
  | schema {p : Payload} (hp : Validated p) (s : SchemaDescription) : Validated (p.withSchema s)

lemma wellFormed_of_create {now : DateTime} {w : Value} {d : DatabaseIdentity} {connection : String}
    {groups : Entries} {p : Payload} (hnow : now.Proper) (hw : w.Proper)
    (hd : DatabaseIdentity.check w = .valid d) (hgroups : EntriesProper groups)
    (h : create now d connection groups = .ok (.valid p)) : p.WellFormed := by
  unfold create at h
  obtain ⟨-, h⟩ := of_ite_eq_ok h nofun
  obtain ⟨-, h⟩ := of_ite_eq_ok h nofun
  obtain ⟨-, h⟩ := of_ite_eq_ok h nofun
  refine wellFormed_of_readFields hnow ?_ hgroups (Except.ok.inj h)
  rintro _ ⟨⟩
  exact DatabaseIdentity.gives_check w d hw hd

/-- A payload that was validated has times of the calendar, and names that stand once. -/
theorem wellFormed_of_validated {p : Payload} (h : p.Validated) : p.WellFormed := by
  induction h with
  | check hnow hv h =>
    exact gives_openRecord (fun _ _ hes => wellFormed_of_readFields hnow (by simp) hes) _ _ hv h
  | create hnow hw hd hgroups h => exact wellFormed_of_create hnow hw hd hgroups h
  | queries hp qs ih => exact ⟨ih.times, ih.details, ih.settings⟩
  | tables hp ts hts ih =>
    refine ⟨List.forall_mem_cons.mpr ⟨ih.times _ List.mem_cons_self, ?_⟩, ih.details, ih.settings⟩
    intro t ht
    obtain ⟨stats, hstats, hmem⟩ := List.mem_flatMap.mp ht
    exact hts stats hstats t hmem
  | indexes hp is ih => exact ⟨ih.times, ih.details, ih.settings⟩
  | schema hp s ih => exact ⟨ih.times, ih.details, ih.settings⟩

end Payload

end MetricsAgent
