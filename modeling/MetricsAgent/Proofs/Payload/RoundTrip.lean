import MetricsAgent.Proofs.Calendar.Texts
import MetricsAgent.Proofs.Payload.Agreement
import MetricsAgent.Proofs.Payload.Checks
import MetricsAgent.Proofs.Text.Utf8

/-!
# Nothing is lost on the way

A payload that was validated is sent as the bytes of a document, and whoever decodes the bytes, reads
the document and validates it as a payload has the payload that was sent (`Payload.received_format`).
-/

namespace MetricsAgent

open Json Read

/-! ## Fields -/

namespace Read

variable {α : Type}

@[simp] lemma text_string (s : String) : text (Json.string s).asValue = .valid s := rfl

@[simp] lemma integer_int (n : ℤ) : integer (Json.int n).asValue = .valid n := rfl

@[simp] lemma boolean_bool (b : Bool) : boolean (Json.bool b).asValue = .valid b := rfl

@[simp] lemma nullable_optText (s : Option String) :
    nullable text (optText s).asValue = .valid s := by
  cases s <;> rfl

@[simp] lemma nullable_optInt (n : Option ℤ) : nullable integer (optInt n).asValue = .valid n := by
  cases n <;> rfl

@[simp] lemma nullable_optFloat (x : Option Binary64) :
    nullable number (optFloat x).asValue = .valid x := by
  cases x <;> rfl

/-- A time of the calendar with an offset in whole minutes is read from what documents hold of it. -/
lemma datetime_documentText {t : DateTime} (ht : t.Proper) (hminutes : t.InMinutes) :
    datetime (Json.string t.documentText).asValue = .valid t := by
  have hyear : ¬t.date.year = 0 := Nat.one_le_iff_ne_zero.mp ht.date.year_pos
  show datetime.ofBytes t.documentText.toUTF8.toList = .valid t
  rw [datetime.ofBytes, DateTime.read_documentText ht hminutes]
  exact if_neg hyear

lemma nullable_optTime {t : Option DateTime} (ht : ∀ x ∈ t, x.Proper ∧ x.InMinutes) :
    nullable datetime (optTime t).asValue = .valid t := by
  cases t with
  | none => rfl
  | some t =>
    obtain ⟨hproper, hminutes⟩ := ht t rfl
    show (datetime (Json.string t.documentText).asValue).map some = .valid (some t)
    rw [datetime_documentText hproper hminutes]
    rfl

/-- A list of parts that are read from their documents. -/
lemma list_array {read : Value → Checked α} {write : α → Json} {as : List α}
    (h : ∀ a ∈ as, read (write a).asValue = .valid a) :
    list read (Json.array (as.map write)).asValue = .valid as := by
  suffices hitems : ∀ i, itemsFrom read i (itemValues (as.map write)) = .valid as from hitems 0
  induction as with
  | nil => exact fun _ => rfl
  | cons a as ih =>
    intro i
    obtain ⟨ha, has⟩ := List.forall_mem_cons.mp h
    rw [List.map_cons, itemValues, itemsFrom, ha, ih has]
    rfl

end Read

/-! ## Parts -/

lemma QueryStatistics.check_toJson (q : QueryStatistics) : check q.toJson.asValue = .valid q := by
  rw [toJson, asValue_object (by simp [Named])]
  simp [check, openRecord, Field.text?, Field.count?, Field.measure?, optional_eq]

lemma TableStatistics.check_toJson {t : TableStatistics}
    (ht : ∀ x ∈ t.times, x.Proper ∧ x.InMinutes) : check t.toJson.asValue = .valid t := by
  have htimes := List.forall_mem_filterMap.mp ht
  simp only [List.forall_mem_cons, id_eq] at htimes
  obtain ⟨hvacuum, hautovacuum, hanalyze, hautoanalyze, -⟩ := htimes
  rw [toJson, asValue_object (by simp [Named])]
  simp [check, openRecord, Field.schemaName, Field.text, Field.count?, Field.time?, required_eq,
    optional_eq, nullable_optTime hvacuum, nullable_optTime hautovacuum, nullable_optTime hanalyze,
    nullable_optTime hautoanalyze]

lemma IndexStatistics.check_toJson (i : IndexStatistics) : check i.toJson.asValue = .valid i := by
  rw [toJson, asValue_object (by simp [Named])]
  simp [check, openRecord, Field.schemaName, Field.text, Field.count?, required_eq, optional_eq]

lemma ColumnDescription.check_toJson (c : ColumnDescription) :
    check c.toJson.asValue = .valid c := by
  rw [toJson, asValue_object (by simp [Named])]
  simp [check, openRecord, Field.text, Field.text?, required_eq, optional_eq]

lemma TableDescription.check_toJson (t : TableDescription) : check t.toJson.asValue = .valid t := by
  have hcolumns := list_array fun c (_ : c ∈ t.columns) => c.check_toJson
  rw [toJson, asValue_object (by simp [Named])]
  simp [check, openRecord, Field.schemaName, Field.text, Field.count?, required_eq, optional_eq,
    hcolumns]

lemma IndexDescription.check_toJson (i : IndexDescription) : check i.toJson.asValue = .valid i := by
  have hcolumns := list_array fun c (_ : c ∈ i.columns) => text_string c
  rw [toJson, asValue_object (by simp [Named])]
  simp [check, openRecord, Field.schemaName, Field.text, Field.count?, Field.flag, required_eq,
    optional_eq, hcolumns]

lemma SchemaDescription.check_toJson (s : SchemaDescription) :
    check s.toJson.asValue = .valid s := by
  have htables := list_array fun t (_ : t ∈ s.tables) => t.check_toJson
  have hindexes := list_array fun i (_ : i ∈ s.indexes) => i.check_toJson
  rw [toJson, asValue_object (by simp [Named])]
  simp [check, openRecord, optional_eq, htables, hindexes]

/-! ## Names and texts -/

/-- Names and texts as members of an object. -/
def textMembers (pairs : List (String × String)) : List (String × Json) :=
  pairs.map fun (k, v) => (k, .string v)

lemma named_textMembers {pairs : List (String × String)} (h : Named pairs) :
    Named (textMembers pairs) := by
  unfold Named textMembers
  rw [List.map_map]
  exact h

lemma lastOfEach_of_named {pairs : List (String × String)} (h : Named pairs) :
    lastOfEach pairs = pairs := by
  refine foldl_eq_of_nodup Prod.fst ?_ h
  intro acc p hnew
  have hfresh : ¬acc.any (·.1 == p.1) = true := by
    rw [List.any_eq_true]
    rintro ⟨q, hq, hk⟩
    exact hnew (eq_of_beq hk ▸ List.mem_map_of_mem hq)
  exact if_neg hfresh

lemma textEntries_textMembers (pairs : List (String × String)) :
    Read.textEntries (memberValues (textMembers pairs)) = .valid pairs := by
  induction pairs with
  | nil => rfl
  | cons p pairs ih =>
    obtain ⟨k, v⟩ := p
    show _ <*> Read.textEntries (memberValues (textMembers pairs)) = _
    rw [ih]
    rfl

lemma textMap_textMembers {pairs : List (String × String)} (h : Named pairs) :
    textMap (Json.object (textMembers pairs)).asValue = .valid pairs := by
  rw [asValue_object (named_textMembers h), textMap, textEntries_textMembers, Checked.map,
    lastOfEach_of_named h]

/-- The identity of a database is read back, its details left out if there are none. -/
lemma Payload.check_databaseMember {p : Payload} (h : Named p.database.providerDetails) :
    DatabaseIdentity.check p.databaseMember.asValue = .valid p.database := by
  have hdetails := textMap_textMembers h
  by_cases hnone : p.database.providerDetails = []
  · have hmember : p.databaseMember = .object [("type", .string p.database.engine),
        ("version", optText p.database.version), ("provider", .string p.database.provider)] := by
      simp [databaseMember, DatabaseIdentity.members, hnone]
    rw [hmember, asValue_object (by simp [Named])]
    simp [DatabaseIdentity.check, openRecord, Field.text?, required_eq, optional_eq,
      optional_eq_default, ← hnone]
  · have hmember : p.databaseMember = .object [("type", .string p.database.engine),
        ("version", optText p.database.version), ("provider", .string p.database.provider),
        ("provider_metadata", .object (textMembers p.database.providerDetails))] := by
      simp [databaseMember, DatabaseIdentity.members, hnone, textMembers]
    rw [hmember, asValue_object (by simp [Named])]
    simp [DatabaseIdentity.check, openRecord, Field.text?, required_eq, optional_eq, hdetails]

/-! ## Groups -/

lemma putMember_of_not_mem {ms : List (String × Json)} {k : String} (j : Json)
    (hk : k ∉ ms.map (·.1)) : putMember ms k j = ms ++ [(k, j)] := by
  induction ms with
  | nil => rfl
  | cons m ms ih =>
    obtain ⟨k', j'⟩ := m
    rw [List.map_cons, List.mem_cons, not_or] at hk
    rw [putMember, if_neg (Ne.symm hk.1), ih hk.2]
    rfl

/-- Settings that are texts are written as they are. -/
lemma entriesToJson_textEntries {pairs : List (String × String)} (h : Named pairs) :
    entriesToJson [] (Payload.textEntries pairs) = .ok (textMembers pairs) := by
  suffices hwritten : ∀ written : List (String × Json), Named (written ++ textMembers pairs) →
      entriesToJson written (Payload.textEntries pairs) = .ok (written ++ textMembers pairs) from
    hwritten [] (named_textMembers h)
  clear h
  induction pairs with
  | nil =>
    intro written _
    exact congrArg Except.ok (List.append_nil written).symm
  | cons p pairs ih =>
    obtain ⟨k, v⟩ := p
    intro written hnamed
    have hsplit : written ++ textMembers ((k, v) :: pairs)
        = written ++ [(k, .string v)] ++ textMembers pairs := by
      simp [textMembers]
    have hk : k ∉ written.map (·.1) := by
      unfold Named at hnamed
      simp only [textMembers, List.map_append, List.map_cons, List.nodup_append] at hnamed
      intro hmem
      exact hnamed.2.2 _ hmem _ List.mem_cons_self rfl
    show entriesToJson (putMember written k (.string v)) (Payload.textEntries pairs) = _
    rw [putMember_of_not_mem _ hk, hsplit]
    exact ih _ (hsplit ▸ hnamed)

/-- The name of a group in documents. -/
def MetricGroup.member : MetricGroup → String
  | .queries => "query_stats"
  | .tables => "table_stats"
  | .indexes => "index_stats"
  | .settings => "settings"
  | .schema => "schema"

lemma MetricGroup.member_injective {g g' : MetricGroup} (h : g.member = g'.member) : g = g' := by
  revert h
  cases g <;> cases g' <;> decide

lemma field?_groups (content : MetricGroup → Json) (gs : List MetricGroup) (g : MetricGroup) :
    Entries.field? (memberValues (gs.map fun g => (g.member, content g))) g.member =
      if g ∈ gs then some (content g).asValue else none := by
  induction gs with
  | nil => rfl
  | cons g' gs ih =>
    rw [List.map_cons, field?_memberValues_cons, ih]
    by_cases hg : g' = g
    · simp [hg]
    · have hmember : g'.member ≠ g.member := fun h => hg (MetricGroup.member_injective h)
      simp [hmember, Ne.symm hg]

lemma field?_groups_of_ne (content : MetricGroup → Json) (gs : List MetricGroup) {name : String}
    (h : ∀ g : MetricGroup, g.member ≠ name) :
    Entries.field? (memberValues (gs.map fun g => (g.member, content g))) name = none := by
  induction gs with
  | nil => rfl
  | cons g gs ih => rw [List.map_cons, field?_memberValues_cons, if_neg (h g), ih]

namespace Payload

/-- What a document holds of a group. -/
def content (p : Payload) (g : MetricGroup) : Json :=
  match p.groupMember g with
  | .ok m => m.2
  | .error _ => .null

lemma groupMember_eq {p : Payload} (hp : p.WellFormed) (g : MetricGroup) :
    p.groupMember g = .ok (g.member, p.content g) := by
  suffices hname : ∃ j, p.groupMember g = .ok (g.member, j) by
    obtain ⟨j, hj⟩ := hname
    rw [content, hj]
  cases g with
  | settings =>
    cases hsettings : p.settings with
    | none => exact ⟨.null, by rw [groupMember, hsettings]; rfl⟩
    | some es =>
      obtain ⟨pairs, rfl, hnamed⟩ := hp.settings es hsettings
      refine ⟨.object (textMembers pairs), ?_⟩
      rw [groupMember, hsettings]
      dsimp only
      rw [entriesToJson_textEntries hnamed]
      rfl
  | _ => exact ⟨_, rfl⟩

/-- The members of the document of a payload. -/
def members (p : Payload) : List (String × Json) :=
  p.headMembers p.databaseMember ++ p.collectedGroups.map fun g => (g.member, p.content g)

lemma document_eq {p : Payload} (hp : p.WellFormed) : p.document = .ok (.object p.members) := by
  have hgroups : p.collectedGroups.mapM p.groupMember
      = .ok (p.collectedGroups.map fun g => (g.member, p.content g)) := by
    rw [show p.groupMember = fun g => pure (g.member, p.content g) from
      funext (groupMember_eq hp)]
    exact List.mapM_pure
  unfold document
  rw [hgroups]
  rfl

lemma mem_collectedGroups {p : Payload} {g : MetricGroup} :
    g ∈ p.collectedGroups ↔ p.has g = true := by
  have hall : g ∈ MetricGroup.all := by
    cases g <;> decide
  rw [collectedGroups, List.mem_filter]
  exact and_iff_right hall

lemma named_members (p : Payload) : Named p.members := by
  have hall : MetricGroup.all.Nodup := by decide
  have hgroups : (p.collectedGroups.map MetricGroup.member).Nodup :=
    (hall.filter _).map fun _ _ => MetricGroup.member_injective
  have hapart : ∀ g : MetricGroup,
      g.member ∉ ["agent_version", "timestamp", "instance_id", "database"] := by
    intro g
    cases g <;> decide
  unfold Named members
  rw [List.map_append, List.map_map]
  refine List.nodup_append.mpr ⟨by simp [headMembers], hgroups, ?_⟩
  rintro name hname _ hmem rfl
  obtain ⟨g, -, hg⟩ := List.mem_map.mp hmem
  have hgroup : g.member = name := hg
  exact hapart g (hgroup ▸ hname)

/-! ## Payloads -/

/-- What a document holds of a payload, name by name. -/
lemma field?_member (p : Payload) (g : MetricGroup) :
    Entries.field? (memberValues p.members) g.member =
      if p.has g then some (p.content g).asValue else none := by
  have hhead : Entries.field? (memberValues (p.headMembers p.databaseMember)) g.member = none := by
    cases g <;> simp [headMembers, MetricGroup.member]
  rw [members, field?_memberValues_append, hhead, Option.none_or, field?_groups]
  simp only [mem_collectedGroups]

lemma field?_alternative (p : Payload) :
    Entries.field? (memberValues p.members) "schema_metadata" = none := by
  have hmember : ∀ g : MetricGroup, g.member ≠ "schema_metadata" := by
    intro g
    cases g <;> decide
  rw [members, field?_memberValues_append, field?_groups_of_ne _ _ hmember]
  simp [headMembers]

/-- A group is read back, and one that was not collected is still absent. -/
lemma optional_group {α : Type} {p : Payload} {g : MetricGroup} {alternative : Option String}
    {read : Value → Checked α} {x : Option α} (hx : x.isSome = p.has g)
    (halternative : ∀ n ∈ alternative, Entries.field? (memberValues p.members) n = none)
    (hread : ∀ a, x = some a → nullable read (p.content g).asValue = .valid (some a)) :
    Field.optional ⟨g.member, alternative⟩ (memberValues p.members) none (nullable read)
      = .valid x := by
  have hfield := field?_member p g
  cases x with
  | none =>
    rw [← hx] at hfield
    exact optional_eq_default hfield halternative
  | some a =>
    rw [← hx] at hfield
    rw [optional_eq _ hfield, hread a rfl]
    rfl

lemma read_array {α : Type} {p : Payload} {g : MetricGroup} {read : Value → Checked α}
    {write : α → Json} {as : List α} (hcontent : p.content g = .array (as.map write))
    (h : ∀ a ∈ as, read (write a).asValue = .valid a) :
    nullable (list read) (p.content g).asValue = .valid (some as) := by
  rw [hcontent]
  exact congrArg (Checked.map some) (list_array h)

lemma read_queries {p : Payload} {qs : List QueryStatistics} (h : p.queries = some qs) :
    nullable (list QueryStatistics.check) (p.content .queries).asValue = .valid (some qs) := by
  have hcontent : p.content .queries = .array (qs.map QueryStatistics.toJson) := by
    simp [content, groupMember, h]
  exact read_array hcontent fun q _ => q.check_toJson

lemma read_tables {p : Payload} {ts : List TableStatistics} (h : p.tables = some ts)
    (hts : ∀ t ∈ ts, ∀ x ∈ t.times, x.Proper ∧ x.InMinutes) :
    nullable (list TableStatistics.check) (p.content .tables).asValue = .valid (some ts) := by
  have hcontent : p.content .tables = .array (ts.map TableStatistics.toJson) := by
    simp [content, groupMember, h]
  exact read_array hcontent fun t ht => TableStatistics.check_toJson (hts t ht)

lemma read_indexes {p : Payload} {is : List IndexStatistics} (h : p.indexes = some is) :
    nullable (list IndexStatistics.check) (p.content .indexes).asValue = .valid (some is) := by
  have hcontent : p.content .indexes = .array (is.map IndexStatistics.toJson) := by
    simp [content, groupMember, h]
  exact read_array hcontent fun i _ => i.check_toJson

lemma content_settings {p : Payload} {pairs : List (String × String)} (hnamed : Named pairs)
    (h : p.settings = some (textEntries pairs)) :
    p.content .settings = .object (textMembers pairs) := by
  rw [content, groupMember, h]
  dsimp only
  rw [entriesToJson_textEntries hnamed]
  rfl

lemma read_settings {p : Payload} (hp : p.WellFormed) {es : Entries} (h : p.settings = some es) :
    nullable (fun v => (textMap v).map textEntries) (p.content .settings).asValue
      = .valid (some es) := by
  obtain ⟨pairs, rfl, hnamed⟩ := hp.settings es h
  rw [content_settings hnamed h]
  exact congrArg (fun x => Checked.map some (Checked.map textEntries x)) (textMap_textMembers hnamed)

lemma read_schema {p : Payload} {s : SchemaDescription} (h : p.schema = some s) :
    nullable SchemaDescription.check (p.content .schema).asValue = .valid (some s) := by
  have hcontent : p.content .schema = s.toJson := by
    simp [content, groupMember, h]
  rw [hcontent]
  exact congrArg (Checked.map some) s.check_toJson

/-- A payload is read from its document as it was, if its offsets are in whole minutes. -/
theorem check_document {p : Payload} (hp : p.WellFormed) (hminutes : ∀ t ∈ p.times, t.InMinutes)
    (now : DateTime) : check now (Json.object p.members).asValue = .valid p := by
  obtain ⟨es, hes⟩ : ∃ es, es = memberValues p.members := ⟨_, rfl⟩
  have hversion : Field.optional ⟨"agent_version", none⟩ es MetricsAgent.agentVersion text
      = .valid p.agentVersion := by
    simp [hes, members, headMembers, optional_eq]
  have htimestamp : Field.optional ⟨"timestamp", none⟩ es now datetime = .valid p.timestamp := by
    simp [hes, members, headMembers, optional_eq,
      datetime_documentText (hp.times _ List.mem_cons_self) (hminutes _ List.mem_cons_self)]
  have hinstance : Field.optional ⟨"instance_id", none⟩ es "" text = .valid p.instanceId := by
    simp [hes, members, headMembers, optional_eq]
  have hdatabase : identity ⟨now, "", none⟩ es = .valid p.database := by
    simp [identity, hes, members, headMembers, required_eq, check_databaseMember hp.details]
  have hqueries : Field.optional ⟨"query_stats", none⟩ es none
      (nullable (list QueryStatistics.check)) = .valid p.queries := by
    rw [hes]
    exact optional_group (g := .queries) rfl (by simp) fun _ => read_queries
  have htables : Field.optional ⟨"table_stats", none⟩ es none
      (nullable (list TableStatistics.check)) = .valid p.tables := by
    rw [hes]
    refine optional_group (g := .tables) rfl (by simp) fun ts hts => read_tables hts ?_
    intro t ht x hx
    have hmem : x ∈ p.times := by
      rw [times, hts]
      exact List.mem_cons_of_mem _ (List.mem_flatMap.mpr ⟨t, ht, hx⟩)
    exact ⟨hp.times x hmem, hminutes x hmem⟩
  have hindexes : Field.optional ⟨"index_stats", none⟩ es none
      (nullable (list IndexStatistics.check)) = .valid p.indexes := by
    rw [hes]
    exact optional_group (g := .indexes) rfl (by simp) fun _ => read_indexes
  have hsettings : Field.optional ⟨"settings", none⟩ es none
      (nullable fun v => (textMap v).map textEntries) = .valid p.settings := by
    rw [hes]
    exact optional_group (g := .settings) rfl (by simp) fun _ => read_settings hp
  have hschema : Field.optional ⟨"schema", some "schema_metadata"⟩ es none
      (nullable SchemaDescription.check) = .valid p.schema := by
    rw [hes]
    refine optional_group (g := .schema) rfl ?_ fun _ => read_schema
    rintro name ⟨⟩
    exact field?_alternative p
  rw [asValue_object p.named_members, ← hes]
  show readFields ⟨now, "", none⟩ es = .valid p
  rw [readFields, hversion, htimestamp, hinstance, hdatabase, hqueries, htables, hindexes, hsettings,
    hschema]
  rfl

end Payload

/-! ## Whole numbers -/

/-- The whole numbers of a part that may be missing. -/
def present (ns : List (Option ℤ)) : List ℤ :=
  ns.filterMap id

def QueryStatistics.integers (q : QueryStatistics) : List ℤ :=
  present [q.calls, q.rows, q.sharedBlocksHit, q.sharedBlocksRead]

def TableStatistics.integers (t : TableStatistics) : List ℤ :=
  present [t.sequentialScans, t.sequentialRows, t.indexScans, t.indexRows, t.inserted, t.updated,
    t.deleted, t.liveRows, t.deadRows]

def IndexStatistics.integers (i : IndexStatistics) : List ℤ :=
  present [i.scans, i.entriesRead, i.rowsFetched]

def TableDescription.integers (t : TableDescription) : List ℤ :=
  t.columns.map ColumnDescription.position ++ present [t.rowEstimate, t.size]

def IndexDescription.integers (i : IndexDescription) : List ℤ :=
  present [i.size]

def SchemaDescription.integers (s : SchemaDescription) : List ℤ :=
  s.tables.flatMap TableDescription.integers ++ s.indexes.flatMap IndexDescription.integers

/-- The whole numbers in a payload. -/
def Payload.integers (p : Payload) : List ℤ :=
  (p.queries.getD []).flatMap QueryStatistics.integers
    ++ (p.tables.getD []).flatMap TableStatistics.integers
    ++ (p.indexes.getD []).flatMap IndexStatistics.integers
    ++ ((p.schema.map SchemaDescription.integers).getD [])

lemma forall_mem_present {P : ℤ → Prop} {ns : List (Option ℤ)} :
    (∀ n ∈ present ns, P n) ↔ ∀ o ∈ ns, ∀ n ∈ o, P n :=
  List.forall_mem_filterMap

@[simp] lemma short_optInt {o : Option ℤ} : (optInt o).Short ↔ ∀ n ∈ o, IsShort n := by
  cases o <;> simp [optInt]

@[simp] lemma short_optText (s : Option String) : (optText s).Short := by
  cases s <;> simp [optText]

@[simp] lemma short_optTime (t : Option DateTime) : (optTime t).Short := by
  cases t <;> simp [optTime]

@[simp] lemma short_optFloat (x : Option Binary64) : (optFloat x).Short := by
  cases x <;> simp [optFloat]

lemma QueryStatistics.short_toJson {q : QueryStatistics} (h : ∀ n ∈ q.integers, IsShort n) :
    q.toJson.Short := by
  rw [integers, forall_mem_present] at h
  simpa [toJson] using h

lemma TableStatistics.short_toJson {t : TableStatistics} (h : ∀ n ∈ t.integers, IsShort n) :
    t.toJson.Short := by
  rw [integers, forall_mem_present] at h
  simpa [toJson] using h

lemma IndexStatistics.short_toJson {i : IndexStatistics} (h : ∀ n ∈ i.integers, IsShort n) :
    i.toJson.Short := by
  rw [integers, forall_mem_present] at h
  simpa [toJson] using h

lemma TableDescription.short_toJson {t : TableDescription} (h : ∀ n ∈ t.integers, IsShort n) :
    t.toJson.Short := by
  rw [integers, List.forall_mem_append, forall_mem_present] at h
  simpa [toJson, ColumnDescription.toJson] using h

lemma IndexDescription.short_toJson {i : IndexDescription} (h : ∀ n ∈ i.integers, IsShort n) :
    i.toJson.Short := by
  rw [integers, forall_mem_present] at h
  simpa [toJson] using h

section Parts

variable {α : Type} {write : α → Json} {integers : α → List ℤ}

lemma short_parts (hwrite : ∀ a, (∀ n ∈ integers a, IsShort n) → (write a).Short) {as : List α}
    (h : ∀ n ∈ as.flatMap integers, IsShort n) : ∀ a ∈ as, (write a).Short := by
  intro a ha
  refine hwrite a fun n hn => ?_
  exact h n (List.mem_flatMap.mpr ⟨a, ha, hn⟩)

lemma short_group (hwrite : ∀ a, (∀ n ∈ integers a, IsShort n) → (write a).Short)
    {x : Option (List α)} (h : ∀ n ∈ (x.getD []).flatMap integers, IsShort n) :
    ((x.map fun as => Json.array (as.map write)).getD .null).Short := by
  cases x with
  | none => exact all_null.mpr trivial
  | some as =>
    have hparts := short_parts hwrite h
    simpa using hparts

end Parts

lemma SchemaDescription.short_toJson {s : SchemaDescription} (h : ∀ n ∈ s.integers, IsShort n) :
    s.toJson.Short := by
  rw [integers, List.forall_mem_append] at h
  obtain ⟨htables, hindexes⟩ := h
  have htable := short_parts (fun _ => TableDescription.short_toJson) htables
  have hindex := short_parts (fun _ => IndexDescription.short_toJson) hindexes
  simpa [toJson] using ⟨htable, hindex⟩

namespace Payload

lemma short_content {p : Payload} (hp : p.WellFormed) (h : ∀ n ∈ p.integers, IsShort n)
    (g : MetricGroup) : (p.content g).Short := by
  simp only [integers, List.forall_mem_append] at h
  obtain ⟨⟨⟨hqueries, htables⟩, hindexes⟩, hschema⟩ := h
  cases g with
  | queries => exact short_group (fun _ => QueryStatistics.short_toJson) hqueries
  | tables => exact short_group (fun _ => TableStatistics.short_toJson) htables
  | indexes => exact short_group (fun _ => IndexStatistics.short_toJson) hindexes
  | settings =>
    cases hsettings : p.settings with
    | none => simp [content, groupMember, hsettings]
    | some es =>
      obtain ⟨pairs, rfl, hnamed⟩ := hp.settings es hsettings
      rw [content_settings hnamed hsettings, Json.Short, all_object, textMembers,
        List.forall_mem_map]
      simp
  | schema =>
    show ((p.schema.map SchemaDescription.toJson).getD .null).Short
    cases hs : p.schema with
    | none => simp
    | some s =>
      rw [hs] at hschema
      exact SchemaDescription.short_toJson hschema

lemma short_databaseMember (p : Payload) : p.databaseMember.Short := by
  have hmembers : ∀ m ∈ p.database.members, m.2.Short := by
    simp only [DatabaseIdentity.members, List.forall_mem_cons, all_object, List.forall_mem_map]
    simp
  exact all_object.mpr fun m hm => hmembers m (List.mem_of_mem_filter hm)

lemma short_members {p : Payload} (hp : p.WellFormed) (h : ∀ n ∈ p.integers, IsShort n) :
    (Json.object p.members).Short := by
  rw [Json.Short, all_object, members, List.forall_mem_append]
  refine ⟨?_, List.forall_mem_map.mpr fun g _ => short_content hp h g⟩
  simpa [headMembers] using short_databaseMember p

/-! ## What arrives -/

/-- What the format can carry: finite times, whole numbers of no more digits than are read, and
offsets from UTC in whole minutes. -/
structure Portable (p : Payload) : Prop where
  finite : p.TimesFinite
  short : ∀ n ∈ p.integers, IsShort n
  minutes : ∀ t ∈ p.times, t.InMinutes

/-- What a receiver makes of the bytes of a text: the document that they write, read as a payload. -/
def received (now : DateTime) (bytes : List UInt8) : Option (Checked Payload) := do
  let s ← (Utf8.decode bytes).toOption
  let j ← Json.parse s
  return check now j.asValue

/-- Nothing of a validated payload is lost on the way: its bytes are read as the payload. -/
theorem received_format {p : Payload} (hp : p.Validated) (hportable : p.Portable) (now : DateTime) :
    ∃ s, p.format wire = .ok s ∧ received now s.toUTF8.toList = some (.valid p) := by
  have hwell := wellFormed_of_validated hp
  have hdocument := document_eq hwell
  have hfinite := (finite_document hdocument).mpr hportable.finite
  obtain ⟨s, hs⟩ : ∃ s, Json.print wire (.object p.members) = .ok s :=
    exists_print hfinite (short_members hwell hportable.short)
  refine ⟨s, ?_, ?_⟩
  · rw [format_of_document hdocument, hs]
    rfl
  · have hparse := parse_of_print regular_wire hfinite hs
    unfold received
    rw [Utf8.decode_toUTF8]
    show ((Json.parse s).bind fun j => some (check now j.asValue)) = _
    rw [hparse]
    exact congrArg some (check_document hwell hportable.minutes now)

/-- A payload with details of the provider, an empty group, a statement with a line break in it, and
a time with an offset. -/
def sample : Payload where
  agentVersion := MetricsAgent.agentVersion
  timestamp := ⟨⟨2024, 2, 29⟩, 23, 59, 59, 250000, some (-34200)⟩
  instanceId := ""
  database := ⟨"postgres", none, "generic", [("region", "eu-1")]⟩
  queries := some [⟨none, some "select 1\n", some 3, some 2, none, none, none, none⟩]
  tables := some []
  indexes := none
  settings := some (textEntries [("work_mem", "4MB")])
  schema := none

/-- A value that the sample is validated from. -/
def sampleValue : Value :=
  .record [("timestamp", .time ⟨⟨2024, 2, 29⟩, 23, 59, 59, 250000, some (-34200)⟩),
    ("database", .record [("type", .text "postgres"),
      ("provider_metadata", .record [("region", .text "eu-1")])]),
    ("query_stats", .list [.record [("query", .text "select 1\n"), ("calls", .int 3),
      ("total_time_ms", .int 2)]]),
    ("table_stats", .list []),
    ("settings", .record [("work_mem", .text "4MB")])]

theorem received_format_sample : sample.Validated ∧ sample.Portable ∧
    ∃ s, sample.format wire = .ok s ∧
      received sample.timestamp s.toUTF8.toList = some (.valid sample) := by
  have hproper : sample.timestamp.Proper :=
    ⟨⟨by decide, by decide, by decide, by decide, by decide, by decide⟩, by decide, by decide,
      by decide, by decide, by rintro _ ⟨⟩; decide⟩
  have hvalue : sampleValue.Proper := by
    refine ⟨hproper, ?_⟩
    simp [Value.record, Value.Proper, EntriesProper, ItemsProper, Scalar.Proper]
  have hvalidated : sample.Validated := .check hproper hvalue rfl
  have hthree : IsShort 3 := (show 3 < tenTo 1 by decide).trans (tenTo_lt_tenTo (by decide))
  have hportable : sample.Portable := by
    refine ⟨?_, ?_, ?_⟩
    · rintro qs ⟨⟩ q hq x hx
      rw [List.mem_singleton.mp hq] at hx
      rcases hx with hx | hx
      · obtain rfl : 2 = x := Option.some.inj hx
        decide
      · cases hx
    · intro n hn
      rw [List.mem_singleton.mp (show n ∈ [3] from hn)]
      exact hthree
    · intro t ht o ho
      rw [List.mem_singleton.mp (show t ∈ [sample.timestamp] from ht)] at ho
      cases ho
      decide
  exact ⟨hvalidated, hportable, received_format hvalidated hportable _⟩

end Payload

end MetricsAgent
