import MetricsAgent.Payload.Document
import MetricsAgent.Payload.Reader
import MetricsAgent.Proofs.Json.Printing

/-!
# What is shown and what is sent

A payload is shown indented or compact and sent in a strict style.  All three texts write the document
of the payload, and each is there exactly if the others are, but for one kind of payload: the times in
the statistics of statements are written as they are, and one that is not finite is shown and cannot
be sent (`Payload.format_of_not_finite`).  This is the only difference (`Payload.agrees_iff`).
-/

namespace MetricsAgent

open Json

/-! ## Finite values -/

/-- What is not finite among the settings of the server becomes null. -/
lemma Scalar.finite_toJson {s : Scalar} {j : Json} (h : s.toJson = .ok j) : j.Finite := by
  cases s with
  | foreign k d l => cases h
  | bytes bs =>
    obtain ⟨t, -, rfl⟩ := eq_of_map_eq_ok h
    exact all_string.mpr trivial
  | float x =>
    cases h
    split
    · next hx => exact all_float.mpr hx
    · exact all_null.mpr trivial
  | _ =>
    cases h
    simp

lemma finite_putMember {ms : List (String × Json)} {k : String} {j : Json}
    (hms : ∀ m ∈ ms, m.2.Finite) (hj : j.Finite) : ∀ m ∈ putMember ms k j, m.2.Finite := by
  induction ms with
  | nil => simpa [putMember] using hj
  | cons m ms ih =>
    obtain ⟨hm, hms⟩ := List.forall_mem_cons.mp hms
    unfold putMember
    split
    · exact List.forall_mem_cons.mpr ⟨hj, hms⟩
    · exact List.forall_mem_cons.mpr ⟨hm, ih hms⟩

mutual

lemma Value.finite_toJson : (v : Value) → ∀ j, v.toJson = .ok j → j.Finite
  | .scalar _ => fun _ h => Scalar.finite_toJson h
  | .list xs => by
    intro j h
    obtain ⟨js, hjs, rfl⟩ := eq_of_map_eq_ok h
    exact all_array.mpr (finite_itemsToJson xs js hjs)
  | .tuple xs => by
    intro j h
    obtain ⟨js, hjs, rfl⟩ := eq_of_map_eq_ok h
    exact all_array.mpr (finite_itemsToJson xs js hjs)
  | .set ss => by
    intro j h
    obtain ⟨js, hjs, rfl⟩ := eq_of_map_eq_ok h
    exact all_array.mpr ((forall_mem_mapM hjs).mpr fun _ _ _ => Scalar.finite_toJson)
  | .map es => by
    intro j h
    obtain ⟨ms, hms, rfl⟩ := eq_of_map_eq_ok h
    exact all_object.mpr (finite_entriesToJson es [] nofun ms hms)

lemma finite_itemsToJson :
    (xs : List Value) → ∀ js, itemsToJson xs = .ok js → ∀ j ∈ js, j.Finite
  | [] => by
    rintro js ⟨⟩
    exact nofun
  | x :: xs => by
    intro js h
    obtain ⟨first, hfirst, h⟩ := exists_of_bind_eq_ok h
    obtain ⟨rest, hrest, h⟩ := exists_of_bind_eq_ok h
    cases h
    exact List.forall_mem_cons.mpr
      ⟨Value.finite_toJson x first hfirst, finite_itemsToJson xs rest hrest⟩

lemma finite_entriesToJson : (es : List (Scalar × Value)) → ∀ written,
    (∀ m ∈ written, m.2.Finite) → ∀ ms, entriesToJson written es = .ok ms → ∀ m ∈ ms, m.2.Finite
  | [] => by
    rintro written hwritten ms ⟨⟩
    exact hwritten
  | (k, v) :: es => by
    intro written hwritten ms h
    obtain ⟨name, -, h⟩ := exists_of_bind_eq_ok h
    obtain ⟨j, hj, h⟩ := exists_of_bind_eq_ok h
    exact finite_entriesToJson es _ (finite_putMember hwritten (Value.finite_toJson v j hj)) ms h

end

namespace Json

@[simp] lemma finite_optText (s : Option String) : (optText s).Finite := by
  cases s <;> simp [optText]

@[simp] lemma finite_optInt (n : Option ℤ) : (optInt n).Finite := by
  cases n <;> simp [optInt]

@[simp] lemma finite_optTime (t : Option DateTime) : (optTime t).Finite := by
  cases t <;> simp [optTime]

@[simp] lemma finite_optFloat {x : Option Binary64} :
    (optFloat x).Finite ↔ ∀ y ∈ x, y.isFinite = true := by
  cases x <;> simp [optFloat]

end Json

/-! ## Payloads -/

namespace Payload

/-- The times in the statistics of statements are finite. -/
def TimesFinite (p : Payload) : Prop :=
  ∀ qs, p.queries = some qs → ∀ q ∈ qs, ∀ x, q.totalTime = some x ∨ q.meanTime = some x →
    x.isFinite = true

/-- Only the statistics of statements hold times. -/
lemma finite_groupMember {p : Payload} {g : MetricGroup} {m : String × Json}
    (h : p.groupMember g = .ok m) : m.2.Finite ↔ (g = .queries → p.TimesFinite) := by
  cases g with
  | queries =>
    cases h
    cases hqueries : p.queries with
    | none => simp [TimesFinite, hqueries]
    | some qs =>
      simp only [TimesFinite, hqueries, Option.map_some, Option.getD_some, all_array,
        List.forall_mem_map, QueryStatistics.toJson]
      simp [or_imp, forall_and]
  | tables =>
    cases h
    cases htables : p.tables <;> simp [TableStatistics.toJson]
  | indexes =>
    cases h
    cases hindexes : p.indexes <;> simp [IndexStatistics.toJson]
  | settings =>
    unfold groupMember at h
    cases hsettings : p.settings with
    | none =>
      rw [hsettings] at h
      cases h
      simp
    | some es =>
      rw [hsettings] at h
      obtain ⟨ms, hms, h⟩ := exists_of_bind_eq_ok h
      cases h
      have hfinite := finite_entriesToJson es [] nofun ms hms
      simpa using hfinite
  | schema =>
    cases h
    cases hschema : p.schema <;>
      simp [SchemaDescription.toJson, TableDescription.toJson, ColumnDescription.toJson,
        IndexDescription.toJson]

lemma finite_databaseMember (p : Payload) : p.databaseMember.Finite := by
  have hmembers : ∀ m ∈ p.database.members, m.2.Finite := by
    simp only [DatabaseIdentity.members, List.forall_mem_cons, all_object, List.forall_mem_map]
    simp
  exact all_object.mpr fun m hm => hmembers m (List.mem_of_mem_filter hm)

/-- The numbers in the document of a payload are finite exactly if its times are. -/
lemma finite_document {p : Payload} {j : Json} (h : p.document = .ok j) :
    j.Finite ↔ p.TimesFinite := by
  obtain ⟨groups, hgroups, h⟩ := exists_of_bind_eq_ok h
  cases h
  rw [Json.Finite, all_object, List.forall_mem_append, forall_mem_mapM hgroups]
  constructor
  · rintro ⟨-, hfinite⟩
    cases hqueries : p.queries with
    | none => simp [TimesFinite, hqueries]
    | some qs =>
      have hmem : .queries ∈ p.collectedGroups :=
        List.mem_filter.mpr ⟨by decide, by simp [has, hqueries]⟩
      exact (finite_groupMember rfl).mp (hfinite .queries hmem _ rfl) rfl
  · intro htimes
    refine ⟨?_, fun g _ m hm => (finite_groupMember hm).mpr fun _ => htimes⟩
    simp [headMembers, finite_databaseMember]

/-! ## Texts -/

lemma format_of_document {p : Payload} {j : Json} (h : p.document = .ok j) (style : Style) :
    p.format style = (print style j).mapError FormatFault.print := by
  unfold format
  rw [h]
  dsimp only
  cases print style j <;> rfl

lemma exists_document {p : Payload} {style : Style} {s : String} (h : p.format style = .ok s) :
    ∃ j, p.document = .ok j ∧ print style j = .ok s := by
  cases hj : p.document with
  | error f =>
    unfold format at h
    rw [hj] at h
    cases h
  | ok j =>
    rw [format_of_document hj] at h
    refine ⟨j, rfl, ?_⟩
    cases hs : print style j with
    | error e =>
      rw [hs] at h
      cases h
    | ok t =>
      rw [hs] at h
      cases h
      rfl

/-- What is shown and what is sent of a payload agree: there is an indented text and a compact one
exactly if there is one to be sent, and every text is by the grammar and read as the document. -/
structure Agrees (p : Payload) : Prop where
  indented : (∃ s, p.format indented = .ok s) ↔ ∃ s, p.format wire = .ok s
  compact : (∃ s, p.format compact = .ok s) ↔ ∃ s, p.format wire = .ok s
  text : ∀ style ∈ [Json.indented, Json.compact, wire], ∀ s, p.format style = .ok s →
    ∃ j, p.document = .ok j ∧ Json.Text j s ∧ Json.parse s = some j

/-- What has a text in one style has one in any other, unless only the other one is strict and a
time is not finite. -/
lemma exists_format_of {style style' : Style} {p : Payload}
    (h : style'.strict = true → style.strict = true ∨ p.TimesFinite)
    (hs : ∃ s, p.format style = .ok s) : ∃ s, p.format style' = .ok s := by
  obtain ⟨s, hs⟩ := hs
  obtain ⟨j, hj, hprint⟩ := exists_document hs
  have hstyles : style'.strict = true → style.strict = true ∨ j.Finite :=
    fun hstrict => (h hstrict).imp_right (finite_document hj).mpr
  obtain ⟨s', hs'⟩ := exists_print_of hstyles ⟨s, hprint⟩
  refine ⟨s', ?_⟩
  rw [format_of_document hj, hs']
  rfl

lemma exists_compact {style : Style} {p : Payload} (h : ∃ s, p.format style = .ok s) :
    ∃ s, p.format compact = .ok s :=
  exists_format_of nofun h

/-- A text of a payload whose times are finite is its document. -/
lemma text_of_format {style : Style} (hstyle : style.Regular) {p : Payload} {s : String}
    (h : p.format style = .ok s) (htimes : p.TimesFinite) :
    ∃ j, p.document = .ok j ∧ Json.Text j s ∧ Json.parse s = some j := by
  obtain ⟨j, hj, hprint⟩ := exists_document h
  have hfinite := (finite_document hj).mpr htimes
  exact ⟨j, hj, text_of_print hstyle hfinite hprint, parse_of_print hstyle hfinite hprint⟩

/-- A payload that has a text, but a time that is not finite, is shown in both ways and not sent. -/
theorem format_of_not_finite {p : Payload} (htimes : ¬p.TimesFinite)
    (h : ∃ s, p.format compact = .ok s) :
    (∃ s, p.format indented = .ok s) ∧ p.format wire = .error (.print .notFinite) := by
  refine ⟨exists_format_of nofun h, ?_⟩
  obtain ⟨s, hs⟩ := h
  obtain ⟨j, hj, hprint⟩ := exists_document hs
  have hfinite := mt (finite_document hj).mp htimes
  rw [format_of_document hj, print_of_not_finite hfinite rfl ⟨s, hprint⟩]
  rfl

lemma regular_of_mem {style : Style} (h : style ∈ [indented, compact, wire]) : style.Regular := by
  simp only [List.mem_cons, List.not_mem_nil, or_false] at h
  rcases h with rfl | rfl | rfl
  · exact regular_indented
  · exact regular_compact
  · exact regular_wire

lemma not_agrees {p : Payload} (htimes : ¬p.TimesFinite) (h : ∃ s, p.format compact = .ok s) :
    ¬p.Agrees := by
  intro hagrees
  obtain ⟨s, hs⟩ := hagrees.compact.mp h
  cases hs.symm.trans (format_of_not_finite htimes h).2

/-- What is shown and what is sent of a payload agree exactly if its times are finite or it has no
text at all. -/
theorem agrees_iff (p : Payload) :
    p.Agrees ↔ p.TimesFinite ∨ ∀ s, p.format compact ≠ .ok s := by
  constructor
  · intro hagrees
    by_cases htimes : p.TimesFinite
    · exact .inl htimes
    · exact .inr fun s hs => not_agrees htimes ⟨s, hs⟩ hagrees
  · rintro (htimes | hnone)
    · have hall : ∀ style style' : Style, (∃ s, p.format style = .ok s) →
          ∃ s, p.format style' = .ok s :=
        fun _ _ => exists_format_of fun _ => .inr htimes
      refine ⟨⟨hall _ _, hall _ _⟩, ⟨hall _ _, hall _ _⟩, ?_⟩
      intro style hstyle s hs
      exact text_of_format (regular_of_mem hstyle) hs htimes
    · have hfails : ∀ style : Style, ¬∃ s, p.format style = .ok s := by
        intro style h
        obtain ⟨s, hs⟩ := exists_compact h
        exact hnone s hs
      refine ⟨⟨fun h => (hfails _ h).elim, fun h => (hfails _ h).elim⟩,
        ⟨fun h => (hfails _ h).elim, fun h => (hfails _ h).elim⟩, ?_⟩
      intro style _ s hs
      exact (hfails style ⟨s, hs⟩).elim

/-- A payload with one statement that took a time that is not a number. -/
def untimed : Payload where
  agentVersion := "0.1.0"
  timestamp := ⟨⟨2024, 1, 15⟩, 10, 30, 0, 0, some 0⟩
  instanceId := ""
  database := ⟨"postgres", none, "generic", []⟩
  queries := some [⟨none, none, none, some .nan, none, none, none, none⟩]
  tables := none
  indexes := none
  settings := none
  schema := none

/-- A value that the payload is validated from. -/
def untimedValue : Value :=
  .record [("timestamp", .time untimed.timestamp),
    ("database", .record [("type", .text "postgres")]),
    ("query_stats", .list [.record [("total_time_ms", .float .nan)]])]

theorem not_forall_agrees : ¬∀ (now : DateTime) (v : Value) (p : Payload),
    check now v = .valid p → p.Agrees := by
  intro h
  have hvalid : check untimed.timestamp untimedValue = .valid untimed := rfl
  refine not_agrees (p := untimed) ?_ ?_ (h _ _ _ hvalid)
  · intro htimes
    cases htimes _ rfl _ (List.mem_singleton_self _) .nan (.inl rfl)
  · exact ⟨_, rfl⟩

end Payload

end MetricsAgent
