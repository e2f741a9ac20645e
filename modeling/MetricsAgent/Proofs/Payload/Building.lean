import MetricsAgent.Proofs.Payload.RoundTrip

/-!
# Payloads that are built in steps

A payload is completed in steps, each of which gives one slot of it a value.  What a slot holds in the
end is the value of the last step for it, or what it held at first (`Payload.built_build`), so nothing
else about the steps matters.  The groups that are listed are those with a value, an empty one
included, and they are the ones that the document has besides its four fixed members.

`Payload.slot` is the payload seen slot by slot.  A step is known by what it does to this view:
`slot_apply_self` for its own slot, `slot_apply_of_ne` for the others.
-/

namespace MetricsAgent

namespace Payload

/-! ## Slots -/

/-- The parts of a payload that steps can set. -/
inductive Slot
  | instanceId
  | group (g : MetricGroup)
  deriving DecidableEq

/-- What a slot holds; a group may be absent. -/
abbrev Slot.Content : Slot → Type
  | .instanceId => String
  | .group .queries => Option (List QueryStatistics)
  | .group .tables => Option (List TableStatistics)
  | .group .indexes => Option (List IndexStatistics)
  | .group .settings => Option Entries
  | .group .schema => Option SchemaDescription

/-- What a payload has in a slot. -/
def slot (p : Payload) : (f : Slot) → f.Content
  | .instanceId => p.instanceId
  | .group .queries => p.queries
  | .group .tables => p.tables
  | .group .indexes => p.indexes
  | .group .settings => p.settings
  | .group .schema => p.schema

/-- What no step sets is the same in two payloads. -/
structure SameOrigin (p q : Payload) : Prop where
  agentVersion : q.agentVersion = p.agentVersion
  timestamp : q.timestamp = p.timestamp
  database : q.database = p.database

lemma SameOrigin.trans {p q r : Payload} (h : SameOrigin p q) (h' : SameOrigin q r) :
    SameOrigin p r :=
  ⟨h'.agentVersion.trans h.agentVersion, h'.timestamp.trans h.timestamp,
    h'.database.trans h.database⟩

/-- A payload is what its slots hold and what no step sets. -/
lemma eq_of_slots {p q : Payload} (horigin : SameOrigin p q) (hslots : ∀ f, q.slot f = p.slot f) :
    q = p := by
  obtain ⟨_, _, _, _, _, _, _, _, _⟩ := p
  obtain ⟨_, _, _, _, _, _, _, _, _⟩ := q
  obtain ⟨rfl, rfl, rfl⟩ := horigin
  have hinstance := hslots .instanceId
  have hqueries := hslots (.group .queries)
  have htables := hslots (.group .tables)
  have hindexes := hslots (.group .indexes)
  have hsettings := hslots (.group .settings)
  have hschema := hslots (.group .schema)
  simp only [slot] at hinstance hqueries htables hindexes hsettings hschema
  subst hinstance hqueries htables hindexes hsettings hschema
  rfl

/-! ## Steps -/

/-- A step that sets a part of a payload. -/
inductive Step
  | instanceId (connection : String)
  | queries (qs : List QueryStatistics)
  | tables (ts : List TableStatistics)
  | indexes (is : List IndexStatistics)
  | settings (pairs : List (String × String))
  | schema (s : SchemaDescription)

namespace Step

/-- The payload with what a step sets. -/
def apply : Step → Payload → Payload
  | .instanceId connection, p => p.withInstance connection
  | .queries qs, p => p.withQueries qs
  | .tables ts, p => p.withTables ts
  | .indexes is, p => p.withIndexes is
  | .settings pairs, p => p.withSettings (textEntries pairs)
  | .schema s, p => p.withSchema s

/-- The slot that a step sets. -/
def slot : Step → Slot
  | .instanceId _ => .instanceId
  | .queries _ => .group .queries
  | .tables _ => .group .tables
  | .indexes _ => .group .indexes
  | .settings _ => .group .settings
  | .schema _ => .group .schema

/-- What a step puts into its slot. -/
def value : (s : Step) → s.slot.Content
  | .instanceId connection => MetricsAgent.instanceId connection
  | .queries qs => some qs
  | .tables ts => some ts
  | .indexes is => some is
  | .settings pairs => some (textEntries pairs)
  | .schema s => some s

/-- A step with an argument that was validated: the times in it are of the calendar, and settings
have each name once. -/
def Complete : Step → Prop
  | .tables ts => ∀ t ∈ ts, ∀ x ∈ t.times, x.Proper
  | .settings pairs => Named pairs
  | _ => True

end Step

variable {p q : Payload} {s t : Step} {steps : List Step} {f : Slot} {g : MetricGroup}

/-- A payload with another name of the database; which one it is plays no part, so it is not to be
computed. -/
lemma exists_withInstance (p : Payload) (connection : String) :
    ∃ name, p.withInstance connection = { p with instanceId := name } :=
  ⟨_, rfl⟩

lemma sameOrigin_apply (s : Step) (p : Payload) : SameOrigin p (s.apply p) := by
  cases s with
  | instanceId connection =>
    obtain ⟨name, hname⟩ := p.exists_withInstance connection
    rw [Step.apply, hname]
    exact ⟨rfl, rfl, rfl⟩
  | _ => exact ⟨rfl, rfl, rfl⟩

lemma slot_apply_self (s : Step) (p : Payload) : (s.apply p).slot s.slot = s.value := by
  cases s <;> rfl

lemma slot_apply_of_ne (p : Payload) (h : s.slot ≠ f) : (s.apply p).slot f = p.slot f := by
  cases s with
  | instanceId connection =>
    obtain ⟨name, hname⟩ := p.exists_withInstance connection
    rw [Step.apply, hname]
    cases f with
    | instanceId => exact absurd rfl h
    | group g => cases g <;> rfl
  | _ =>
    cases f with
    | instanceId => rfl
    | group g => cases g <;> first | rfl | exact absurd rfl h

lemma wellFormed_apply (hp : p.WellFormed) (hs : s.Complete) : (s.apply p).WellFormed := by
  cases s with
  | instanceId connection =>
    obtain ⟨name, hname⟩ := p.exists_withInstance connection
    rw [Step.apply, hname]
    exact ⟨hp.times, hp.details, hp.settings⟩
  | tables ts =>
    refine ⟨List.forall_mem_cons.mpr ⟨hp.times _ List.mem_cons_self, ?_⟩, hp.details, hp.settings⟩
    intro x hx
    obtain ⟨stats, hstats, hmem⟩ := List.mem_flatMap.mp hx
    exact hs stats hstats x hmem
  | settings pairs =>
    refine ⟨hp.times, hp.details, ?_⟩
    rintro _ ⟨⟩
    exact ⟨pairs, rfl, hs⟩
  | _ => exact ⟨hp.times, hp.details, hp.settings⟩

/-! ## Many steps -/

/-- A payload after steps, the first one first. -/
def build (p : Payload) (steps : List Step) : Payload :=
  steps.foldl (fun p s => s.apply p) p

/-- The last step for a slot. -/
def lastStep? (steps : List Step) (f : Slot) : Option Step :=
  steps.reverse.find? fun s => s.slot = f

lemma lastStep?_append (before after : List Step) (f : Slot) :
    lastStep? (before ++ after) f = (lastStep? after f).or (lastStep? before f) := by
  rw [lastStep?, List.reverse_append, List.find?_append]
  rfl

lemma lastStep?_cons (s : Step) (steps : List Step) (f : Slot) :
    lastStep? (s :: steps) f = (lastStep? steps f).or (if s.slot = f then some s else none) := by
  rw [show s :: steps = [s] ++ steps from rfl, lastStep?_append]
  by_cases h : s.slot = f <;> simp [lastStep?, h]

lemma slot_of_lastStep? (h : lastStep? steps f = some s) : s.slot = f := by
  simpa using List.find?_some h

lemma lastStep?_isSome : (lastStep? steps f).isSome ↔ ∃ s ∈ steps, s.slot = f := by
  simp [lastStep?, List.find?_isSome]

/-- What has become of a payload by steps: each slot has the value of the last step for it, or what it
had if there was none. -/
structure Built (p : Payload) (steps : List Step) (q : Payload) : Prop where
  origin : SameOrigin p q
  set : ∀ s, lastStep? steps s.slot = some s → q.slot s.slot = s.value
  kept : ∀ f, lastStep? steps f = none → q.slot f = p.slot f

lemma built_build (p : Payload) (steps : List Step) : Built p steps (p.build steps) := by
  induction steps generalizing p with
  | nil => exact ⟨⟨rfl, rfl, rfl⟩, nofun, fun _ _ => rfl⟩
  | cons t steps ih =>
    obtain ⟨horigin, hset, hkept⟩ := ih (t.apply p)
    refine ⟨(sameOrigin_apply t p).trans horigin, ?_, ?_⟩
    · intro s hlast
      rw [lastStep?_cons] at hlast
      cases hrest : lastStep? steps s.slot with
      | some u =>
        rw [hrest, Option.some_or] at hlast
        exact hset s (hrest.trans hlast)
      | none =>
        rw [hrest, Option.none_or, Option.ite_none_right_eq_some] at hlast
        obtain ⟨-, hts⟩ := hlast
        cases hts
        exact (hkept _ hrest).trans (slot_apply_self _ p)
    · intro f hlast
      rw [lastStep?_cons, Option.or_eq_none_iff, ite_eq_right_iff] at hlast
      obtain ⟨hrest, hne⟩ := hlast
      exact (hkept f hrest).trans (slot_apply_of_ne p fun h => nomatch hne h)

/-- A payload is known by the last steps for each slot. -/
lemma eq_of_built {steps' : List Step} {q' : Payload} (h : Built p steps q)
    (h' : Built p steps' q') (hlast : ∀ f, lastStep? steps' f = lastStep? steps f) : q' = q := by
  refine eq_of_slots ⟨?_, ?_, ?_⟩ fun f => ?_
  · exact h'.origin.agentVersion.trans h.origin.agentVersion.symm
  · exact h'.origin.timestamp.trans h.origin.timestamp.symm
  · exact h'.origin.database.trans h.origin.database.symm
  · cases hf : lastStep? steps f with
    | none => exact (h'.kept f ((hlast f).trans hf)).trans (h.kept f hf).symm
    | some s =>
      obtain rfl := slot_of_lastStep? hf
      exact (h'.set s ((hlast _).trans hf)).trans (h.set s hf).symm

/-- Steps count by the last one for each slot: steps for different slots may be exchanged, and one
that is followed by another for the same slot may be left out. -/
structure LastCounts (p : Payload) (steps : List Step) : Prop where
  same (steps' : List Step) : (∀ f, lastStep? steps' f = lastStep? steps f) →
    p.build steps' = p.build steps
  commute {before after : List Step} {s t : Step} : steps = before ++ s :: t :: after →
    s.slot ≠ t.slot → p.build (before ++ t :: s :: after) = p.build steps
  overwritten {before mid after : List Step} {s t : Step} :
    steps = before ++ s :: (mid ++ t :: after) → s.slot = t.slot →
      p.build (before ++ (mid ++ t :: after)) = p.build steps

lemma build_congr {steps' : List Step} (h : ∀ f, lastStep? steps' f = lastStep? steps f) :
    p.build steps' = p.build steps :=
  eq_of_built (built_build p steps) (built_build p steps') h

lemma lastCounts_build (p : Payload) (steps : List Step) : LastCounts p steps where
  same _ h := build_congr h
  commute := by
    rintro before after s t rfl hne
    refine build_congr fun f => ?_
    simp only [lastStep?_append, lastStep?_cons]
    by_cases hs : s.slot = f
    · have ht : t.slot ≠ f := fun ht => hne (hs.trans ht.symm)
      simp [hs, ht]
    · simp [hs]
  overwritten := by
    rintro before mid after s t rfl hsame
    refine build_congr fun f => ?_
    simp only [lastStep?_append, lastStep?_cons]
    by_cases hs : s.slot = f
    · -- Of two steps for the slot the later one hides the earlier one.
      have ht : t.slot = f := hsame.symm.trans hs
      simp [ht]
    · simp [hs]

/-! ## Groups -/

/-- A payload has nothing for a group. -/
def Lacks (p : Payload) : MetricGroup → Prop
  | .queries => p.queries = none
  | .tables => p.tables = none
  | .indexes => p.indexes = none
  | .settings => p.settings = none
  | .schema => p.schema = none

lemma has_iff_not_lacks : p.has g = true ↔ ¬ p.Lacks g := by
  cases g <;> simp [has, Lacks, Option.isSome_iff_ne_none]

lemma lacks_congr (h : q.slot (.group g) = p.slot (.group g)) : q.Lacks g ↔ p.Lacks g := by
  cases g <;> exact iff_of_eq (congrArg (· = none) h)

lemma not_lacks_of_value (hs : s.slot = .group g) (h : q.slot s.slot = s.value) : ¬ q.Lacks g := by
  cases s <;> cases hs <;> exact fun hnone => Option.some_ne_none _ (h.symm.trans hnone)

/-- The groups that are listed are those that are not absent, in their usual order. -/
structure Lists (p : Payload) (groups : List MetricGroup) : Prop where
  ordered : groups.Sublist MetricGroup.all
  present : ∀ g, g ∈ groups ↔ ¬ p.Lacks g

lemma lists_collectedGroups (p : Payload) : p.Lists p.collectedGroups :=
  ⟨List.filter_sublist, fun _ => mem_collectedGroups.trans has_iff_not_lacks⟩

/-- A group is there if a step set it or if it was there before. -/
lemma mem_collectedGroups_build :
    g ∈ (p.build steps).collectedGroups ↔
      (∃ s ∈ steps, s.slot = .group g) ∨ g ∈ p.collectedGroups := by
  have hbuilt := built_build p steps
  rw [(lists_collectedGroups _).present, (lists_collectedGroups p).present, ← lastStep?_isSome]
  cases hlast : lastStep? steps (.group g) with
  | none =>
    rw [lacks_congr (hbuilt.kept _ hlast)]
    simp
  | some s =>
    have hs := slot_of_lastStep? hlast
    exact iff_of_true (not_lacks_of_value hs (hbuilt.set s (hs ▸ hlast))) (.inl rfl)

/-! ## Documents -/

/-- A document has four members at first and then one for each of the groups, which is not null. -/
structure Shows (groups : List MetricGroup) (ms : List (String × Json)) : Prop where
  names : ms.map (·.1)
    = ["agent_version", "timestamp", "instance_id", "database"] ++ groups.map MetricGroup.member
  present : ∀ g ∈ groups, ∃ j, j ≠ .null ∧ (g.member, j) ∈ ms

/-- A group that was collected is not null in a document, not even if it is empty. -/
lemma content_ne_null (hp : p.WellFormed) (hg : g ∈ p.collectedGroups) : p.content g ≠ .null := by
  rw [mem_collectedGroups] at hg
  cases g with
  | settings =>
    obtain ⟨es, hes⟩ := Option.isSome_iff_exists.mp hg
    obtain ⟨pairs, rfl, hnamed⟩ := hp.settings es hes
    rw [content_settings hnamed hes]
    intro h
    cases h
  | _ =>
    obtain ⟨x, hx⟩ := Option.isSome_iff_exists.mp hg
    simp only [content, groupMember, hx, Option.map_some, Option.getD_some]
    intro h
    cases h

lemma shows_members (hp : p.WellFormed) : Shows p.collectedGroups p.members := by
  constructor
  · simp [members, headMembers]
  · intro g hg
    exact ⟨_, content_ne_null hp hg,
      List.mem_append_right _ (List.mem_map_of_mem (f := fun g => (g.member, p.content g)) hg)⟩

/-! ## Building -/

lemma wellFormed_build (hp : p.WellFormed) (hsteps : ∀ s ∈ steps, s.Complete) :
    (p.build steps).WellFormed := by
  induction steps generalizing p with
  | nil => exact hp
  | cons s steps ih =>
    rw [List.forall_mem_cons] at hsteps
    exact ih (wellFormed_apply hp hsteps.1) hsteps.2

/-- A validated payload that is completed in steps has in each slot what the last step for it put
there, and what it had where there was none; its document shows the groups that are listed, which are
those that are not absent. -/
theorem build_shown (hp : p.Validated) (hsteps : ∀ s ∈ steps, s.Complete) :
    Built p steps (p.build steps) ∧ LastCounts p steps ∧
      (p.build steps).Lists (p.build steps).collectedGroups ∧
        (∀ g, g ∈ (p.build steps).collectedGroups ↔
          (∃ s ∈ steps, s.slot = .group g) ∨ g ∈ p.collectedGroups) ∧
        ∃ ms, (p.build steps).document = .ok (.object ms) ∧
          Shows (p.build steps).collectedGroups ms := by
  have hwell := wellFormed_build (wellFormed_of_validated hp) hsteps
  exact ⟨built_build p steps, lastCounts_build p steps, lists_collectedGroups _,
    fun _ => mem_collectedGroups_build, _, document_eq hwell, shows_members hwell⟩

/-- A payload without any group. -/
def plain : Payload where
  agentVersion := MetricsAgent.agentVersion
  timestamp := ⟨⟨2024, 2, 29⟩, 12, 0, 0, 0, none⟩
  instanceId := ""
  database := ⟨"postgres", none, "generic", []⟩
  queries := none
  tables := none
  indexes := none
  settings := none
  schema := none

/-- Settings that are set twice, with a group without entries in between. -/
def repeatedSteps : List Step :=
  [.settings [("work_mem", "4MB")], .tables [], .instanceId "postgres://db/app",
    .settings [("work_mem", "8MB")]]

theorem build_shown_repeatedSteps : plain.Validated ∧ (∀ s ∈ repeatedSteps, s.Complete) ∧
    (plain.build repeatedSteps).settings = some (textEntries [("work_mem", "8MB")]) ∧
      ∃ ms, (plain.build repeatedSteps).document = .ok (.object ms) ∧ ms.map (·.1)
        = ["agent_version", "timestamp", "instance_id", "database", "table_stats", "settings"] := by
  have hnow : plain.timestamp.Proper :=
    ⟨⟨by decide, by decide, by decide, by decide, by decide, by decide⟩, by decide, by decide,
      by decide, by decide, nofun⟩
  have hvalue : (Value.record [("database", .record [("type", .text "postgres")])]).Proper := by
    simp [Value.record, Value.Proper, EntriesProper, Scalar.Proper]
  have hvalidated : plain.Validated := .check hnow hvalue rfl
  have hcomplete : ∀ s ∈ repeatedSteps, s.Complete := by
    simp [repeatedSteps, Step.Complete, Named]
  obtain ⟨hbuilt, -, -, -, ms, hdocument, hshows⟩ := build_shown hvalidated hcomplete
  exact ⟨hvalidated, hcomplete, hbuilt.set (.settings [("work_mem", "8MB")]) rfl, ms, hdocument,
    hshows.names⟩

end Payload

end MetricsAgent
