import MetricsAgent.Proofs.Settings.Loading
import MetricsAgent.Proofs.Yaml.Mappings

/-!
# Precedence of layers

What is at a path of merged layers.  A layer decides about a path if it has something there, or if it
has a value without keys on the way to it; of the layers that decide, the last one prevails
(`Entries.mergeAll_precedence`).  A mapping that is laid over a mapping hides nothing, so what it does
not decide about is what was there before.
-/

namespace MetricsAgent

/-! ## Precedence -/

/-- At a path things are as a layer says: what it has there that is no mapping, a mapping where it
has one, and nothing where it has no room for anything. -/
structure Value.PrevailsAt (layer merged : Value) (p : List Scalar) : Prop where
  leaf (x : Value) : layer.at? p = some x → ¬ x.IsMapping → merged.at? p = some x
  mapping : layer.IsMappingAt p → merged.IsMappingAt p
  blocked : layer.Blocks p → merged.at? p = none

/-- A mapping with a layer laid over it: the layer prevails, what it does not decide about is kept,
and where it has a mapping its new keys follow the keys that were there. -/
structure Entries.Overlaid (base layer merged : Entries) : Prop where
  prevails (p : List Scalar) : (Value.map layer).PrevailsAt (.map merged) p
  kept (p : List Scalar) : ¬ (Value.map layer).Decides p →
    (Value.map merged).at? p = (Value.map base).at? p
  keys (p : List Scalar) : (Value.map layer).IsMappingAt p →
    (Value.map merged).keysAt p = (Value.map base).keysAt p
      ++ ((Value.map layer).keysAt p).filter fun k =>
        decide (k.keyForm ∉ ((Value.map base).keysAt p).map Scalar.keyForm)

/-- Several layers laid over each other: at each path the last layer that decides about it prevails,
there is nothing where none decides, and what a layer has is lost only to a later layer that puts a
value without keys in the place of a mapping on the way to it. -/
structure Entries.Layered (layers : List Entries) (merged : Entries) : Prop where
  prevails {before after : List Entries} {top : Entries} {p : List Scalar} :
    layers = before ++ top :: after → (∀ es ∈ after, ¬ (Value.map es).Decides p) →
      (Value.map top).PrevailsAt (.map merged) p
  undecided {p : List Scalar} : p ≠ [] → (∀ es ∈ layers, ¬ (Value.map es).Decides p) →
    (Value.map merged).at? p = none
  lost {before after : List Entries} {es : Entries} {p : List Scalar} :
    layers = before ++ es :: after → ((Value.map es).at? p).isSome →
      (Value.map merged).at? p = none →
        ∃ mid top rest q, after = mid ++ top :: rest ∧ q <+: p ∧ q ≠ p ∧
          (Value.map (Entries.mergeAll (before ++ es :: mid))).IsMappingAt q ∧
            (Value.map top).IsLeafAt q

namespace Entries

variable {base layer es : Entries} {layers : List Entries} {p q : List Scalar}

lemma map_merge (base layer : Entries) :
    Value.map (base.merge layer) = (Value.map layer).over (some (.map base)) := by
  rw [Value.over]

/-- What a layer has at a path is laid over what is there. -/
lemma at?_merge_of_some {x : Value} (hlayer : layer.Distinct)
    (hat : (Value.map layer).at? p = some x) :
    (Value.map (base.merge layer)).at? p = some (x.over ((Value.map base).at? p)) := by
  rw [map_merge, Value.at?_over_of_some (Value.distinct_map.mpr hlayer) hat]
  rfl

lemma overlaid_merge (hlayer : layer.Distinct) : Overlaid base layer (base.merge layer) where
  prevails p := by
    constructor
    · intro x hat hleaf
      rw [at?_merge_of_some hlayer hat, Value.over_of_not_isMapping hleaf]
    · rintro ⟨x, hat, hmap⟩
      exact ⟨_, at?_merge_of_some hlayer hat, Value.isMapping_over.mpr hmap⟩
    · intro hblocks
      rw [map_merge, Value.at?_over_of_blocks (Value.distinct_map.mpr hlayer) hblocks]
  kept p hdecides := by
    rw [map_merge, Value.at?_over_of_not_decides (Value.distinct_map.mpr hlayer) hdecides,
      Option.bind_some]
  keys p := by
    rintro ⟨_, hat, inner, rfl⟩
    have hinner : Distinct inner :=
      Value.distinct_map.mp (Value.distinct_of_at? (Value.distinct_map.mpr hlayer) hat)
    have hmerged : (Value.map (base.merge layer)).at? p
        = some ((Value.map inner).over ((Value.map base).at? p)) := at?_merge_of_some hlayer hat
    by_cases hbase : ∃ old, (Value.map base).at? p = some (.map old)
    · obtain ⟨old, hold⟩ := hbase
      rw [hold, ← map_merge] at hmerged
      simp only [Value.keysAt, hmerged, hold, hat]
      exact keys_merge hinner
    · have hnone : (Value.map base).keysAt p = [] := by
        unfold Value.keysAt
        split
        · next old hold => exact absurd ⟨old, hold⟩ hbase
        · rfl
      rw [Value.over_of_forall fun x hx ⟨old, hold⟩ => hbase ⟨old, hold ▸ hx⟩] at hmerged
      rw [hnone]
      simp [Value.keysAt, hmerged, hat]

/-! ## Many layers -/

lemma at?_foldl_merge (hlayers : ∀ es ∈ layers, es.Distinct)
    (hdecides : ∀ es ∈ layers, ¬ (Value.map es).Decides p) :
    (Value.map (layers.foldl merge base)).at? p = (Value.map base).at? p := by
  induction layers generalizing base with
  | nil => rfl
  | cons es layers ih =>
    rw [List.forall_mem_cons] at hlayers hdecides
    rw [List.foldl_cons, ih hlayers.2 hdecides.2]
    exact (overlaid_merge hlayers.1).kept p hdecides.1

/-- What is there is lost to the first layer that leaves no room for it. -/
lemma lost_foldl_merge (hlayers : ∀ es ∈ layers, es.Distinct)
    (hat : ((Value.map base).at? p).isSome)
    (hlost : (Value.map (layers.foldl merge base)).at? p = none) :
    ∃ mid top rest q, layers = mid ++ top :: rest ∧ q <+: p ∧ q ≠ p ∧
      (Value.map (mid.foldl merge base)).IsMappingAt q ∧ (Value.map top).IsLeafAt q := by
  induction layers generalizing base with
  | nil =>
    rw [List.foldl_nil] at hlost
    rw [hlost] at hat
    cases hat
  | cons es layers ih =>
    rw [List.forall_mem_cons] at hlayers
    cases hnext : (Value.map (base.merge es)).at? p with
    | some x =>
      obtain ⟨mid, top, rest, q, rfl, hrest⟩ := ih hlayers.2 (by rw [hnext]; rfl) hlost
      exact ⟨es :: mid, top, rest, q, rfl, hrest⟩
    | none =>
      have hoverlaid : Overlaid base es (base.merge es) := overlaid_merge hlayers.1
      have hdecides : (Value.map es).Decides p := by
        by_contra hdecides
        rw [← hoverlaid.kept p hdecides, hnext] at hat
        cases hat
      rcases hdecides with hsome | ⟨q, hstart, hne, hleaf⟩
      · obtain ⟨x, hx⟩ := Option.isSome_iff_exists.mp hsome
        cases hnext.symm.trans (at?_merge_of_some hlayers.1 hx)
      · exact ⟨[], es, layers, q, rfl, hstart, hne,
          Value.isMappingAt_of_isSome hat hstart hne, hleaf⟩

lemma mergeAll_append (before : List Entries) (es : Entries) (after : List Entries) :
    mergeAll (before ++ es :: after) = after.foldl merge ((mergeAll before).merge es) := by
  rw [mergeAll, List.foldl_append, List.foldl_cons]
  rfl

lemma prevailsAt_congr {top merged merged' : Value} (h : merged'.at? p = merged.at? p)
    (hprevails : top.PrevailsAt merged p) : top.PrevailsAt merged' p where
  leaf x hat hleaf := by rw [h, hprevails.leaf x hat hleaf]
  mapping hmap := by
    obtain ⟨x, hx, hmap⟩ := hprevails.mapping hmap
    exact ⟨x, by rw [h, hx], hmap⟩
  blocked hblocks := by rw [h, hprevails.blocked hblocks]

lemma layered_mergeAll (hlayers : ∀ es ∈ layers, es.Distinct) :
    Layered layers (mergeAll layers) where
  prevails := by
    rintro before after top p rfl hafter
    rw [List.forall_mem_append, List.forall_mem_cons] at hlayers
    rw [mergeAll_append]
    refine prevailsAt_congr (at?_foldl_merge hlayers.2.2 hafter) ?_
    exact (overlaid_merge hlayers.2.1).prevails p
  undecided := by
    intro p hp hdecides
    rw [mergeAll, at?_foldl_merge hlayers hdecides]
    cases p with
    | nil => exact absurd rfl hp
    | cons k p => rfl
  lost := by
    rintro before after es p rfl hat hlost
    rw [List.forall_mem_append, List.forall_mem_cons] at hlayers
    obtain ⟨x, hx⟩ := Option.isSome_iff_exists.mp hat
    rw [mergeAll_append] at hlost
    simp only [mergeAll_append]
    refine lost_foldl_merge hlayers.2.2 ?_ hlost
    rw [at?_merge_of_some hlayers.2.1 hx]
    rfl

/-- A layer prevails over what it is laid over, and of several layers the last one that decides. -/
theorem mergeAll_precedence {base layer : Entries} {layers : List Entries}
    (hlayer : layer.Distinct) (hlayers : ∀ es ∈ layers, es.Distinct) :
    Overlaid base layer (base.merge layer) ∧ Layered layers (mergeAll layers) :=
  ⟨overlaid_merge hlayer, layered_mergeAll hlayers⟩

/-- Layers with a section, a number in its place, and a section again. -/
def replacedSection : List Entries :=
  [[(.text "pool", .map [(.text "least", .int 1), (.text "most", .int 5)])],
    [(.text "pool", .int 3)],
    [(.text "pool", .map [(.text "most", .int 9)]), (.text "type", .null)]]

theorem mergeAll_precedence_replacedSection :
    Distinct [(.text "pool", .int 3)] ∧ (∀ es ∈ replacedSection, Distinct es) ∧
      Overlaid [(.text "pool", .map [])] [(.text "pool", .int 3)] [(.text "pool", .int 3)] ∧
        Layered replacedSection
          [(.text "pool", .map [(.text "most", .int 9)]), (.text "type", .null)] := by
  have hlayer : Distinct [(.text "pool", .int 3)] := by
    simp [Distinct, Value.Distinct, keyForms, keys]
  have hlayers : ∀ es ∈ replacedSection, Distinct es := by
    simp [replacedSection, Distinct, Value.Distinct, keyForms, keys, Scalar.keyForm]
  exact ⟨hlayer, hlayers, mergeAll_precedence hlayer hlayers⟩

end Entries

/-! ## Settings -/

namespace Settings

lemma distinct_defaults : defaults.Distinct := by
  simp [defaults, Entries.Distinct, Value.Distinct, Value.record, Entries.keyForms, Entries.keys,
    Scalar.keyForm]

/-- The mapping that a settings file supplies has no key twice, at any level. -/
lemma distinct_of_supplied {h : Host} {named : Option String} {es : Entries}
    (hes : Supplied h named es) : es.Distinct := by
  cases hes with
  | nothing => trivial
  | blank => trivial
  | mapping htext hread => exact Yaml.distinct_of_read hread

/-- The defaults, the settings file and the command line are layers in this order. -/
theorem layered_settings {h : Host} {named : Option String} {es overrides : Entries}
    (hes : Supplied h named es) (hoverrides : overrides.Distinct) :
    Entries.Layered [defaults, es, overrides] (Entries.mergeAll [defaults, es, overrides]) := by
  refine Entries.layered_mergeAll ?_
  simp only [List.forall_mem_cons, List.not_mem_nil, false_implies, implies_true, and_true]
  exact ⟨distinct_defaults, distinct_of_supplied hes, hoverrides⟩

end Settings

end MetricsAgent
