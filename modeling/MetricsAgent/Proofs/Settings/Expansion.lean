import MetricsAgent.Proofs.Settings.Precedence
import MetricsAgent.Settings.Load

/-!
# Replacing placeholders before and after merging

Placeholders are replaced in merged layers.  The same tree results if they are replaced in every
layer first: `expandEntries_merge` goes along the entries of the upper layer, and `expandEntries_put`
is its step.  What makes the two orders agree is that replacing placeholders turns nothing into a
mapping and no mapping into anything else (`isMapping_expand`), so a value is joined with what is
there before exactly if it is joined afterwards.

No environment has a say about keys.  A part of a value is reached by positions, in sequences and in
mappings, and `part?_expand` says what becomes of it; of a mapping, the keys stay
(`keysIn?_expand`).
-/

namespace MetricsAgent

/-! ## Parts of a value -/

namespace Value

/-- The part of a value that is reached by positions, the outermost first: those of the items of a
sequence, and of the entries of a mapping. -/
def part? : Value → List Nat → Option Value
  | v, [] => some v
  | .list xs, i :: p => xs[i]?.bind (·.part? p)
  | .map es, i :: p => es[i]?.bind (·.2.part? p)
  | _, _ :: _ => none

/-- The keys of a part in order, if it is a mapping. -/
def keysIn? (v : Value) (p : List Nat) : Option (List Scalar) :=
  match v.part? p with
  | some (.map es) => some (Entries.keys es)
  | _ => none

lemma part?_nil (v : Value) : v.part? [] = some v := by
  unfold part?
  rfl

lemma part?_list_cons (xs : List Value) (i : Nat) (p : List Nat) :
    (Value.list xs).part? (i :: p) = xs[i]?.bind (·.part? p) := by
  rw [part?]

lemma part?_map_cons (es : Entries) (i : Nat) (p : List Nat) :
    (Value.map es).part? (i :: p) = es[i]?.bind (·.2.part? p) := by
  rw [part?]

/-- A value that placeholders are looked for in: a text, or what may have texts in it. -/
def IsOpen : Value → Prop
  | .text _ => True
  | .list _ => True
  | .map _ => True
  | _ => False

end Value

/-! ## Parts after replacing -/

namespace Environment

variable (env : Environment)

lemma expand_text (s : String) : env.expand (.text s) = .text (env.expandText s) := by
  rw [expand]

lemma expand_list (xs : List Value) : env.expand (.list xs) = .list (env.expandItems xs) := by
  rw [expand]

lemma expand_map (es : Entries) : env.expand (.map es) = .map (env.expandEntries es) := by
  rw [expand]

lemma expand_of_not_isOpen {v : Value} (hv : ¬ v.IsOpen) : env.expand v = v := by
  rw [expand]
  · rintro s rfl
    exact hv trivial
  · rintro xs rfl
    exact hv trivial
  · rintro es rfl
    exact hv trivial

lemma expandItems_eq_map (xs : List Value) : env.expandItems xs = xs.map env.expand := by
  induction xs with
  | nil => rw [expandItems, List.map_nil]
  | cons x xs ih => rw [expandItems, List.map_cons, ih]

lemma expandEntries_eq_map (es : Entries) :
    env.expandEntries es = es.map fun e => (e.1, env.expand e.2) := by
  induction es with
  | nil => rw [expandEntries, List.map_nil]
  | cons e es ih =>
    obtain ⟨k, v⟩ := e
    rw [expandEntries, List.map_cons, ih]

lemma keys_expandEntries (es : Entries) : Entries.keys (env.expandEntries es) = es.keys := by
  rw [expandEntries_eq_map, Entries.keys, Entries.keys, List.map_map]
  rfl

/-- The parts of a value after replacing are its parts, with the placeholders in them replaced. -/
lemma part?_expand (v : Value) (p : List Nat) :
    (env.expand v).part? p = (v.part? p).map env.expand := by
  induction p generalizing v with
  | nil => simp [Value.part?_nil]
  | cons i p ih =>
    by_cases hv : v.IsOpen
    · cases v with
      | scalar s =>
        cases s with
        | text s =>
          rw [expand_text, Value.part?, Value.part?] <;> simp
        | _ => exact hv.elim
      | list xs =>
        rw [expand_list, Value.part?_list_cons, Value.part?_list_cons, expandItems_eq_map,
          List.getElem?_map, Option.bind_map, Option.map_bind]
        exact Option.bind_congr fun x _ => ih x
      | map es =>
        rw [expand_map, Value.part?_map_cons, Value.part?_map_cons, expandEntries_eq_map,
          List.getElem?_map, Option.bind_map, Option.map_bind]
        exact Option.bind_congr fun e _ => ih e.2
      | _ => exact hv.elim
    · rw [expand_of_not_isOpen env hv]
      have hnone : v.part? (i :: p) = none := by
        rw [Value.part?]
        · rintro xs rfl
          exact hv trivial
        · rintro es rfl
          exact hv trivial
      rw [hnone, Option.map_none]

lemma isMapping_expand {v : Value} : (env.expand v).IsMapping ↔ v.IsMapping := by
  constructor
  · rintro ⟨es, hes⟩
    obtain ⟨before, rfl, -⟩ := exists_of_expand_eq_map hes
    exact ⟨before, rfl⟩
  · rintro ⟨es, rfl⟩
    exact ⟨_, env.expand_map es⟩

/-- Wherever a value has a mapping, the mapping has the same keys in the same order after
replacing, and it has a mapping nowhere else. -/
lemma keysIn?_expand (v : Value) (p : List Nat) : (env.expand v).keysIn? p = v.keysIn? p := by
  unfold Value.keysIn?
  rw [part?_expand]
  cases hx : v.part? p with
  | none => rfl
  | some x =>
    rw [Option.map_some]
    by_cases hmap : x.IsMapping
    · obtain ⟨es, rfl⟩ := hmap
      rw [expand_map]
      exact congrArg some (env.keys_expandEntries es)
    · have hafter : ¬ (env.expand x).IsMapping := fun h => hmap (env.isMapping_expand.mp h)
      split
      · next es hes => exact absurd ⟨es, Option.some.inj hes⟩ hafter
      · split
        · next es hes => exact absurd ⟨es, Option.some.inj hes⟩ hmap
        · rfl

/-! ## Merging -/

lemma expandEntries_put (es : Entries) (k : Scalar) (v : Value) :
    env.expandEntries (es.put k v) = Entries.put (env.expandEntries es) k (env.expand v) := by
  induction es with
  | nil => simp only [Entries.put, expandEntries]
  | cons e es ih =>
    obtain ⟨k', v'⟩ := e
    rw [Entries.put, expandEntries, Entries.put]
    split_ifs
    · rw [expandEntries]
    · rw [expandEntries, ih]

mutual

/-- Laying a value over another one, then replacing. -/
lemma expand_over (v : Value) (current : Option Value) :
    env.expand (v.over current) = (env.expand v).over (current.map env.expand) := by
  by_cases hmap : ∃ es base, v = .map es ∧ current = some (.map base)
  · obtain ⟨es, base, rfl, rfl⟩ := hmap
    rw [Value.over, expand_map, expand_map, Option.map_some, expand_map, Value.over,
      expandEntries_merge]
  · by_cases hv : v.IsMapping
    · obtain ⟨es, rfl⟩ := hv
      have hcurrent : ∀ x, current = some x → ¬ x.IsMapping := by
        rintro _ hx ⟨base, rfl⟩
        exact hmap ⟨es, base, rfl, hx⟩
      rw [Value.over_of_forall hcurrent, Value.over_of_forall]
      intro y hy
      obtain ⟨x, hx, rfl⟩ := Option.map_eq_some_iff.mp hy
      rw [isMapping_expand]
      exact hcurrent x hx
    · -- What is no mapping replaces what is there, before and after.
      rw [Value.over_of_not_isMapping hv, Value.over_of_not_isMapping]
      rwa [isMapping_expand]

/-- Merging two layers, then replacing. -/
lemma expandEntries_merge (base es : Entries) :
    env.expandEntries (base.merge es)
      = Entries.merge (env.expandEntries base) (env.expandEntries es) := by
  match es with
  | [] => rw [Entries.merge_nil, expandEntries, Entries.merge_nil]
  | (k, v) :: rest =>
    rw [Entries.merge, expandEntries_merge _ rest, expandEntries_put, expand_over v,
      expandEntries, Entries.merge, get?_expandEntries]

end

/-- Merging any number of layers, then replacing. -/
lemma expandEntries_mergeAll (layers : List Entries) :
    env.expandEntries (Entries.mergeAll layers)
      = Entries.mergeAll (layers.map env.expandEntries) := by
  have hnil : env.expandEntries [] = [] := by rw [expandEntries]
  rw [Entries.mergeAll, Entries.mergeAll, List.foldl_map]
  conv_rhs => rw [← hnil]
  exact (List.foldl_hom env.expandEntries fun a b => (env.expandEntries_merge a b).symm).symm

/-- The placeholders of merged layers may be replaced before or after merging, and no value of the
environment adds, removes or renames a key, wherever in the tree it is. -/
structure MergesAlike (env : Environment) : Prop where
  merge (base es : Entries) : env.expandEntries (base.merge es)
    = Entries.merge (env.expandEntries base) (env.expandEntries es)
  mergeAll (layers : List Entries) : env.expandEntries (Entries.mergeAll layers)
    = Entries.mergeAll (layers.map env.expandEntries)
  keys (layers : List Entries) (p : List Nat) :
    (Value.map (env.expandEntries (Entries.mergeAll layers))).keysIn? p
      = (Value.map (Entries.mergeAll layers)).keysIn? p

lemma mergesAlike : env.MergesAlike where
  merge := env.expandEntries_merge
  mergeAll := env.expandEntries_mergeAll
  keys layers p := by rw [← expand_map, keysIn?_expand]

end Environment

/-! ## Loading -/

namespace Settings

/-- Loading, with the placeholders of each layer replaced before the layers are merged. -/
def loadLayerwise (h : Host) (named : Option String) (overrides : Entries) :
    Except LoadFailure Loaded := do
  let file ← findFile h named
  let layers ← baseLayers h file
  let merged := Entries.mergeAll ((layers ++ [overrides]).map h.env.expandEntries)
  let settings ← ofEntries merged (file.map FilePath.text)
  return ⟨settings, file⟩

lemma load_eq_loadLayerwise (h : Host) (named : Option String) (overrides : Entries) :
    load h named overrides = loadLayerwise h named overrides := by
  simp only [load, loadLayerwise, Environment.expandEntries_mergeAll]

end Settings

/-- Replacing placeholders and merging may be done in either order: the merged trees are the same,
key order included, and so is what loading comes to on every machine. -/
theorem Environment.expandEntries_either_order :
    (∀ env : Environment, env.MergesAlike) ∧
      ∀ (h : Settings.Host) (named : Option String) (overrides : Entries),
        Settings.load h named overrides = Settings.loadLayerwise h named overrides :=
  ⟨fun env => env.mergesAlike, Settings.load_eq_loadLayerwise⟩

end MetricsAgent
