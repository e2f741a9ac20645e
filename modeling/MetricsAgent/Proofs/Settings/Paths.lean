import MetricsAgent.Proofs.Settings.Layers

/-!
# Paths into layers

What is at a path of a value, and what laying a mapping over a value makes of it.  At the last key of
a path this is `Entries.get?_merge`; the lemmas on `Value.over` follow a path from the outside in, one
for each way in which a value can decide about it: by what it has there, by a value without keys on
the way, or not at all.

A mapping has each key once, at every level (`Entries.Distinct`).  Keys count as the same if they
denote the same, whatever the kind of scalar.
-/

namespace MetricsAgent

/-! ## Paths -/

namespace Value

/-- What is at a path, the outermost key first. -/
def at? : Value → List Scalar → Option Value
  | v, [] => some v
  | .map es, k :: p => (Entries.get? es k).bind (·.at? p)
  | _, _ :: _ => none

/-- A value with keys of its own. -/
def IsMapping (v : Value) : Prop :=
  ∃ es, v = .map es

/-- There is a mapping at a path. -/
def IsMappingAt (v : Value) (p : List Scalar) : Prop :=
  ∃ x, v.at? p = some x ∧ x.IsMapping

/-- There is something at a path that is no mapping. -/
def IsLeafAt (v : Value) (p : List Scalar) : Prop :=
  ∃ x, v.at? p = some x ∧ ¬ x.IsMapping

/-- Something on the way to a path is no mapping. -/
def Blocks (v : Value) (p : List Scalar) : Prop :=
  ∃ q, q <+: p ∧ q ≠ p ∧ v.IsLeafAt q

/-- A value decides about a path: it has something there, or no room for anything. -/
def Decides (v : Value) (p : List Scalar) : Prop :=
  (v.at? p).isSome ∨ v.Blocks p

/-- The keys of the mapping at a path; none if there is no mapping. -/
def keysAt (v : Value) (p : List Scalar) : List Scalar :=
  match v.at? p with
  | some (.map es) => Entries.keys es
  | _ => []

end Value

mutual

/-- No mapping on any level has a key twice. -/
def Value.Distinct : Value → Prop
  | .map es => Entries.Distinct es
  | _ => True

/-- No key is there twice, nor in the mappings below. -/
def Entries.Distinct : Entries → Prop
  | [] => True
  | (k, v) :: rest => k.keyForm ∉ Entries.keyForms rest ∧ v.Distinct ∧ Entries.Distinct rest

end

lemma Value.distinct_map {es : Entries} : (Value.map es).Distinct ↔ es.Distinct := by
  rw [Value.Distinct]

/-! ## One key -/

namespace Entries

variable {base es : Entries} {k : Scalar}

@[simp] lemma get?_nil (k : Scalar) : get? [] k = none := rfl

lemma get?_cons (k' : Scalar) (v : Value) (es : Entries) (k : Scalar) :
    get? ((k', v) :: es) k = if k'.sameKey k then some v else es.get? k := by
  unfold get?
  rw [List.find?_cons]
  cases k'.sameKey k <;> rfl

lemma get?_eq_none_iff : es.get? k = none ↔ k.keyForm ∉ es.keyForms := by
  induction es with
  | nil => simp [get?, keyForms, keys]
  | cons e es ih =>
    obtain ⟨k', v⟩ := e
    rw [get?_cons, keyForms_cons, List.mem_cons, not_or, ← ih]
    by_cases hk : k'.sameKey k = true
    · rw [if_pos hk]
      exact iff_of_false (Option.some_ne_none v) fun h => h.1 ((Scalar.sameKey_iff k' k).mp hk).symm
    · rw [if_neg hk]
      exact (and_iff_right fun h => hk ((Scalar.sameKey_iff k' k).mpr h.symm)).symm

lemma get?_congr {k k' : Scalar} (h : k.sameKey k' = true) : es.get? k = es.get? k' := by
  have hsame (k'' : Scalar) : k''.sameKey k = k''.sameKey k' := by
    rw [Scalar.sameKey, Scalar.sameKey, (Scalar.sameKey_iff k k').mp h]
  simp only [get?, hsame]

lemma get?_put (es : Entries) (k' : Scalar) (v : Value) (k : Scalar) :
    (es.put k' v).get? k = if k'.sameKey k then some v else es.get? k := by
  induction es with
  | nil => exact get?_cons k' v [] k
  | cons e es ih =>
    obtain ⟨k'', v''⟩ := e
    unfold put
    by_cases hk : k''.sameKey k' = true
    · have hsame : k''.sameKey k = k'.sameKey k := by
        rw [Scalar.sameKey, Scalar.sameKey, (Scalar.sameKey_iff k'' k').mp hk]
      rw [if_pos hk, get?_cons, get?_cons, hsame]
      split_ifs <;> rfl
    · rw [if_neg hk, get?_cons, get?_cons, ih]
      by_cases hk' : k''.sameKey k = true
      · have hne : ¬ k'.sameKey k = true := by
          rw [Scalar.sameKey_iff] at hk hk' ⊢
          exact fun h => hk (hk'.trans h.symm)
        rw [if_pos hk', if_neg hne, if_pos hk']
      · rw [if_neg hk', if_neg hk']

lemma field?_put (es : Entries) (name' : String) (v : Value) (name : String) :
    (es.put (.text name') v).field? name = if name' = name then some v else es.field? name := by
  simp [field?, get?_put, Scalar.sameKey, Scalar.keyForm]

/-- What merging makes of one key. -/
lemma get?_merge (hes : es.Distinct) :
    (base.merge es).get? k = match es.get? k with
      | some v => some (v.over (base.get? k))
      | none => base.get? k := by
  induction es generalizing base with
  | nil => rw [merge_nil]; rfl
  | cons e es ih =>
    obtain ⟨k', v⟩ := e
    obtain ⟨hfresh, -, hrest⟩ := hes
    rw [merge, ih hrest, get?_put, get?_cons]
    by_cases hk : k'.sameKey k = true
    · have hnone : Entries.get? es k = none := by
        rw [get?_eq_none_iff, ← (Scalar.sameKey_iff k' k).mp hk]
        exact hfresh
      rw [if_pos hk, if_pos hk, hnone, get?_congr hk]
    · rw [if_neg hk, if_neg hk]

lemma distinct_of_get? {v : Value} (hes : es.Distinct) (hget : es.get? k = some v) :
    v.Distinct := by
  induction es with
  | nil => cases hget
  | cons e es ih =>
    obtain ⟨k', v'⟩ := e
    obtain ⟨-, hv', hrest⟩ := hes
    rw [get?_cons] at hget
    split_ifs at hget
    · cases hget
      exact hv'
    · exact ih hrest hget

lemma keys_put (es : Entries) (k : Scalar) (v : Value) :
    (es.put k v).keys = if k.keyForm ∈ es.keyForms then es.keys else es.keys ++ [k] := by
  induction es with
  | nil => rfl
  | cons e es ih =>
    obtain ⟨k', v'⟩ := e
    unfold put
    by_cases hk : k'.sameKey k = true
    · have hmem : k.keyForm ∈ keyForms ((k', v') :: es) :=
        List.mem_cons.mpr (.inl ((Scalar.sameKey_iff k' k).mp hk).symm)
      rw [if_pos hk, if_pos hmem]
      rfl
    · have hne : k.keyForm ≠ k'.keyForm := fun h => hk ((Scalar.sameKey_iff k' k).mpr h.symm)
      rw [if_neg hk, show keys ((k', v') :: put es k v) = k' :: (put es k v).keys from rfl, ih]
      simp only [keyForms_cons, List.mem_cons, hne, false_or]
      split_ifs <;> rfl

/-- The keys that are there stay where they are; new ones follow in their own order. -/
lemma keys_merge (hes : es.Distinct) :
    (base.merge es).keys
      = base.keys ++ es.keys.filter fun k => decide (k.keyForm ∉ base.keyForms) := by
  induction es generalizing base with
  | nil => rw [merge_nil]; simp [keys]
  | cons e es ih =>
    obtain ⟨k, v⟩ := e
    obtain ⟨hfresh, -, hrest⟩ := hes
    have hkeys : keys ((k, v) :: es) = k :: Entries.keys es := rfl
    -- A new key is no key of the rest, so the rest may be compared with the old keys alone.
    have hfilter : (Entries.keys es).filter
          (fun k' => decide (k'.keyForm ∉ (base.put k (v.over (base.get? k))).keyForms))
        = (Entries.keys es).filter fun k' => decide (k'.keyForm ∉ base.keyForms) := by
      refine List.filter_congr fun k' hk' => ?_
      have hne : k'.keyForm ≠ k.keyForm := fun h => hfresh (h ▸ List.mem_map_of_mem hk')
      rw [decide_eq_decide, mem_keyForms_put]
      tauto
    rw [merge, ih hrest, hfilter, keys_put, hkeys, List.filter_cons]
    by_cases hk : k.keyForm ∈ base.keyForms
    · rw [if_pos hk, if_neg (by simpa using hk)]
    · rw [if_neg hk, if_pos (by simpa using hk), List.append_assoc]
      rfl

lemma distinct_put {k : Scalar} {v : Value} (hes : es.Distinct) (hv : v.Distinct) :
    (es.put k v).Distinct := by
  induction es with
  | nil => exact ⟨nofun, hv, trivial⟩
  | cons e es ih =>
    obtain ⟨k', v'⟩ := e
    obtain ⟨hfresh, hv', hrest⟩ := hes
    unfold put
    by_cases hk : k'.sameKey k = true
    · rw [if_pos hk]
      exact ⟨hfresh, hv, hrest⟩
    · rw [if_neg hk]
      refine ⟨?_, hv', ih hrest⟩
      rw [mem_keyForms_put, not_or, ← Scalar.sameKey_iff]
      exact ⟨hfresh, hk⟩

/-- A mapping made from a list of entries has no key twice. -/
lemma distinct_ofList {pairs : List (Scalar × Value)} (h : ∀ e ∈ pairs, e.2.Distinct) :
    (ofList pairs).Distinct := by
  have hfold (es : Entries) (hes : es.Distinct) :
      Entries.Distinct (pairs.foldl (fun es e => put es e.1 e.2) es) := by
    induction pairs generalizing es with
    | nil => exact hes
    | cons e pairs ih =>
      rw [List.forall_mem_cons] at h
      exact ih h.2 _ (distinct_put hes h.1)
  exact hfold [] trivial

end Entries

/-! ## A layer over a value -/

namespace Value

variable {v x : Value} {current : Option Value} {k : Scalar} {p q : List Scalar}

lemma at?_nil (v : Value) : v.at? [] = some v := by
  unfold at?
  rfl

lemma at?_map_cons (es : Entries) (k : Scalar) (p : List Scalar) :
    (Value.map es).at? (k :: p) = (es.get? k).bind (·.at? p) := by
  rw [at?]

lemma bind_at?_cons (current : Option Value) (k : Scalar) (p : List Scalar) :
    (current.bind (·.at? [k])).bind (·.at? p) = current.bind (·.at? (k :: p)) := by
  rw [Option.bind_assoc]
  refine Option.bind_congr fun v _ => ?_
  cases v with
  | map es => simp [at?_map_cons, at?_nil]
  | _ => rfl

lemma at?_cons_of_not_isMapping (hv : ¬ v.IsMapping) : v.at? (k :: p) = none := by
  cases v with
  | map es => exact absurd ⟨es, rfl⟩ hv
  | _ => rw [at?]; nofun

lemma over_of_not_isMapping (hv : ¬ v.IsMapping) : v.over current = v := by
  cases v with
  | map es => exact absurd ⟨es, rfl⟩ hv
  | _ => rw [Value.over]; nofun

/-- A value over one that is no mapping replaces it. -/
lemma over_of_forall (h : ∀ x, current = some x → ¬ x.IsMapping) : v.over current = v := by
  cases v with
  | map es =>
    rw [Value.over]
    exact fun base hbase => h _ hbase ⟨base, rfl⟩
  | _ => rw [Value.over]; nofun

lemma over_none (v : Value) : v.over none = v :=
  over_of_forall nofun

lemma isMapping_over : (v.over current).IsMapping ↔ v.IsMapping := by
  by_cases hmap : ∃ es base, v = .map es ∧ current = some (.map base)
  · obtain ⟨es, base, rfl, rfl⟩ := hmap
    rw [Value.over]
    exact iff_of_true ⟨_, rfl⟩ ⟨_, rfl⟩
  · cases v with
    | map es => rw [over_of_forall fun x hx ⟨base, hbase⟩ => hmap ⟨es, base, rfl, hbase ▸ hx⟩]
    | _ => rw [Value.over]; nofun

/-- Laying a mapping over a value lays what it has under a key over what is there under it. -/
lemma at?_over_cons {es : Entries} (hes : es.Distinct) :
    ((Value.map es).over current).at? (k :: p) = match es.get? k with
      | some x => (x.over (current.bind (·.at? [k]))).at? p
      | none => current.bind (·.at? (k :: p)) := by
  by_cases hmap : ∃ base, current = some (.map base)
  · obtain ⟨base, rfl⟩ := hmap
    rw [Value.over]
    simp only [at?_map_cons, Option.bind_some, Entries.get?_merge hes, at?_nil]
    cases es.get? k <;> simp
  · have hbelow (p : List Scalar) : current.bind (·.at? (k :: p)) = none := by
      cases current with
      | none => rfl
      | some y => exact at?_cons_of_not_isMapping fun ⟨base, hy⟩ => hmap ⟨base, congrArg some hy⟩
    rw [over_of_forall fun y hy ⟨base, hbase⟩ => hmap ⟨base, hbase ▸ hy⟩, at?_map_cons,
      hbelow, hbelow]
    cases es.get? k with
    | some x => simp [over_none]
    | none => rfl

/-! ## Paths that a layer decides about -/

lemma blocks_cons_of_not_isMapping (hv : ¬ v.IsMapping) : v.Blocks (k :: p) :=
  ⟨[], List.nil_prefix, nofun, v, at?_nil v, hv⟩

lemma not_blocks_nil (v : Value) : ¬ v.Blocks [] := by
  rintro ⟨q, hstart, hne, -⟩
  exact hne (List.prefix_nil.mp hstart)

lemma blocks_map_cons {es : Entries} :
    (Value.map es).Blocks (k :: p) ↔ ∃ x, es.get? k = some x ∧ x.Blocks p := by
  constructor
  · rintro ⟨q, hstart, hne, y, hat, hleaf⟩
    cases q with
    | nil =>
      rw [at?_nil, Option.some.injEq] at hat
      exact absurd ⟨es, hat.symm⟩ hleaf
    | cons k' q =>
      obtain ⟨rfl, hbelow⟩ := List.cons_prefix_cons.mp hstart
      rw [at?_map_cons] at hat
      obtain ⟨x, hx, hat⟩ := Option.bind_eq_some_iff.mp hat
      exact ⟨x, hx, q, hbelow, fun h => hne (h ▸ rfl), y, hat, hleaf⟩
  · rintro ⟨x, hx, q, hstart, hne, y, hat, hleaf⟩
    refine ⟨k :: q, List.cons_prefix_cons.mpr ⟨rfl, hstart⟩, by simpa using hne, y, ?_, hleaf⟩
    rw [at?_map_cons, hx]
    exact hat

/-- A mapping has no room below a key for another one if there is no mapping under the key. -/
lemma isLeafAt_of_blocks {es : Entries} {k' : Scalar} (h : (Value.map es).Blocks [k, k']) :
    (Value.map es).IsLeafAt [k] := by
  obtain ⟨x, hx, hblocks⟩ := blocks_map_cons.mp h
  refine ⟨x, by rw [at?_map_cons, hx, Option.bind_some, at?_nil], ?_⟩
  rintro ⟨inner, rfl⟩
  obtain ⟨y, -, hy⟩ := blocks_map_cons.mp hblocks
  exact not_blocks_nil y hy

lemma distinct_of_at? (hv : v.Distinct) (hat : v.at? p = some x) : x.Distinct := by
  induction p generalizing v with
  | nil =>
    rw [at?_nil, Option.some.injEq] at hat
    exact hat ▸ hv
  | cons k p ih =>
    by_cases hmap : v.IsMapping
    · obtain ⟨es, rfl⟩ := hmap
      rw [at?_map_cons] at hat
      obtain ⟨y, hy, hat⟩ := Option.bind_eq_some_iff.mp hat
      exact ih (Entries.distinct_of_get? hv hy) hat
    · cases (at?_cons_of_not_isMapping hmap).symm.trans hat

/-- A layer with something at a path lays it over what is there. -/
lemma at?_over_of_some (hv : v.Distinct) (hat : v.at? p = some x) :
    (v.over current).at? p = some (x.over (current.bind (·.at? p))) := by
  induction p generalizing v current with
  | nil =>
    rw [at?_nil, Option.some.injEq] at hat
    simp [at?_nil, hat]
  | cons k p ih =>
    by_cases hmap : v.IsMapping
    · obtain ⟨es, rfl⟩ := hmap
      rw [at?_map_cons] at hat
      obtain ⟨y, hy, hat⟩ := Option.bind_eq_some_iff.mp hat
      rw [at?_over_cons hv, hy]
      dsimp only
      rw [ih (Entries.distinct_of_get? hv hy) hat, bind_at?_cons]
    · cases (at?_cons_of_not_isMapping hmap).symm.trans hat

/-- A layer with a value without keys on the way to a path leaves nothing there. -/
lemma at?_over_of_blocks (hv : v.Distinct) (hblocks : v.Blocks p) :
    (v.over current).at? p = none := by
  induction p generalizing v current with
  | nil => exact absurd hblocks v.not_blocks_nil
  | cons k p ih =>
    by_cases hmap : v.IsMapping
    · obtain ⟨es, rfl⟩ := hmap
      obtain ⟨x, hx, hblocks⟩ := blocks_map_cons.mp hblocks
      rw [at?_over_cons hv, hx]
      exact ih (Entries.distinct_of_get? hv hx) hblocks
    · rw [over_of_not_isMapping hmap]
      exact at?_cons_of_not_isMapping hmap

/-- A layer that does not decide about a path leaves what is there. -/
lemma at?_over_of_not_decides (hv : v.Distinct) (hdecides : ¬ v.Decides p) :
    (v.over current).at? p = current.bind (·.at? p) := by
  induction p generalizing v current with
  | nil => exact absurd (.inl (by rw [at?_nil]; rfl)) hdecides
  | cons k p ih =>
    by_cases hmap : v.IsMapping
    · obtain ⟨es, rfl⟩ := hmap
      rw [at?_over_cons hv]
      cases hx : Entries.get? es k with
      | none => rfl
      | some x =>
        have hbelow : ¬ x.Decides p := by
          rintro (hat | hblocks)
          · exact hdecides (.inl (by rwa [at?_map_cons, hx]))
          · exact hdecides (.inr (blocks_map_cons.mpr ⟨x, hx, hblocks⟩))
        dsimp only
        rw [ih (Entries.distinct_of_get? hv hx) hbelow, bind_at?_cons]
    · exact absurd (.inr (blocks_cons_of_not_isMapping hmap)) hdecides

/-- A mapping without a key does not decide about paths that begin with it. -/
lemma not_decides_of_get?_eq_none {es : Entries} (hk : es.get? k = none) :
    ¬ (Value.map es).Decides (k :: p) := by
  rintro (hat | hblocks)
  · rw [at?_map_cons, hk] at hat
    cases hat
  · obtain ⟨x, hx, -⟩ := blocks_map_cons.mp hblocks
    cases hk.symm.trans hx

/-- On the way to something there are mappings only. -/
lemma isMappingAt_of_isSome (hat : (v.at? p).isSome) (hstart : q <+: p) (hne : q ≠ p) :
    v.IsMappingAt q := by
  induction p generalizing v q with
  | nil => exact absurd (List.prefix_nil.mp hstart) hne
  | cons k p ih =>
    by_cases hmap : v.IsMapping
    · cases q with
      | nil => exact ⟨v, at?_nil v, hmap⟩
      | cons k' q =>
        obtain ⟨es, rfl⟩ := hmap
        obtain ⟨rfl, hbelow⟩ := List.cons_prefix_cons.mp hstart
        obtain ⟨x, hx⟩ := Option.isSome_iff_exists.mp hat
        rw [at?_map_cons] at hx
        obtain ⟨y, hy, hx⟩ := Option.bind_eq_some_iff.mp hx
        obtain ⟨z, hz, hzmap⟩ := ih (by rw [hx]; rfl) hbelow fun h => hne (h ▸ rfl)
        exact ⟨z, by rw [at?_map_cons, hy]; exact hz, hzmap⟩
    · rw [at?_cons_of_not_isMapping hmap] at hat
      cases hat

end Value

/-! ## Placeholders -/

namespace Environment

variable {env : Environment} {v : Value}

lemma get?_expandEntries (env : Environment) (es : Entries) (k : Scalar) :
    Entries.get? (env.expandEntries es) k = (es.get? k).map env.expand := by
  induction es with
  | nil => rw [expandEntries]; rfl
  | cons e es ih =>
    obtain ⟨k', v⟩ := e
    rw [expandEntries, Entries.get?_cons, Entries.get?_cons, ih]
    split_ifs <;> rfl

/-- Replacing placeholders makes mappings of mappings only. -/
lemma exists_of_expand_eq_map {es : Entries} (h : env.expand v = .map es) :
    ∃ before, v = .map before ∧ es = env.expandEntries before := by
  cases v with
  | map before =>
    rw [expand] at h
    cases h
    exact ⟨before, rfl, rfl⟩
  | scalar s =>
    cases s with
    | text t =>
      rw [expand] at h
      cases h
    | _ =>
      rw [expand] at h
      · cases h
      all_goals nofun
  | list xs =>
    rw [expand] at h
    cases h
  | _ =>
    rw [expand] at h
    · cases h
    all_goals nofun

end Environment

end MetricsAgent
