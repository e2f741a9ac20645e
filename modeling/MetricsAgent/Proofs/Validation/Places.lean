import Mathlib.Tactic.Common
import MetricsAgent.Validation.Record
import MetricsAgent.Validation.Report

/-!
# The places of issues

The place of an issue leads into the value that was checked, and the place of a key that belongs to no
field leads to a section of which this key is not a name.  `Read.Reports` says so of a reader together
with the sections that are read on the way.  It is kept by lists, fields and records, so what is known
of the settings as a whole is read off the readers they are made of, and the sections of a record are
the ones of its fields, each behind the name of its field.

A place is followed once more when an issue is put into words.  That look-up finds the same part, but
for the positions of tuples and of sets: they hide their parts (`Value.lookUp_of_partAt?`).
-/

namespace MetricsAgent

/-! ## Parts of a value -/

namespace Value

/-- The items of a sequence or of a set. -/
def items? : Value → Option (List Value)
  | .list vs => some vs
  | .tuple vs => some vs
  | .set ss => some (ss.map .scalar)
  | _ => none

/-- The part of a value to which a step leads. -/
def step? : Value → Segment → Option Value
  | .map es, .name k => Entries.field? es k
  | v, .index (.ofNat n) => v.items?.bind (·[n]?)
  | _, _ => none

/-- The part of a value to which a place leads. -/
def partAt? (v : Value) (place : List Segment) : Option Value :=
  place.foldlM step? v

/-- The way along a place takes a position in something that is no list. -/
inductive Hides : Value → List Segment → Prop
  | here {v : Value} {n : Int} {place : List Segment} (hlist : ∀ vs, v ≠ .list vs) :
      Hides v (.index n :: place)
  | deeper {v part : Value} {s : Segment} {place : List Segment} (hpart : v.step? s = some part)
      (h : Hides part place) : Hides v (s :: place)

lemma partAt?_nil (v : Value) : v.partAt? [] = some v := rfl

lemma partAt?_cons (v : Value) (s : Segment) (place : List Segment) :
    v.partAt? (s :: place) = (v.step? s).bind (·.partAt? place) := by
  rw [partAt?, List.foldlM_cons]
  rfl

lemma partAt?_append (v : Value) (before after : List Segment) :
    v.partAt? (before ++ after) = (v.partAt? before).bind (·.partAt? after) := by
  rw [partAt?, List.foldlM_append]
  rfl

lemma step?_index (v : Value) (n : ℕ) : v.step? (.index n) = v.items?.bind (·[n]?) := by
  cases v <;> rfl

lemma exists_of_step?_name {v w : Value} {k : String} (h : v.step? (.name k) = some w) :
    ∃ es, v = .map es ∧ Entries.field? es k = some w := by
  cases v with
  | map es => exact ⟨es, rfl, h⟩
  | _ => cases h

/-- A step that leads to a part is taken by the look-up as well, or what it leads into hides it. -/
lemma lookUp_cons_cases {v part : Value} {s : Segment} (hpart : v.step? s = some part)
    (place : List Segment) :
    (v.lookUp (s :: place) = part.lookUp place ∧ (v.Hides (s :: place) ↔ part.Hides place)) ∨
      v.lookUp (s :: place) = .null ∧ v.Hides (s :: place) := by
  have hdeeper (hlist : ∀ n, s = .index n → ∃ vs, v = .list vs) :
      v.Hides (s :: place) ↔ part.Hides place := by
    refine ⟨fun h => ?_, .deeper hpart⟩
    cases h with
    | here hno =>
      obtain ⟨vs, rfl⟩ := hlist _ rfl
      exact absurd rfl (hno vs)
    | deeper hpart' h =>
      rw [hpart] at hpart'
      cases hpart'
      exact h
  match v, s with
  | .map es, .name k =>
    refine .inl ⟨?_, hdeeper nofun⟩
    have hfield : Entries.field? es k = some part := hpart
    rw [lookUp, lookUp?, hfield]
    rfl
  | .list vs, .index (.ofNat n) =>
    refine .inl ⟨?_, hdeeper fun _ _ => ⟨vs, rfl⟩⟩
    have hitem : vs[n]? = some part := hpart
    rw [lookUp, lookUp?, hitem]
    rfl
  | .tuple _, .index (.ofNat _) | .set _, .index (.ofNat _) => exact .inr ⟨rfl, .here nofun⟩
  | .scalar _, .name _ | .list _, .name _ | .tuple _, .name _ | .set _, .name _ => cases hpart
  | .scalar _, .index (.ofNat _) | .map _, .index (.ofNat _) => cases hpart
  | .scalar _, .index (.negSucc _) | .list _, .index (.negSucc _) | .tuple _, .index (.negSucc _)
  | .set _, .index (.negSucc _) | .map _, .index (.negSucc _) => cases hpart

/-- The look-up finds the part to which a place leads unless something hides it. -/
lemma lookUp_of_partAt? {v w : Value} {place : List Segment} (h : v.partAt? place = some w) :
    (¬ v.Hides place → v.lookUp place = w) ∧ (v.Hides place → v.lookUp place = .null) := by
  induction place generalizing v with
  | nil =>
    cases h
    exact ⟨fun _ => rfl, nofun⟩
  | cons s place ih =>
    rw [partAt?_cons, Option.bind_eq_some_iff] at h
    obtain ⟨part, hpart, hrest⟩ := h
    rcases lookUp_cons_cases hpart place with ⟨hstep, hhides⟩ | ⟨hnull, hhides⟩
    · rw [hstep, hhides]
      exact ih hrest
    · exact ⟨fun h => absurd hhides h, fun _ => hnull⟩

end Value

/-! ## Issues about a value -/

/-- The fields of sections, by the names that lead to them. -/
abbrev Sections := List (List String × List Read.Field)

/-- The sections below a name. -/
def Sections.under (name : String) (sections : Sections) : Sections :=
  sections.map fun (names, fields) => (name :: names, fields)

/-- Where the issue stands there is a part of the value, unless a field is missing there or a key is
no text; a key that belongs to no field is none of the names in its section. -/
structure Issue.Fits (i : Issue) (sections : Sections) (v : Value) : Prop where
  found : i.cause ≠ .missing → i.cause ≠ .invalidKey → ∃ part, v.partAt? i.place = some part
  stranger : i.cause = .extra → ∃ names fields key, (names, fields) ∈ sections ∧
    i.place = names.map .name ++ [.name key] ∧ key ∉ fields.map (·.wire)

namespace Issue.Fits

variable {i : Issue} {sections more : Sections} {v part : Value}

lemma mono (h : i.Fits sections v) (hsub : sections ⊆ more) : i.Fits more v where
  found := h.found
  stranger hextra := by
    obtain ⟨names, fields, key, hmem, hplace, hkey⟩ := h.stranger hextra
    exact ⟨names, fields, key, hsub hmem, hplace, hkey⟩

/-- An issue about a value as a whole. -/
lemma of_place_eq_nil (hplace : i.place = []) (hextra : i.cause ≠ .extra) : i.Fits sections v where
  found _ _ := ⟨v, by rw [hplace, Value.partAt?_nil]⟩
  stranger h := absurd h hextra

/-- An issue about a part is one about the whole, further in. -/
lemma cons_name {name : String} (h : i.Fits sections part) (hpart : v.step? (.name name) = some part) :
    Issue.Fits ⟨i.cause, .name name :: i.place⟩ (sections.under name) v where
  found hmissing hkey := by
    obtain ⟨inner, hinner⟩ := h.found hmissing hkey
    exact ⟨inner, by rw [Value.partAt?_cons, hpart, Option.bind_some, hinner]⟩
  stranger hextra := by
    obtain ⟨names, fields, key, hmem, hplace, hkey⟩ := h.stranger hextra
    refine ⟨name :: names, fields, key, List.mem_map.mpr ⟨_, hmem, rfl⟩, ?_, hkey⟩
    rw [hplace]
    rfl

/-- An unknown key is a key of the mapping to which its section leads. -/
lemma exists_section (h : i.Fits sections v) (hextra : i.cause = .extra) :
    ∃ names fields key within, (names, fields) ∈ sections ∧
      i = ⟨.extra, names.map .name ++ [.name key]⟩ ∧
      v.partAt? (names.map .name) = some (.map within) ∧ (Entries.field? within key).isSome := by
  obtain ⟨names, fields, key, hsection, hplace, -⟩ := h.stranger hextra
  obtain ⟨part, hpart⟩ := h.found (by rw [hextra]; nofun) (by rw [hextra]; nofun)
  rw [hplace, Value.partAt?_append, Option.bind_eq_some_iff] at hpart
  obtain ⟨container, hcontainer, hpart⟩ := hpart
  rw [Value.partAt?_cons, Option.bind_eq_some_iff] at hpart
  obtain ⟨w, hw, -⟩ := hpart
  obtain ⟨within, rfl, hkey⟩ := Value.exists_of_step?_name hw
  refine ⟨names, fields, key, within, hsection, ?_, hcontainer, by rw [hkey]; rfl⟩
  rw [← hplace, ← hextra]

end Issue.Fits

/-! ## Refusals of a whole value -/

namespace Checked

variable {α β : Type}

lemma issues_map (f : α → β) (x : Checked α) : (x.map f).issues = x.issues := by
  cases x <;> rfl

lemma issues_seq (f : Checked (α → β)) (x : Checked α) : (f <*> x).issues = f.issues ++ x.issues :=
  issues_ap f x

lemma issues_within (s : Segment) (x : Checked α) :
    (x.within s).issues = x.issues.map fun i => ⟨i.cause, s :: i.place⟩ := by
  cases x <;> rfl

lemma issues_withIssues (x : Checked α) (more : List Issue) :
    (x.withIssues more).issues = x.issues ++ more := by
  cases x <;> cases more <;> simp [withIssues, issues]

/-- The value is refused as a whole, if at all, and not for its keys. -/
def Whole (x : Checked α) : Prop :=
  ∀ i ∈ x.issues, i.place = [] ∧ i.cause ≠ .extra

@[simp] lemma whole_valid (a : α) : (Checked.valid a).Whole :=
  fun _ hi => absurd hi List.not_mem_nil

@[simp] lemma whole_refuse_iff {c : Cause} : (Checked.refuse c : Checked α).Whole ↔ c ≠ .extra := by
  constructor
  · exact fun h => (h ⟨c, []⟩ List.mem_cons_self).2
  · intro hc i hi
    obtain rfl := List.mem_singleton.mp hi
    exact ⟨rfl, hc⟩

lemma Whole.map {x : Checked α} (h : x.Whole) (f : α → β) : (x.map f).Whole := by
  rw [Whole, issues_map]
  exact h

lemma Whole.andThen {x : Checked α} {f : α → Checked β} (h : x.Whole) (hf : ∀ a, (f a).Whole) :
    (x.andThen f).Whole := by
  cases x with
  | valid a => exact hf a
  | invalid i is => exact h

/-- A further test finds nothing wrong with the parts of a value. -/
lemma mem_issues_of_refine {x : Checked α} {test : α → Option String} {i : Issue}
    (h : i ∈ (Read.refine test x).issues) : i ∈ x.issues ∨ ∃ reason, i = ⟨.rejected reason, []⟩ := by
  cases x with
  | invalid j js => exact .inl h
  | valid a =>
    cases htest : test a with
    | none => simp [Read.refine, andThen, htest, issues] at h
    | some reason =>
      refine .inr ⟨reason, ?_⟩
      simpa [Read.refine, andThen, htest, refuse, issues] using h

lemma Whole.refine {x : Checked α} (h : x.Whole) (test : α → Option String) :
    (Read.refine test x).Whole := by
  intro i hi
  rcases mem_issues_of_refine hi with hi | ⟨reason, rfl⟩
  · exact h i hi
  · exact ⟨rfl, nofun⟩

end Checked

namespace Read

open Checked

variable {α : Type}

lemma whole_text (v : Value) : (text v).Whole := by
  unfold text
  repeat' split
  all_goals simp

lemma whole_asText? {c : Cause} {v : Value} {x : Checked String} (h : asText? c v = some x)
    (hc : c ≠ .extra) : x.Whole := by
  unfold asText? at h
  split at h
  · cases h
    exact whole_valid _
  · split at h <;> cases h
    · exact whole_valid _
    · exact whole_refuse_iff.mpr hc
  · cases h

lemma whole_integerOfText (s : String) : (integerOfText s).Whole := by
  unfold integerOfText
  repeat' split
  all_goals simp

lemma whole_integerOfFloat (x : Binary64) : (integerOfFloat x).Whole := by
  unfold integerOfFloat
  repeat' split
  all_goals simp

lemma whole_integer (v : Value) : (integer v).Whole := by
  unfold integer
  split
  · next htext => exact (whole_asText? htext nofun).andThen whole_integerOfText
  · split <;> simp [whole_integerOfFloat]

lemma whole_number (v : Value) : (number v).Whole := by
  unfold number
  split
  · next htext =>
    refine (whole_asText? htext nofun).andThen fun s => ?_
    split <;> simp
  · dsimp only
    repeat' split
    all_goals simp

lemma whole_booleanOfInt (n : Int) : (booleanOfInt n).Whole := by
  unfold booleanOfInt
  repeat' split
  all_goals simp

lemma whole_boolean (v : Value) : (boolean v).Whole := by
  unfold boolean
  split
  · next htext =>
    refine (whole_asText? htext nofun).andThen fun s => ?_
    split <;> simp
  · repeat' split
    all_goals simp [whole_booleanOfInt]

lemma whole_oneOf (all : List α) (name : α → String) (v : Value) : (oneOf all name v).Whole := by
  unfold oneOf
  repeat' split
  all_goals simp

lemma whole_within (bounds : List Bound) (x : Number) : (within bounds x).Whole := by
  unfold within
  split <;> simp

lemma whole_boundedInteger (bounds : List Bound) (v : Value) : (boundedInteger bounds v).Whole :=
  (whole_integer v).andThen fun _ => (whole_within bounds _).map _

lemma whole_boundedNumber (bounds : List Bound) (v : Value) : (boundedNumber bounds v).Whole :=
  (whole_number v).andThen fun _ => whole_within bounds _

lemma whole_nullable {read : Value → Checked α} (h : ∀ v, (read v).Whole) (v : Value) :
    (nullable read v).Whole := by
  unfold nullable
  split
  · exact whole_valid _
  · exact (h v).map some

/-! ## Reports -/

/-- The issues of a reader are about the value that it is given, and it reads these sections. -/
def Reports (read : Value → Checked α) (sections : Sections) : Prop :=
  ∀ v, ∀ i ∈ (read v).issues, i.Fits sections v

/-- The same of the fields of a record. -/
def ReportsFields (read : Entries → Checked α) (sections : Sections) : Prop :=
  ∀ es, ∀ i ∈ (read es).issues, i.Fits sections (.map es)

variable {β : Type} {sections more : Sections}

lemma reports_of_whole {read : Value → Checked α} (h : ∀ v, (read v).Whole) : Reports read [] :=
  fun v i hi => .of_place_eq_nil (h v i hi).1 (h v i hi).2

lemma Reports.refine {read : Value → Checked α} (h : Reports read sections)
    (test : α → Option String) : Reports (fun v => refine test (read v)) sections := by
  intro v i hi
  rcases mem_issues_of_refine hi with hi | ⟨reason, rfl⟩
  · exact h v i hi
  · exact .of_place_eq_nil rfl nofun

/-! ### Lists -/

lemma list_eq (read : Value → Checked α) (v : Value) :
    list read v = match v.items? with
      | some vs => itemsFrom read 0 vs
      | none => .refuse .notList := by
  cases v <;> rfl

/-- An issue of an item stands at its position. -/
lemma exists_of_mem_issues_itemsFrom {read : Value → Checked α} {n : ℕ} {vs : List Value} {i : Issue}
    (h : i ∈ (itemsFrom read n vs).issues) :
    ∃ k v j, vs[k]? = some v ∧ j ∈ (read v).issues ∧ i = ⟨j.cause, .index ↑(n + k) :: j.place⟩ := by
  induction vs generalizing n with
  | nil => cases h
  | cons v vs ih =>
    rw [itemsFrom, issues_seq, List.mem_append] at h
    rcases h with h | h
    · rw [show List.cons <$> (read v).within (.index n) = ((read v).within (.index n)).map List.cons
        from rfl, issues_map, issues_within, List.mem_map] at h
      obtain ⟨j, hj, rfl⟩ := h
      exact ⟨0, v, j, rfl, hj, rfl⟩
    · obtain ⟨k, w, j, hw, hj, rfl⟩ := ih h
      exact ⟨k + 1, w, j, hw, hj, by rw [Nat.add_assoc, Nat.add_comm 1]⟩

/-- The items of a list are refused as a whole, or it is no list. -/
lemma reports_list {read : Value → Checked α} (h : ∀ v, (read v).Whole) : Reports (list read) [] := by
  intro v i hi
  rw [list_eq] at hi
  split at hi
  · next vs hitems =>
    obtain ⟨k, w, j, hw, hj, rfl⟩ := exists_of_mem_issues_itemsFrom hi
    obtain ⟨hplace, hextra⟩ := h w j hj
    refine ⟨fun _ _ => ⟨w, ?_⟩, fun hcause => absurd hcause hextra⟩
    rw [hplace, Nat.zero_add, Value.partAt?_cons, Value.step?_index, hitems, Option.bind_some, hw]
    rfl
  · obtain rfl := List.mem_singleton.mp hi
    exact .of_place_eq_nil rfl nofun

lemma itemsFrom_comp (read : Value → Checked α) (f : Value → Value) (n : ℕ) (vs : List Value) :
    itemsFrom read n (vs.map f) = itemsFrom (fun v => read (f v)) n vs := by
  induction vs generalizing n with
  | nil => rfl
  | cons v vs ih => rw [List.map_cons, itemsFrom, itemsFrom, ih]

/-! ### Records -/

lemma reportsFields_map {read : Entries → Checked α} (h : ReportsFields read sections) (f : α → β) :
    ReportsFields (fun es => f <$> read es) sections := by
  intro es i hi
  exact h es i (by rwa [← issues_map f])

lemma reportsFields_seq {first : Entries → Checked (α → β)} {read : Entries → Checked α}
    (hfirst : ReportsFields first sections) (h : ReportsFields read more) :
    ReportsFields (fun es => first es <*> read es) (sections ++ more) := by
  intro es i hi
  rw [issues_seq, List.mem_append] at hi
  rcases hi with hi | hi
  · exact (hfirst es i hi).mono (List.subset_append_left _ _)
  · exact (h es i hi).mono (List.subset_append_right _ _)

/-- A field is found under one of its names. -/
lemma field?_of_find? {f : Field} {es : Entries} {name : String} {v : Value}
    (h : f.find? es = some (name, v)) :
    es.field? name = some v ∧ name ∈ f.wire :: f.alternative.toList := by
  unfold Field.find? at h
  split at h
  · next hwire =>
    cases h
    exact ⟨hwire, List.mem_cons_self⟩
  · obtain ⟨n, hn, h⟩ := Option.bind_eq_some_iff.mp h
    obtain ⟨w, hw, h⟩ := Option.bind_eq_some_iff.mp h
    cases h
    exact ⟨hw, List.mem_cons_of_mem _ (Option.mem_toList.mpr hn)⟩

/-- The sections of a field are behind the name under which it is given. -/
def Field.under (f : Field) (sections : Sections) : Sections :=
  (f.wire :: f.alternative.toList).flatMap sections.under

section Fields

variable {f : Field} {read : Value → Checked α} {es : Entries} {name : String} {v : Value}

lemma fits_of_find? (h : Reports read sections) (hfind : f.find? es = some (name, v)) {i : Issue}
    (hi : i ∈ ((read v).within (.name name)).issues) : i.Fits (f.under sections) (.map es) := by
  obtain ⟨hfield, hname⟩ := field?_of_find? hfind
  rw [issues_within, List.mem_map] at hi
  obtain ⟨j, hj, rfl⟩ := hi
  have hpart : (Value.map es).step? (.name name) = some v := hfield
  exact ((h v j hj).cons_name hpart).mono
    fun _ hmem => List.mem_flatMap.mpr ⟨name, hname, hmem⟩

lemma reportsFields_optional (h : Reports read sections) (default : α) :
    ReportsFields (fun es => f.optional es default read) (f.under sections) := by
  intro es i hi
  dsimp only at hi
  unfold Field.optional at hi
  split at hi
  · next hfind => exact fits_of_find? h hfind hi
  · cases hi

lemma reportsFields_required (h : Reports read sections) :
    ReportsFields (fun es => f.required es read) (f.under sections) := by
  intro es i hi
  dsimp only at hi
  unfold Field.required at hi
  split at hi
  · next hfind => exact fits_of_find? h hfind hi
  · obtain rfl := List.mem_singleton.mp hi
    exact ⟨fun hmissing => absurd rfl hmissing, nofun⟩

end Fields

/-- A key that belongs to no field is there, and the name of a field is none; other keys are refused
for not being a text. -/
lemma mem_strangers_cases {fields : List Field} {es : Entries} {i : Issue}
    (h : i ∈ strangers fields es) :
    (∃ key, i = ⟨.extra, [.name key]⟩ ∧ (es.field? key).isSome ∧ key ∉ fields.map (·.wire)) ∨
      i.cause = .invalidKey := by
  obtain ⟨⟨k, v⟩, hmem, hi⟩ := List.mem_filterMap.mp h
  cases k with
  | text key =>
    dsimp only at hi
    split at hi
    · cases hi
    · next hused =>
      cases hi
      have hthere : (es.field? key).isSome := by
        rw [Entries.field?, Entries.get?, Option.isSome_map, List.find?_isSome]
        exact ⟨_, hmem, Scalar.sameKey_refl _⟩
      refine .inl ⟨key, rfl, hthere, fun hwire => hused ?_⟩
      obtain ⟨f, hf, rfl⟩ := List.mem_map.mp hwire
      obtain ⟨w, hw⟩ := Option.isSome_iff_exists.mp hthere
      refine List.contains_iff_mem.mpr (List.mem_filterMap.mpr ⟨f, hf, ?_⟩)
      rw [Field.find?, hw]
      rfl
  | _ =>
    cases hi
    exact .inr rfl

lemma reports_closedRecord {fields : List Field} {read : Entries → Checked α} (title : String)
    (h : ReportsFields read sections) :
    Reports (closedRecord title fields read) (([], fields) :: sections) := by
  intro v i hi
  unfold closedRecord at hi
  split at hi
  · next es =>
    rw [issues_withIssues, List.mem_append] at hi
    rcases hi with hi | hi
    · exact (h es i hi).mono (List.subset_cons_self _ _)
    · rcases mem_strangers_cases hi with ⟨key, rfl, hthere, hkey⟩ | hcause
      · refine ⟨fun _ _ => ?_, fun _ => ⟨[], fields, key, List.mem_cons_self, rfl, hkey⟩⟩
        obtain ⟨w, hw⟩ := Option.isSome_iff_exists.mp hthere
        have hpart : (Value.map es).step? (.name key) = some w := hw
        exact ⟨w, by rw [Value.partAt?_cons, hpart, Option.bind_some, Value.partAt?_nil]⟩
      · exact ⟨fun _ hno => absurd hcause hno, fun hextra => by rw [hcause] at hextra; cases hextra⟩
  · obtain rfl := List.mem_singleton.mp hi
    exact .of_place_eq_nil rfl nofun

end Read

end MetricsAgent
