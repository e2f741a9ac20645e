import MetricsAgent.Logging.Record
import MetricsAgent.Proofs.Json.Validity

/-!
# Values that JSON can hold

What a line makes of a value is a document whose whole numbers are short, and whose other numbers are
finite exactly if the value has a form in JSON (`Value.logged_of_hasForm`, `Value.of_logged`).  What is
no part of JSON, such as a path or a time, is written as a text and always has a form; keys have to
name a member, and a whole number of too many digits has no form anywhere.
-/

namespace MetricsAgent

open Json (Finite Short IsShort)

/-! ## Values with a form in JSON -/

/-- A scalar that JSON can hold, as itself or as a text. -/
def Scalar.HasForm : Scalar → Prop
  | .int n => IsShort n
  | .float x => x.isFinite = true
  | _ => True

/-- A key that names a member. -/
def Scalar.IsName : Scalar → Prop
  | .null | .bool _ | .float _ | .text _ => True
  | .int n => IsShort n
  | _ => False

/-- A value that JSON can hold, as itself or as a text. -/
inductive Value.HasForm : Value → Prop
  | scalar {s : Scalar} (h : s.HasForm) : HasForm (.scalar s)
  | list {xs : List Value} (h : ∀ x ∈ xs, HasForm x) : HasForm (.list xs)
  | tuple {xs : List Value} (h : ∀ x ∈ xs, HasForm x) : HasForm (.tuple xs)
  | set {ss : List Scalar} (h : (Value.set ss).isTooLong = false) : HasForm (.set ss)
  | map {es : Entries} (hnames : ∀ e ∈ es, e.1.IsName) (h : ∀ e ∈ es, HasForm e.2) :
    HasForm (.map es)

lemma Scalar.logged_of_hasForm {s : Scalar} (h : s.HasForm) :
    ∃ j, s.logged = .ok j ∧ j.Finite := by
  cases s with
  | int n => exact ⟨.int n, by rw [Scalar.logged, Json.intText_of_short h]; rfl, by simp⟩
  | float x => exact ⟨.float x, rfl, Json.all_float.mpr h⟩
  | null => exact ⟨.null, rfl, by simp⟩
  | bool b => exact ⟨.bool b, rfl, by simp⟩
  | _ => exact ⟨_, rfl, by simp⟩

lemma Scalar.loggedKey_of_isName {s : Scalar} (h : s.IsName) : ∃ name, s.loggedKey = .ok name := by
  cases s with
  | int n => exact ⟨signedText n, by rw [Scalar.loggedKey, Json.intText_of_short h]; rfl⟩
  | null | bool _ | float _ | text _ => exact ⟨_, rfl⟩
  | _ => exact h.elim

/-- What is written of a scalar is short, and finite only if the scalar has a form. -/
lemma Scalar.of_logged {s : Scalar} {j : Json} (h : s.logged = .ok j) :
    j.Short ∧ (j.Finite → s.HasForm) := by
  cases s with
  | int n =>
    rw [Scalar.logged] at h
    obtain ⟨t, ht, rfl⟩ := eq_of_map_eq_ok (eq_of_mapError_eq_ok h)
    have hn := (Json.of_intText ht).1
    exact ⟨Json.all_int.mpr hn, fun _ => hn⟩
  | float x =>
    cases h
    exact ⟨by simp, fun hfinite => Json.all_float.mp hfinite⟩
  | _ =>
    cases h
    exact ⟨by simp, fun _ => trivial⟩

lemma Scalar.isName_of_loggedKey {s : Scalar} {name : String} (h : s.loggedKey = .ok name) :
    s.IsName := by
  cases s with
  | int n =>
    rw [Scalar.loggedKey] at h
    exact (Json.of_intText (eq_of_mapError_eq_ok h)).1
  | null | bool _ | float _ | text _ => trivial
  | _ => cases h

namespace Value

lemma logged_set (ss : List Scalar) :
    (Value.set ss).logged = if (Value.set ss).isTooLong then .error (.print .tooManyDigits)
      else .ok (.string (Value.set ss).literal) := by
  rw [Value.logged, Value.written]
  split <;> rfl

mutual

/-- A value with a form is written, and all numbers in what is written are finite. -/
lemma logged_of_hasForm : (v : Value) → v.HasForm → ∃ j, v.logged = .ok j ∧ j.Finite
  | .scalar _ => fun (.scalar h) => Scalar.logged_of_hasForm h
  | .list xs => by
    rintro (_ | h)
    obtain ⟨js, hjs, hfinite⟩ := loggedItems_of_hasForm xs h
    exact ⟨.array js, by rw [Value.logged, hjs]; rfl, Json.all_array.mpr hfinite⟩
  | .tuple xs => by
    rintro (_ | _ | h)
    obtain ⟨js, hjs, hfinite⟩ := loggedItems_of_hasForm xs h
    exact ⟨.array js, by rw [Value.logged, hjs]; rfl, Json.all_array.mpr hfinite⟩
  | .set ss => by
    rintro (_ | _ | _ | h)
    exact ⟨_, by rw [logged_set, h]; rfl, by simp⟩
  | .map es => by
    rintro (_ | _ | _ | _ | ⟨hnames, h⟩)
    obtain ⟨ms, hms, hfinite⟩ := loggedMembers_of_hasForm es hnames h
    exact ⟨.object ms, by rw [Value.logged, hms]; rfl, Json.all_object.mpr hfinite⟩

lemma loggedItems_of_hasForm : (xs : List Value) → (∀ x ∈ xs, x.HasForm) →
    ∃ js, loggedItems xs = .ok js ∧ ∀ j ∈ js, j.Finite
  | [] => fun _ => ⟨[], rfl, nofun⟩
  | x :: xs => by
    intro h
    obtain ⟨hx, hxs⟩ := List.forall_mem_cons.mp h
    obtain ⟨j, hj, hfinite⟩ := logged_of_hasForm x hx
    obtain ⟨js, hjs, hrest⟩ := loggedItems_of_hasForm xs hxs
    exact ⟨j :: js, by rw [loggedItems, hj, hjs]; rfl, List.forall_mem_cons.mpr ⟨hfinite, hrest⟩⟩

lemma loggedMembers_of_hasForm : (es : List (Scalar × Value)) → (∀ e ∈ es, e.1.IsName) →
    (∀ e ∈ es, e.2.HasForm) → ∃ ms, loggedMembers es = .ok ms ∧ ∀ m ∈ ms, m.2.Finite
  | [] => fun _ _ => ⟨[], rfl, nofun⟩
  | (k, v) :: es => by
    intro hnames h
    obtain ⟨hk, hnames⟩ := List.forall_mem_cons.mp hnames
    obtain ⟨hv, hes⟩ := List.forall_mem_cons.mp h
    obtain ⟨name, hname⟩ := Scalar.loggedKey_of_isName hk
    obtain ⟨j, hj, hfinite⟩ := logged_of_hasForm v hv
    obtain ⟨ms, hms, hrest⟩ := loggedMembers_of_hasForm es hnames hes
    exact ⟨(name, j) :: ms, by rw [loggedMembers, hname, hj, hms]; rfl,
      List.forall_mem_cons.mpr ⟨hfinite, hrest⟩⟩

end

mutual

/-- What is written of a value is short, and finite only if the value has a form. -/
lemma of_logged : (v : Value) → ∀ j, v.logged = .ok j → j.Short ∧ (j.Finite → v.HasForm)
  | .scalar s => fun _ h => ⟨(Scalar.of_logged h).1, fun hj => .scalar ((Scalar.of_logged h).2 hj)⟩
  | .list xs => by
    intro j h
    obtain ⟨js, hjs, rfl⟩ := eq_of_map_eq_ok h
    obtain ⟨hshort, hform⟩ := of_loggedItems xs js hjs
    exact ⟨Json.all_array.mpr hshort, fun hj => .list (hform (Json.all_array.mp hj))⟩
  | .tuple xs => by
    intro j h
    obtain ⟨js, hjs, rfl⟩ := eq_of_map_eq_ok h
    obtain ⟨hshort, hform⟩ := of_loggedItems xs js hjs
    exact ⟨Json.all_array.mpr hshort, fun hj => .tuple (hform (Json.all_array.mp hj))⟩
  | .set ss => by
    intro j h
    rw [logged_set] at h
    obtain ⟨hlong, h⟩ := of_ite_eq_ok h nofun
    cases h
    exact ⟨by simp, fun _ => .set (by simpa using hlong)⟩
  | .map es => by
    intro j h
    obtain ⟨ms, hms, rfl⟩ := eq_of_map_eq_ok h
    obtain ⟨hnames, hshort, hform⟩ := of_loggedMembers es ms hms
    exact ⟨Json.all_object.mpr hshort, fun hj => .map hnames (hform (Json.all_object.mp hj))⟩

lemma of_loggedItems : (xs : List Value) → ∀ js, loggedItems xs = .ok js →
    (∀ j ∈ js, j.Short) ∧ ((∀ j ∈ js, j.Finite) → ∀ x ∈ xs, x.HasForm)
  | [] => by
    rintro js ⟨⟩
    exact ⟨List.forall_mem_nil _, fun _ => List.forall_mem_nil _⟩
  | x :: xs => by
    intro js h
    obtain ⟨j, hj, h⟩ := exists_of_bind_eq_ok h
    obtain ⟨js, hjs, h⟩ := exists_of_bind_eq_ok h
    cases h
    obtain ⟨hshort, hform⟩ := of_logged x j hj
    obtain ⟨hshorts, hforms⟩ := of_loggedItems xs js hjs
    refine ⟨List.forall_mem_cons.mpr ⟨hshort, hshorts⟩, fun hfinite => ?_⟩
    obtain ⟨hj, hjs⟩ := List.forall_mem_cons.mp hfinite
    exact List.forall_mem_cons.mpr ⟨hform hj, hforms hjs⟩

lemma of_loggedMembers : (es : List (Scalar × Value)) → ∀ ms, loggedMembers es = .ok ms →
    (∀ e ∈ es, e.1.IsName) ∧ (∀ m ∈ ms, m.2.Short) ∧
      ((∀ m ∈ ms, m.2.Finite) → ∀ e ∈ es, e.2.HasForm)
  | [] => by
    rintro ms ⟨⟩
    exact ⟨List.forall_mem_nil _, List.forall_mem_nil _, fun _ => List.forall_mem_nil _⟩
  | (k, v) :: es => by
    intro ms h
    obtain ⟨name, hname, h⟩ := exists_of_bind_eq_ok h
    obtain ⟨j, hj, h⟩ := exists_of_bind_eq_ok h
    obtain ⟨ms, hms, h⟩ := exists_of_bind_eq_ok h
    cases h
    obtain ⟨hshort, hform⟩ := of_logged v j hj
    obtain ⟨hnames, hshorts, hforms⟩ := of_loggedMembers es ms hms
    refine ⟨List.forall_mem_cons.mpr ⟨Scalar.isName_of_loggedKey hname, hnames⟩,
      List.forall_mem_cons.mpr ⟨hshort, hshorts⟩, fun hfinite => ?_⟩
    obtain ⟨hj, hms⟩ := List.forall_mem_cons.mp hfinite
    exact List.forall_mem_cons.mpr ⟨hform hj, hforms hms⟩

end

end Value

end MetricsAgent
