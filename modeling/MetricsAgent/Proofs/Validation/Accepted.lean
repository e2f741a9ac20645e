import Mathlib.Tactic.Common
import MetricsAgent.Validation.Record

/-!
# Accepted values

A value that was accepted was accepted in each of its parts, and has passed every test on the way.
`Read.Ensures` is what a reader makes sure of, whatever it is given: it is kept by bounds, fields
and records, so what is known of a record is read off the readers it is made of.  A default is not
read, so what a field makes sure of has to be shown of its default apart.
-/

namespace MetricsAgent

/-! ## Accepted values -/

namespace Checked

variable {α β : Type}

@[simp] lemma map_valid (f : α → β) (a : α) : f <$> Checked.valid a = .valid (f a) := rfl

@[simp] lemma seq_valid (f : α → β) (a : α) :
    Checked.valid f <*> Checked.valid a = .valid (f a) := rfl

@[simp] lemma within_valid (s : Segment) (a : α) : (Checked.valid a).within s = .valid a := rfl

lemma eq_of_map_eq_valid {f : α → β} {x : Checked α} {b : β} (h : x.map f = .valid b) :
    ∃ a, x = .valid a ∧ f a = b := by
  cases x with
  | invalid i is => cases h
  | valid a =>
    cases h
    exact ⟨a, rfl, rfl⟩

lemma eq_of_seq_eq_valid {f : Checked (α → β)} {x : Checked α} {b : β} (h : f <*> x = .valid b) :
    ∃ g a, f = .valid g ∧ x = .valid a ∧ g a = b := by
  cases f with
  | invalid i is => cases x <;> cases h
  | valid g =>
    cases x with
    | invalid i is => cases h
    | valid a =>
      cases h
      exact ⟨g, a, rfl, rfl, rfl⟩

/-- What holds of an accepted record is shown for its fields, the last one first. -/
@[elab_as_elim]
lemma seq_elim {f : Checked (α → β)} {x : Checked α} {b : β} {motive : β → Prop}
    (h : f <*> x = .valid b) (hfields : ∀ g a, f = .valid g → x = .valid a → motive (g a)) :
    motive b := by
  obtain ⟨g, a, hf, hx, rfl⟩ := eq_of_seq_eq_valid h
  exact hfields g a hf hx

@[elab_as_elim]
lemma map_elim {f : α → β} {x : Checked α} {b : β} {motive : β → Prop}
    (h : f <$> x = .valid b) (hfields : ∀ a, x = .valid a → motive (f a)) : motive b := by
  obtain ⟨a, hx, rfl⟩ := eq_of_map_eq_valid h
  exact hfields a hx

lemma eq_of_within_eq_valid {s : Segment} {x : Checked α} {a : α} (h : x.within s = .valid a) :
    x = .valid a := by
  cases x with
  | invalid i is => cases h
  | valid b =>
    cases h
    rfl

lemma eq_of_withIssues_eq_valid {x : Checked α} {more : List Issue} {a : α}
    (h : x.withIssues more = .valid a) : x = .valid a := by
  cases x with
  | invalid i is => cases h
  | valid b =>
    cases more with
    | nil => exact h
    | cons j js => cases h

lemma eq_of_andThen_eq_valid {x : Checked α} {f : α → Checked β} {b : β}
    (h : x.andThen f = .valid b) : ∃ a, x = .valid a ∧ f a = .valid b := by
  cases x with
  | invalid i is => cases h
  | valid a => exact ⟨a, rfl, h⟩

end Checked

/-! ## What readers make sure of -/

namespace Read

variable {α : Type}

/-- Whatever a reader accepts has a property. -/
def Ensures (read : Value → Checked α) (P : α → Prop) : Prop :=
  ∀ v a, read v = .valid a → P a

lemma ensures_refine (read : Value → Checked α) (test : α → Option String) :
    Ensures (fun v => refine test (read v)) fun a => test a = none := by
  intro v a h
  obtain ⟨b, -, h⟩ := Checked.eq_of_andThen_eq_valid h
  split at h
  · next htest =>
    cases h
    exact htest
  · cases h

/-- A number that was accepted within bounds is the number that was read, and violates none. -/
lemma eq_of_within_eq_valid {bounds : List Bound} {x y : Number} (h : within bounds x = .valid y) :
    y = x ∧ ∀ b ∈ bounds, b.violatedBy x = false := by
  unfold within at h
  split at h
  · cases h
  · next hnone =>
    cases h
    exact ⟨rfl, by simpa using hnone⟩

lemma within_of_forall {bounds : List Bound} {x : Number}
    (h : ∀ b ∈ bounds, b.violatedBy x = false) : within bounds x = .valid x := by
  have hnone : bounds.find? (·.violatedBy x) = none := by simpa using h
  unfold within
  rw [hnone]

lemma ensures_boundedInteger (bounds : List Bound) :
    Ensures (boundedInteger bounds) fun n => ∀ b ∈ bounds, b.violatedBy (.int n) = false := by
  intro v n h
  obtain ⟨m, -, h⟩ := Checked.eq_of_andThen_eq_valid h
  obtain ⟨x, hx, rfl⟩ := Checked.eq_of_map_eq_valid h
  exact (eq_of_within_eq_valid hx).2

lemma ensures_boundedNumber (bounds : List Bound) :
    Ensures (boundedNumber bounds) fun x =>
      (∃ y, x = .float y) ∧ ∀ b ∈ bounds, b.violatedBy x = false := by
  intro v x h
  obtain ⟨y, -, h⟩ := Checked.eq_of_andThen_eq_valid h
  obtain ⟨rfl, hbounds⟩ := eq_of_within_eq_valid h
  exact ⟨⟨y, rfl⟩, hbounds⟩

lemma ensures_nullable {read : Value → Checked α} {P : α → Prop} (hread : Ensures read P) :
    Ensures (nullable read) fun x => ∀ a ∈ x, P a := by
  intro v x h
  unfold nullable at h
  split at h
  · cases h
    exact nofun
  · obtain ⟨a, ha, rfl⟩ := Checked.eq_of_map_eq_valid h
    rintro b ⟨⟩
    exact hread _ a ha

/-- A record that was accepted is a mapping whose fields were accepted. -/
lemma eq_of_closedRecord_eq_valid {title : String} {fields : List Field}
    {read : Entries → Checked α} {v : Value} {a : α}
    (h : closedRecord title fields read v = .valid a) : ∃ es, v = .map es ∧ read es = .valid a := by
  cases v with
  | map es => exact ⟨es, rfl, Checked.eq_of_withIssues_eq_valid h⟩
  | _ => cases h

/-! ## Fields -/

section Fields

variable {f : Field} {es : Entries} {read : Value → Checked α} {P : α → Prop} {a : α}

/-- A field that is known under one name only. -/
lemma find?_of_wire (wire : String) (es : Entries) :
    Field.find? ⟨wire, none⟩ es = (es.field? wire).map fun v => (wire, v) := by
  unfold Field.find?
  cases es.field? wire <;> rfl

lemma required_eq {v : Value} (h : es.field? f.wire = some v) :
    f.required es read = (read v).within (.name f.wire) := by
  simp [Field.required, Field.find?, h]

lemma optional_eq {v : Value} (default : α) (h : es.field? f.wire = some v) :
    f.optional es default read = (read v).within (.name f.wire) := by
  simp [Field.optional, Field.find?, h]

lemma optional_eq_default {default : α} (h : es.field? f.wire = none)
    (halternative : ∀ n ∈ f.alternative, es.field? n = none) :
    f.optional es default read = .valid default := by
  have hnone : f.find? es = none := by
    unfold Field.find?
    rw [h]
    cases hf : f.alternative with
    | none => rfl
    | some n =>
      show ((es.field? n).bind fun v => some (n, v)) = none
      rw [halternative n hf]
      rfl
  rw [Field.optional, hnone]

lemma exists_of_required (h : f.required es read = .valid a) :
    ∃ name v, f.find? es = some (name, v) ∧ read v = .valid a := by
  unfold Field.required at h
  split at h
  · next name v hfind => exact ⟨name, v, hfind, Checked.eq_of_within_eq_valid h⟩
  · cases h

/-- A field that may be missing is read, or it is missing and has its default. -/
lemma optional_cases {default : α} (h : f.optional es default read = .valid a) :
    (∃ name v, f.find? es = some (name, v) ∧ read v = .valid a) ∨
      f.find? es = none ∧ a = default := by
  unfold Field.optional at h
  split at h
  · next name v hfind => exact .inl ⟨name, v, hfind, Checked.eq_of_within_eq_valid h⟩
  · next hfind =>
    cases h
    exact .inr ⟨hfind, rfl⟩

lemma ensures_required (hread : Ensures read P) (h : f.required es read = .valid a) : P a := by
  obtain ⟨_, v, -, hv⟩ := exists_of_required h
  exact hread v a hv

lemma ensures_optional (hread : Ensures read P) {default : α} (hdefault : P default)
    (h : f.optional es default read = .valid a) : P a := by
  rcases optional_cases h with ⟨_, v, -, hv⟩ | ⟨-, rfl⟩
  · exact hread v a hv
  · exact hdefault

/-- A field that is there is read, whether or not it has a default. -/
lemma ensures_supplied (hread : Ensures read P) {default : α} (hfind : (f.find? es).isSome)
    (h : f.optional es default read = .valid a) : P a := by
  rcases optional_cases h with ⟨_, v, -, hv⟩ | ⟨hnone, -⟩
  · exact hread v a hv
  · rw [hnone] at hfind
    cases hfind

end Fields

end Read

end MetricsAgent
