import Mathlib.Data.List.Nodup
import MetricsAgent.Json.Basic
import MetricsAgent.Proofs.Settings.Paths

/-!
# Documents as values

What a program gets when it takes a document apart: a mapping for an object, in which of members
under one name the last counts, and a list for an array.  Where each name stands once, looking up a
name in the mapping is looking it up in the object (`Json.field?_memberValues_cons`).
-/

namespace MetricsAgent

/-! ## Names that stand once -/

/-- A list of names and values in which each name stands once. -/
def Named {β : Type} (pairs : List (String × β)) : Prop :=
  (pairs.map (·.1)).Nodup

lemma named_nil {β : Type} : Named ([] : List (String × β)) :=
  List.nodup_nil

/-- A list whose keys are different is what entering its items one by one makes, where an item with a
new key goes to the end. -/
lemma foldl_eq_of_nodup {α β : Type} (f : α → β) {enter : List α → α → List α}
    (henter : ∀ acc a, f a ∉ acc.map f → enter acc a = acc ++ [a]) {l : List α}
    (hl : (l.map f).Nodup) : l.foldl enter [] = l := by
  suffices hfold : ∀ acc : List α, ((acc ++ l).map f).Nodup → l.foldl enter acc = acc ++ l from
    hfold [] hl
  clear hl
  induction l with
  | nil => exact fun acc _ => (List.append_nil acc).symm
  | cons a l ih =>
    intro acc hacc
    have hsplit : acc ++ a :: l = acc ++ [a] ++ l := by simp
    have hnew : f a ∉ acc.map f := by
      rw [List.map_append, List.map_cons, List.nodup_append] at hacc
      intro hmem
      exact hacc.2.2 _ hmem _ List.mem_cons_self rfl
    rw [List.foldl_cons, henter acc a hnew, hsplit]
    exact ih _ (hsplit ▸ hacc)

namespace Entries

lemma put_of_not_mem {es : Entries} {k : Scalar} (v : Value) (hk : k.keyForm ∉ es.keyForms) :
    es.put k v = es ++ [(k, v)] := by
  induction es with
  | nil => rfl
  | cons e es ih =>
    obtain ⟨k', v'⟩ := e
    rw [keyForms_cons, List.mem_cons, not_or] at hk
    have hne : ¬k'.sameKey k = true := by
      rw [Scalar.sameKey_iff]
      exact fun h => hk.1 h.symm
    rw [put, if_neg hne, ih hk.2]
    rfl

/-- A mapping from entries with different keys has these entries. -/
lemma ofList_of_nodup {es : Entries} (hes : es.keyForms.Nodup) : ofList es = es := by
  unfold keyForms keys at hes
  rw [List.map_map] at hes
  refine foldl_eq_of_nodup (fun e => e.1.keyForm) ?_ hes
  intro acc e hnew
  refine put_of_not_mem e.2 ?_
  unfold keyForms keys
  rw [List.map_map]
  exact hnew

end Entries

namespace Json

/-! ## Values -/

mutual

/-- The value that a document stands for. -/
def asValue : Json → Value
  | .null => .null
  | .bool b => .bool b
  | .int n => .int n
  | .float x => .float x
  | .string s => .text s
  | .array js => .list (itemValues js)
  | .object ms => .map (Entries.ofList (memberValues ms))

def itemValues : List Json → List Value
  | [] => []
  | j :: js => j.asValue :: itemValues js

/-- The members of an object as entries. -/
def memberValues : List (String × Json) → List (Scalar × Value)
  | [] => []
  | (k, j) :: ms => (.text k, j.asValue) :: memberValues ms

end

lemma keyForms_memberValues (ms : List (String × Json)) :
    Entries.keyForms (memberValues ms) = (ms.map (·.1)).map KeyForm.text := by
  induction ms with
  | nil => rfl
  | cons m ms ih =>
    obtain ⟨k, j⟩ := m
    rw [memberValues, Entries.keyForms_cons, ih]
    rfl

/-- An object in which each name stands once is a mapping of its members. -/
lemma asValue_object {ms : List (String × Json)} (hms : Named ms) :
    (object ms).asValue = .map (memberValues ms) := by
  have hnodup : (Entries.keyForms (memberValues ms)).Nodup := by
    rw [keyForms_memberValues]
    exact List.Nodup.map (fun _ _ => KeyForm.text.inj) hms
  rw [asValue, Entries.ofList_of_nodup hnodup]

/-! ## Names -/

@[simp] lemma field?_memberValues_nil (name : String) :
    Entries.field? (memberValues []) name = none := rfl

@[simp] lemma field?_memberValues_cons (k : String) (j : Json) (ms : List (String × Json))
    (name : String) : Entries.field? (memberValues ((k, j) :: ms)) name =
      if k = name then some j.asValue else Entries.field? (memberValues ms) name := by
  rw [memberValues, Entries.field?, Entries.get?_cons]
  simp [Scalar.sameKey_iff, Scalar.keyForm, Entries.field?]

lemma field?_memberValues_append (ms ms' : List (String × Json)) (name : String) :
    Entries.field? (memberValues (ms ++ ms')) name =
      (Entries.field? (memberValues ms) name).or (Entries.field? (memberValues ms') name) := by
  induction ms with
  | nil => rfl
  | cons m ms ih =>
    obtain ⟨k, j⟩ := m
    rw [List.cons_append, field?_memberValues_cons, field?_memberValues_cons, ih]
    split <;> rfl

end Json

end MetricsAgent
