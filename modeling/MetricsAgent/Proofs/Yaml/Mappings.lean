import MetricsAgent.Proofs.Results
import MetricsAgent.Proofs.Settings.Paths
import MetricsAgent.Yaml.Construct

/-!
# Mappings in documents

A document may write a key of a mapping more than once; in the value that it denotes no mapping has a
key twice, at any level (`Yaml.distinct_of_read`).
-/

namespace MetricsAgent
namespace Yaml

lemma Levelled.exists_of_mem_all {α : Type} {rs : List (Levelled α)} {xs : List α} {x : α}
    (hall : Levelled.all rs = .ok xs) (hx : x ∈ xs) : .ok x ∈ rs := by
  induction rs generalizing xs with
  | nil =>
    cases hall
    cases hx
  | cons r rs ih =>
    unfold Levelled.all at hall
    rcases r with e | y <;> rcases hrest : Levelled.all rs with f | ys <;> rw [hrest] at hall <;>
      simp only [Levelled.both, Except.map] at hall <;> cases hall
    rcases List.mem_cons.mp hx with rfl | hx
    · exact List.mem_cons_self
    · exact List.mem_cons_of_mem _ (ih hrest hx)

lemma Levelled.both_eq_ok {α β : Type} {a : Levelled α} {b : Levelled β} {x : α} {y : β}
    (h : Levelled.both a b = .ok (x, y)) : a = .ok x ∧ b = .ok y := by
  rcases a with e | a <;> rcases b with f | b <;> simp only [Levelled.both] at h <;> cases h
  exact ⟨rfl, rfl⟩

lemma Levelled.eq_ok_of_at {α : Type} {level : ℕ} {x : Except Error α} {a : α}
    (h : Levelled.at_ level x = .ok a) : x = .ok a := by
  cases x with
  | error e => cases h
  | ok b =>
    cases h
    rfl

/-- No mapping in a document has a key twice. -/
lemma distinct_of_construct {fuel level : ℕ} {n : Node} {v : Value}
    (h : construct fuel level n = .ok v) : v.Distinct := by
  suffices hmap : ∀ es, v = .map es → Entries.Distinct es by
    cases v with
    | map es => exact hmap es rfl
    | _ => trivial
  rintro es rfl
  induction fuel generalizing level n es with
  | zero => cases h
  | succ fuel ih =>
    unfold construct at h
    dsimp only at h
    split at h
    · obtain ⟨s, -, hs⟩ := eq_of_map_eq_ok (Levelled.eq_ok_of_at h)
      cases hs
    · split at h
      · obtain ⟨xs, -, hxs⟩ := eq_of_map_eq_ok h
        cases hxs
      · cases Levelled.eq_ok_of_at h
    · obtain ⟨entries, hentries, hmap⟩ := eq_of_map_eq_ok h
      cases hmap
      split at hentries
      · split at hentries
        · cases hentries
        · obtain ⟨pairs, hpairs, rfl⟩ := eq_of_map_eq_ok hentries
          refine Entries.distinct_ofList fun e he => ?_
          obtain ⟨⟨k, x⟩, -, hboth⟩ := List.mem_map.mp (Levelled.exists_of_mem_all hpairs he)
          have hvalue := (Levelled.both_eq_ok hboth).2
          cases hx : e.2 with
          | map inner => exact ih inner (hx ▸ hvalue)
          | _ => trivial
      · cases Levelled.eq_ok_of_at hentries
    · obtain ⟨entries, -, hset⟩ := eq_of_map_eq_ok h
      cases hset
    · split at h
      · obtain ⟨xs, -, hxs⟩ := eq_of_map_eq_ok h
        cases hxs
      · cases Levelled.eq_ok_of_at h
    · cases Levelled.eq_ok_of_at h

/-- The mapping that a document writes has no key twice, at any level. -/
lemma distinct_of_read {text : List Char} {es : Entries} (h : read text = .ok (.map es)) :
    es.Distinct := by
  unfold read at h
  cases hroot : Node.ofText text with
  | error e =>
    rw [hroot] at h
    cases h
  | ok root =>
    rw [hroot] at h
    cases root with
    | none => cases h
    | some root =>
      dsimp only [bind, Except.bind] at h
      cases hv : construct (root.height + 1) 0 root with
      | error e =>
        rw [hv] at h
        cases h
      | ok v =>
        rw [hv] at h
        cases h
        exact Value.distinct_map.mp (distinct_of_construct hv)

end Yaml
end MetricsAgent
