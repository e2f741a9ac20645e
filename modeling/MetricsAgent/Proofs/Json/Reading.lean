import Mathlib.Data.List.TakeWhile
import Mathlib.Tactic.Common
import MetricsAgent.Proofs.Json.Grammar

/-!
# Every document is read

A text that writes a document by the grammar is read as this document (`parse_of_text`).  The
induction is over the grammar; what it carries is that a part is taken off the front of any text that
goes on in a way that the part cannot be mistaken to go on, with the length of the part as fuel.
-/

namespace MetricsAgent.Json

open CharClass

/-! ## Blanks -/

lemma skipSpace_append {ws cs : List Char} (h : Blank ws) :
    skipSpace (ws ++ cs) = skipSpace cs := by
  unfold skipSpace
  exact List.dropWhile_append_of_pos h

lemma skipSpace_cons {c : Char} {cs : List Char} (h : isSpace c = false) :
    skipSpace (c :: cs) = c :: cs := by
  unfold skipSpace
  rw [List.dropWhile_cons_of_neg (by simp [h])]

/-- Blanks before a value make no difference. -/
lemma value_append {ws cs : List Char} (h : Blank ws) (fuel : ℕ) :
    value fuel (ws ++ cs) = value fuel cs := by
  cases fuel with
  | zero => rw [value, value]
  | succ fuel => rw [value, value, skipSpace_append h]

/-! ## Strings -/

lemma hexUnit?_append {u : List Char} {n : ℕ} (h : hexUnit? u = some (n, [])) (cs : List Char) :
    hexUnit? (u ++ cs) = some (n, cs) := by
  unfold hexUnit? at h
  split at h
  · rename_i a b c d rest
    by_cases hall : [a, b, c, d].all isHexDigit = true
    · rw [if_pos hall] at h
      obtain ⟨rfl, rfl⟩ := Prod.mk.inj (Option.some.inj h)
      exact if_pos hall
    · rw [if_neg hall] at h
      cases h
  · cases h

/-- What follows the escape of a character above the surrogates is read as it stands. -/
lemma escape_ne_unit {e c : Char} (h : escapeChar? e = some c) : e ≠ 'u' := by
  rintro rfl
  cases h

/-- The rest of a string is read up to its closing mark. -/
lemma stringTail_append {s cs : List Char} (h : Chars s cs) {fuel : ℕ} (hfuel : cs.length < fuel)
    (rest : List Char) : stringTail fuel (cs ++ '"' :: rest) = some (s, rest) := by
  induction h generalizing fuel with
  | nil =>
    obtain ⟨fuel, rfl⟩ := Nat.exists_eq_add_one_of_ne_zero (Nat.ne_zero_of_lt hfuel)
    rfl
  | @plain c s cs hquote hescape hcontrol hrest ih =>
    obtain ⟨fuel, rfl⟩ := Nat.exists_eq_add_one_of_ne_zero (Nat.ne_zero_of_lt hfuel)
    have htail : stringTail fuel (cs ++ '"' :: rest) = some (s, rest) := ih (by simpa using hfuel)
    rw [List.cons_append, stringTail.eq_def]
    simp [hquote, hescape, Nat.not_lt.mpr hcontrol, htail]
  | @escape e c s cs h hrest ih =>
    obtain ⟨fuel, rfl⟩ := Nat.exists_eq_add_one_of_ne_zero (Nat.ne_zero_of_lt hfuel)
    have htail : stringTail fuel (cs ++ '"' :: rest) = some (s, rest) :=
      ih (by simp only [List.length_cons] at hfuel; omega)
    rw [List.cons_append, List.cons_append, stringTail.eq_def]
    simp [escape_ne_unit h, h, htail]
  | @unit u n s cs h hhigh hlow hrest ih =>
    obtain ⟨fuel, rfl⟩ := Nat.exists_eq_add_one_of_ne_zero (Nat.ne_zero_of_lt hfuel)
    have htail : stringTail fuel (cs ++ '"' :: rest) = some (s, rest) :=
      ih (by simp only [List.length_cons, List.length_append] at hfuel; omega)
    have hunit := hexUnit?_append h (cs ++ '"' :: rest)
    rw [List.append_assoc, List.cons_append, List.cons_append, stringTail.eq_def]
    unfold IsHighSurrogate at hhigh
    unfold IsLowSurrogate at hlow
    simp [hunit, hhigh, hlow, htail]
  | @pair u v high low s cs hu hv hhigh hlow hrest ih =>
    obtain ⟨fuel, rfl⟩ := Nat.exists_eq_add_one_of_ne_zero (Nat.ne_zero_of_lt hfuel)
    have htail : stringTail fuel (cs ++ '"' :: rest) = some (s, rest) :=
      ih (by simp only [List.length_cons, List.length_append] at hfuel; omega)
    have hfirst := hexUnit?_append hu ('\\' :: 'u' :: (v ++ (cs ++ '"' :: rest)))
    have hsecond := hexUnit?_append hv (cs ++ '"' :: rest)
    unfold IsHighSurrogate at hhigh
    unfold IsLowSurrogate at hlow
    rw [stringTail.eq_def]
    simp [hfirst, hsecond, hhigh, hlow, htail]

/-! ## Numbers -/

/-- What may follow a value. -/
def Ends (rest : List Char) : Prop :=
  ∀ c ∈ rest.head?, isSpace c = true ∨ c = ',' ∨ c = ']' ∨ c = '\x7d'

lemma digitSpan_append {ds rest : List Char} (hds : ∀ c ∈ ds, isAsciiDigit c = true)
    (hrest : ∀ c ∈ rest.head?, isAsciiDigit c = false) : digitSpan (ds ++ rest) = (ds, rest) := by
  have hnone : rest.takeWhile isAsciiDigit = [] ∧ rest.dropWhile isAsciiDigit = rest := by
    cases rest with
    | nil => exact ⟨rfl, rfl⟩
    | cons c rest =>
      have hc : isAsciiDigit c = false := hrest c rfl
      simp [hc]
  unfold digitSpan
  rw [List.takeWhile_append_of_pos hds, List.dropWhile_append_of_pos hds, hnone.1, hnone.2,
    List.append_nil]

section Follow

variable {c : Char} {rest : List Char}

lemma Ends.isAsciiDigit (h : Ends rest) : ∀ c ∈ rest.head?, isAsciiDigit c = false := by
  intro c hc
  rcases h c hc with hspace | rfl | rfl | rfl
  · unfold isSpace at hspace
    simp only [Bool.or_eq_true, beq_iff_eq] at hspace
    rcases hspace with ((rfl | rfl) | rfl) | rfl <;> rfl
  all_goals rfl

lemma Ends.ne (h : Ends rest) {d : Char} (hspace : isSpace d = false)
    (hd : d ≠ ',' ∧ d ≠ ']' ∧ d ≠ '\x7d') : ∀ c ∈ rest.head?, c ≠ d := by
  rintro c hc rfl
  rcases h c hc with h | h | h | h
  · rw [hspace] at h
    cases h
  · exact hd.1 h
  · exact hd.2.1 h
  · exact hd.2.2 h

end Follow

lemma fractionPart_append {part : Option (List Char)} {ps rest : List Char} (h : Fraction part ps)
    (hdigit : ∀ c ∈ rest.head?, isAsciiDigit c = false) (hpoint : ∀ c ∈ rest.head?, c ≠ '.') :
    fractionPart (ps ++ rest) = (part, rest) := by
  cases h with
  | absent =>
    unfold fractionPart
    split
    · rename_i heq
      exact absurd rfl (hpoint '.' (by rw [← List.nil_append rest, heq]; rfl))
    · rfl
  | @present ds h =>
    unfold fractionPart
    simp only [List.cons_append, digitSpan_append h.digit hdigit]
    split
    · rename_i heq
      exact absurd (Prod.mk.inj heq).1 h.ne_nil
    · rename_i heq
      obtain ⟨rfl, rfl⟩ := Prod.mk.inj heq
      rfl

/-- The digits at the start are taken, and there is one at least. -/
lemma Digits.span {ds rest : List Char} (h : Digits ds)
    (hrest : ∀ c ∈ rest.head?, isAsciiDigit c = false) :
    ∃ d ds', ds = d :: ds' ∧ isAsciiDigit d = true ∧
      digitSpan (d :: (ds' ++ rest)) = (d :: ds', rest) := by
  obtain ⟨d, ds', rfl⟩ := List.exists_cons_of_ne_nil h.ne_nil
  exact ⟨d, ds', rfl, h.digit d List.mem_cons_self, digitSpan_append h.digit hrest⟩

lemma exponentPart_append {k : Option ℤ} {es rest : List Char} (h : Exponent k es)
    (hrest : Ends rest) : exponentPart (es ++ rest) = (k, rest) := by
  have hdigit := hrest.isAsciiDigit
  cases h with
  | absent =>
    unfold exponentPart
    cases rest with
    | nil => rfl
    | cons c rest =>
      have hlower : c ≠ 'e' := hrest.ne rfl (by decide) c rfl
      have hupper : c ≠ 'E' := hrest.ne rfl (by decide) c rfl
      simp [hlower, hupper]
  | unsigned hmark h =>
    obtain ⟨d, ds', rfl, hd, hspan⟩ := h.span hdigit
    have hminus : d ≠ '-' := by
      rintro rfl
      cases hd
    have hplus : d ≠ '+' := by
      rintro rfl
      cases hd
    unfold exponentPart
    rcases hmark with rfl | rfl <;> simp [hminus, hplus, hspan]
  | plus hmark h =>
    obtain ⟨d, ds', rfl, -, hspan⟩ := h.span hdigit
    unfold exponentPart
    rcases hmark with rfl | rfl <;> simp [hspan]
  | minus hmark h =>
    obtain ⟨d, ds', rfl, -, hspan⟩ := h.span hdigit
    unfold exponentPart
    rcases hmark with rfl | rfl <;> simp [hspan]

/-- An exponent begins with its mark. -/
lemma Exponent.head {k : Option ℤ} {es rest : List Char} (h : Exponent k es) (hrest : Ends rest) :
    ∀ c ∈ (es ++ rest).head?, isAsciiDigit c = false ∧ c ≠ '.' := by
  intro c hc
  have hletter {mark : Char} (hmark : mark = 'e' ∨ mark = 'E') (hc : c = mark) :
      isAsciiDigit c = false ∧ c ≠ '.' := by
    rcases hmark with rfl | rfl <;> subst hc <;> decide
  cases h with
  | absent => exact ⟨hrest.isAsciiDigit c hc, hrest.ne rfl (by decide) c hc⟩
  | unsigned hmark => exact hletter hmark (Option.some.inj hc).symm
  | plus hmark => exact hletter hmark (Option.some.inj hc).symm
  | minus hmark => exact hletter hmark (Option.some.inj hc).symm

/-- A fraction begins with its point. -/
lemma Fraction.head {part : Option (List Char)} {ps rest : List Char} (h : Fraction part ps)
    (hrest : ∀ c ∈ rest.head?, isAsciiDigit c = false) :
    ∀ c ∈ (ps ++ rest).head?, isAsciiDigit c = false := by
  intro c hc
  cases h with
  | absent => exact hrest c hc
  | present =>
    rw [← Option.some.inj hc]
    rfl

section Number

variable {ds ps es rest : List Char} {part : Option (List Char)} {k : Option ℤ}

/-- The digits before the point are taken, and go on to the fraction. -/
lemma unsignedNumber_eq (negative : Bool) (h : Whole ds)
    (hrest : ∀ c ∈ rest.head?, isAsciiDigit c = false) :
    unsignedNumber negative (ds ++ rest) =
      match (fractionPart rest).1, (exponentPart (fractionPart rest).2).1 with
      | none, none =>
        some (.int (if negative then -(digitsValue ds : ℤ) else digitsValue ds),
          (exponentPart (fractionPart rest).2).2)
      | part, exponent =>
        some (.float (Decimal.toBinary64 negative (digitsValue (ds ++ part.getD []))
          (exponent.getD 0 - (part.getD []).length)), (exponentPart (fractionPart rest).2).2) := by
  unfold unsignedNumber
  rw [digitSpan_append h.digit hrest]
  split
  · rename_i heq
    exact absurd (Prod.mk.inj heq).1 h.ne_nil
  · rename_i heq
    exact absurd (h.leading _ (Prod.mk.inj heq).1) (by simp)
  · rename_i heq
    obtain ⟨rfl, rfl⟩ := Prod.mk.inj heq
    rfl

lemma unsignedNumber_int (negative : Bool) (h : Whole ds) (hrest : Ends rest) :
    unsignedNumber negative (ds ++ rest)
      = some (.int (if negative then -(digitsValue ds : ℤ) else digitsValue ds), rest) := by
  have hfraction : fractionPart rest = (none, rest) :=
    fractionPart_append .absent hrest.isAsciiDigit (hrest.ne rfl (by decide))
  have hexponent : exponentPart rest = (none, rest) := exponentPart_append .absent hrest
  rw [unsignedNumber_eq negative h hrest.isAsciiDigit, hfraction, hexponent]

lemma unsignedNumber_float (negative : Bool) (h : Whole ds) (hpart : Fraction part ps)
    (hexponent : Exponent k es) (hany : part.isSome ∨ k.isSome) (hrest : Ends rest) :
    unsignedNumber negative (ds ++ ps ++ es ++ rest)
      = some (.float (Decimal.toBinary64 negative (digitsValue (ds ++ part.getD []))
        (k.getD 0 - (part.getD []).length)), rest) := by
  have hhead := hexponent.head hrest
  have hdigit : ∀ c ∈ (es ++ rest).head?, isAsciiDigit c = false := fun c hc => (hhead c hc).1
  have hfraction : fractionPart (ps ++ (es ++ rest)) = (part, es ++ rest) :=
    fractionPart_append hpart hdigit fun c hc => (hhead c hc).2
  rw [List.append_assoc, List.append_assoc, unsignedNumber_eq negative h (hpart.head hdigit),
    hfraction, exponentPart_append hexponent hrest]
  rcases part with _ | part <;> rcases k with _ | k
  · simp at hany
  all_goals rfl

end Number

/-! ## Values -/

lemma isSpace_of_isAsciiDigit {d : Char} (hd : isAsciiDigit d = true) : isSpace d = false := by
  by_contra hspace
  unfold isSpace at hspace
  simp only [Bool.not_eq_false, Bool.or_eq_true, beq_iff_eq] at hspace
  rcases hspace with ((rfl | rfl) | rfl) | rfl <;> cases hd

/-- What begins with a digit is a number. -/
lemma value_digit {d : Char} (hd : isAsciiDigit d = true) (fuel : ℕ) (cs : List Char) :
    value (fuel + 1) (d :: cs) = unsignedNumber false (d :: cs) := by
  rw [value, skipSpace_cons (isSpace_of_isAsciiDigit hd)]
  split
  all_goals first
    | rfl
    | (rename_i heq; cases heq <;> cases hd)

/-- What begins with a minus and a digit is a number. -/
lemma value_minus {d : Char} (hd : isAsciiDigit d = true) (fuel : ℕ) (cs : List Char) :
    value (fuel + 1) ('-' :: d :: cs) = unsignedNumber true (d :: cs) := by
  have hword : word? "Infinity".toList (d :: cs) = none := by
    have hne : 'I' ≠ d := by
      rintro rfl
      cases hd
    unfold word?
    rw [if_neg]
    simp [List.isPrefixOf, hne]
  rw [value, skipSpace_cons rfl]
  simp only [hword]

lemma value_number {j : Json} {cs rest : List Char} (h : NumberText j cs) (hrest : Ends rest)
    (fuel : ℕ) : value (fuel + 1) (cs ++ rest) = some (j, rest) := by
  have hsigned (negative : Bool) {ds cs : List Char} (h : Whole ds) :
      value (fuel + 1) (minus negative ++ (ds ++ cs)) = unsignedNumber negative (ds ++ cs) := by
    obtain ⟨d, ds', rfl⟩ := List.exists_cons_of_ne_nil h.ne_nil
    have hd := h.digit d List.mem_cons_self
    cases negative
    · exact value_digit hd fuel _
    · exact value_minus hd fuel _
  cases h with
  | int negative h =>
    rw [List.append_assoc, hsigned negative h, unsignedNumber_int negative h hrest]
  | float negative h hpart hexponent hany =>
    rw [List.append_assoc, List.append_assoc, List.append_assoc, hsigned negative h,
      ← List.append_assoc, ← List.append_assoc,
      unsignedNumber_float negative h hpart hexponent hany hrest]

/-! ## Documents -/

/-- What a value begins with: no blank, and nothing that closes an array or an object. -/
def Begins (cs : List Char) : Prop :=
  ∃ c cs', cs = c :: cs' ∧ isSpace c = false ∧ c ≠ ']' ∧ c ≠ '\x7d'

lemma Begins.append {cs : List Char} (h : Begins cs) (ds : List Char) : Begins (cs ++ ds) := by
  obtain ⟨c, cs', rfl, hc⟩ := h
  exact ⟨c, cs' ++ ds, rfl, hc⟩

lemma begins_number {j : Json} {cs : List Char} (h : NumberText j cs) : Begins cs := by
  have hsigned (negative : Bool) {ds : List Char} (cs : List Char) (h : Whole ds) :
      Begins (minus negative ++ (ds ++ cs)) := by
    obtain ⟨d, ds', rfl⟩ := List.exists_cons_of_ne_nil h.ne_nil
    have hd := h.digit d List.mem_cons_self
    cases negative
    · refine ⟨d, ds' ++ cs, rfl, isSpace_of_isAsciiDigit hd, ?_, ?_⟩ <;> rintro rfl <;> cases hd
    · exact ⟨'-', d :: ds' ++ cs, rfl, rfl, by decide, by decide⟩
  cases h with
  | int negative h => simpa using hsigned negative [] h
  | float negative h => simpa using hsigned negative _ h

lemma Begins.skipSpace {cs : List Char} (h : Begins cs) : skipSpace cs = cs := by
  obtain ⟨c, cs', rfl, hspace, -⟩ := h
  exact skipSpace_cons hspace

lemma ends_cons {c : Char} (h : c = ',' ∨ c = ']' ∨ c = '\x7d') (rest : List Char) :
    Ends (c :: rest) := by
  intro d hd
  rw [← Option.some.inj hd]
  exact .inr h

lemma ends_append {ws rest : List Char} (hws : Blank ws) (hrest : Ends rest) :
    Ends (ws ++ rest) := by
  cases ws with
  | nil => exact hrest
  | cons c ws =>
    intro d hd
    rw [← Option.some.inj hd]
    exact .inl (hws c List.mem_cons_self)

lemma skipSpace_append_of_begins {cs : List Char} (h : Begins (skipSpace cs)) (ds : List Char) :
    skipSpace (cs ++ ds) = skipSpace cs ++ ds := by
  obtain ⟨c, cs', hcs, -⟩ := h
  unfold skipSpace at hcs ⊢
  rw [List.dropWhile_append, hcs]
  rfl

section Bracket

variable {cs : List Char} (fuel : ℕ) (rest : List Char)

lemma value_string {s : List Char} (h : Chars s cs) :
    value (fuel + 1) ('"' :: (cs ++ '"' :: rest)) = some (.string (String.ofList s), rest) := by
  have htail : stringTail ((cs ++ '"' :: rest).length + 1) (cs ++ '"' :: rest) = some (s, rest) :=
    stringTail_append h (by simp only [List.length_append]; omega) rest
  rw [value, skipSpace_cons rfl]
  simp only [htail, Option.map_some]

lemma value_emptyArray (h : Blank cs) :
    value (fuel + 1) ('[' :: (cs ++ ']' :: rest)) = some (.array [], rest) := by
  rw [value, skipSpace_cons rfl]
  simp only [skipSpace_append h, skipSpace_cons (c := ']') rfl]

lemma value_emptyObject (h : Blank cs) :
    value (fuel + 1) ('\x7b' :: (cs ++ '\x7d' :: rest)) = some (.object [], rest) := by
  rw [value, skipSpace_cons rfl]
  simp only [skipSpace_append h, skipSpace_cons (c := '\x7d') rfl]

lemma value_array (h : Begins (skipSpace cs)) :
    value (fuel + 1) ('[' :: (cs ++ ']' :: rest))
      = (items fuel (cs ++ ']' :: rest)).map fun x => (.array x.1, x.2) := by
  obtain ⟨c, cs', hcs, -, hclosing, -⟩ := id h
  rw [value, skipSpace_cons rfl]
  simp only [skipSpace_append_of_begins h, hcs, List.cons_append]
  split
  · rename_i heq
    exact absurd (List.cons.inj heq).1 hclosing
  · rfl

lemma value_object (h : Begins (skipSpace cs)) :
    value (fuel + 1) ('\x7b' :: (cs ++ '\x7d' :: rest))
      = (members fuel (cs ++ '\x7d' :: rest)).map fun x => (.object x.1, x.2) := by
  obtain ⟨c, cs', hcs, -, -, hclosing⟩ := id h
  rw [value, skipSpace_cons rfl]
  simp only [skipSpace_append_of_begins h, hcs, List.cons_append]
  split
  · rename_i heq
    exact absurd (List.cons.inj heq).1 hclosing
  · rfl

variable {fuel rest} {ws ws' more : List Char} {j : Json}

lemma items_last (hws : Blank ws) (h : value fuel cs = some (j, ws ++ ']' :: rest)) :
    items (fuel + 1) cs = some ([j], rest) := by
  rw [items, h]
  simp [skipSpace_append hws, skipSpace_cons (c := ']') rfl]

lemma items_more {js : List Json} (hws : Blank ws)
    (h : value fuel cs = some (j, ws ++ ',' :: more)) (hmore : items fuel more = some (js, rest)) :
    items (fuel + 1) cs = some (j :: js, rest) := by
  rw [items, h]
  simp [skipSpace_append hws, skipSpace_cons (c := ',') rfl, hmore]

section Member

variable {k ks ws'' : List Char} (hws : Blank ws) (hname : Chars k ks) (hws' : Blank ws')
  (hws'' : Blank ws'')

include hws hname hws' hws''

lemma members_last (h : value fuel cs = some (j, ws'' ++ '\x7d' :: rest)) :
    members (fuel + 1) (ws ++ '"' :: (ks ++ '"' :: (ws' ++ ':' :: cs)))
      = some ([(String.ofList k, j)], rest) := by
  have htail : stringTail ((ks ++ '"' :: (ws' ++ ':' :: cs)).length + 1)
      (ks ++ '"' :: (ws' ++ ':' :: cs)) = some (k, ws' ++ ':' :: cs) :=
    stringTail_append hname (by simp only [List.length_append]; omega) _
  rw [members, skipSpace_append hws, skipSpace_cons rfl]
  simp only [htail]
  simp [skipSpace_append hws', skipSpace_append hws'', skipSpace_cons (c := ':') rfl,
    skipSpace_cons (c := '\x7d') rfl, h]

lemma members_more {ms : List (String × Json)}
    (h : value fuel cs = some (j, ws'' ++ ',' :: more))
    (hmore : members fuel more = some (ms, rest)) :
    members (fuel + 1) (ws ++ '"' :: (ks ++ '"' :: (ws' ++ ':' :: cs)))
      = some ((String.ofList k, j) :: ms, rest) := by
  have htail : stringTail ((ks ++ '"' :: (ws' ++ ':' :: cs)).length + 1)
      (ks ++ '"' :: (ws' ++ ':' :: cs)) = some (k, ws' ++ ':' :: cs) :=
    stringTail_append hname (by simp only [List.length_append]; omega) _
  rw [members, skipSpace_append hws, skipSpace_cons rfl]
  simp only [htail]
  simp [skipSpace_append hws', skipSpace_append hws'', skipSpace_cons (c := ':') rfl,
    skipSpace_cons (c := ',') rfl, h, hmore]

end Member

end Bracket

/-- What is read of a text that writes a part: the part is taken off the front of any text that goes
on behind it. -/
def Reads : Part → List Char → Prop
  | .value j, cs => Begins cs ∧ ∀ fuel rest, cs.length < fuel → Ends rest →
      value fuel (cs ++ rest) = some (j, rest)
  | .element j, cs => Begins (skipSpace cs) ∧ ∀ fuel rest, cs.length < fuel → Ends rest →
      ∃ ws, Blank ws ∧ value fuel (cs ++ rest) = some (j, ws ++ rest)
  | .items js, cs => Begins (skipSpace cs) ∧ ∀ fuel rest, cs.length + 1 < fuel →
      items fuel (cs ++ ']' :: rest) = some (js, rest)
  | .members ms, cs => Begins (skipSpace cs) ∧ ∀ fuel rest, cs.length + 1 < fuel →
      members fuel (cs ++ '\x7d' :: rest) = some (ms, rest)

/-- Every part that the grammar writes is read. -/
lemma reads_of_writes {part : Part} {cs : List Char} (h : Writes part cs) : Reads part cs := by
  have hsucc {n fuel : ℕ} (h : n < fuel) : ∃ fuel', fuel = fuel' + 1 :=
    Nat.exists_eq_add_one_of_ne_zero (Nat.ne_zero_of_lt h)
  induction h with
  | null =>
    refine ⟨⟨'n', _, rfl, rfl, by decide, by decide⟩, fun fuel rest hfuel _ => ?_⟩
    obtain ⟨fuel, rfl⟩ := hsucc hfuel
    rfl
  | true =>
    refine ⟨⟨'t', _, rfl, rfl, by decide, by decide⟩, fun fuel rest hfuel _ => ?_⟩
    obtain ⟨fuel, rfl⟩ := hsucc hfuel
    rfl
  | false =>
    refine ⟨⟨'f', _, rfl, rfl, by decide, by decide⟩, fun fuel rest hfuel _ => ?_⟩
    obtain ⟨fuel, rfl⟩ := hsucc hfuel
    rfl
  | number h =>
    refine ⟨begins_number h, fun fuel rest hfuel hrest => ?_⟩
    obtain ⟨fuel, rfl⟩ := hsucc hfuel
    exact value_number h hrest fuel
  | string h =>
    refine ⟨⟨'"', _, rfl, rfl, by decide, by decide⟩, fun fuel rest hfuel _ => ?_⟩
    obtain ⟨fuel, rfl⟩ := hsucc hfuel
    simpa using value_string fuel rest h
  | emptyArray h =>
    refine ⟨⟨'[', _, rfl, rfl, by decide, by decide⟩, fun fuel rest hfuel _ => ?_⟩
    obtain ⟨fuel, rfl⟩ := hsucc hfuel
    simpa using value_emptyArray fuel rest h
  | @array js cs h ih =>
    refine ⟨⟨'[', _, rfl, rfl, by decide, by decide⟩, fun fuel rest hfuel _ => ?_⟩
    obtain ⟨fuel, rfl⟩ := hsucc hfuel
    have hitems := ih.2 fuel rest (by simp at hfuel; omega)
    simpa [hitems] using value_array fuel rest ih.1
  | emptyObject h =>
    refine ⟨⟨'\x7b', _, rfl, rfl, by decide, by decide⟩, fun fuel rest hfuel _ => ?_⟩
    obtain ⟨fuel, rfl⟩ := hsucc hfuel
    simpa using value_emptyObject fuel rest h
  | @object ms cs h ih =>
    refine ⟨⟨'\x7b', _, rfl, rfl, by decide, by decide⟩, fun fuel rest hfuel _ => ?_⟩
    obtain ⟨fuel, rfl⟩ := hsucc hfuel
    have hmembers := ih.2 fuel rest (by simp at hfuel; omega)
    simpa [hmembers] using value_object fuel rest ih.1
  | @element j ws cs ws' hbefore h hbehind ih =>
    refine ⟨?_, fun fuel rest hfuel hrest => ⟨ws', hbehind, ?_⟩⟩
    · rw [List.append_assoc, skipSpace_append hbefore, (ih.1.append ws').skipSpace]
      exact ih.1.append ws'
    · have hvalue := ih.2 fuel (ws' ++ rest) (by simp at hfuel; omega) (ends_append hbehind hrest)
      rwa [List.append_assoc, List.append_assoc, value_append hbefore]
  | @item j cs h ih =>
    refine ⟨ih.1, fun fuel rest hfuel => ?_⟩
    obtain ⟨fuel, rfl⟩ := hsucc hfuel
    obtain ⟨ws, hws, hvalue⟩ := ih.2 fuel (']' :: rest) (by omega) (ends_cons (by simp) rest)
    exact items_last hws hvalue
  | @items j js cs ds h hrest ih ihrest =>
    refine ⟨?_, fun fuel rest hfuel => ?_⟩
    · rw [skipSpace_append_of_begins ih.1]
      exact ih.1.append _
    · obtain ⟨fuel, rfl⟩ := hsucc hfuel
      simp only [List.length_append, List.length_cons] at hfuel
      obtain ⟨ws, hws, hvalue⟩ :=
        ih.2 fuel (',' :: (ds ++ ']' :: rest)) (by omega) (ends_cons (by simp) _)
      rw [List.append_assoc, List.cons_append]
      exact items_more hws hvalue (ihrest.2 fuel rest (by omega))
  | @member k j ws ks ws' cs hbefore hname hbehind h ih =>
    refine ⟨?_, fun fuel rest hfuel => ?_⟩
    · simp only [List.append_assoc, List.cons_append]
      rw [skipSpace_append hbefore, skipSpace_cons rfl]
      exact ⟨'"', _, rfl, rfl, by decide, by decide⟩
    · obtain ⟨fuel, rfl⟩ := hsucc hfuel
      simp only [List.length_append, List.length_cons] at hfuel
      obtain ⟨ws'', hws, hvalue⟩ :=
        ih.2 fuel ('\x7d' :: rest) (by omega) (ends_cons (by simp) rest)
      simpa using members_last hbefore hname hbehind hws hvalue
  | @members k j ms ws ks ws' cs ds hbefore hname hbehind h hrest ih ihrest =>
    refine ⟨?_, fun fuel rest hfuel => ?_⟩
    · simp only [List.append_assoc, List.cons_append]
      rw [skipSpace_append hbefore, skipSpace_cons rfl]
      exact ⟨'"', _, rfl, rfl, by decide, by decide⟩
    · obtain ⟨fuel, rfl⟩ := hsucc hfuel
      simp only [List.length_append, List.length_cons] at hfuel
      obtain ⟨ws'', hws, hvalue⟩ :=
        ih.2 fuel (',' :: (ds ++ '\x7d' :: rest)) (by omega) (ends_cons (by simp) _)
      have hmore := ihrest.2 fuel rest (by omega)
      simpa using members_more hbefore hname hbehind hws hvalue hmore

/-- A text that writes a document is read as this document. -/
theorem parse_of_text {j : Json} {s : String} (h : Text j s) : parse s = some j := by
  have hend : Ends [] := fun _ hc => absurd hc (by simp)
  obtain ⟨-, hread⟩ := reads_of_writes h
  obtain ⟨ws, hws, hvalue⟩ :=
    hread (s.length + 1) [] (Nat.lt_succ_of_le String.length_toList.le) hend
  have hblank : skipSpace ws = [] := by
    rw [← List.append_nil ws, skipSpace_append hws]
    rfl
  rw [List.append_nil, List.append_nil] at hvalue
  unfold parse
  rw [hvalue]
  simp [hblank]

end MetricsAgent.Json
