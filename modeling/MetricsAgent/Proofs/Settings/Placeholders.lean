import Mathlib.Data.List.Forall2
import Mathlib.Data.List.TakeWhile
import MetricsAgent.Proofs.Settings.Expansion

/-!
# One pass over a text

What a text with placeholders in it is replaced by, said without the reader that finds them.  A text
is cut into placeholders and the characters between them so that no placeholder begins at a character
that is left over (`Piece.IsCut`).  There is one such way for each text, whatever the environment
(`Piece.isCut_iff`), because a text that begins with a placeholder determines the placeholder and
what follows it (`Placeholder.atStart?_eq_some_iff`).  Every part is then replaced on its own, so what
comes out of the environment is not looked at again.

In a value only texts change; where they are, and everything else, is as it was
(`Environment.rewrites_expand`).
-/

namespace MetricsAgent

/-! ## Placeholders as they are written -/

namespace Placeholder

variable {p : Placeholder} {cs rest : List Char}

/-- A name of a variable: letters, digits and underscores of ASCII, the first of them no digit. -/
def IsIdentifier (name : List Char) : Prop :=
  ∃ c cs, name = c :: cs ∧ (c.isAlpha = true ∨ c = '_') ∧ ∀ x ∈ cs, x.isAlphanum = true ∨ x = '_'

/-- A placeholder that can be written: its name is an identifier, and its end is not in its
fallback. -/
structure WellFormed (p : Placeholder) : Prop where
  name : IsIdentifier p.name
  fallback (d : List Char) : p.fallback = some d → '\x7d' ∉ d

lemma isAsciiLetter_eq (c : Char) : CharClass.isAsciiLetter c = c.isAlpha := by
  have hupper : c.isUpper = ('A' ≤ c && c ≤ 'Z') := Bool.decide_and _ _
  have halpha : c.isAlpha = (c.isUpper || c.isLower) := rfl
  rw [halpha, hupper, Bool.or_comm]
  rfl

lemma isNameStart_iff {c : Char} : isNameStart c = true ↔ c.isAlpha = true ∨ c = '_' := by
  rw [isNameStart, isAsciiLetter_eq, Bool.or_eq_true, beq_iff_eq]

lemma isNameChar_iff {c : Char} : isNameChar c = true ↔ c.isAlphanum = true ∨ c = '_' := by
  have hdigit : CharClass.isAsciiDigit c = c.isDigit := by
    rfl
  rw [isNameChar, Bool.or_eq_true, isNameStart_iff, hdigit, Char.isAlphanum, Bool.or_eq_true]
  tauto

/-- A run of characters of a class ends at the first character that is not of the class. -/
lemma span_of_stop {f : Char → Bool} {run : List Char} {stop : Char}
    (hrun : ∀ x ∈ run, f x = true) (hstop : f stop = false) (after : List Char) :
    (run ++ stop :: after).takeWhile f = run ∧
      (run ++ stop :: after).dropWhile f = stop :: after := by
  constructor
  · rw [List.takeWhile_append_of_pos hrun, List.takeWhile_cons_of_neg (by simp [hstop]),
      List.append_nil]
  · rw [List.dropWhile_append_of_pos hrun, List.dropWhile_cons_of_neg (by simp [hstop])]

/-- What stands between the name and the end of a placeholder. -/
def middle (p : Placeholder) : List Char :=
  match p.fallback with
  | some d => ':' :: '-' :: d
  | none => []

lemma chars_eq (p : Placeholder) :
    p.chars = '$' :: '\x7b' :: (p.name ++ (p.middle ++ ['\x7d'])) := by
  rw [chars, middle]
  cases p.fallback <;> simp

/-- The first character behind a name is no character of a name. -/
lemma exists_stop (p : Placeholder) (rest : List Char) :
    ∃ stop after, p.middle ++ '\x7d' :: rest = stop :: after ∧ isNameChar stop = false := by
  rw [middle]
  cases p.fallback with
  | none => exact ⟨'\x7d', rest, rfl, by decide⟩
  | some d => exact ⟨':', '-' :: (d ++ '\x7d' :: rest), rfl, by decide⟩

lemma tail?_append {name : List Char} (hfallback : ∀ d, p.fallback = some d → '\x7d' ∉ d)
    (hname : p.name = name) : tail? name (p.middle ++ '\x7d' :: rest) = some (p, rest) := by
  obtain ⟨_, fallback⟩ := p
  subst hname
  cases fallback with
  | none => rw [middle]; rfl
  | some d =>
    have hd : ∀ x ∈ d, (x != '\x7d') = true := by
      intro x hx
      rw [bne_iff_ne]
      rintro rfl
      exact hfallback d rfl hx
    obtain ⟨htake, hdrop⟩ := span_of_stop hd (by decide : ('\x7d' != '\x7d') = false) rest
    change tail? _ (':' :: '-' :: (d ++ '\x7d' :: rest)) = _
    rw [tail?, hdrop, htake]

lemma of_tail?_eq_some {name : List Char} (h : tail? name cs = some (p, rest)) :
    p.name = name ∧ (∀ d, p.fallback = some d → '\x7d' ∉ d) ∧
      cs = p.middle ++ '\x7d' :: rest := by
  unfold tail? at h
  split at h
  · cases h
    exact ⟨rfl, nofun, rfl⟩
  · next tail =>
    split at h
    · next stop after hdrop =>
      cases h
      have hstop : stop = '\x7d' := by
        have hnot := List.head_dropWhile_not (· != '\x7d') (l := tail) (by simp [hdrop])
        simpa [hdrop] using hnot
      have htail : tail.takeWhile (· != '\x7d') ++ '\x7d' :: rest = tail := by
        subst hstop
        rw [← hdrop, List.takeWhile_append_dropWhile]
      refine ⟨rfl, ?_, ?_⟩
      · rintro d ⟨⟩ hmem
        simpa using List.mem_takeWhile_imp hmem
      · exact congrArg (':' :: '-' :: ·) htail.symm
    · cases h
  · cases h

/-- A placeholder is found at the start of a text exactly if the text begins with it. -/
theorem atStart?_eq_some_iff :
    atStart? cs = some (p, rest) ↔ p.WellFormed ∧ cs = p.chars ++ rest := by
  constructor
  · intro h
    unfold atStart? at h
    split at h
    · next c tail =>
      split at h
      · next hstart =>
        obtain ⟨hname, hfallback, htail⟩ := of_tail?_eq_some h
        have hrun : tail.takeWhile isNameChar ++ (p.middle ++ '\x7d' :: rest) = tail := by
          rw [← htail, List.takeWhile_append_dropWhile]
        refine ⟨⟨⟨c, _, hname, isNameStart_iff.mp hstart, ?_⟩, hfallback⟩, ?_⟩
        · intro x hx
          exact isNameChar_iff.mp (List.mem_takeWhile_imp hx)
        · simp [chars_eq, hname, hrun]
      · cases h
    · cases h
  · rintro ⟨⟨⟨c, name, hname, hstart, hrun⟩, hfallback⟩, rfl⟩
    obtain ⟨stop, after, hafter, hstop⟩ := exists_stop p rest
    have htext : p.chars ++ rest
        = '$' :: '\x7b' :: c :: (name ++ (p.middle ++ '\x7d' :: rest)) := by
      simp [chars_eq, hname]
    obtain ⟨htake, hdrop⟩ := span_of_stop (fun x hx => isNameChar_iff.mpr (hrun x hx)) hstop after
    rw [htext, hafter, atStart?, if_pos (isNameStart_iff.mpr hstart), htake, hdrop, ← hafter]
    exact tail?_append hfallback hname

end Placeholder

/-! ## Cutting a text -/

namespace Piece

variable {cs rest : List Char} {ps : List Piece} {p : Placeholder} {c : Char}

/-- A part of a text as it is written. -/
def chars : Piece → List Char
  | .char c => [c]
  | .placeholder p => p.chars

/-- A text cut from the left into placeholders that do not overlap and the characters between them:
wherever a character is left over, no placeholder begins. -/
structure IsCut (cs : List Char) (ps : List Piece) : Prop where
  spelled : ps.flatMap chars = cs
  wellFormed (p : Placeholder) : .placeholder p ∈ ps → p.WellFormed
  leftmost (before after : List Piece) (c : Char) : ps = before ++ .char c :: after →
    ∀ p : Placeholder, p.WellFormed → ¬ p.chars <+: c :: after.flatMap chars

lemma IsCut.tail {x : Piece} (h : IsCut cs (x :: ps)) : IsCut (ps.flatMap chars) ps where
  spelled := rfl
  wellFormed p hp := h.wellFormed p (List.mem_cons_of_mem x hp)
  leftmost before after c hps := h.leftmost (x :: before) after c (by rw [hps]; rfl)

lemma isCut_nil : IsCut [] [] where
  spelled := rfl
  wellFormed := nofun
  leftmost before after c h := by cases before <;> cases h

lemma IsCut.placeholder (h : IsCut rest ps) (hp : p.WellFormed) :
    IsCut (p.chars ++ rest) (.placeholder p :: ps) where
  spelled := by rw [List.flatMap_cons, h.spelled]; rfl
  wellFormed q hq := by
    rcases List.mem_cons.mp hq with hq | hq
    · cases hq
      exact hp
    · exact h.wellFormed q hq
  leftmost before after c hps := by
    cases before with
    | nil => cases hps
    | cons x before => exact h.leftmost before after c (List.cons.inj hps).2

lemma IsCut.char (h : IsCut cs ps) (hc : ∀ p : Placeholder, p.WellFormed → ¬ p.chars <+: c :: cs) :
    IsCut (c :: cs) (.char c :: ps) where
  spelled := by rw [List.flatMap_cons, h.spelled]; rfl
  wellFormed q hq := h.wellFormed q ((List.mem_cons.mp hq).resolve_left nofun)
  leftmost before after d hps := by
    cases before with
    | nil =>
      cases hps
      rw [h.spelled]
      exact hc
    | cons x before => exact h.leftmost before after d (List.cons.inj hps).2

/-! ## The reader cuts -/

lemma ofChars_nil : ofChars [] = [] := by
  rw [ofChars]

lemma ofChars_of_some (h : Placeholder.atStart? cs = some (p, rest)) :
    ofChars cs = .placeholder p :: ofChars rest := by
  cases cs with
  | nil => cases h
  | cons c tail =>
    rw [ofChars]
    split
    · next q after heq =>
      cases heq.symm.trans h
      rfl
    · next heq => cases heq.symm.trans h

lemma ofChars_of_none (h : Placeholder.atStart? (c :: cs) = none) :
    ofChars (c :: cs) = .char c :: ofChars cs := by
  rw [ofChars]
  split
  · next heq => cases h.symm.trans heq
  · rfl

lemma atStart?_eq_none_iff :
    Placeholder.atStart? cs = none ↔ ∀ p : Placeholder, p.WellFormed → ¬ p.chars <+: cs := by
  constructor
  · rintro h p hp ⟨rest, rfl⟩
    cases h.symm.trans (Placeholder.atStart?_eq_some_iff.mpr ⟨hp, rfl⟩)
  · intro h
    rw [Option.eq_none_iff_forall_ne_some]
    rintro ⟨p, rest⟩ hsome
    obtain ⟨hp, rfl⟩ := Placeholder.atStart?_eq_some_iff.mp hsome
    exact h p hp (List.prefix_append p.chars rest)

lemma isCut_ofChars (cs : List Char) : IsCut cs (ofChars cs) := by
  -- By length, since a placeholder takes several characters at once.
  induction hn : cs.length using Nat.strong_induction_on generalizing cs with
  | _ n ih =>
    cases cs with
    | nil =>
      rw [ofChars_nil]
      exact isCut_nil
    | cons c tail =>
      cases hstart : Placeholder.atStart? (c :: tail) with
      | none =>
        rw [ofChars_of_none hstart]
        have hrest := ih tail.length (by rw [← hn]; exact tail.length.lt_succ_self) tail rfl
        exact hrest.char (atStart?_eq_none_iff.mp hstart)
      | some found =>
        obtain ⟨p, rest⟩ := found
        have hshorter : rest.length < n := by
          rw [← hn]
          exact Placeholder.length_atStart? hstart
        have hrest := ih rest.length hshorter rest rfl
        obtain ⟨hp, htext⟩ := Placeholder.atStart?_eq_some_iff.mp hstart
        rw [ofChars_of_some hstart, htext]
        exact hrest.placeholder hp

/-- A text can be cut in one way only, and the reader cuts it so. -/
theorem isCut_iff : IsCut cs ps ↔ ps = ofChars cs := by
  constructor
  · intro h
    induction ps generalizing cs with
    | nil =>
      obtain rfl : [] = cs := h.spelled
      exact ofChars_nil.symm
    | cons x ps ih =>
      have hspelled := h.spelled
      rw [List.flatMap_cons] at hspelled
      subst hspelled
      cases x with
      | char c =>
        have hnone : Placeholder.atStart? (c :: ps.flatMap chars) = none :=
          atStart?_eq_none_iff.mpr (h.leftmost [] ps c rfl)
        exact (congrArg (.char c :: ·) (ih h.tail)).trans (ofChars_of_none hnone).symm
      | placeholder p =>
        have hsome : Placeholder.atStart? (p.chars ++ ps.flatMap chars)
            = some (p, ps.flatMap chars) :=
          Placeholder.atStart?_eq_some_iff.mpr ⟨h.wellFormed p List.mem_cons_self, rfl⟩
        exact (congrArg (.placeholder p :: ·) (ih h.tail)).trans (ofChars_of_some hsome).symm
  · rintro rfl
    exact isCut_ofChars cs

/-! ## Replacing -/

/-- What a part of a text becomes: a character stays; a placeholder becomes the value of its
variable if that is set, the empty value too, and otherwise its fallback if it has one, and itself if
it has none. -/
inductive Becomes (env : Environment) : Piece → List Char → Prop
  | char (c : Char) : Becomes env (.char c) [c]
  | value {p : Placeholder} {v : String} (hset : env.get? (String.ofList p.name) = some v) :
      Becomes env (.placeholder p) v.toList
  | fallback {p : Placeholder} {d : List Char} (hunset : env.get? (String.ofList p.name) = none)
      (hfallback : p.fallback = some d) : Becomes env (.placeholder p) d
  | verbatim {p : Placeholder} (hunset : env.get? (String.ofList p.name) = none)
      (hfallback : p.fallback = none) : Becomes env (.placeholder p) p.chars

lemma becomes_expand (env : Environment) (x : Piece) : x.Becomes env (x.expand env) := by
  cases x with
  | char c => exact .char c
  | placeholder p =>
    rw [expand]
    cases hset : env.get? (String.ofList p.name) with
    | some v => exact .value hset
    | none =>
      cases hfallback : p.fallback with
      | some d => exact .fallback hset hfallback
      | none => exact .verbatim hset hfallback

end Piece

namespace Environment

/-- The way to cut a text is one for all environments, and in each of them every part of the text is
replaced once, where it stands. -/
def ReplacedInOnePass (s : String) : Prop :=
  ∃ ps, Piece.IsCut s.toList ps ∧ (∀ qs, Piece.IsCut s.toList qs → qs = ps) ∧
    ∀ env : Environment, ∃ texts : List (List Char),
      List.Forall₂ (Piece.Becomes env) ps texts ∧ (env.expandText s).toList = texts.flatten

lemma replacedInOnePass (s : String) : ReplacedInOnePass s := by
  refine ⟨Piece.ofChars s.toList, Piece.isCut_ofChars s.toList, fun qs => Piece.isCut_iff.mp, ?_⟩
  intro env
  refine ⟨(Piece.ofChars s.toList).map (Piece.expand env), ?_, ?_⟩
  · rw [List.forall₂_map_right_iff, List.forall₂_same]
    exact fun x _ => x.becomes_expand env
  · rw [expandText, String.toList_ofList, List.flatMap_def]

/-- A value with its texts replaced and nothing else: sequences keep their lengths and mappings
their keys, and what is neither a text nor has parts stays. -/
structure Rewrites (env : Environment) (before after : Value) : Prop where
  text {p : List Nat} {s : String} : before.part? p = some (.text s) →
    after.part? p = some (.text (env.expandText s))
  list {p : List Nat} {xs : List Value} : before.part? p = some (.list xs) →
    ∃ ys, after.part? p = some (.list ys) ∧ ys.length = xs.length
  map {p : List Nat} {es : Entries} : before.part? p = some (.map es) →
    ∃ es', after.part? p = some (.map es') ∧ Entries.keys es' = es.keys
  other {p : List Nat} {x : Value} : before.part? p = some x → ¬ x.IsOpen → after.part? p = some x
  absent {p : List Nat} : before.part? p = none → after.part? p = none

lemma rewrites_expand (env : Environment) (v : Value) : env.Rewrites v (env.expand v) where
  text h := by rw [part?_expand, h, Option.map_some, expand_text]
  list {p xs} h := by
    refine ⟨env.expandItems xs, by rw [part?_expand, h, Option.map_some, expand_list], ?_⟩
    rw [expandItems_eq_map, List.length_map]
  map {p es} h :=
    ⟨env.expandEntries es, by rw [part?_expand, h, Option.map_some, expand_map],
      env.keys_expandEntries es⟩
  other h hx := by rw [part?_expand, h, Option.map_some, expand_of_not_isOpen env hx]
  absent h := by rw [part?_expand, h, Option.map_none]

/-- Placeholders are replaced in one pass from the left over each text of a value, and nothing but
the texts changes. -/
theorem expand_one_pass :
    (∀ s : String, ReplacedInOnePass s) ∧
      ∀ (env : Environment) (v : Value), env.Rewrites v (env.expand v) :=
  ⟨replacedInOnePass, rewrites_expand⟩

end Environment

end MetricsAgent
