import Mathlib.Data.List.Count
import Mathlib.Data.List.Infix
import Mathlib.Data.List.TakeWhile
import Mathlib.Tactic.Common
import MetricsAgent.Console.Pictogram

/-!
# Texts without shortcodes

A name between two colons stands for its pictogram, so a text that has such a name is not shown as
it is.  What the console looks through for names has lost backslashes before its brackets
(`Markup.Thinned`), and a text is free of shortcodes if no name is found whichever of them are lost
(`Pictogram.Free`).  Such a text is left alone (`Pictogram.replace_eq_self`).  Names have no blanks
in them, so that texts that are free stay so on both sides of a blank.
-/

namespace MetricsAgent

variable {a b cs cs' z : List Char} {c : Char}

/-! ## Characters in joined texts -/

/-- A character of two texts that are joined stands behind the first or in it. -/
lemma append_eq_append_cons_cases {x y : List Char} (h : a ++ b = x ++ c :: y) :
    (∃ extra, x = a ++ extra ∧ b = extra ++ c :: y) ∨
      ∃ extra, a = x ++ c :: extra ∧ y = extra ++ b := by
  rcases List.append_eq_append_iff.mp h with ⟨extra, hx, hb⟩ | ⟨extra, ha, hb⟩
  · exact .inl ⟨extra, hx, hb⟩
  · rcases List.cons_eq_append_iff.mp hb with ⟨rfl, hrest⟩ | ⟨extra, rfl, hy⟩
    · exact .inl ⟨[], by simpa using ha.symm, hrest⟩
    · exact .inr ⟨extra, ha, hy⟩

/-! ## Backslashes before brackets -/

namespace Markup

/-- A text with some of the backslashes before its opening brackets left out. -/
inductive Thinned : List Char → List Char → Prop
  | nil : Thinned [] []
  | keep (c : Char) {cs cs' : List Char} (h : Thinned cs cs') : Thinned (c :: cs) (c :: cs')
  | drop {cs cs' : List Char} (h : Thinned cs ('[' :: cs')) : Thinned ('\\' :: cs) ('[' :: cs')

namespace Thinned

lemma append (h : Thinned a b) (h' : Thinned cs cs') : Thinned (a ++ cs) (b ++ cs') := by
  induction h with
  | nil => exact h'
  | keep c _ ih => exact ih.keep c
  | drop _ ih => exact ih.drop

lemma refl (cs : List Char) : Thinned cs cs := by
  induction cs with
  | nil => exact .nil
  | cons c cs ih => exact ih.keep c

lemma sublist (h : Thinned cs cs') : cs'.Sublist cs := by
  induction h with
  | nil => exact .slnil
  | keep c _ ih => exact ih.cons_cons c
  | drop _ ih => exact ih.cons '\\'

/-- Any number of the backslashes before a bracket may go. -/
lemma bracket {j k : ℕ} (hjk : j ≤ k) (h : Thinned cs cs') :
    Thinned (List.replicate k '\\' ++ '[' :: cs) (List.replicate j '\\' ++ '[' :: cs') := by
  induction k generalizing j with
  | zero =>
    rw [Nat.le_zero.mp hjk]
    exact h.keep '['
  | succ k ih =>
    cases j with
    | zero => exact (ih (Nat.zero_le k)).drop
    | succ j => exact (ih (Nat.le_of_succ_le_succ hjk)).keep '\\'

/-- A text without brackets keeps everything. -/
lemma eq_of_not_mem (hbracket : '[' ∉ cs) (h : Thinned cs cs') : cs' = cs := by
  induction h with
  | nil => rfl
  | keep c _ ih => rw [ih (List.not_mem_of_not_mem_cons hbracket)]
  | drop _ ih =>
    have hrest := ih (List.not_mem_of_not_mem_cons hbracket)
    exact absurd (List.mem_cons_of_mem _ (hrest ▸ List.mem_cons_self)) hbracket

/-- Nothing is lost at the end of a text that has no brackets there. -/
lemma of_append (hbracket : '[' ∉ b) (h : Thinned (a ++ b) z) :
    ∃ a', z = a' ++ b ∧ Thinned a a' := by
  induction a generalizing z with
  | nil => exact ⟨[], h.eq_of_not_mem hbracket, .nil⟩
  | cons d a ih =>
    cases h with
    | keep _ h =>
      obtain ⟨a', rfl, ha⟩ := ih h
      exact ⟨d :: a', rfl, ha.keep d⟩
    | drop h =>
      obtain ⟨a', hz, ha⟩ := ih h
      cases a' with
      | nil =>
        rw [List.nil_append] at hz
        exact absurd (hz ▸ List.mem_cons_self) hbracket
      | cons e a' =>
        obtain ⟨rfl, rfl⟩ := List.cons.inj hz
        exact ⟨'[' :: a', rfl, ha.drop⟩

/-- What stands on either side of a character that is neither a backslash nor a bracket is thinned
by itself. -/
lemma of_append_cons (hslash : c ≠ '\\') (hbracket : c ≠ '[') (h : Thinned (a ++ c :: b) z) :
    ∃ a' b', z = a' ++ c :: b' ∧ Thinned a a' ∧ Thinned b b' := by
  induction a generalizing z with
  | nil =>
    cases h with
    | keep _ h => exact ⟨[], _, rfl, .nil, h⟩
    | drop h => exact absurd rfl hslash
  | cons d a ih =>
    cases h with
    | keep _ h =>
      obtain ⟨a', b', rfl, ha, hb⟩ := ih h
      exact ⟨d :: a', b', rfl, ha.keep d, hb⟩
    | drop h =>
      obtain ⟨a', b', hz, ha, hb⟩ := ih h
      cases a' with
      | nil => exact absurd (List.cons.inj hz).1.symm hbracket
      | cons e a' =>
        obtain ⟨rfl, rfl⟩ := List.cons.inj hz
        exact ⟨'[' :: a', b', rfl, ha.drop, hb⟩

end Thinned
end Markup

/-! ## Names between colons -/

namespace Pictogram

/-- Neither a colon nor a blank is part of a name. -/
def IsWord (name : List Char) : Prop :=
  ∀ c ∈ name, c ≠ ':' ∧ CharClass.isBlank c = false

/-- A name as it stands in a text. -/
def shortcode (name : List Char) : List Char :=
  ':' :: name ++ [':']

lemma getLast?_shortcode (name : List Char) : (shortcode name).getLast? = some ':' :=
  List.getLast?_concat

/-- No name between two colons of a text is that of a pictogram. -/
def NoneIn (cs : List Char) : Prop :=
  ∀ name, IsWord name → shortcode name <:+: cs → expand name = shortcode name

/-- No name between two colons of a text is that of a pictogram, whether or not the backslashes
before its brackets count. -/
def Free (cs : List Char) : Prop :=
  ∀ cs', Markup.Thinned cs cs' → NoneIn cs'

namespace NoneIn

lemma mono (h : NoneIn cs) (hin : a <:+: cs) : NoneIn a :=
  fun name hword hname => h name hword (hname.trans hin)

lemma of_count (h : cs.count ':' ≤ 1) : NoneIn cs := by
  intro name _ hname
  have htwo : 2 ≤ (shortcode name).count ':' := by
    simp [shortcode]
  have hle := hname.sublist.count_le ':'
  omega

/-- A shortcode ends in a colon. -/
lemma append_of_not_mem (h : NoneIn a) (hcolon : ':' ∉ b) : NoneIn (a ++ b) := by
  rintro name hword ⟨front, tail, hname⟩
  refine h name hword ?_
  rcases List.append_eq_append_iff.mp hname with ⟨more, ha, -⟩ | ⟨extra, hextra, hb⟩
  · exact ⟨front, more, ha.symm⟩
  · cases hlast : extra.getLast? with
    | none =>
      rw [List.getLast?_eq_none_iff.mp hlast, List.append_nil] at hextra
      exact ⟨front, [], by rw [List.append_nil, hextra]⟩
    | some d =>
      have hend := congrArg List.getLast? hextra
      rw [List.getLast?_append, List.getLast?_append, hlast, getLast?_shortcode] at hend
      obtain rfl : ':' = d := Option.some.inj hend
      exact absurd (hb ▸ List.mem_append_left tail (List.mem_of_getLast? hlast)) hcolon

/-- A text without a character stands on one side of it. -/
lemma infix_of_infix_append_cons {l : List Char} (h : l <:+: a ++ c :: b) (hc : c ∉ l) :
    l <:+: a ∨ l <:+: b := by
  obtain ⟨front, tail, hline⟩ := h
  rcases append_eq_append_cons_cases hline with ⟨extra, ha, -⟩ | ⟨extra, hfront, rfl⟩
  · exact .inl ⟨front, extra, ha.symm⟩
  rcases append_eq_append_cons_cases hfront with ⟨extra, -, hl⟩ | ⟨extra', -, rfl⟩
  · exact absurd (by simp [hl]) hc
  · exact .inr ⟨extra', tail, rfl⟩

/-- No name has a blank in it. -/
lemma append_cons (ha : NoneIn a) (hb : NoneIn b) (hblank : CharClass.isBlank c = true) :
    NoneIn (a ++ c :: b) := by
  intro name hword hname
  have hcolon : c ≠ ':' := by
    rintro rfl
    exact absurd hblank (by decide)
  have hmem : c ∉ shortcode name := by
    have hnot : c ∉ name := fun hmem => by
      rw [(hword c hmem).2] at hblank
      cases hblank
    simp [shortcode, hcolon, hnot]
  exact (infix_of_infix_append_cons hname hmem).elim (ha name hword) (hb name hword)

/-- A text in which no pictogram is named is left alone. -/
lemma replaceFrom_eq_self (h : NoneIn cs) (fuel : ℕ) : replaceFrom fuel cs = cs := by
  induction fuel generalizing cs with
  | zero => rfl
  | succ fuel ih =>
    cases cs with
    | nil => rfl
    | cons c cs =>
      have hrest : replaceFrom fuel cs = cs := ih (h.mono (List.suffix_cons c cs).isInfix)
      unfold replaceFrom
      by_cases hc : c = ':'
      · obtain rfl := hc
        rw [if_pos (by decide)]
        dsimp only
        generalize hword : cs.takeWhile (fun c => c != ':' && !CharClass.isBlank c) = name
        have hsplit : cs = name ++ cs.drop name.length := by
          rw [← hword]
          exact (List.prefix_iff_eq_append.mp (List.takeWhile_prefix _)).symm
        split
        · next rest hdrop =>
          rw [hdrop] at hsplit
          have hname : expand name = shortcode name := by
            refine h name (fun d hd => ?_) ⟨[], rest, by rw [hsplit]; simp [shortcode]⟩
            rw [← hword] at hd
            have hpart := List.mem_takeWhile_imp hd
            rw [Bool.and_eq_true] at hpart
            exact ⟨by simpa using hpart.1, by simpa using hpart.2⟩
          have hbehind : replaceFrom fuel rest = rest := by
            refine ih (h.mono ⟨shortcode name, [], ?_⟩)
            rw [hsplit]
            simp [shortcode]
          rw [hname, hbehind, hsplit]
          simp [shortcode]
        · rw [hrest]
      · rw [if_neg (by simpa using hc), hrest]

end NoneIn

lemma replace_eq_self (h : NoneIn cs) : replace cs = cs :=
  h.replaceFrom_eq_self cs.length

namespace Free

lemma of_count (h : cs.count ':' ≤ 1) : Free cs :=
  fun _ hthin => .of_count ((hthin.sublist.count_le ':').trans h)

lemma append_of_not_mem (h : Free a) (hbracket : '[' ∉ b) (hcolon : ':' ∉ b) : Free (a ++ b) := by
  intro cs' hthin
  obtain ⟨a', rfl, ha⟩ := hthin.of_append hbracket
  exact (h a' ha).append_of_not_mem hcolon

lemma append_cons (ha : Free a) (hb : Free b) (hblank : CharClass.isBlank c = true) :
    Free (a ++ c :: b) := by
  intro cs' hthin
  have hslash : c ≠ '\\' := by
    rintro rfl
    exact absurd hblank (by decide)
  have hbracket : c ≠ '[' := by
    rintro rfl
    exact absurd hblank (by decide)
  obtain ⟨a', b', rfl, ha', hb'⟩ := hthin.of_append_cons hslash hbracket
  exact (ha a' ha').append_cons (hb b' hb') hblank

end Free
end Pictogram
end MetricsAgent
