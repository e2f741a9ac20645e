import MetricsAgent.Proofs.Json.Numerals
import MetricsAgent.Proofs.Json.Reading
import MetricsAgent.Proofs.Results

/-!
# Every document is written

A document is printed unless one of its leaves is refused, and the first refusal is the failure
(`print_cases`): this is the same in all styles, but for numbers that are not finite, which only a
strict style refuses.  If all numbers are finite then the text writes the document by the grammar
(`text_of_print`), and so reading it gives the document back (`parse_of_print`).
-/

namespace MetricsAgent.Json

/-! ## Leaves -/

mutual

/-- The parts of a document that have no parts. -/
def leaves : Json → List Json
  | .array js => itemLeaves js
  | .object ms => memberLeaves ms
  | .null => [.null]
  | .bool b => [.bool b]
  | .int n => [.int n]
  | .float x => [.float x]
  | .string s => [.string s]

def itemLeaves : List Json → List Json
  | [] => []
  | j :: js => leaves j ++ itemLeaves js

def memberLeaves : List (String × Json) → List Json
  | [] => []
  | (_, j) :: ms => leaves j ++ memberLeaves ms

end

/-- A condition on all leaves of a document. -/
def All (P : Json → Prop) (j : Json) : Prop :=
  ∀ l ∈ j.leaves, P l

section All

variable {P : Json → Prop}

lemma forall_mem_itemLeaves {js : List Json} :
    (∀ l ∈ itemLeaves js, P l) ↔ ∀ j ∈ js, j.All P := by
  induction js with
  | nil => simp [itemLeaves]
  | cons j js ih => rw [itemLeaves, List.forall_mem_append, ih, List.forall_mem_cons, All]

lemma forall_mem_memberLeaves {ms : List (String × Json)} :
    (∀ l ∈ memberLeaves ms, P l) ↔ ∀ m ∈ ms, m.2.All P := by
  induction ms with
  | nil => simp [memberLeaves]
  | cons m ms ih => rw [memberLeaves, List.forall_mem_append, ih, List.forall_mem_cons, All]

@[simp] lemma all_array {js : List Json} : (array js).All P ↔ ∀ j ∈ js, j.All P := by
  rw [All, leaves, forall_mem_itemLeaves]

@[simp] lemma all_object {ms : List (String × Json)} :
    (object ms).All P ↔ ∀ m ∈ ms, m.2.All P := by
  rw [All, leaves, forall_mem_memberLeaves]

@[simp] lemma all_null : null.All P ↔ P null := List.forall_mem_singleton

@[simp] lemma all_bool {b : Bool} : (bool b).All P ↔ P (bool b) := List.forall_mem_singleton

@[simp] lemma all_int {n : ℤ} : (int n).All P ↔ P (int n) := List.forall_mem_singleton

@[simp] lemma all_float {x : Binary64} : (float x).All P ↔ P (float x) := List.forall_mem_singleton

@[simp] lemma all_string {s : String} : (string s).All P ↔ P (string s) := List.forall_mem_singleton

end All

/-- A leaf that is no floating point number, or a finite one. -/
@[simp] def FiniteLeaf : Json → Prop
  | .float x => x.isFinite = true
  | _ => True

/-- All floating point numbers of a document are finite. -/
abbrev Finite (j : Json) : Prop :=
  j.All FiniteLeaf

/-- A whole number of no more digits than are written. -/
def IsShort (n : ℤ) : Prop :=
  n.natAbs < tenTo digitLimit

/-- A leaf that is no whole number, or a short one. -/
@[simp] def ShortLeaf : Json → Prop
  | .int n => IsShort n
  | _ => True

/-- All whole numbers of a document are short. -/
abbrev Short (j : Json) : Prop :=
  j.All ShortLeaf

/-- Why a style refuses a leaf. -/
inductive Refuses (style : Style) : Json → PrintError → Prop
  | tooManyDigits {n : ℤ} (h : tenTo digitLimit ≤ n.natAbs) : Refuses style (.int n) .tooManyDigits
  | notFinite {x : Binary64} (hstrict : style.strict = true) (h : x.isFinite = false) :
    Refuses style (.float x) .notFinite

lemma Refuses.imp {style style' : Style} {l : Json} {e : PrintError} (hl : Refuses style l e)
    (h : ∀ x, l = .float x → x.isFinite = false → style.strict = true → style'.strict = true) :
    Refuses style' l e := by
  cases hl with
  | tooManyDigits hlong => exact .tooManyDigits hlong
  | notFinite hstrict hx => exact .notFinite (h _ rfl hx hstrict) hx

/-- Either there is a text and no leaf is refused, or the failure is the refusal of a leaf. -/
inductive Outcome (style : Style) (ls : List Json) : Except PrintError (List Char) → Prop
  | text {cs : List Char} (h : ∀ l ∈ ls, ∀ e, ¬Refuses style l e) : Outcome style ls (.ok cs)
  | failure {l : Json} {e : PrintError} (hl : l ∈ ls) (h : Refuses style l e) :
    Outcome style ls (.error e)

/-! ## What is printed -/

section Outcome

variable {style : Style}

lemma outcome_leaf {l : Json} {cs : List Char} (h : ∀ e, ¬Refuses style l e) :
    Outcome style [l] (.ok cs) := by
  refine .text fun l' hl' => ?_
  rw [List.mem_singleton.mp hl']
  exact h

lemma outcome_int (n : ℤ) : Outcome style [.int n] ((intText n).map String.toList) := by
  unfold intText
  split
  · next h => exact .failure (List.mem_singleton_self _) (.tooManyDigits h)
  · next h =>
    refine outcome_leaf fun e he => ?_
    cases he with
    | tooManyDigits h' => exact h h'

lemma outcome_float (x : Binary64) :
    Outcome style [.float x] ((floatText style x).map String.toList) := by
  unfold floatText
  split
  · next h =>
    obtain ⟨hstrict, hx⟩ : style.strict = true ∧ x.isFinite = false := by simpa using h
    exact .failure (List.mem_singleton_self _) (.notFinite hstrict hx)
  · next h =>
    refine outcome_leaf fun e he => ?_
    cases he with
    | notFinite hstrict hx => exact h (by simp [hstrict, hx])

/-- The outcome of two parts one after the other. -/
lemma outcome_append {ls ls' : List Json} {x y : Except PrintError (List Char)}
    (f : List Char → List Char → List Char) (hx : Outcome style ls x) (hy : Outcome style ls' y) :
    Outcome style (ls ++ ls') (x >>= fun cs => y >>= fun ds => pure (f cs ds)) := by
  cases hx with
  | failure hl h => exact .failure (List.mem_append_left _ hl) h
  | text hcs =>
    cases hy with
    | failure hl h => exact .failure (List.mem_append_right _ hl) h
    | text hds =>
      refine .text fun l hl => ?_
      rcases List.mem_append.mp hl with hl | hl
      · exact hcs l hl
      · exact hds l hl

mutual

lemma outcome_render (depth : ℕ) : (j : Json) → Outcome style j.leaves (render style depth j)
  | .null => outcome_leaf nofun
  | .bool true => outcome_leaf nofun
  | .bool false => outcome_leaf nofun
  | .int n => outcome_int n
  | .float x => outcome_float x
  | .string _ => outcome_leaf nofun
  | .array [] => .text nofun
  | .array (j :: js) =>
    outcome_append _ (outcome_render (depth + 1) j) (outcome_items (depth + 1) js)
  | .object [] => .text nofun
  | .object ((_, j) :: ms) =>
    outcome_append _ (outcome_render (depth + 1) j) (outcome_members (depth + 1) ms)

lemma outcome_items (depth : ℕ) :
    (js : List Json) → Outcome style (itemLeaves js) (renderItems style depth js)
  | [] => .text nofun
  | j :: js => outcome_append _ (outcome_render depth j) (outcome_items depth js)

lemma outcome_members (depth : ℕ) :
    (ms : List (String × Json)) → Outcome style (memberLeaves ms) (renderMembers style depth ms)
  | [] => .text nofun
  | (_, j) :: ms => outcome_append _ (outcome_render depth j) (outcome_members depth ms)

end

end Outcome

/-! ## Numbers -/

lemma of_intText {n : ℤ} {s : String} (h : intText n = .ok s) : IsShort n ∧ s = signedText n := by
  obtain ⟨hn, h⟩ := of_ite_eq_ok h nofun
  cases h
  exact ⟨Nat.not_le.mp hn, rfl⟩

lemma intText_of_short {n : ℤ} (hn : IsShort n) : intText n = .ok (signedText n) :=
  if_neg (Nat.not_le.mpr hn)

lemma of_floatText {style : Style} {x : Binary64} {s : String} (h : floatText style x = .ok s) :
    s = numberStyle.render x := by
  obtain ⟨-, h⟩ := of_ite_eq_ok h nofun
  cases h
  rfl

/-! ## Strings -/

lemma hexUnit_control : ∀ n < 32,
    hexUnit? ['0', '0', Nat.digitChar (n / 16), Nat.digitChar (n % 16)] = some (n, []) := by
  decide

lemma chars_escape {c : Char} {s cs : List Char} (h : Chars s cs) :
    Chars (c :: s) (escape c ++ cs) := by
  unfold escape
  split_ifs with hquote hslash hnewline hreturn htab hback hfeed hcontrol
  · rw [eq_of_beq hquote]
    exact .escape rfl h
  · rw [eq_of_beq hslash]
    exact .escape rfl h
  · rw [eq_of_beq hnewline]
    exact .escape rfl h
  · rw [eq_of_beq hreturn]
    exact .escape rfl h
  · rw [eq_of_beq htab]
    exact .escape rfl h
  · rw [eq_of_beq hback]
    exact .escape rfl h
  · rw [eq_of_beq hfeed]
    exact .escape rfl h
  · have hunit := Chars.unit (hexUnit_control c.toNat hcontrol) (by unfold IsHighSurrogate; omega)
      (by unfold IsLowSurrogate; omega) h
    rw [Char.ofNat_toNat] at hunit
    exact hunit
  · exact .plain (by simpa using hquote) (by simpa using hslash) (by omega) h

lemma chars_flatMap (s : List Char) : Chars s (s.flatMap escape) := by
  induction s with
  | nil => exact .nil
  | cons c s ih =>
    rw [List.flatMap_cons]
    exact chars_escape ih

/-! ## Styles -/

lemma blank_nil : Blank [] := nofun

lemma blank_append {ws ws' : List Char} (h : Blank ws) (h' : Blank ws') : Blank (ws ++ ws') := by
  intro c hc
  rcases List.mem_append.mp hc with hc | hc
  · exact h c hc
  · exact h' c hc

/-- Separators with only blanks behind them. -/
structure Style.Regular (style : Style) : Prop where
  item : ∃ ws, style.itemSeparator.toList = ',' :: ws ∧ Blank ws
  member : ∃ ws, style.memberSeparator.toList = ':' :: ws ∧ Blank ws

lemma regular_compact : compact.Regular :=
  ⟨⟨[], rfl, blank_nil⟩, ⟨[], rfl, blank_nil⟩⟩

lemma regular_wire : wire.Regular :=
  ⟨⟨[], rfl, blank_nil⟩, ⟨[], rfl, blank_nil⟩⟩

lemma regular_indented : indented.Regular :=
  ⟨⟨[], rfl, blank_nil⟩, ⟨[' '], rfl, by simp [Blank, isSpace]⟩⟩

lemma regular_spaced : spaced.Regular :=
  ⟨⟨[' '], rfl, by simp [Blank, isSpace]⟩, ⟨[' '], rfl, by simp [Blank, isSpace]⟩⟩

lemma blank_lineBreak (style : Style) (depth : ℕ) : Blank (style.lineBreak depth) := by
  unfold Style.lineBreak
  split
  · simp [Blank]
  · intro c hc
    rcases List.mem_cons.mp hc with rfl | hc
    · rfl
    · rw [List.eq_of_mem_replicate hc]
      rfl

/-! ## What is written -/

lemma writes_value {j : Json} {ws cs : List Char} (hws : Blank ws) (h : Writes (.value j) cs) :
    Writes (.element j) (ws ++ cs) := by
  have helement := Writes.element hws h blank_nil
  rwa [List.append_nil] at helement

section Writes

variable {style : Style}

lemma writes_number {j : Json} {t : Except PrintError String} {cs : List Char}
    (h : t.map String.toList = .ok cs) (ht : ∀ s, t = .ok s → NumberText j s.toList) :
    Writes (.value j) cs := by
  cases t with
  | error e => cases h
  | ok s =>
    cases h
    exact .number (ht s rfl)

lemma writes_int {n : ℤ} {cs : List Char} (h : (intText n).map String.toList = .ok cs) :
    Writes (.value (.int n)) cs := by
  refine writes_number h fun s hs => ?_
  rw [(of_intText hs).2]
  exact numberText_int n

lemma writes_float {x : Binary64} {cs : List Char} (hx : x.isFinite = true)
    (h : (floatText style x).map String.toList = .ok cs) : Writes (.value (.float x)) cs := by
  refine writes_number h fun s hs => ?_
  rw [of_floatText hs]
  exact numberText_float hx

lemma writes_quoted (s : String) : Writes (.value (.string s)) (quoted s) := by
  have h := Writes.string (chars_flatMap s.toList)
  rwa [String.ofList_toList] at h

mutual

/-- The text of a document writes it. -/
lemma writes_render (hstyle : style.Regular) (depth : ℕ) : (j : Json) → j.Finite →
    ∀ cs, render style depth j = .ok cs → Writes (.value j) cs
  | .null => by
    rintro - cs ⟨⟩
    exact .null
  | .bool true => by
    rintro - cs ⟨⟩
    exact .true
  | .bool false => by
    rintro - cs ⟨⟩
    exact .false
  | .int n => fun _ _ h => writes_int h
  | .float x => fun hfinite _ h => writes_float (hfinite _ (List.mem_singleton_self _)) h
  | .string s => by
    rintro - cs ⟨⟩
    exact writes_quoted s
  | .array [] => by
    rintro - cs ⟨⟩
    exact .emptyArray blank_nil
  | .array (j :: js) => by
    intro hfinite cs h
    obtain ⟨hj, hjs⟩ := List.forall_mem_append.mp hfinite
    obtain ⟨first, hfirst, h⟩ := exists_of_bind_eq_ok h
    obtain ⟨rest, hrest, h⟩ := exists_of_bind_eq_ok h
    cases h
    have hitems := writes_items hstyle (depth + 1) js hjs rest hrest
      (blank_lineBreak style (depth + 1)) (writes_render hstyle (depth + 1) j hj first hfirst)
      (blank_lineBreak style depth)
    simpa using Writes.array hitems
  | .object [] => by
    rintro - cs ⟨⟩
    exact .emptyObject blank_nil
  | .object ((k, j) :: ms) => by
    intro hfinite cs h
    obtain ⟨hj, hms⟩ := List.forall_mem_append.mp hfinite
    obtain ⟨first, hfirst, h⟩ := exists_of_bind_eq_ok h
    obtain ⟨rest, hrest, h⟩ := exists_of_bind_eq_ok h
    cases h
    have hmembers := writes_members hstyle (depth + 1) k ms hms rest hrest
      (blank_lineBreak style (depth + 1)) (writes_render hstyle (depth + 1) j hj first hfirst)
      (blank_lineBreak style depth)
    simpa using Writes.object hmembers

/-- The items behind a first one that is written. -/
lemma writes_items (hstyle : style.Regular) (depth : ℕ) : (js : List Json) →
    (∀ l ∈ itemLeaves js, FiniteLeaf l) → ∀ ds, renderItems style depth js = .ok ds →
    ∀ {j : Json} {ws cs ws' : List Char}, Blank ws → Writes (.value j) cs → Blank ws' →
    Writes (.items (j :: js)) (ws ++ cs ++ ds ++ ws')
  | [] => by
    rintro - ds ⟨⟩ j ws cs ws' hws hj hws'
    simpa using Writes.item (.element hws hj hws')
  | j' :: js => by
    intro hfinite ds h j ws cs ws' hws hj hws'
    obtain ⟨hj', hjs⟩ := List.forall_mem_append.mp hfinite
    obtain ⟨first, hfirst, h⟩ := exists_of_bind_eq_ok h
    obtain ⟨rest, hrest, h⟩ := exists_of_bind_eq_ok h
    cases h
    obtain ⟨us, hus, hblank⟩ := hstyle.item
    have hitems := writes_items hstyle depth js hjs rest hrest
      (blank_append hblank (blank_lineBreak style depth))
      (writes_render hstyle depth j' hj' first hfirst) hws'
    rw [hus]
    simpa using Writes.items (writes_value hws hj) hitems

/-- The members behind a first one that is written. -/
lemma writes_members (hstyle : style.Regular) (depth : ℕ) (k : String) :
    (ms : List (String × Json)) → (∀ l ∈ memberLeaves ms, FiniteLeaf l) →
    ∀ ds, renderMembers style depth ms = .ok ds →
    ∀ {j : Json} {ws cs ws' : List Char}, Blank ws → Writes (.value j) cs → Blank ws' →
    Writes (.members ((k, j) :: ms))
      (ws ++ quoted k ++ style.memberSeparator.toList ++ cs ++ ds ++ ws')
  | [] => by
    rintro - ds ⟨⟩ j ws cs ws' hws hj hws'
    obtain ⟨vs, hvs, hvblank⟩ := hstyle.member
    have hmember := Writes.member hws (chars_flatMap k.toList) blank_nil (.element hvblank hj hws')
    rw [String.ofList_toList] at hmember
    rw [hvs]
    simpa [quoted] using hmember
  | (k', j') :: ms => by
    intro hfinite ds h j ws cs ws' hws hj hws'
    obtain ⟨hj', hms⟩ := List.forall_mem_append.mp hfinite
    obtain ⟨first, hfirst, h⟩ := exists_of_bind_eq_ok h
    obtain ⟨rest, hrest, h⟩ := exists_of_bind_eq_ok h
    cases h
    obtain ⟨us, hus, hublank⟩ := hstyle.item
    obtain ⟨vs, hvs, hvblank⟩ := hstyle.member
    have hmembers := writes_members hstyle depth k' ms hms rest hrest
      (blank_append hublank (blank_lineBreak style depth))
      (writes_render hstyle depth j' hj' first hfirst) hws'
    have hmember := Writes.members hws (chars_flatMap k.toList) blank_nil
      (writes_value hvblank hj) hmembers
    rw [String.ofList_toList] at hmember
    rw [hus]
    rw [hvs] at hmember ⊢
    simpa [quoted] using hmember

end

end Writes

/-! ## Documents -/

/-- A document is printed unless one of its leaves is refused. -/
theorem print_cases (style : Style) (j : Json) :
    (∃ s, print style j = .ok s ∧ ∀ l ∈ j.leaves, ∀ e, ¬Refuses style l e) ∨
      ∃ l ∈ j.leaves, ∃ e, print style j = .error e ∧ Refuses style l e := by
  have h : Outcome style j.leaves (render style 0 j) := outcome_render 0 j
  unfold print
  revert h
  generalize render style 0 j = r
  intro h
  cases h with
  | text h => exact .inl ⟨_, rfl, h⟩
  | failure hl h => exact .inr ⟨_, hl, _, rfl, h⟩

lemma exists_print_iff {style : Style} {j : Json} :
    (∃ s, print style j = .ok s) ↔ ∀ l ∈ j.leaves, ∀ e, ¬Refuses style l e := by
  rcases print_cases style j with ⟨s, hs, h⟩ | ⟨l, hl, e, he, h⟩
  · exact ⟨fun _ => h, fun _ => ⟨s, hs⟩⟩
  · constructor
    · rintro ⟨s, hs⟩
      cases hs.symm.trans he
    · intro hall
      exact absurd h (hall l hl e)

/-- What has a text in one style has one in any other, unless only the other one is strict and a
number is not finite. -/
lemma exists_print_of {style style' : Style} {j : Json}
    (h : style'.strict = true → style.strict = true ∨ j.Finite) (hs : ∃ s, print style j = .ok s) :
    ∃ s, print style' j = .ok s := by
  rw [exists_print_iff] at hs ⊢
  intro l hl e he
  refine hs l hl e (he.imp ?_)
  rintro x rfl hx hstrict
  rcases h hstrict with hstrict | hj
  · exact hstrict
  · exact absurd (hj _ hl) (by simp [hx])

/-- What a strict style makes of a document that has a text, but not only finite numbers. -/
lemma print_of_not_finite {style strict : Style} {j : Json} (hj : ¬j.Finite)
    (hstrict : strict.strict = true) (h : ∃ s, print style j = .ok s) :
    print strict j = .error .notFinite := by
  have hall := exists_print_iff.mp h
  rcases print_cases strict j with ⟨s, -, hnone⟩ | ⟨l, hl, e, he, hrefused⟩
  · refine absurd (fun l hl => ?_) hj
    cases l with
    | float x =>
      by_contra hinfinite
      exact hnone _ hl _ (.notFinite hstrict (by simpa using hinfinite))
    | _ => trivial
  · cases hrefused with
    | tooManyDigits hlong => exact absurd (.tooManyDigits hlong) (hall _ hl _)
    | notFinite _ _ => exact he

/-- A document whose numbers are finite and short has a text in every style. -/
lemma exists_print {style : Style} {j : Json} (hfinite : j.Finite) (hshort : j.Short) :
    ∃ s, print style j = .ok s := by
  rw [exists_print_iff]
  intro l hl e he
  cases he with
  | tooManyDigits hlong => exact absurd hlong (Nat.not_le.mpr (hshort _ hl))
  | notFinite _ hx => exact absurd (hfinite _ hl) (by simp [hx])

/-- The text of a document writes it. -/
theorem text_of_print {style : Style} (hstyle : style.Regular) {j : Json} {s : String}
    (hj : j.Finite) (h : print style j = .ok s) : Text j s := by
  unfold print at h
  cases hr : render style 0 j with
  | error e =>
    rw [hr] at h
    cases h
  | ok cs =>
    rw [hr] at h
    cases h
    have hvalue := writes_render hstyle 0 j hj cs hr
    have helement := writes_value blank_nil hvalue
    unfold Text
    rwa [String.toList_ofList]

/-- The text of a document is read as the document. -/
theorem parse_of_print {style : Style} (hstyle : style.Regular) {j : Json} {s : String}
    (hj : j.Finite) (h : print style j = .ok s) : parse s = some j :=
  parse_of_text (text_of_print hstyle hj h)

end MetricsAgent.Json
