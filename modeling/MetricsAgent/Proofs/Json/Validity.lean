import Mathlib.Data.Bool.AllAny
import MetricsAgent.Proofs.Json.Printing

/-!
# Which printed texts are JSON

A style that does not refuse numbers that are not finite writes words for them that JSON does not
have.  What is printed is therefore JSON exactly if all numbers are finite, and then it is the printed
document that it writes (`text_iff_of_print`).  The words cannot be hidden: they stand outside of
strings, where no text that writes a document has the letters that they begin with (`clear_of_writes`).
Reading would not tell them apart from a number beyond the range of values, such as `1e999`.

Both this and that a flat style prints no control characters (`printable_of_print`) are facts about a
text and the leaves in it, put together along the document (`Assembles`).
-/

namespace MetricsAgent.Json

open CharClass

/-! ## Texts put together -/

section Assembles

variable {style : Style} {R : List Json → List Char → Prop}

/-- What a style writes around the leaves of a document. -/
inductive Style.Mark (style : Style) : List Char → Prop
  | nothing : Mark style []
  | openItems : Mark style ['[']
  | closeItems : Mark style [']']
  | openMembers : Mark style ['\x7b']
  | closeMembers : Mark style ['\x7d']
  | item : Mark style style.itemSeparator.toList
  | member : Mark style style.memberSeparator.toList
  | lineBreak (depth : ℕ) : Mark style (style.lineBreak depth)
  | name (k : String) : Mark style (quoted k)

/-- The text of a leaf. -/
inductive Style.LeafText (style : Style) : Json → List Char → Prop
  | null : LeafText style .null "null".toList
  | true : LeafText style (.bool true) "true".toList
  | false : LeafText style (.bool false) "false".toList
  | int {n : ℤ} {s : String} (h : intText n = .ok s) : LeafText style (.int n) s.toList
  | float {x : Binary64} {s : String} (h : floatText style x = .ok s) :
    LeafText style (.float x) s.toList
  | string (s : String) : LeafText style (.string s) (quoted s)

/-- What holds between the leaves of a document and its text once it holds of each leaf, of the marks
around them, and of two parts one after the other. -/
structure Assembles (style : Style) (R : List Json → List Char → Prop) : Prop where
  mark {cs : List Char} (h : style.Mark cs) : R [] cs
  leaf {l : Json} {cs : List Char} (h : style.LeafText l cs) : R [l] cs
  append {ls ls' : List Json} {cs ds : List Char} (h : R ls cs) (h' : R ls' ds) :
    R (ls ++ ls') (cs ++ ds)

namespace Assembles

variable (hR : Assembles style R)

include hR

lemma before {ls : List Json} {cs ds : List Char} (h : style.Mark cs) (h' : R ls ds) :
    R ls (cs ++ ds) :=
  hR.append (hR.mark h) h'

lemma behind {ls : List Json} {cs ds : List Char} (h : R ls cs) (h' : style.Mark ds) :
    R ls (cs ++ ds) := by
  simpa using hR.append h (hR.mark h')

mutual

lemma render (depth : ℕ) : (j : Json) → ∀ cs, Json.render style depth j = .ok cs → R j.leaves cs
  | .null => by
    rintro cs ⟨⟩
    exact hR.leaf .null
  | .bool true => by
    rintro cs ⟨⟩
    exact hR.leaf .true
  | .bool false => by
    rintro cs ⟨⟩
    exact hR.leaf .false
  | .int n => by
    intro cs h
    obtain ⟨s, hs, rfl⟩ := eq_of_map_eq_ok h
    exact hR.leaf (.int hs)
  | .float x => by
    intro cs h
    obtain ⟨s, hs, rfl⟩ := eq_of_map_eq_ok h
    exact hR.leaf (.float hs)
  | .string s => by
    rintro cs ⟨⟩
    exact hR.leaf (.string s)
  | .array [] => by
    rintro cs ⟨⟩
    exact hR.before .openItems (hR.mark .closeItems)
  | .array (j :: js) => by
    intro cs h
    obtain ⟨first, hfirst, h⟩ := exists_of_bind_eq_ok h
    obtain ⟨rest, hrest, h⟩ := exists_of_bind_eq_ok h
    cases h
    have hitems := hR.append (render (depth + 1) j first hfirst)
      (items (depth + 1) js rest hrest)
    have hclosed := hR.behind (hR.behind hitems (.lineBreak depth)) .closeItems
    simpa [leaves, itemLeaves] using hR.before .openItems
      (hR.before (.lineBreak (depth + 1)) hclosed)
  | .object [] => by
    rintro cs ⟨⟩
    exact hR.before .openMembers
      (hR.mark .closeMembers)
  | .object ((k, j) :: ms) => by
    intro cs h
    obtain ⟨first, hfirst, h⟩ := exists_of_bind_eq_ok h
    obtain ⟨rest, hrest, h⟩ := exists_of_bind_eq_ok h
    cases h
    have hmembers := hR.append (render (depth + 1) j first hfirst)
      (members (depth + 1) ms rest hrest)
    have hclosed := hR.behind (hR.behind hmembers (.lineBreak depth)) .closeMembers
    simpa [leaves, memberLeaves] using hR.before .openMembers
      (hR.before (.lineBreak (depth + 1)) (hR.before (.name k) (hR.before .member hclosed)))

lemma items (depth : ℕ) : (js : List Json) →
    ∀ cs, renderItems style depth js = .ok cs → R (itemLeaves js) cs
  | [] => by
    rintro cs ⟨⟩
    exact hR.mark .nothing
  | j :: js => by
    intro cs h
    obtain ⟨first, hfirst, h⟩ := exists_of_bind_eq_ok h
    obtain ⟨rest, hrest, h⟩ := exists_of_bind_eq_ok h
    cases h
    have hitems := hR.append (render depth j first hfirst) (items depth js rest hrest)
    simpa [itemLeaves] using hR.before .item (hR.before (.lineBreak depth) hitems)

lemma members (depth : ℕ) : (ms : List (String × Json)) →
    ∀ cs, renderMembers style depth ms = .ok cs → R (memberLeaves ms) cs
  | [] => by
    rintro cs ⟨⟩
    exact hR.mark .nothing
  | (k, j) :: ms => by
    intro cs h
    obtain ⟨first, hfirst, h⟩ := exists_of_bind_eq_ok h
    obtain ⟨rest, hrest, h⟩ := exists_of_bind_eq_ok h
    cases h
    have hmembers := hR.append (render depth j first hfirst) (members depth ms rest hrest)
    simpa [memberLeaves] using hR.before .item (hR.before (.lineBreak depth)
      (hR.before (.name k) (hR.before .member hmembers)))

end

/-- What is assembled holds of the text of a document. -/
lemma print {j : Json} {s : String} (h : Json.print style j = .ok s) : R j.leaves s.toList := by
  obtain ⟨cs, hcs, rfl⟩ := eq_of_map_eq_ok h
  rw [String.toList_ofList]
  exact hR.render 0 j cs hcs

end Assembles

end Assembles

/-! ## Words for numbers -/

/-- The words for numbers that are not finite. -/
lemma render_of_not_finite {x : Binary64} (hx : ¬x.isFinite = true) :
    numberStyle.render x ∈ ["NaN", "Infinity", "-Infinity"] := by
  cases x with
  | nan => decide
  | infinite negative => cases negative <;> decide
  | finite => exact absurd rfl hx

/-! ## Characters of numbers -/

/-- The characters that numbers are written with. -/
def IsNumeric (c : Char) : Prop :=
  isAsciiDigit c = true ∨ c ∈ ['-', '+', '.', 'e', 'E']

lemma Digits.numeric {ds : List Char} (h : Digits ds) : ∀ c ∈ ds, IsNumeric c :=
  fun c hc => .inl (h.digit c hc)

lemma numeric_minus (negative : Bool) : ∀ c ∈ minus negative, IsNumeric c := by
  cases negative
  · exact nofun
  · exact List.forall_mem_singleton.mpr (.inr (by decide))

lemma Fraction.numeric {part : Option (List Char)} {ps : List Char} (h : Fraction part ps) :
    ∀ c ∈ ps, IsNumeric c := by
  cases h with
  | absent => exact nofun
  | present h => exact List.forall_mem_cons.mpr ⟨.inr (by decide), h.numeric⟩

lemma Exponent.numeric {k : Option ℤ} {es : List Char} (h : Exponent k es) :
    ∀ c ∈ es, IsNumeric c := by
  have hmark {c : Char} (hc : c = 'e' ∨ c = 'E') : IsNumeric c := by
    rcases hc with rfl | rfl <;> exact .inr (by decide)
  cases h with
  | absent => exact nofun
  | unsigned hc h => exact List.forall_mem_cons.mpr ⟨hmark hc, h.numeric⟩
  | plus hc h =>
    exact List.forall_mem_cons.mpr ⟨hmark hc, List.forall_mem_cons.mpr ⟨.inr (by decide), h.numeric⟩⟩
  | minus hc h =>
    exact List.forall_mem_cons.mpr ⟨hmark hc, List.forall_mem_cons.mpr ⟨.inr (by decide), h.numeric⟩⟩

lemma NumberText.numeric {j : Json} {cs : List Char} (h : NumberText j cs) :
    ∀ c ∈ cs, IsNumeric c := by
  cases h with
  | int negative h => exact List.forall_mem_append.mpr ⟨numeric_minus negative, h.toDigits.numeric⟩
  | float negative h hpart hexponent _ =>
    exact List.forall_mem_append.mpr ⟨numeric_minus negative, List.forall_mem_append.mpr
      ⟨List.forall_mem_append.mpr ⟨h.toDigits.numeric, hpart.numeric⟩, hexponent.numeric⟩⟩

/-! ## No control characters -/

/-- A text without control characters. -/
def Printable (cs : List Char) : Prop :=
  ∀ c ∈ cs, 32 ≤ c.toNat

instance : DecidablePred Printable :=
  List.decidableBAll _

lemma Printable.append {cs ds : List Char} (h : Printable cs) (h' : Printable ds) :
    Printable (cs ++ ds) :=
  List.forall_mem_append.mpr ⟨h, h'⟩

lemma IsNumeric.printable {c : Char} (h : IsNumeric c) : 32 ≤ c.toNat := by
  rcases h with h | h
  · unfold isAsciiDigit at h
    simp only [Char.le_def, UInt32.le_iff_toNat_le, Bool.and_eq_true, decide_eq_true_eq] at h
    have hlow : 48 ≤ c.toNat := h.1
    omega
  · have hall : ∀ c ∈ ['-', '+', '.', 'e', 'E'], 32 ≤ c.toNat :=
      List.all_iff_forall_prop.mp (by decide)
    exact hall c h

/-- Everything on one line, with separators that hold no control characters. -/
structure Style.Flat (style : Style) : Prop where
  lineBreak (depth : ℕ) : style.lineBreak depth = []
  item : Printable style.itemSeparator.toList
  member : Printable style.memberSeparator.toList

lemma flat_spaced : spaced.Flat :=
  ⟨fun _ => rfl, by decide, by decide⟩

lemma printable_control : ∀ n < 32,
    Printable ['\\', 'u', '0', '0', Nat.digitChar (n / 16), Nat.digitChar (n % 16)] := by
  decide

lemma printable_escape (c : Char) : Printable (escape c) := by
  unfold escape
  split_ifs with _ _ _ _ _ _ _ hcontrol
  all_goals first
    | exact printable_control _ hcontrol
    | exact List.forall_mem_singleton.mpr (Nat.not_lt.mp hcontrol)
    | decide

lemma printable_quoted (s : String) : Printable (quoted s) := by
  have hbody : Printable (s.toList.flatMap escape) := by
    intro c hc
    obtain ⟨d, -, hd⟩ := List.mem_flatMap.mp hc
    exact printable_escape d c hd
  exact .append (List.forall_mem_cons.mpr ⟨by decide, hbody⟩) (by decide)

lemma printable_leafText {style : Style} {l : Json} {cs : List Char} (h : style.LeafText l cs) :
    Printable cs := by
  cases h with
  | int h =>
    rw [(of_intText h).2]
    exact fun c hc => ((numberText_int _).numeric c hc).printable
  | @float x s h =>
    rw [of_floatText h]
    by_cases hx : x.isFinite = true
    · exact fun c hc => ((numberText_float hx).numeric c hc).printable
    · have hwords : ∀ t ∈ ["NaN", "Infinity", "-Infinity"], Printable t.toList := by decide
      exact hwords _ (render_of_not_finite hx)
  | string s => exact printable_quoted s
  | _ => decide

lemma assembles_printable {style : Style} (hstyle : style.Flat) :
    Assembles style fun _ cs => Printable cs where
  mark h := by
    cases h with
    | nothing => exact nofun
    | item => exact hstyle.item
    | member => exact hstyle.member
    | lineBreak depth =>
      rw [hstyle.lineBreak depth]
      exact nofun
    | name k => exact printable_quoted k
    | _ => decide
  leaf h := printable_leafText h
  append h h' := h.append h'

/-- What is printed on one line holds no control characters. -/
theorem printable_of_print {style : Style} (hstyle : style.Flat) {j : Json} {s : String}
    (h : print style j = .ok s) : Printable s.toList :=
  (assembles_printable hstyle).print h

/-! ## Outside of strings -/

/-- Where a text is read: outside of strings, in a string, or in a string behind a backslash. -/
inductive Place
  | outside
  | inside
  | escaped
  deriving DecidableEq

namespace Place

/-- The place behind a character. -/
def next : Place → Char → Place
  | .outside, c => if c = '"' then .inside else .outside
  | .inside, c => if c = '"' then .outside else if c = '\\' then .escaped else .inside
  | .escaped, _ => .inside

/-- The place behind a text. -/
def after (p : Place) (cs : List Char) : Place :=
  cs.foldl next p

/-- The characters of a text that stand outside of strings. -/
def bare : Place → List Char → List Char
  | _, [] => []
  | p, c :: cs => (if p = .outside then [c] else []) ++ (p.next c).bare cs

lemma after_cons (p : Place) (c : Char) (cs : List Char) :
    p.after (c :: cs) = (p.next c).after cs := rfl

lemma after_append (p : Place) (cs ds : List Char) :
    p.after (cs ++ ds) = (p.after cs).after ds := by
  rw [after, List.foldl_append]
  rfl

lemma bare_append (p : Place) (cs ds : List Char) :
    p.bare (cs ++ ds) = p.bare cs ++ (p.after cs).bare ds := by
  induction cs generalizing p with
  | nil => rfl
  | cons c cs ih => rw [List.cons_append, bare, bare, ih, after_cons, List.append_assoc]

/-- The reader stays in the string, and so nothing of the text stands outside. -/
structure Stays (cs : List Char) : Prop where
  after : inside.after cs = inside
  bare : inside.bare cs = []

lemma Stays.append {cs ds : List Char} (h : Stays cs) (h' : Stays ds) : Stays (cs ++ ds) := by
  constructor
  · rw [after_append, h.after, h'.after]
  · rw [bare_append, h.bare, h.after, h'.bare, List.append_nil]

lemma stays_plain {cs : List Char} (h : ∀ c ∈ cs, c ≠ '"' ∧ c ≠ '\\') : Stays cs := by
  induction cs with
  | nil => exact ⟨rfl, rfl⟩
  | cons c cs ih =>
    obtain ⟨⟨hquote, hescape⟩, hrest⟩ := List.forall_mem_cons.mp h
    have hnext : inside.next c = inside := by simp [next, hquote, hescape]
    constructor
    · rw [after_cons, hnext, (ih hrest).after]
    · rw [Place.bare, hnext, (ih hrest).bare]
      rfl

lemma stays_escape (e : Char) : Stays ['\\', e] :=
  ⟨rfl, rfl⟩

lemma hexUnit_plain {u : List Char} {n : ℕ} (h : hexUnit? u = some (n, [])) :
    ∀ c ∈ u, c ≠ '"' ∧ c ≠ '\\' := by
  unfold hexUnit? at h
  split at h
  · rename_i a b c d rest
    split at h
    · next hall =>
      obtain ⟨-, rfl⟩ := Prod.mk.inj (Option.some.inj h)
      intro x hx
      have hdigit := List.all_eq_true.mp hall x hx
      constructor <;> (rintro rfl; cases hdigit)
    · cases h
  · cases h

lemma stays_unit {u : List Char} {n : ℕ} (h : hexUnit? u = some (n, [])) :
    Stays ('\\' :: 'u' :: u) :=
  (stays_escape 'u').append (stays_plain (hexUnit_plain h))

lemma stays_chars {s cs : List Char} (h : Chars s cs) : Stays cs := by
  induction h with
  | nil => exact ⟨rfl, rfl⟩
  | @plain c s cs hquote hescape _ _ ih =>
    exact (stays_plain (List.forall_mem_singleton.mpr ⟨hquote, hescape⟩)).append ih
  | @escape e c s cs _ _ ih => exact (stays_escape e).append ih
  | unit h _ _ _ ih => exact (stays_unit h).append ih
  | pair hu hv _ _ _ ih => simpa using (stays_unit hu).append ((stays_unit hv).append ih)

end Place

/-- A text without open strings. -/
def Closed (cs : List Char) : Prop :=
  Place.outside.after cs = .outside

/-- A text without open strings and, outside of them, without the letters that the words for numbers
that are not finite begin with. -/
structure Clear (cs : List Char) : Prop where
  closed : Closed cs
  bare : ∀ c ∈ Place.outside.bare cs, c ≠ 'N' ∧ c ≠ 'I'

instance : DecidablePred Closed :=
  fun cs => inferInstanceAs (Decidable (Place.outside.after cs = .outside))

instance : DecidablePred Clear :=
  fun cs =>
    have := List.decidableBAll (fun c => c ≠ 'N' ∧ c ≠ 'I') (Place.outside.bare cs)
    decidable_of_iff (Closed cs ∧ ∀ c ∈ Place.outside.bare cs, c ≠ 'N' ∧ c ≠ 'I')
      ⟨fun h => ⟨h.1, h.2⟩, fun h => ⟨h.1, h.2⟩⟩

lemma Closed.append {cs ds : List Char} (h : Closed cs) (h' : Closed ds) : Closed (cs ++ ds) := by
  rw [Closed, Place.after_append, h, h']

lemma bare_append {cs ds : List Char} (h : Closed cs) :
    Place.outside.bare (cs ++ ds) = Place.outside.bare cs ++ Place.outside.bare ds := by
  rw [Place.bare_append, h]

/-- Two closed texts are clear together if each of them is. -/
lemma clear_append {cs ds : List Char} (h : Closed cs) (h' : Closed ds) :
    Clear (cs ++ ds) ↔ Clear cs ∧ Clear ds := by
  constructor
  · rintro ⟨-, hbare⟩
    rw [bare_append h, List.forall_mem_append] at hbare
    exact ⟨⟨h, hbare.1⟩, ⟨h', hbare.2⟩⟩
  · rintro ⟨hcs, hds⟩
    refine ⟨h.append h', ?_⟩
    rw [bare_append h, List.forall_mem_append]
    exact ⟨hcs.bare, hds.bare⟩

lemma Clear.append {cs ds : List Char} (h : Clear cs) (h' : Clear ds) : Clear (cs ++ ds) :=
  (clear_append h.closed h'.closed).mpr ⟨h, h'⟩

lemma Clear.cons {c : Char} {cs : List Char} (h : Clear [c]) (h' : Clear cs) : Clear (c :: cs) :=
  h.append h'

lemma clear_char {c : Char} (hquote : c ≠ '"') (hN : c ≠ 'N') (hI : c ≠ 'I') : Clear [c] := by
  refine ⟨if_neg hquote, ?_⟩
  exact List.forall_mem_singleton.mpr ⟨hN, hI⟩

lemma clear_nil : Clear [] :=
  ⟨rfl, nofun⟩

/-- A text of characters each of which is clear. -/
lemma clear_of_forall {cs : List Char} (h : ∀ c ∈ cs, Clear [c]) : Clear cs := by
  induction cs with
  | nil => exact clear_nil
  | cons c cs ih =>
    obtain ⟨hc, hcs⟩ := List.forall_mem_cons.mp h
    exact hc.cons (ih hcs)

lemma clear_string {s cs : List Char} (h : Chars s cs) : Clear ('"' :: cs ++ ['"']) := by
  have hstays := Place.stays_chars h
  have hbare : Place.outside.bare ('"' :: cs ++ ['"']) = ['"'] := by
    rw [List.cons_append, Place.bare, if_pos rfl]
    show ['"'] ++ Place.inside.bare (cs ++ ['"']) = _
    rw [Place.bare_append, hstays.bare, hstays.after]
    rfl
  constructor
  · rw [Closed, Place.after_append, Place.after_cons]
    show (Place.inside.after cs).after ['"'] = _
    rw [hstays.after]
    rfl
  · rw [hbare]
    exact List.forall_mem_singleton.mpr (by decide)

/-! ## What writes a document is clear -/

lemma IsNumeric.clear {c : Char} (h : IsNumeric c) : Clear [c] := by
  rcases h with h | h
  · refine clear_char ?_ ?_ ?_ <;> (rintro rfl; cases h)
  · have hall : ∀ c ∈ ['-', '+', '.', 'e', 'E'], Clear [c] :=
      List.all_iff_forall_prop.mp (by decide)
    exact hall c h

lemma clear_number {j : Json} {cs : List Char} (h : NumberText j cs) : Clear cs :=
  clear_of_forall fun c hc => (h.numeric c hc).clear

lemma clear_blank {ws : List Char} (h : Blank ws) : Clear ws := by
  refine clear_of_forall fun c hc => ?_
  have hspace := h c hc
  refine clear_char ?_ ?_ ?_ <;> (rintro rfl; cases hspace)

/-- The marks around the values of a document. -/
lemma clear_mark {c : Char} (h : c ∈ [',', ':', '[', ']', '\x7b', '\x7d']) : Clear [c] := by
  have hall : ∀ c ∈ [',', ':', '[', ']', '\x7b', '\x7d'], Clear [c] :=
    List.all_iff_forall_prop.mp (by decide)
  exact hall c h

/-- A text that writes a part of a document is clear. -/
lemma clear_of_writes {p : Part} {cs : List Char} (h : Writes p cs) : Clear cs := by
  induction h with
  | null | true | false => decide
  | number h => exact clear_number h
  | string h => exact clear_string h
  | emptyArray h =>
    exact ((clear_mark (by decide)).append (clear_blank h)).append (clear_mark (by decide))
  | array _ ih => exact ((clear_mark (by decide)).append ih).append (clear_mark (by decide))
  | emptyObject h =>
    exact ((clear_mark (by decide)).append (clear_blank h)).append (clear_mark (by decide))
  | object _ ih => exact ((clear_mark (by decide)).append ih).append (clear_mark (by decide))
  | element hbefore _ hbehind ih =>
    exact ((clear_blank hbefore).append ih).append (clear_blank hbehind)
  | item _ ih => exact ih
  | items _ _ ih ih' => exact ih.append (.cons (clear_mark (by decide)) ih')
  | member hbefore hname hbehind _ ih =>
    have hvalue : Clear (':' :: _) := .cons (clear_mark (by decide)) ih
    simpa using (clear_blank hbefore).append
      ((clear_string hname).append ((clear_blank hbehind).append hvalue))
  | members hbefore hname hbehind _ _ ih ih' =>
    have hrest : Clear (',' :: _) := .cons (clear_mark (by decide)) ih'
    have hvalue : Clear (':' :: _) := .cons (clear_mark (by decide)) (ih.append hrest)
    simpa using (clear_blank hbefore).append
      ((clear_string hname).append ((clear_blank hbehind).append hvalue))

/-! ## What is printed is clear only if it is finite -/

/-- All strings are closed, and the text is clear only if the numbers are finite. -/
structure Reveals (ls : List Json) (cs : List Char) : Prop where
  closed : Closed cs
  finite : Clear cs → ∀ l ∈ ls, FiniteLeaf l

lemma Clear.reveals {l : Json} {cs : List Char} (h : Clear cs) (hl : FiniteLeaf l) :
    Reveals [l] cs :=
  ⟨h.closed, fun _ => List.forall_mem_singleton.mpr hl⟩

lemma reveals_leafText {style : Style} {l : Json} {cs : List Char} (h : style.LeafText l cs) :
    Reveals [l] cs := by
  cases h with
  | null | true | false => exact Clear.reveals (by decide) trivial
  | int h =>
    rw [(of_intText h).2]
    exact (clear_number (numberText_int _)).reveals trivial
  | @float x s h =>
    rw [of_floatText h]
    by_cases hx : x.isFinite = true
    · exact (clear_number (numberText_float hx)).reveals hx
    · have hwords : ∀ t ∈ ["NaN", "Infinity", "-Infinity"],
          Closed t.toList ∧ ¬Clear t.toList := by
        decide
      obtain ⟨hclosed, hnot⟩ := hwords _ (render_of_not_finite hx)
      exact ⟨hclosed, fun hclear => absurd hclear hnot⟩
  | string s => exact (clear_string (chars_flatMap s.toList)).reveals trivial

lemma closed_mark {style : Style} (hstyle : style.Regular) {cs : List Char} (h : style.Mark cs) :
    Closed cs := by
  have hseparator {c : Char} {t : String} (hc : c ∈ [',', ':', '[', ']', '\x7b', '\x7d'])
      (ht : ∃ ws, t.toList = c :: ws ∧ Blank ws) : Closed t.toList := by
    obtain ⟨ws, ht, hws⟩ := ht
    rw [ht]
    exact ((clear_mark hc).cons (clear_blank hws)).closed
  cases h with
  | item => exact hseparator (by decide) hstyle.item
  | member => exact hseparator (by decide) hstyle.member
  | lineBreak depth => exact (clear_blank (blank_lineBreak style depth)).closed
  | name k => exact (clear_string (chars_flatMap k.toList)).closed
  | _ => rfl

lemma assembles_reveals {style : Style} (hstyle : style.Regular) : Assembles style Reveals where
  mark h := ⟨closed_mark hstyle h, nofun⟩
  leaf h := reveals_leafText h
  append h h' := by
    refine ⟨h.closed.append h'.closed, fun hclear => ?_⟩
    obtain ⟨hcs, hds⟩ := (clear_append h.closed h'.closed).mp hclear
    exact List.forall_mem_append.mpr ⟨h.finite hcs, h'.finite hds⟩

/-- The text of a document is JSON exactly if all numbers are finite, and then it writes this document
and no other. -/
theorem text_iff_of_print {style : Style} (hstyle : style.Regular) {j j' : Json} {s : String}
    (h : print style j = .ok s) : Text j' s ↔ j' = j ∧ j.Finite := by
  constructor
  · intro htext
    have hfinite : j.Finite := ((assembles_reveals hstyle).print h).finite (clear_of_writes htext)
    have hparse := parse_of_text htext
    rw [parse_of_print hstyle hfinite h] at hparse
    exact ⟨(Option.some.inj hparse).symm, hfinite⟩
  · rintro ⟨rfl, hfinite⟩
    exact text_of_print hstyle hfinite h

end MetricsAgent.Json
