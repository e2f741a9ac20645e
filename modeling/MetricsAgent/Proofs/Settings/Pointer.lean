import Mathlib.Data.List.TakeWhile
import Mathlib.Tactic.IntervalCases
import MetricsAgent.Settings.Error
import MetricsAgent.Yaml.TokenStream

/-!
# The pointer under a line

The error for a document shows the line of the text in which the problem stands and a pointer under
it (`SettingsError.pointer_ofDocument`).  Two notions of a line meet there.  The place of the problem
comes from a cursor, which counts the line breaks of the language; the line shown comes from cutting
the text at every character that may end a line, and those are more.  Both agree with the relation
`Yaml.StandsAt`, which cuts the text where a line ends and measures the place from there: in a text
that a document may consist of, none of the further characters occurs.
-/

namespace MetricsAgent

namespace Yaml

/-! ## Where a place stands -/

/-- What ends a line, and the text behind it. -/
inductive Ending : List Char → List Char → Prop
  | pair (rest : List Char) : Ending ['\r', '\n'] rest
  | lone {rest : List Char} (h : rest.head? ≠ some '\n') : Ending ['\r'] rest
  | single {c : Char} (hc : c ∈ ['\n', '\x85', '\u2028', '\u2029']) (rest : List Char) :
      Ending [c] rest

/-- The place behind so many characters of a text is on the line of that number, which is the given
one, and so many characters behind its beginning.  What ends a line belongs to it. -/
inductive StandsAt : List Char → ℕ → ℕ → List Char → ℕ → Prop
  | last {line : List Char} {n : ℕ} (hfree : ∀ c ∈ line, isBreak c = false)
      (hn : n ≤ line.length) : StandsAt line n 0 line n
  | here {line ending rest : List Char} {n : ℕ} (hfree : ∀ c ∈ line, isBreak c = false)
      (hend : Ending ending rest) (hn : n < line.length + ending.length) :
      StandsAt (line ++ (ending ++ rest)) n 0 line n
  | later {line ending rest line' : List Char} {n number offset : ℕ}
      (hfree : ∀ c ∈ line, isBreak c = false) (hend : Ending ending rest)
      (h : StandsAt rest n number line' offset) :
      StandsAt (line ++ (ending ++ rest)) (line.length + ending.length + n) (number + 1) line' offset

lemma Ending.length_pos {ending rest : List Char} (h : Ending ending rest) : 0 < ending.length := by
  cases h <;> exact Nat.succ_pos _

/-- A text that starts with a line break starts with the ending of a line. -/
lemma exists_ending {c : Char} (rest : List Char) (hc : isBreak c = true) :
    ∃ ending rest', c :: rest = ending ++ rest' ∧ Ending ending rest' := by
  by_cases hr : c = '\r'
  · subst hr
    by_cases hn : rest.head? = some '\n'
    · obtain ⟨tail, rfl⟩ := List.head?_eq_some_iff.mp hn
      exact ⟨['\r', '\n'], tail, rfl, .pair tail⟩
    · exact ⟨['\r'], rest, rfl, .lone hn⟩
  · refine ⟨[c], rest, rfl, .single ?_ rest⟩
    simpa [isBreak, hr, or_assoc] using hc

/-- Every place in a text stands on a line. -/
lemma exists_standsAt (text : List Char) {n : ℕ} (hn : n ≤ text.length) :
    ∃ number line offset, StandsAt text n number line offset := by
  induction hlen : text.length using Nat.strong_induction_on generalizing text n with
  | _ length ih =>
    subst hlen
    let line := text.takeWhile (!isBreak ·)
    have hfree : ∀ c ∈ line, isBreak c = false := fun c hc => by
      simpa using List.mem_takeWhile_imp hc
    have hcut : line ++ text.dropWhile (!isBreak ·) = text := List.takeWhile_append_dropWhile
    rcases hrest : text.dropWhile (!isBreak ·) with _ | ⟨c, rest⟩
    · rw [hrest, List.append_nil] at hcut
      rw [← hcut] at hn ⊢
      exact ⟨0, line, n, .last hfree hn⟩
    · have hc : isBreak c = true := by
        simpa [hrest] using List.head?_dropWhile_not (!isBreak ·) text
      obtain ⟨ending, rest', hsplit, hend⟩ := exists_ending rest hc
      rw [hrest, hsplit] at hcut
      rw [← hcut] at hn ih ⊢
      rw [List.length_append, List.length_append] at hn
      by_cases hhere : n < line.length + ending.length
      · exact ⟨0, line, n, .here hfree hend hhere⟩
      · obtain ⟨m, rfl⟩ := Nat.exists_eq_add_of_le (Nat.le_of_not_lt hhere)
        obtain ⟨number, line', offset, h⟩ := ih rest'.length
          (by simp only [List.length_append]; have := hend.length_pos; omega) rest'
          (by omega : m ≤ rest'.length) rfl
        exact ⟨number + 1, line', offset, .later hfree hend h⟩

/-! ## The cursor -/

namespace Cursor

lemma skip_add (c : Cursor) (a b : ℕ) : c.skip (a + b) = (c.skip a).skip b := by
  induction a generalizing c with
  | zero => rw [Nat.zero_add, skip]
  | succ a ih => rw [Nat.succ_add, skip, skip, ih]

/-- A character that ends no line moves the cursor by one column. -/
lemma next_of_not_break {ch : Char} (rest : List Char) (m : Mark) (hbreak : isBreak ch = false)
    (hmark : ch ≠ '\uFEFF') :
    Cursor.next ⟨ch :: rest, m⟩ = ⟨rest, ⟨m.index + 1, m.line, m.column + 1⟩⟩ := by
  simp only [isBreak, Bool.or_eq_false_iff] at hbreak
  obtain ⟨⟨⟨⟨hr, hn⟩, h85⟩, h28⟩, h29⟩ := hbreak
  simp [next, Mark.after, hr, hn, h85, h28, h29, hmark]

lemma skip_of_not_break {line : List Char} (rest : List Char) (m : Mark) {n : ℕ}
    (hfree : ∀ c ∈ line, isBreak c = false) (hmark : '\uFEFF' ∉ line) (hn : n ≤ line.length) :
    Cursor.skip ⟨line ++ rest, m⟩ n = ⟨line.drop n ++ rest, ⟨m.index + n, m.line, m.column + n⟩⟩ := by
  induction n generalizing line m with
  | zero => rfl
  | succ n ih =>
    rcases line with _ | ⟨ch, line⟩
    · cases hn
    · rw [List.mem_cons, not_or] at hmark
      rw [skip, List.cons_append,
        next_of_not_break _ _ (hfree ch List.mem_cons_self) (Ne.symm hmark.1),
        ih _ (fun c hc => hfree c (List.mem_cons_of_mem _ hc)) hmark.2 (Nat.le_of_succ_le_succ hn)]
      simp only [List.drop_succ_cons, Cursor.mk.injEq, Mark.mk.injEq, true_and]
      omega

/-- What ends a line takes the cursor to the beginning of the next one. -/
lemma skip_ending {ending rest : List Char} (h : Ending ending rest) (m : Mark) :
    Cursor.skip ⟨ending ++ rest, m⟩ ending.length
      = ⟨rest, ⟨m.index + ending.length, m.line + 1, 0⟩⟩ := by
  cases h with
  | pair => rfl
  | lone hnext =>
    have hn : (rest.headD '\x00' != '\n') = true := by
      cases rest with
      | nil => rfl
      | cons c rest => simpa using hnext
    show Cursor.next ⟨'\r' :: rest, m⟩ = _
    simp only [next, Cursor.Mark.after, hn]
    rfl
  | single hc =>
    simp only [List.mem_cons, List.not_mem_nil, or_false] at hc
    rcases hc with rfl | rfl | rfl | rfl <;> rfl

/-- Inside of what ends a line the cursor is still on that line. -/
lemma mark_skip_of_lt_ending {ending rest : List Char} (h : Ending ending rest) (m : Mark) {n : ℕ}
    (hn : n < ending.length) :
    (Cursor.skip ⟨ending ++ rest, m⟩ n).mark = ⟨m.index + n, m.line, m.column + n⟩ := by
  cases h with
  | pair =>
    rw [List.length_cons, List.length_singleton] at hn
    interval_cases n <;> rfl
  | lone | single =>
    rw [List.length_singleton] at hn
    interval_cases n
    rfl

/-- The cursor counts lines and columns as a place stands. -/
lemma mark_skip_of_standsAt {text line : List Char} {n number offset : ℕ}
    (h : StandsAt text n number line offset) (hmark : '\uFEFF' ∉ text) (m : Mark) :
    (Cursor.skip ⟨text, m⟩ n).mark
      = ⟨m.index + n, m.line + number, (if number = 0 then m.column else 0) + offset⟩ := by
  induction h generalizing m with
  | @last line n hfree hn =>
    have hskip := skip_of_not_break [] m hfree hmark hn
    rw [List.append_nil] at hskip
    rw [hskip]
    rfl
  | @here line ending rest n hfree hend hn =>
    rw [List.mem_append, not_or] at hmark
    by_cases hle : n ≤ line.length
    · rw [skip_of_not_break _ _ hfree hmark.1 hle]
      rfl
    · obtain ⟨k, rfl⟩ := Nat.exists_eq_add_of_le (Nat.le_of_not_le hle)
      rw [skip_add, skip_of_not_break _ _ hfree hmark.1 le_rfl, List.drop_length, List.nil_append,
        mark_skip_of_lt_ending hend _ (Nat.lt_of_add_lt_add_left hn)]
      simp only [Nat.add_assoc, Nat.add_zero, if_pos]
  | @later line ending rest line' n number offset hfree hend _ ih =>
    simp only [List.mem_append, not_or] at hmark
    rw [skip_add, skip_add, skip_of_not_break _ _ hfree hmark.1 le_rfl, List.drop_length,
      List.nil_append, skip_ending hend, ih hmark.2.2]
    simp only [Nat.add_assoc, Nat.add_comm 1, ite_self, if_neg (Nat.succ_ne_zero number)]

end Cursor

end Yaml

namespace SettingsError

open Yaml

/-! ## The lines of a text -/

/-- Of the characters that may end a line, a document has only the line breaks of its language. -/
lemma endsLine_eq_isBreak {c : Char} (h : isAllowed c = true) : endsLine c = isBreak c := by
  rw [Bool.eq_iff_iff]
  simp only [isAllowed, Bool.or_eq_true, Bool.and_eq_true, beq_iff_eq, decide_eq_true_eq] at h
  simp only [endsLine, isBreak, Bool.or_eq_true, Bool.and_eq_true, beq_iff_eq, decide_eq_true_eq,
    ← Char.toNat_inj, show '\r'.toNat = 13 from rfl, show '\n'.toNat = 10 from rfl]
  omega

lemma linesFrom_append {line : List Char} (passed rest : List Char)
    (hfree : ∀ c ∈ line, endsLine c = false) :
    linesFrom passed (line ++ rest) = linesFrom (line.reverse ++ passed) rest := by
  induction line generalizing passed with
  | nil => rfl
  | cons c line ih =>
    have hc : endsLine c = false := hfree c List.mem_cons_self
    have hpair : ∀ tail, c = '\r' → line ++ rest = '\n' :: tail → False := by
      rintro tail rfl -
      cases hc
    rw [List.cons_append, linesFrom.eq_3 _ _ _ hpair, hc, if_neg Bool.false_ne_true,
      ih _ fun c h => hfree c (List.mem_cons_of_mem _ h), List.reverse_cons, List.append_assoc]
    rfl

lemma lines_of_free {line : List Char} (hfree : ∀ c ∈ line, endsLine c = false) :
    lines line = if line = [] then [] else [line] := by
  rw [lines, ← List.append_nil line, linesFrom_append _ _ hfree, List.append_nil, List.append_nil,
    linesFrom, List.reverse_reverse, List.isEmpty_reverse]
  simp only [List.isEmpty_iff]

lemma lines_append_ending {line ending rest : List Char} (hfree : ∀ c ∈ line, endsLine c = false)
    (hend : Ending ending rest) : lines (line ++ (ending ++ rest)) = line :: lines rest := by
  rw [lines, linesFrom_append _ _ hfree, List.append_nil]
  have hends {c : Char} (hc : endsLine c = true)
      (hpair : ∀ tail, c = '\r' → rest = '\n' :: tail → False) :
      linesFrom line.reverse ([c] ++ rest) = line :: lines rest := by
    rw [List.singleton_append, linesFrom.eq_3 _ _ _ hpair, if_pos hc, List.reverse_reverse]
    rfl
  cases hend with
  | pair =>
    rw [List.cons_append, List.singleton_append, linesFrom, List.reverse_reverse]
    rfl
  | lone hnext => exact hends rfl fun tail _ htail => hnext (by rw [htail]; rfl)
  | single hc =>
    simp only [List.mem_cons, List.not_mem_nil, or_false] at hc
    rcases hc with rfl | rfl | rfl | rfl <;> exact hends rfl fun tail h => by cases h

/-- The line of that number is the one on which a place stands.  There is none just behind the last
ending. -/
lemma getElem?_lines {text line : List Char} {n number offset : ℕ}
    (h : StandsAt text n number line offset) (hallowed : ∀ c ∈ text, isAllowed c = true) :
    (lines text)[number]? = if n = text.length ∧ line = [] then none else some line := by
  have hlines {line : List Char} (hfree : ∀ c ∈ line, isBreak c = false)
      (hall : ∀ c ∈ line, isAllowed c = true) : ∀ c ∈ line, endsLine c = false := fun c hc => by
    rw [endsLine_eq_isBreak (hall c hc), hfree c hc]
  induction h with
  | @last line n hfree hn =>
    rw [lines_of_free (hlines hfree hallowed)]
    by_cases hline : line = []
    · subst hline
      rw [if_pos rfl, if_pos ⟨Nat.le_zero.mp hn, rfl⟩]
      rfl
    · rw [if_neg hline, if_neg fun h => hline h.2]
      rfl
  | @here line ending rest n hfree hend hn =>
    rw [lines_append_ending (hlines hfree fun c hc => hallowed c (List.mem_append_left _ hc)) hend,
      if_neg]
    · rfl
    · rintro ⟨rfl, -⟩
      simp only [List.length_append] at hn
      omega
  | @later line ending rest line' n number offset hfree hend _ ih =>
    rw [lines_append_ending (hlines hfree fun c hc => hallowed c (List.mem_append_left _ hc)) hend,
      List.getElem?_cons_succ,
      ih fun c hc => hallowed c (List.mem_append_right _ (List.mem_append_right _ hc))]
    simp only [List.length_append, Nat.add_assoc, Nat.add_left_cancel_iff]

/-! ## The pointer -/

/-- The text of an error shows a line, indented by four, and right under it a pointer that stands
behind so many further characters. -/
def PointsAt (e : SettingsError) (line : List Char) (offset : ℕ) : Prop :=
  ∃ before after, before ≠ [] ∧ e.render = "\n".intercalate (before
    ++ ["    " ++ String.ofList line, String.ofList (List.replicate (4 + offset) ' ') ++ "^"]
    ++ after)

lemma pointsAt_of_column {e : SettingsError} {line : List Char} {offset : ℕ}
    (hexcerpt : e.excerpt = some [String.ofList line])
    (hcolumn : e.column = some ((offset : Int) + 1)) : e.PointsAt line offset := by
  have hwidth : ((offset : Int) + 1 + 3).toNat = 4 + offset := by omega
  have hpointer : e.pointer = ["", "    " ++ String.ofList line,
      String.ofList (List.replicate (4 + offset) ' ') ++ "^"] := by
    simp only [pointer, hexcerpt, hcolumn]
    rw [if_neg (by omega), hwidth]
    rfl
  refine ⟨[e.header, "  " ++ e.message, ""], e.advice, List.cons_ne_nil _ _, ?_⟩
  rw [render, hpointer]
  rfl

/-- A problem at a place of a text is shown with the line on which the place stands and with a
pointer to the place in that line.  No line is shown just if the place is behind the last ending. -/
theorem pointer_ofDocument {text : List Char} {n : ℕ} {p : Problem} (file : Option String)
    (hallowed : ∀ c ∈ text, isAllowed c = true) (hmark : '\uFEFF' ∉ text) (hn : n ≤ text.length)
    (hp : p.mark = ((Cursor.start text).skip n).mark) :
    (∃ number line offset, StandsAt text n number line offset) ∧
      ∀ number line offset, StandsAt text n number line offset →
        let e := ofDocument (.problem p) text file
        e.line = some (number + 1 : Int) ∧ e.column = some (offset + 1 : Int) ∧
          (e.excerpt = none ↔ n = text.length ∧ line = []) ∧
          ∀ ls, e.excerpt = some ls → ls = [String.ofList line] ∧ e.PointsAt line offset := by
  refine ⟨exists_standsAt text hn, fun number line offset hstands => ?_⟩
  intro e
  have hplace : p.mark = ⟨n, number, offset⟩ := by
    rw [hp, Cursor.start, Cursor.mark_skip_of_standsAt hstands hmark]
    simp
  have hline : e.line = some (number + 1 : Int) := by
    simp only [e, ofDocument, hplace]
  have hcolumn : e.column = some (offset + 1 : Int) := by
    simp only [e, ofDocument, hplace]
  have hexcerpt : e.excerpt
      = if n = text.length ∧ line = [] then none else some [String.ofList line] := by
    simp only [e, ofDocument, hplace, getElem?_lines hstands hallowed]
    split <;> rfl
  refine ⟨hline, hcolumn, ?_, fun ls hls => ?_⟩
  · rw [hexcerpt]
    split
    · next hbehind => exact iff_of_true rfl hbehind
    · next hinside => exact iff_of_false (Option.some_ne_none _) hinside
  · have hshown := hls
    rw [hexcerpt] at hshown
    split at hshown
    · cases hshown
    · cases hshown
      exact ⟨rfl, pointsAt_of_column hls hcolumn⟩

/-- A key without its colon, on the second line of two. -/
theorem pointer_ofDocument_secondLine :
    (ofDocument (.problem ⟨.token, none, "could not find expected ':'", ⟨5, 1, 2⟩⟩)
        ['a', ':', '\n', 'k', 'e'] none).excerpt = some ["ke"] ∧
      (ofDocument (.problem ⟨.token, none, "could not find expected ':'", ⟨5, 1, 2⟩⟩)
        ['a', ':', '\n', 'k', 'e'] none).PointsAt ['k', 'e'] 2 := by
  have hfirst : ∀ c ∈ ['a', ':'], isBreak c = false := by simp [isBreak]
  have hsecond : ∀ c ∈ ['k', 'e'], isBreak c = false := by simp [isBreak]
  have hstands : StandsAt ['a', ':', '\n', 'k', 'e'] 5 1 ['k', 'e'] 2 :=
    @StandsAt.later ['a', ':'] ['\n'] ['k', 'e'] ['k', 'e'] 2 0 2 hfirst (.single (by decide) _)
      (.last hsecond le_rfl)
  have h := (pointer_ofDocument (n := 5)
    (p := ⟨.token, none, "could not find expected ':'", ⟨5, 1, 2⟩⟩) none
    (List.all_eq_true.mp rfl) (by decide) (by decide) (by decide)).2 1 ['k', 'e'] 2 hstands
  have hls : (ofDocument (.problem ⟨.token, none, "could not find expected ':'", ⟨5, 1, 2⟩⟩)
      ['a', ':', '\n', 'k', 'e'] none).excerpt = some ["ke"] := rfl
  exact ⟨hls, (h.2.2.2 _ hls).2⟩

end SettingsError

end MetricsAgent
