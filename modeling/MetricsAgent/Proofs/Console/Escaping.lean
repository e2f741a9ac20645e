import Mathlib.Data.List.TakeWhile
import Mathlib.Tactic.Common
import MetricsAgent.Console.Markup

/-!
# Escaped texts are shown

A text is shown by the console unless a tag in it switches off what was not switched on.  A text that
was escaped has no tag, whatever it says: the backslashes before a bracket that begins a tag are
doubled and one is added, so that their number is odd (`shows_escapeFrom`).  A bracket that begins no
tag begins none in the escaped text either, since all that counts is whether the next bracket is a
closing one, and backslashes are no brackets (`opensTag_append_escapeFrom`).

Texts are followed from one run of backslashes to the next, as the console reads them.
-/

namespace MetricsAgent.Markup

/-! ## Pieces that are shown -/

/-- Pieces leave a text. -/
def Renders (opened : List String) (ps : List Piece) : Prop :=
  ∃ shown, renderPieces opened ps = .ok shown

/-- A text is shown, wherever it stands, with some styles switched on before it. -/
def Shows (opened : List String) (cs : List Char) : Prop :=
  ∀ fuel position held, Renders opened (pieces fuel position held cs)

variable {opened opened' : List String} {ps : List Piece} {cs rest inner body t : List Char}
  {c : Char} {k : ℕ}

lemma Renders.plain (h : Renders opened ps) (cs : List Char) : Renders opened (.plain cs :: ps) := by
  obtain ⟨shown, hshown⟩ := h
  refine ⟨Pictogram.replace (unescape cs) ++ shown, ?_⟩
  rw [renderPieces, hshown]
  rfl

lemma Renders.plainPiece (h : Renders opened ps) (cs : List Char) :
    Renders opened (plainPiece cs ++ ps) := by
  unfold Markup.plainPiece
  split
  · exact h
  · exact h.plain cs

lemma renders_plainPiece (cs : List Char) : Renders opened (plainPiece cs) := by
  have hnil : Renders opened [] := ⟨[], rfl⟩
  simpa using hnil.plainPiece cs

/-! ## Runs of backslashes -/

/-- Some backslashes. -/
abbrev slashes (k : ℕ) : List Char := List.replicate k '\\'

lemma slashes_succ_append (k : ℕ) (cs : List Char) :
    slashes (k + 1) ++ cs = '\\' :: (slashes k ++ cs) := rfl

/-- A text begins with some backslashes, and no more than these. -/
lemma exists_slashes (cs : List Char) :
    ∃ k rest, cs = slashes k ++ rest ∧ rest.head? ≠ some '\\' := by
  induction cs with
  | nil => exact ⟨0, [], rfl, by simp⟩
  | cons c cs ih =>
    by_cases hc : c = '\\'
    · obtain ⟨k, rest, rfl, hrest⟩ := ih
      exact ⟨k + 1, rest, by rw [hc, slashes_succ_append], hrest⟩
    · exact ⟨0, c :: cs, rfl, by simpa using hc⟩

lemma exists_cons (k : ℕ) (c : Char) (cs : List Char) :
    ∃ d tail, slashes k ++ c :: cs = d :: tail := by
  cases k with
  | zero => exact ⟨c, cs, rfl⟩
  | succ k => exact ⟨'\\', _, slashes_succ_append k _⟩

lemma takeWhile_slashes (h : rest.head? ≠ some '\\') :
    (slashes k ++ rest).takeWhile (· == '\\') = slashes k := by
  have hnone : rest.takeWhile (· == '\\') = [] := by
    cases rest with
    | nil => rfl
    | cons c rest => simpa using h
  rw [List.takeWhile_append_of_pos (by simp), hnone, List.append_nil]

/-- How a text begins: with a bracket that some backslashes may stand before, with backslashes that
stand before none, or with another character. -/
inductive Front : List Char → Prop
  | nil : Front []
  | bracket (k : ℕ) (inner : List Char) : Front (slashes k ++ '[' :: inner)
  | slashes (k : ℕ) {rest : List Char} (hslash : rest.head? ≠ some '\\')
      (hbracket : rest.head? ≠ some '[') : Front (slashes (k + 1) ++ rest)
  | cons {c : Char} (rest : List Char) (hslash : c ≠ '\\') (hbracket : c ≠ '[') : Front (c :: rest)

lemma front (cs : List Char) : Front cs := by
  obtain ⟨k, rest, rfl, hslash⟩ := exists_slashes cs
  by_cases hbracket : rest.head? = some '['
  · obtain ⟨inner, rfl⟩ := List.head?_eq_some_iff.mp hbracket
    exact .bracket k inner
  · cases k with
    | succ k => exact .slashes k hslash hbracket
    | zero =>
      cases rest with
      | nil => exact .nil
      | cons c rest => exact .cons rest (by simpa using hslash) (by simpa using hbracket)

lemma drop_slashes (k : ℕ) (rest : List Char) :
    (slashes k ++ rest).drop (slashes k).length = rest :=
  List.drop_left

/-! ## Following a text -/

lemma pieces_nil (fuel position : ℕ) (held : List Char) :
    pieces fuel position held [] = plainPiece held.reverse := by
  cases fuel <;> rfl

/-- Backslashes that stand before no bracket are held. -/
lemma pieces_slashes (hslash : rest.head? ≠ some '\\') (hbracket : rest.head? ≠ some '[')
    (fuel position : ℕ) (held : List Char) (k : ℕ) :
    pieces (fuel + 1) position held (slashes (k + 1) ++ rest)
      = pieces fuel (position + (k + 1)) (slashes (k + 1) ++ held) rest := by
  have htake := takeWhile_slashes (k := k + 1) hslash
  have hdrop := drop_slashes (k + 1) rest
  have hlength : (slashes (k + 1)).length = k + 1 := List.length_replicate
  rw [slashes_succ_append] at htake hdrop
  conv_lhs => rw [slashes_succ_append]
  conv_lhs => unfold pieces
  dsimp only
  rw [htake, hdrop, hlength]
  split
  · simp at hbracket
  · rfl

/-- A character that has no meaning is held. -/
lemma pieces_cons (hslash : c ≠ '\\') (hbracket : c ≠ '[') (fuel position : ℕ)
    (held rest : List Char) :
    pieces (fuel + 1) position held (c :: rest) = pieces fuel (position + 1) (c :: held) rest := by
  have hnone : (c :: rest).takeWhile (· == '\\') = [] := by simpa using hslash
  conv_lhs => unfold pieces
  dsimp only
  rw [hnone]
  split
  · rename_i hhead
    exact absurd (List.cons.inj hhead).1 hbracket
  · rfl

/-- Behind backslashes that stand before no bracket the text goes on. -/
lemma shows_slashes (hslash : rest.head? ≠ some '\\') (hbracket : rest.head? ≠ some '[')
    (h : Shows opened rest) (k : ℕ) : Shows opened (slashes k ++ rest) := by
  intro fuel position held
  cases fuel with
  | zero => exact renders_plainPiece _
  | succ fuel =>
    cases k with
    | zero => exact h _ _ _
    | succ k =>
      rw [pieces_slashes hslash hbracket]
      exact h _ _ _

/-- Behind a character that has no meaning the text goes on. -/
lemma shows_cons (hslash : c ≠ '\\') (hbracket : c ≠ '[') (h : Shows opened rest) :
    Shows opened (c :: rest) := by
  intro fuel position held
  cases fuel with
  | zero => exact renders_plainPiece _
  | succ fuel =>
    rw [pieces_cons hslash hbracket]
    exact h _ _ _

/-- Backslashes before a bracket: of those before a tag, half are left, and an odd one takes its
meaning away. -/
lemma pieces_bracket (fuel position : ℕ) (held inner : List Char) (k : ℕ) :
    pieces (fuel + 1) position held (slashes k ++ '[' :: inner) =
      match tag? inner with
      | some (body, rest) =>
        let this := if k % 2 = 1 then Piece.plain ('[' :: body ++ [']'])
          else .tag (position + 2 * (k / 2)) body
        plainPiece held.reverse ++ plainPiece (slashes (k / 2)) ++
          this :: pieces fuel (position + (k + body.length + 2)) [] rest
      | none => pieces fuel (position + k + 1) ('[' :: (slashes k ++ held)) inner := by
  have htake : (slashes k ++ '[' :: inner).takeWhile (· == '\\') = slashes k :=
    takeWhile_slashes (by simp)
  have hdrop := drop_slashes k ('[' :: inner)
  have hlength : (slashes k).length = k := List.length_replicate
  obtain ⟨c, tail, hcons⟩ := exists_cons k '[' inner
  rw [hcons] at htake hdrop ⊢
  rw [hlength] at hdrop
  conv_lhs => unfold pieces
  cases htag : tag? inner <;> simp only [htake, hlength, hdrop, htag]

/-- What begins no tag has no meaning. -/
lemma shows_bracket (htag : tag? inner = none) (h : Shows opened inner) (k : ℕ) :
    Shows opened (slashes k ++ '[' :: inner) := by
  intro fuel position held
  cases fuel with
  | zero => exact renders_plainPiece _
  | succ fuel =>
    rw [pieces_bracket, htag]
    exact h _ _ _

/-- A tag that an odd backslash stands before has no meaning. -/
lemma shows_escaped (htag : tag? inner = some (body, rest)) (hk : k % 2 = 1)
    (h : Shows opened rest) : Shows opened (slashes k ++ '[' :: inner) := by
  intro fuel position held
  cases fuel with
  | zero => exact renders_plainPiece _
  | succ fuel =>
    rw [pieces_bracket, htag]
    dsimp only
    rw [if_pos hk, List.append_assoc]
    exact (((h _ _ _).plain _).plainPiece _).plainPiece _

/-- A tag switches styles on and off. -/
lemma shows_tag (htag : tag? inner = some (body, rest))
    (hfollow : ∀ position, follow opened position body = .ok opened') (h : Shows opened' rest) :
    Shows opened ('[' :: inner) := by
  intro fuel position held
  cases fuel with
  | zero => exact renders_plainPiece _
  | succ fuel =>
    have hpieces := pieces_bracket fuel position held inner 0
    rw [htag] at hpieces
    refine hpieces ▸ ?_
    dsimp only
    rw [if_neg (by decide), List.append_assoc]
    refine Renders.plainPiece (Renders.plainPiece ?_ _) _
    obtain ⟨shown, hshown⟩ := h fuel (position + (0 + body.length + 2)) []
    refine ⟨shown, ?_⟩
    rw [renderPieces, hfollow, ← hshown]
    rfl

/-! ## Texts without brackets -/

lemma shows_nil : Shows opened [] := by
  intro fuel position held
  cases fuel <;> exact renders_plainPiece _

/-- Behind a text without an opening bracket the text goes on, unless backslashes at its end could
meet what follows. -/
lemma shows_append {p : List Char} (hbracket : '[' ∉ p)
    (hend : rest = [] ∨ p.getLast? ≠ some '\\') (h : Shows opened rest) :
    Shows opened (p ++ rest) := by
  induction hn : p.length using Nat.strong_induction_on generalizing p with
  | _ n ih =>
    obtain ⟨k, q, rfl, hq⟩ := exists_slashes p
    cases q with
    | nil =>
      rcases hend with rfl | hslash
      · simpa using shows_slashes (by simp) (by simp) h k
      · cases k with
        | zero => exact h
        | succ k => simp [List.getLast?_replicate] at hslash
    | cons c q =>
      have hc : c ≠ '[' := fun heq => hbracket (by simp [heq])
      have hend' : rest = [] ∨ q.getLast? ≠ some '\\' := by
        refine hend.imp_right fun hslash => ?_
        cases q with
        | nil => simp
        | cons d q => simpa [List.getLast?_append] using hslash
      have hrest : Shows opened (q ++ rest) := by
        refine ih q.length ?_ (fun hmem => hbracket (by simp [hmem])) hend' rfl
        simp only [List.length_append, List.length_cons] at hn
        omega
      have hcons : Shows opened (c :: (q ++ rest)) := shows_cons (by simpa using hq) hc hrest
      rw [List.append_assoc]
      exact shows_slashes (by simpa using hq) (by simpa using hc) hcons k

/-- A text without an opening bracket is shown. -/
lemma shows_of_not_mem (h : '[' ∉ cs) : Shows opened cs := by
  simpa using shows_append h (.inl rfl) (shows_nil : Shows opened [])

/-! ## Tags -/

/-- A bracket of either kind. -/
def isBracket (c : Char) : Bool := c == '[' || c == ']'

/-- Whether a text begins with what makes a tag of a bracket before it: a character that begins tags,
and a closing bracket before any other. -/
def opensTag (cs : List Char) : Bool :=
  cs.head?.any beginsTag && cs.find? isBracket == some ']'

/-- A tag reaches to the next bracket. -/
lemma tag?_eq (cs : List Char) :
    tag? cs = if cs.head?.any beginsTag then
        match cs.dropWhile (!isBracket ·) with
        | ']' :: rest => some (cs.takeWhile (!isBracket ·), rest)
        | _ => none
      else none := by
  have htest : (fun c => c != '[' && c != ']') = (!isBracket ·) := by
    funext c
    simp [isBracket, bne]
  cases cs with
  | nil => rfl
  | cons c cs =>
    have hdrop : (c :: cs).drop ((c :: cs).takeWhile (!isBracket ·)).length
        = (c :: cs).dropWhile (!isBracket ·) :=
      (congrArg (List.drop _) List.takeWhile_append_dropWhile.symm).trans List.drop_left
    unfold tag?
    dsimp only
    rw [htest, hdrop]
    rfl

lemma tag?_eq_none_iff : tag? cs = none ↔ opensTag cs = false := by
  rw [tag?_eq, opensTag, List.find?_eq_head?_dropWhile_not]
  cases cs.head?.any beginsTag with
  | false => simp
  | true =>
    rw [if_pos rfl, Bool.true_and]
    split
    · next hrest => simp [hrest]
    · next hother =>
      simp only [true_iff, beq_eq_false_iff_ne]
      intro hhead
      obtain ⟨rest, hrest⟩ := List.head?_eq_some_iff.mp hhead
      exact hother rest hrest

/-- A tag, taken apart. -/
lemma eq_of_tag? (h : tag? cs = some (body, rest)) :
    cs = body ++ ']' :: rest ∧ (∀ c ∈ body, isBracket c = false) ∧ body.head?.any beginsTag := by
  rw [tag?_eq] at h
  split at h
  · next hbegins =>
    split at h
    · next hrest =>
      cases h
      have hcs : cs = cs.takeWhile (!isBracket ·) ++ ']' :: rest := by
        rw [← hrest, List.takeWhile_append_dropWhile]
      refine ⟨hcs, fun c hc => by simpa using List.mem_takeWhile_imp hc, ?_⟩
      rw [hcs] at hbegins
      cases hbody : cs.takeWhile (!isBracket ·) with
      | nil =>
        rw [hbody] at hbegins
        have hclosing : beginsTag ']' = true := hbegins
        exact absurd hclosing (by decide)
      | cons c body =>
        rw [hbody] at hbegins
        exact hbegins
    · cases h
  · cases h

/-- What follows a tag does not count. -/
lemma tag?_append (hbody : ∀ c ∈ body, isBracket c = false) (hbegins : body.head?.any beginsTag) :
    tag? (body ++ ']' :: rest) = some (body, rest) := by
  have hhead : (body ++ ']' :: rest).head?.any beginsTag := by
    cases body with
    | nil => cases hbegins
    | cons c body => exact hbegins
  have htake : (body ++ ']' :: rest).takeWhile (!isBracket ·) = body := by
    rw [List.takeWhile_append_of_pos (by simpa using hbody)]
    simp [isBracket]
  have hdrop : (body ++ ']' :: rest).dropWhile (!isBracket ·) = ']' :: rest := by
    rw [List.dropWhile_append_of_pos (by simpa using hbody)]
    simp [isBracket]
  rw [tag?_eq, if_pos hhead, hdrop, htake]
  rfl

/-! ## Escaping -/

lemma escapeFrom_nil (fuel : ℕ) : escapeFrom fuel [] = [] := by
  cases fuel <;> rfl

/-- Before a bracket that begins a tag there are twice as many backslashes, and one more; any other
bracket stays. -/
lemma escapeFrom_bracket (fuel k : ℕ) (inner : List Char) :
    escapeFrom (fuel + 1) (slashes k ++ '[' :: inner) =
      match tag? inner with
      | some (body, rest) =>
        slashes k ++ slashes k ++ '\\' :: '[' :: body ++ ']' :: escapeFrom fuel rest
      | none => slashes k ++ '[' :: escapeFrom fuel inner := by
  have htake : (slashes k ++ '[' :: inner).takeWhile (· == '\\') = slashes k :=
    takeWhile_slashes (by simp)
  have hdrop := drop_slashes k ('[' :: inner)
  obtain ⟨c, tail, hcons⟩ := exists_cons k '[' inner
  rw [hcons] at htake hdrop ⊢
  conv_lhs => unfold escapeFrom
  cases htag : tag? inner <;> simp only [htake, hdrop, htag]

lemma escapeFrom_cons (fuel : ℕ) (hslash : c ≠ '\\') (hbracket : c ≠ '[') :
    escapeFrom (fuel + 1) (c :: rest) = c :: escapeFrom fuel rest := by
  have htake : (c :: rest).takeWhile (· == '\\') = [] := by simpa using hslash
  conv_lhs => unfold escapeFrom
  dsimp only
  rw [htake]
  split
  · rename_i heq
    exact absurd (List.cons.inj heq).1 hbracket
  · rfl

lemma escapeFrom_slashes (fuel k : ℕ) (hslash : rest.head? ≠ some '\\')
    (hbracket : rest.head? ≠ some '[') :
    escapeFrom (fuel + 1) (slashes (k + 1) ++ rest) = slashes (k + 1) ++ escapeFrom fuel rest := by
  have htake := takeWhile_slashes (k := k + 1) hslash
  have hdrop := drop_slashes (k + 1) rest
  rw [slashes_succ_append] at htake hdrop
  conv_lhs => rw [slashes_succ_append]
  conv_lhs => unfold escapeFrom
  dsimp only
  rw [htake, hdrop]
  split
  · simp at hbracket
  · rfl

lemma head?_escapeFrom (fuel : ℕ) (cs : List Char) :
    (escapeFrom fuel cs).head?.any beginsTag = cs.head?.any beginsTag := by
  cases fuel with
  | zero => rfl
  | succ fuel =>
    cases front cs with
    | nil => rfl
    | slashes k hslash hbracket =>
      rw [escapeFrom_slashes fuel k hslash hbracket]
      rfl
    | cons rest hslash hbracket =>
      rw [escapeFrom_cons fuel hslash hbracket]
      rfl
    | bracket k inner =>
      rw [escapeFrom_bracket]
      cases tag? inner with
      | none => cases k <;> rfl
      | some p =>
        cases k with
        | succ k => rfl
        | zero =>
          show beginsTag '\\' = beginsTag '['
          decide

lemma find?_slashes (k : ℕ) (cs : List Char) :
    (slashes k ++ cs).find? isBracket = cs.find? isBracket := by
  have hnone : (slashes k).find? isBracket = none := by
    rw [List.find?_eq_none]
    intro c hc
    rw [List.eq_of_mem_replicate hc]
    decide
  rw [List.find?_append, hnone, Option.none_or]

/-- What the next bracket is does not change. -/
lemma find?_escapeFrom (fuel : ℕ) (cs : List Char) :
    (escapeFrom fuel cs).find? isBracket = cs.find? isBracket := by
  induction fuel generalizing cs with
  | zero => rfl
  | succ fuel ih =>
    cases front cs with
    | nil => rfl
    | slashes k hslash hbracket =>
      rw [escapeFrom_slashes fuel k hslash hbracket, find?_slashes, find?_slashes, ih]
    | cons rest hslash hbracket =>
      rw [escapeFrom_cons fuel hslash hbracket, List.find?_cons, List.find?_cons, ih]
    | bracket k inner =>
      rw [escapeFrom_bracket, find?_slashes]
      cases tag? inner with
      | none =>
        rw [find?_slashes]
        rfl
      | some p =>
        simp only [List.append_assoc, find?_slashes]
        rfl

/-- Where no tag would begin, none begins in the escaped text, whatever follows it. -/
lemma opensTag_append_escapeFrom (fuel : ℕ) (h : opensTag cs = false)
    (ht : ∀ c ∈ t, isBracket c = false) : opensTag (escapeFrom fuel cs ++ t) = false := by
  have hnone : t.find? isBracket = none := by
    rw [List.find?_eq_none]
    simpa using ht
  have hfind : (escapeFrom fuel cs ++ t).find? isBracket = cs.find? isBracket := by
    rw [List.find?_append, hnone, Option.or_none, find?_escapeFrom]
  by_cases hclosing : cs.find? isBracket = some ']'
  · have hhead : cs.head?.any beginsTag = false := by simpa [opensTag, hclosing] using h
    rw [← head?_escapeFrom fuel] at hhead
    cases hescaped : escapeFrom fuel cs with
    | nil =>
      rw [← find?_escapeFrom fuel, hescaped] at hclosing
      cases hclosing
    | cons c escaped =>
      rw [hescaped] at hhead
      exact Bool.and_eq_false_imp.mpr fun hbegins => absurd (hhead.symm.trans hbegins) (by decide)
  · simp [opensTag, hfind, hclosing]

/-- An escaped text is shown. -/
lemma shows_escapeFrom (fuel : ℕ) (hfuel : cs.length ≤ fuel) (ht : ∀ c ∈ t, isBracket c = false) :
    Shows opened (escapeFrom fuel cs ++ t) := by
  have hplain (k : ℕ) : Shows opened (slashes k ++ t) := by
    refine shows_of_not_mem fun hmem => ?_
    rcases List.mem_append.mp hmem with hmem | hmem
    · exact absurd (List.eq_of_mem_replicate hmem) (by decide)
    · exact absurd (ht _ hmem) (by decide)
  induction fuel generalizing cs with
  | zero =>
    rw [List.length_eq_zero_iff.mp (Nat.le_zero.mp hfuel)]
    exact hplain 0
  | succ fuel ih =>
    cases front cs with
    | nil => exact hplain 0
    | cons rest hslash hbracket =>
      rw [escapeFrom_cons fuel hslash hbracket]
      exact shows_cons hslash hbracket (ih (Nat.le_of_succ_le_succ hfuel))
    | @slashes k rest hslash hbracket =>
      rw [escapeFrom_slashes fuel k hslash hbracket, List.append_assoc]
      rw [List.length_append, List.length_replicate] at hfuel
      have hrest : Shows opened (escapeFrom fuel rest ++ t) := ih (by omega)
      cases rest with
      | nil =>
        rw [escapeFrom_nil]
        exact hplain (k + 1)
      | cons c rest =>
        cases fuel with
        | zero =>
          rw [List.length_cons] at hfuel
          omega
        | succ fuel =>
          rw [escapeFrom_cons fuel (by simpa using hslash) (by simpa using hbracket)] at hrest ⊢
          exact shows_slashes (by simpa using hslash) (by simpa using hbracket) hrest (k + 1)
    | bracket k inner =>
      rw [escapeFrom_bracket]
      have hle : inner.length ≤ fuel := by
        rw [List.length_append, List.length_cons] at hfuel
        omega
      cases htag : tag? inner with
      | none =>
        have hopens := opensTag_append_escapeFrom fuel (tag?_eq_none_iff.mp htag) ht
        rw [List.append_assoc]
        exact shows_bracket (tag?_eq_none_iff.mpr hopens) (ih hle) k
      | some p =>
        obtain ⟨body, rest⟩ := p
        obtain ⟨rfl, hbody, hbegins⟩ := eq_of_tag? htag
        rw [List.length_append, List.length_cons] at hle
        have hrest : Shows opened (escapeFrom fuel rest ++ t) := ih (by omega)
        have htext : slashes k ++ slashes k ++ '\\' :: '[' :: body ++ ']' :: escapeFrom fuel rest ++ t
            = slashes (k + k + 1) ++ '[' :: (body ++ ']' :: (escapeFrom fuel rest ++ t)) := by
          rw [slashes, slashes, List.replicate_succ', ← List.replicate_append_replicate]
          simp only [List.append_assoc, List.cons_append, List.nil_append]
        dsimp only
        rw [htext]
        exact shows_escaped (tag?_append hbody hbegins) (by omega) hrest

/-- A backslash at most is added at the end. -/
lemma exists_guardEnd (cs : List Char) : ∃ k ≤ 1, guardEnd cs = cs ++ slashes k := by
  unfold guardEnd
  split
  · exact ⟨0, Nat.zero_le 1, (List.append_nil cs).symm⟩
  · exact ⟨1, le_rfl, rfl⟩
  · exact ⟨0, Nat.zero_le 1, (List.append_nil cs).symm⟩

/-- Whatever a text says, it is shown once it was escaped, if no bracket follows it. -/
theorem shows_escape (s : String) (ht : ∀ c ∈ t, isBracket c = false) :
    Shows opened ((escape s).toList ++ t) := by
  obtain ⟨k, -, hk⟩ := exists_guardEnd (escapeFrom s.length s.toList)
  rw [escape, String.toList_ofList, hk, List.append_assoc]
  refine shows_escapeFrom s.length String.length_toList.le fun c hc => ?_
  rcases List.mem_append.mp hc with hc | hc
  · rw [List.eq_of_mem_replicate hc]
    decide
  · exact ht c hc

/-! ## Rendering -/

/-- A text that can be followed to its end is shown. -/
theorem exists_render {s : String} (h : Shows [] s.toList) : ∃ shown, render s = .ok shown := by
  unfold render
  dsimp only
  split
  · obtain ⟨shown, hshown⟩ := h s.toList.length 0 []
    exact ⟨_, by rw [hshown]; rfl⟩
  · exact ⟨_, rfl⟩

/-- The name of a style that switches it on, and off behind a slash. -/
structure Names (style : String) : Prop where
  bracket : ∀ c ∈ style.toList, isBracket c = false
  begins : style.toList.head?.any beginsTag
  slash : style.toList.head? ≠ some '/'
  equals : '=' ∉ style.toList
  trimmed : CharClass.trimBlank style = style

lemma names_red : Names "red" :=
  ⟨by simp [isBracket], by decide, by decide, by decide, by decide⟩

lemma names_green : Names "green" :=
  ⟨by simp [isBracket], by decide, by decide, by decide, by decide⟩

lemma tagName_eq_self (h : '=' ∉ body) : tagName body = body := by
  refine List.takeWhile_eq_self_iff.mpr fun c hc => ?_
  simpa using fun heq : c = '=' => h (heq ▸ hc)

namespace Names

variable {style : String}

/-- The name switches the style on. -/
lemma follow_on (h : Names style) (position : ℕ) :
    follow opened position style.toList = .ok (ConsoleStyle.normal style :: opened) := by
  unfold follow
  rw [tagName_eq_self h.equals]
  split
  · rename_i hname
    exact absurd (by rw [hname]; rfl) h.slash
  · rw [String.ofList_toList]

/-- Behind a slash it switches the style off. -/
lemma follow_off (h : Names style) (position : ℕ) :
    follow (ConsoleStyle.normal style :: opened) position ('/' :: style.toList) = .ok opened := by
  have hequals : '=' ∉ '/' :: style.toList := by simpa using h.equals
  have hempty : style.isEmpty = false := by
    rw [String.isEmpty_eq_false_iff]
    rintro rfl
    exact absurd h.begins (by decide)
  unfold follow
  rw [tagName_eq_self hequals]
  simp [String.ofList_toList, h.trimmed, hempty, closeNamed?]

/-- A style is switched on and off around some words. -/
lemma shows_styled (h : Names style) (words : String) (hbracket : '[' ∉ words.toList)
    (hslash : words.toList.getLast? ≠ some '\\') (hrest : Shows opened rest) :
    Shows opened
      (("[" ++ style ++ "]" ++ words ++ "[/" ++ style ++ "]").toList ++ rest) := by
  have hclose : ∀ c ∈ '/' :: style.toList, isBracket c = false :=
    List.forall_mem_cons.mpr ⟨by decide, h.bracket⟩
  have htext : ("[" ++ style ++ "]" ++ words ++ "[/" ++ style ++ "]").toList ++ rest
      = '[' :: (style.toList ++ ']' :: (words.toList ++
          '[' :: ('/' :: style.toList ++ ']' :: rest))) := by
    simp
  rw [htext]
  refine shows_tag (tag?_append h.bracket h.begins) h.follow_on ?_
  refine shows_append hbracket (.inr hslash) ?_
  exact shows_tag (tag?_append hclose rfl) h.follow_off hrest

end Names
end MetricsAgent.Markup
