import MetricsAgent.Proofs.Console.Escaping
import MetricsAgent.Proofs.Console.Shortcodes

/-!
# What is left of a line

A line is written to be read, and what the console is given for it differs where tags were escaped.
Both are sequences of the same segments: characters, runs of backslashes, brackets and tags
(`Segment`).  What the console shows of a line without shortcodes is put together from what it makes
of each segment (`Segment.toOption_render`).  No segment is shown with more than was written, and
all of a line is shown exactly if each segment is shown as it was written
(`Segment.forall_faithful_of_prefix`): no bracket loses a backslash, and every tag was escaped.
-/

namespace MetricsAgent.Markup

variable {opened : List String} {cs rest body : List Char} {c : Char} {k : ℕ}

/-! ## Backslashes before brackets -/

/-- Texts are unescaped apart unless a backslash meets a bracket. -/
lemma unescape_append {a b : List Char} (h : a.getLast? = some '\\' → b.head? ≠ some '[') :
    unescape (a ++ b) = unescape a ++ unescape b := by
  induction a using unescape.induct with
  | case1 => rfl
  | case2 rest ih =>
    have hrest : rest.getLast? = some '\\' → b.head? ≠ some '[' := fun hlast =>
      h (by simp [List.getLast?_cons, hlast])
    simp only [List.cons_append, unescape, ih hrest]
  | case3 c rest hnot ih =>
    have hrest : rest.getLast? = some '\\' → b.head? ≠ some '[' := fun hlast =>
      h (by simp [List.getLast?_cons, hlast])
    rw [List.cons_append, unescape, unescape, ih hrest, List.cons_append]
    · exact hnot
    · rintro rest' rfl heq
      cases rest with
      | nil => exact h rfl (by rw [show b = '[' :: rest' from heq]; rfl)
      | cons d rest =>
        obtain ⟨rfl, -⟩ := List.cons.inj heq
        exact hnot rest rfl rfl

lemma unescape_of_not_mem (h : '[' ∉ cs) : unescape cs = cs := by
  induction cs with
  | nil => rfl
  | cons c cs ih =>
    rw [List.mem_cons, not_or] at h
    rw [unescape, ih h.2]
    rintro rest - rfl
    exact h.2 List.mem_cons_self

lemma not_mem_slashes (k : ℕ) : '[' ∉ slashes k :=
  fun hmem => absurd (List.eq_of_mem_replicate hmem) (by decide)

lemma reverse_slashes (k : ℕ) : (slashes k).reverse = slashes k :=
  List.reverse_replicate

/-- A bracket loses one of the backslashes before it. -/
lemma unescape_slashes_bracket (k : ℕ) :
    unescape (slashes k ++ ['[']) = slashes (k - 1) ++ ['['] := by
  cases k with
  | zero => rfl
  | succ k =>
    have hone : slashes (k + 1) ++ ['['] = slashes k ++ ['\\', '['] := by
      rw [slashes, List.replicate_succ', List.append_assoc]
      rfl
    rw [hone, unescape_append (by simp), unescape_of_not_mem (not_mem_slashes k)]
    rfl

/-! ## Segments -/

/-- A segment of a line: a character without meaning, backslashes that stand before no bracket, or
an opening bracket with the backslashes before it, which begins no tag or a tag that was escaped or
was not. -/
inductive Segment
  | char (c : Char)
  | run (k : ℕ)
  | bracket (k : ℕ)
  | tag (k : ℕ) (body : List Char) (escaped : Bool)

namespace Segment

variable {ss : List Segment}

/-- What stands between the brackets of a tag, and the brackets. -/
def bracketed (body : List Char) : List Char :=
  '[' :: body ++ [']']

/-- How many backslashes stand before a tag that the console is given. -/
def slashesGiven (k : ℕ) (escaped : Bool) : ℕ :=
  if escaped then 2 * k + 1 else k

/-- A segment as it is to be read. -/
def written : Segment → List Char
  | .char c => [c]
  | .run k => slashes (k + 1)
  | .bracket k => slashes k ++ ['[']
  | .tag k body _ => slashes k ++ bracketed body

/-- A segment as the console is given it. -/
def given : Segment → List Char
  | .tag k body escaped => slashes (slashesGiven k escaped) ++ bracketed body
  | s => s.written

/-- What is left of a segment if it has no meaning. -/
def left : Segment → List Char
  | .bracket k => slashes (k - 1) ++ ['[']
  | .tag k body escaped => slashes (slashesGiven k escaped / 2) ++ bracketed body
  | s => s.written

/-- What the console shows of a segment, and the styles that are switched on behind it. -/
def shown (opened : List String) : Segment → Option (List Char × List String)
  | .tag k body escaped =>
    if slashesGiven k escaped % 2 = 1 then some (left (.tag k body escaped), opened)
    else (follow opened 0 body).toOption.map (slashes (slashesGiven k escaped / 2), ·)
  | s => some (s.left, opened)

/-- A segment is read as such before a text. -/
def Fits (rest : List Char) : Segment → Prop
  | .char c => c ≠ '\\' ∧ c ≠ '['
  | .run _ => rest.head? ≠ some '\\' ∧ rest.head? ≠ some '['
  | .bracket _ => tag? rest = none
  | .tag _ body _ => (∀ c ∈ body, isBracket c = false) ∧ body.head?.any beginsTag = true

/-- A segment is shown as it is written. -/
def Faithful : Segment → Prop
  | .bracket k => k = 0
  | .tag _ _ escaped => escaped = true
  | _ => True

/-! ## Lines -/

/-- A line as it is to be read. -/
def writtenLine (ss : List Segment) : List Char := ss.flatMap written

/-- A line as the console is given it. -/
def givenLine (ss : List Segment) : List Char := ss.flatMap given

/-- What is left of a line if no tag has a meaning. -/
def leftLine (ss : List Segment) : List Char := ss.flatMap left

/-- What the console shows of a line. -/
def shownLine (opened : List String) : List Segment → Option (List Char)
  | [] => some []
  | s :: ss => (s.shown opened).bind fun (text, opened') => (shownLine opened' ss).map (text ++ ·)

/-- The console reads a line as these segments. -/
def Parsed : List Segment → Prop
  | [] => True
  | s :: ss => s.Fits (givenLine ss) ∧ Parsed ss

lemma writtenLine_cons (s : Segment) (ss : List Segment) :
    writtenLine (s :: ss) = s.written ++ writtenLine ss :=
  List.flatMap_cons

lemma givenLine_cons (s : Segment) (ss : List Segment) :
    givenLine (s :: ss) = s.given ++ givenLine ss :=
  List.flatMap_cons

lemma leftLine_cons (s : Segment) (ss : List Segment) :
    leftLine (s :: ss) = s.left ++ leftLine ss :=
  List.flatMap_cons

lemma shownLine_cons {s : Segment} {text : List Char} {opened' : List String}
    (h : s.shown opened = some (text, opened')) (ss : List Segment) :
    shownLine opened (s :: ss) = (shownLine opened' ss).map (text ++ ·) := by
  rw [shownLine, h]
  rfl

end Segment

/-! ## Rendering -/

open Pictogram

lemma toOption_renderPieces_plain {ps : List Piece} (h : NoneIn (unescape cs)) :
    (renderPieces opened (.plain cs :: ps)).toOption
      = (renderPieces opened ps).toOption.map (unescape cs ++ ·) := by
  rw [renderPieces, replace_eq_self h]
  cases renderPieces opened ps <;> rfl

lemma toOption_renderPieces_plainPiece {ps : List Piece} (h : NoneIn (unescape cs)) :
    (renderPieces opened (plainPiece cs ++ ps)).toOption
      = (renderPieces opened ps).toOption.map (unescape cs ++ ·) := by
  unfold plainPiece
  split
  · next hempty =>
    rw [List.isEmpty_iff.mp hempty]
    exact Option.map_id'.symm
  · exact toOption_renderPieces_plain h

/-- Where a tag stands matters to the wording of its fault alone. -/
lemma toOption_follow (position : ℕ) :
    (follow opened position body).toOption = (follow opened 0 body).toOption := by
  unfold follow
  split
  · next name _ =>
    dsimp only
    by_cases hempty : (CharClass.trimBlank (String.ofList name)).isEmpty = true
    · rw [if_pos hempty, if_pos hempty]
      cases opened <;> rfl
    · rw [if_neg hempty, if_neg hempty]
      cases closeNamed? (ConsoleStyle.normal (CharClass.trimBlank (String.ofList name))) opened <;>
        rfl
  · rfl

lemma toOption_renderPieces_tag {ps : List Piece} (position : ℕ) :
    (renderPieces opened (.tag position body :: ps)).toOption
      = (follow opened 0 body).toOption.bind fun opened' => (renderPieces opened' ps).toOption := by
  rw [renderPieces, ← toOption_follow position]
  cases follow opened position body <;> rfl

namespace Segment

variable {ss : List Segment}

lemma not_mem_closed (hbody : ∀ c ∈ body, isBracket c = false) : '[' ∉ body ++ [']'] := by
  intro hmem
  rcases List.mem_append.mp hmem with hmem | hmem
  · exact absurd (hbody _ hmem) (by decide)
  · exact absurd (List.mem_singleton.mp hmem) (by decide)

lemma unescape_bracketed (hbody : ∀ c ∈ body, isBracket c = false) :
    unescape (bracketed body) = bracketed body := by
  rw [bracketed, List.cons_append, unescape, unescape_of_not_mem (not_mem_closed hbody)]
  rintro rest h -
  exact absurd h (by decide)

lemma length_bracketed (body : List Char) : (bracketed body).length = body.length + 2 := by
  simp [bracketed]

lemma length_written_pos (s : Segment) : 0 < s.written.length := by
  cases s with
  | char c => exact Nat.one_pos
  | run k => simp [written]
  | bracket k => simp [written]
  | tag k body escaped =>
    rw [written, List.length_append, length_bracketed]
    omega

lemma length_given_pos (s : Segment) : 0 < s.given.length := by
  cases s with
  | char c => exact length_written_pos (.char c)
  | run k => exact length_written_pos (.run k)
  | bracket k => exact length_written_pos (.bracket k)
  | tag k body escaped =>
    rw [given, List.length_append, length_bracketed]
    omega

/-- A segment that is no tag is held as it was given. -/
lemma toOption_renderPieces_held {s : Segment} {fuel position : ℕ} {held : List Char}
    (position' : ℕ) (hpieces : pieces (fuel + 1) position held (s.given ++ givenLine ss)
      = pieces fuel position' (s.given.reverse ++ held) (givenLine ss))
    (hshown : s.shown opened = some (s.left, opened)) (hleft : unescape s.given = s.left)
    (hnone : NoneIn (unescape held.reverse ++ (s.left ++ leftLine ss)))
    (hmeet : held.head? = some '\\' → s.given.head? ≠ some '[')
    (hmeet' : s.given.getLast? = some '\\' → (givenLine ss).head? ≠ some '[')
    (ih : ∀ held', NoneIn (unescape held'.reverse ++ leftLine ss) →
      (held'.head? = some '\\' → (givenLine ss).head? ≠ some '[') →
      (renderPieces opened (pieces fuel position' held' (givenLine ss))).toOption
        = (shownLine opened ss).map (unescape held'.reverse ++ ·)) :
    (renderPieces opened (pieces (fuel + 1) position held (s.given ++ givenLine ss))).toOption
      = (shownLine opened (s :: ss)).map (unescape held.reverse ++ ·) := by
  have hjoin : unescape (s.given.reverse ++ held).reverse = unescape held.reverse ++ s.left := by
    rw [List.reverse_append, List.reverse_reverse, unescape_append, hleft]
    rwa [List.getLast?_reverse]
  have hhead : (s.given.reverse ++ held).head? = s.given.getLast? := by
    rw [List.head?_append_of_ne_nil, List.head?_reverse]
    exact List.ne_nil_of_length_pos (by simpa using s.length_given_pos)
  rw [hpieces, ih _ (by rwa [hjoin, List.append_assoc]) (by rwa [hhead]), hjoin,
    shownLine_cons hshown, Option.map_map]
  congr 1
  funext text
  simp

/-- Of a tag the console keeps half of the backslashes before it, and the tag itself if their number
was odd. -/
lemma toOption_renderPieces_bracketed (opened : List String) {n : ℕ} (fuel position : ℕ)
    {held : List Char} (rest : List Char) (hbody : ∀ c ∈ body, isBracket c = false)
    (hbegins : body.head?.any beginsTag = true)
    (hnone : NoneIn (unescape held.reverse ++ (slashes (n / 2) ++ bracketed body))) :
    ∃ position', (renderPieces opened
        (pieces (fuel + 1) position held (slashes n ++ bracketed body ++ rest))).toOption =
      (if n % 2 = 1 then
        (renderPieces opened (pieces fuel position' [] rest)).toOption.map (bracketed body ++ ·)
      else (follow opened 0 body).toOption.bind fun opened' =>
        (renderPieces opened' (pieces fuel position' [] rest)).toOption).map
          fun text => unescape held.reverse ++ (slashes (n / 2) ++ text) := by
  have hhalf : unescape (slashes (n / 2)) = slashes (n / 2) :=
    unescape_of_not_mem (not_mem_slashes _)
  have hheld : NoneIn (unescape held.reverse) := hnone.mono (List.prefix_append _ _).isInfix
  have hslashes : NoneIn (unescape (slashes (n / 2))) := by
    rw [hhalf]
    exact hnone.mono ⟨unescape held.reverse, bracketed body, by simp⟩
  have hbracketed : NoneIn (unescape (bracketed body)) := by
    rw [unescape_bracketed hbody]
    exact hnone.mono ⟨unescape held.reverse ++ slashes (n / 2), [], by simp⟩
  have htext : slashes n ++ bracketed body ++ rest = slashes n ++ '[' :: (body ++ ']' :: rest) := by
    simp [bracketed]
  refine ⟨position + (n + body.length + 2), ?_⟩
  rw [htext, pieces_bracket, tag?_append hbody hbegins]
  dsimp only
  rw [List.append_assoc, toOption_renderPieces_plainPiece hheld,
    toOption_renderPieces_plainPiece hslashes, hhalf, Option.map_map]
  congr 1
  by_cases hodd : n % 2 = 1
  · rw [if_pos hodd, if_pos hodd]
    exact (toOption_renderPieces_plain hbracketed).trans (by rw [unescape_bracketed hbody])
  · rw [if_neg hodd, if_neg hodd]
    exact toOption_renderPieces_tag _

/-- The console shows of a line without shortcodes what it shows of its segments. -/
lemma toOption_renderPieces (hparsed : Parsed ss) (opened : List String) {fuel : ℕ}
    (hfuel : (givenLine ss).length ≤ fuel) (position : ℕ) (held : List Char)
    (hnone : NoneIn (unescape held.reverse ++ leftLine ss))
    (hmeet : held.head? = some '\\' → (givenLine ss).head? ≠ some '[') :
    (renderPieces opened (pieces fuel position held (givenLine ss))).toOption
      = (shownLine opened ss).map (unescape held.reverse ++ ·) := by
  induction ss generalizing opened fuel position held with
  | nil =>
    have hheld : NoneIn (unescape held.reverse) := hnone.mono (List.prefix_append _ _).isInfix
    show (renderPieces opened (pieces fuel position held [])).toOption = _
    rw [pieces_nil, ← List.append_nil (plainPiece _), toOption_renderPieces_plainPiece hheld]
    rfl
  | cons s ss ih =>
    obtain ⟨hfits, hparsed⟩ := hparsed
    have hhead : (s.given ++ givenLine ss).head? = s.given.head? :=
      List.head?_append_of_ne_nil _ (List.ne_nil_of_length_pos s.length_given_pos)
    have hpos := s.length_given_pos
    rw [givenLine_cons, List.length_append] at hfuel
    rw [givenLine_cons, hhead] at hmeet
    rw [leftLine_cons] at hnone
    rw [givenLine_cons]
    obtain ⟨fuel, rfl⟩ : ∃ n, fuel = n + 1 := ⟨fuel - 1, by omega⟩
    have hih (opened : List String) (position : ℕ) (held : List Char) :=
      ih hparsed opened (show (givenLine ss).length ≤ fuel by omega) position held
    cases s with
    | char c =>
      obtain ⟨hslash, hbracket⟩ := hfits
      have hchar : unescape [c] = [c] := unescape_of_not_mem (by simpa using hbracket.symm)
      refine toOption_renderPieces_held _ (pieces_cons hslash hbracket fuel position held _) rfl
        hchar hnone hmeet (fun hlast => ?_) (hih opened _)
      exact absurd (Option.some.inj hlast) hslash
    | run k =>
      obtain ⟨hslash, hbracket⟩ := hfits
      refine toOption_renderPieces_held (position + (k + 1)) ?_ rfl
        (unescape_of_not_mem (not_mem_slashes _)) hnone hmeet (fun _ => hbracket) (hih opened _)
      show _ = pieces fuel _ ((slashes (k + 1)).reverse ++ held) _
      rw [reverse_slashes]
      exact pieces_slashes hslash hbracket fuel position held k
    | bracket k =>
      refine toOption_renderPieces_held (position + k + 1) ?_ rfl
        (unescape_slashes_bracket k) hnone hmeet (fun hlast => ?_) (hih opened _)
      · show pieces _ _ _ (slashes k ++ ['['] ++ _)
          = pieces fuel _ ((slashes k ++ ['[']).reverse ++ held) _
        rw [List.reverse_append, reverse_slashes, List.append_assoc, List.append_assoc]
        have hpieces := pieces_bracket fuel position held (givenLine ss) k
        rw [show tag? (givenLine ss) = none from hfits] at hpieces
        exact hpieces
      · simp [given, written] at hlast
    | tag k body escaped =>
      obtain ⟨hbody, hbegins⟩ := hfits
      have hfront : NoneIn (unescape held.reverse ++ left (.tag k body escaped)) :=
        hnone.mono ⟨[], leftLine ss, by simp⟩
      have hbehind : NoneIn (unescape [].reverse ++ leftLine ss) :=
        hnone.mono ⟨unescape held.reverse ++ left (.tag k body escaped), [], by simp [unescape]⟩
      obtain ⟨position', hrender⟩ := toOption_renderPieces_bracketed opened fuel position
        (givenLine ss) hbody hbegins hfront
      refine hrender.trans ?_
      have hrest (opened : List String) :
          (renderPieces opened (pieces fuel position' [] (givenLine ss))).toOption
            = shownLine opened ss :=
        (hih opened position' [] hbehind nofun).trans Option.map_id'
      simp only [hrest]
      rw [shownLine, shown, left]
      split
      · rw [Option.bind_some, Option.map_map, Option.map_map]
        congr 1
        funext text
        simp
      · cases (follow opened 0 body).toOption with
        | none => rfl
        | some opened' =>
          simp only [Option.bind_some, Option.map_some, Option.map_map]
          congr 1

/-- Where there are no brackets all is shown. -/
lemma shownLine_of_not_mem (opened : List String) (h : '[' ∉ givenLine ss) :
    shownLine opened ss = some (givenLine ss) ∧ leftLine ss = givenLine ss := by
  induction ss with
  | nil => exact ⟨rfl, rfl⟩
  | cons s ss ih =>
    rw [givenLine_cons, List.mem_append, not_or] at h
    obtain ⟨hshown, hleft⟩ := ih h.2
    have hplain : s.shown opened = some (s.left, opened) ∧ s.left = s.given := by
      cases s with
      | char c => exact ⟨rfl, rfl⟩
      | run k => exact ⟨rfl, rfl⟩
      | bracket k => exact absurd (by simp [given, written]) h.1
      | tag k body escaped => exact absurd (by simp [given, bracketed]) h.1
    rw [shownLine_cons hplain.1, hshown, leftLine_cons, hplain.2, hleft, givenLine_cons]
    exact ⟨rfl, rfl⟩

/-- What is shown of a text without shortcodes. -/
lemma toOption_render {s : String} (hs : s.toList = givenLine ss) (hparsed : Parsed ss)
    (hnone : NoneIn (leftLine ss)) :
    (render s).toOption = (shownLine [] ss).map fun shown =>
      String.ofList (expandTabs 0 (shown.filter (!isControl ·))) := by
  unfold render
  dsimp only
  rw [hs]
  by_cases hbracket : '[' ∈ givenLine ss
  · have hpieces := toOption_renderPieces hparsed [] le_rfl 0 [] hnone nofun
    rw [if_pos (by simpa using hbracket)]
    rw [show (shownLine [] ss).map (unescape [].reverse ++ ·) = shownLine [] ss from Option.map_id']
      at hpieces
    rw [← hpieces]
    cases renderPieces [] (pieces (givenLine ss).length 0 [] (givenLine ss)) <;> rfl
  · obtain ⟨hshown, hleft⟩ := shownLine_of_not_mem [] hbracket
    rw [if_neg (by simpa using hbracket), hshown, replace_eq_self (hleft ▸ hnone)]
    rfl

/-! ## Lines that are shown as they are written -/

/-- What is shown of a segment is what was written without some of it. -/
lemma shown_sublist {s : Segment} {text : List Char} {opened' : List String}
    (h : s.shown opened = some (text, opened')) : text.Sublist s.written := by
  have hfewer {j k : ℕ} (hjk : j ≤ k) : (slashes j).Sublist (slashes k) :=
    (List.replicate_sublist_replicate _).mpr hjk
  cases s with
  | char c =>
    cases h
    exact List.Sublist.refl _
  | run k =>
    cases h
    exact List.Sublist.refl _
  | bracket k =>
    cases h
    exact (hfewer (Nat.sub_le k 1)).append_right _
  | tag k body escaped =>
    have hhalf : slashesGiven k escaped / 2 ≤ k := by
      unfold slashesGiven
      split <;> omega
    rw [shown] at h
    split at h
    · cases h
      exact (hfewer hhalf).append_right _
    · obtain ⟨_, -, htext⟩ := Option.map_eq_some_iff.mp h
      cases htext
      exact (hfewer hhalf).trans (List.sublist_append_left _ _)

/-- A line is shown segment by segment. -/
lemma exists_of_shownLine_cons {s : Segment} {shown : List Char}
    (h : shownLine opened (s :: ss) = some shown) :
    ∃ text opened' rest, s.shown opened = some (text, opened') ∧
      shownLine opened' ss = some rest ∧ shown = text ++ rest := by
  rw [shownLine] at h
  obtain ⟨⟨text, opened'⟩, hs, hrest⟩ := Option.bind_eq_some_iff.mp h
  obtain ⟨rest, hss, rfl⟩ := Option.map_eq_some_iff.mp hrest
  exact ⟨text, opened', rest, hs, hss, rfl⟩

lemma shownLine_sublist {shown : List Char} (h : shownLine opened ss = some shown) :
    shown.Sublist (writtenLine ss) := by
  induction ss generalizing opened shown with
  | nil =>
    cases h
    exact List.Sublist.refl _
  | cons s ss ih =>
    obtain ⟨text, opened', rest, hs, hss, rfl⟩ := exists_of_shownLine_cons h
    exact (shown_sublist hs).append (ih hss)

lemma Faithful.shown {s : Segment} (h : s.Faithful) (opened : List String) :
    s.shown opened = some (s.written, opened) := by
  cases s with
  | char c => rfl
  | run k => rfl
  | bracket k =>
    obtain rfl : k = 0 := h
    rfl
  | tag k body escaped =>
    obtain rfl : escaped = true := h
    have hodd : slashesGiven k true % 2 = 1 := by
      simp only [slashesGiven, if_pos]
      omega
    have hhalf : slashesGiven k true / 2 = k := by
      simp only [slashesGiven, if_pos]
      omega
    rw [Segment.shown, if_pos hodd, left, hhalf]
    rfl

lemma shownLine_of_faithful (h : ∀ s ∈ ss, s.Faithful) (opened : List String) :
    shownLine opened ss = some (writtenLine ss) := by
  induction ss with
  | nil => rfl
  | cons s ss ih =>
    rw [List.forall_mem_cons] at h
    rw [shownLine_cons (h.1.shown opened), ih h.2]
    rfl

/-- A segment that is not shown as it is written has its bracket too early, or is too short. -/
lemma cases_of_not_faithful {s : Segment} (hs : ¬ s.Faithful) {text : List Char}
    {opened' : List String} (h : s.shown opened = some (text, opened')) :
    (∃ j k more more', j < k ∧ text = slashes j ++ '[' :: more ∧
      s.written = slashes k ++ '[' :: more') ∨ text.length + 2 ≤ s.written.length := by
  cases s with
  | char c => exact absurd trivial hs
  | run k => exact absurd trivial hs
  | bracket k =>
    cases h
    have hk : k ≠ 0 := hs
    exact .inl ⟨k - 1, k, [], [], by omega, rfl, rfl⟩
  | tag k body escaped =>
    obtain rfl : escaped = false := Bool.eq_false_iff.mpr hs
    rw [shown, show slashesGiven k false = k from rfl] at h
    split at h
    · cases h
      exact .inl ⟨k / 2, k, body ++ [']'], body ++ [']'], by omega, rfl, rfl⟩
    · obtain ⟨_, -, htext⟩ := Option.map_eq_some_iff.mp h
      cases htext
      refine .inr ?_
      rw [written, List.length_append, length_bracketed, List.length_replicate,
        List.length_replicate]
      omega

/-- A line that is shown as it is written, but for its last character, consists of segments that
are. -/
lemma forall_faithful_of_prefix {shown y : List Char} (h : shownLine opened ss = some shown)
    (hshown : y <+: shown) (hwritten : y <+: writtenLine ss)
    (hlength : (writtenLine ss).length ≤ y.length + 1) : ∀ s ∈ ss, s.Faithful := by
  induction ss generalizing opened shown y with
  | nil => nofun
  | cons s ss ih =>
    obtain ⟨text, opened', rest, hs, hss, rfl⟩ := exists_of_shownLine_cons h
    rw [writtenLine_cons] at hwritten hlength
    rw [List.length_append] at hlength
    have hfaithful : s.Faithful := by
      by_contra hnot
      rcases cases_of_not_faithful hnot hs with ⟨j, k, more, more', hjk, rfl, hk⟩ | hshort
      · rw [hk] at hwritten hlength
        simp only [List.length_append, List.length_replicate, List.length_cons] at hlength
        have hj : j < y.length := by omega
        have hbracket : y[j] = '[' := by
          rw [hshown.getElem hj]
          simp
        have hslash : y[j] = '\\' := by
          rw [hwritten.getElem hj]
          simp [List.getElem_append_left, hjk]
        rw [hbracket] at hslash
        exact absurd hslash (by decide)
      · have hrest := (shownLine_sublist hss).length_le
        have hle := hshown.length_le
        rw [List.length_append] at hle
        omega
    obtain ⟨rfl, rfl⟩ : s.written = text ∧ opened = opened' := by
      simpa [hfaithful.shown opened] using hs
    refine List.forall_mem_cons.mpr ⟨hfaithful, ?_⟩
    by_cases hlonger : s.written.length ≤ y.length
    · obtain ⟨y', rfl⟩ := List.prefix_of_prefix_length_le (List.prefix_append _ _) hwritten hlonger
      rw [List.prefix_append_right_inj] at hshown hwritten
      rw [List.length_append] at hlength
      exact ih hss hshown hwritten (by omega)
    · cases ss with
      | nil => nofun
      | cons s' ss =>
        have hpos := s'.length_written_pos
        rw [writtenLine_cons, List.length_append] at hlength
        omega

/-- What is left of a line has lost backslashes before brackets alone. -/
lemma thinned_leftLine (ss : List Segment) : Thinned (writtenLine ss) (leftLine ss) := by
  induction ss with
  | nil => exact .nil
  | cons s ss ih =>
    have hsegment : Thinned s.written s.left := by
      cases s with
      | char c => exact .refl _
      | run k => exact .refl _
      | bracket k => exact .bracket (Nat.sub_le k 1) .nil
      | tag k body escaped =>
        refine .bracket ?_ (.refl _)
        unfold slashesGiven
        split <;> omega
    exact hsegment.append ih

end Segment
end MetricsAgent.Markup
