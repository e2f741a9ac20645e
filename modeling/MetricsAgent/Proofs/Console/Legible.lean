import MetricsAgent.Proofs.Console.Segments

/-!
# Lines that can be read

A line may end in a text that was escaped, behind a front that was not.  It can be read exactly if
no character of it is left out or replaced by the console, no bracket of the front has a backslash
before it or begins a tag, and no bracket behind it that begins no tag has a backslash before it
(`Markup.Legible`).  A tag may begin in the front and end behind it, so that it matters to the front
what stands behind it.  Without shortcodes the console shows the line as it is written exactly if
it can be read (`Markup.render_append_escape_iff`), and it shows something unless a tag begins in
the front (`Markup.exists_render_append_escape`).
-/

namespace MetricsAgent.Markup

variable {cs rest inner body front back t : List Char} {c : Char} {k : ℕ}

/-! ## Brackets -/

/-- A text ends in a backslash. -/
def endsInSlash (cs : List Char) : Bool :=
  cs.getLast? == some '\\'

/-- Every opening bracket of a text meets a condition on whether a backslash stands before it, and
on what stands behind it. -/
def EachBracket (P : Bool → List Char → Prop) (cs : List Char) : Prop :=
  ∀ before inner, cs = before ++ '[' :: inner → P (endsInSlash before) inner

section EachBracket

variable {P : Bool → List Char → Prop}

lemma endsInSlash_append_cons (before rest : List Char) :
    endsInSlash (before ++ c :: rest) = endsInSlash (c :: rest) := by
  unfold endsInSlash
  rw [List.getLast?_append_of_ne_nil _ (List.cons_ne_nil c rest)]

lemma endsInSlash_of_append (front : List Char) (h : endsInSlash (front ++ rest) = false) :
    endsInSlash rest = false := by
  cases rest with
  | nil => rfl
  | cons c rest => rwa [endsInSlash_append_cons] at h

lemma endsInSlash_slashes (k : ℕ) : endsInSlash (slashes k) = decide (0 < k) := by
  cases k with
  | zero => rfl
  | succ k => simp [endsInSlash, List.getLast?_replicate]

lemma eachBracket_iff_forall_lt : EachBracket P cs ↔ ∀ i < cs.length,
    cs[i]? = some '[' → P (endsInSlash (cs.take i)) (cs.drop (i + 1)) := by
  constructor
  · intro h i _ hbracket
    obtain ⟨hi, hbracket⟩ := List.getElem?_eq_some_iff.mp hbracket
    refine h _ _ ?_
    rw [← hbracket, ← List.drop_eq_getElem_cons hi, List.take_append_drop]
  · rintro h before inner rfl
    simpa using h before.length (by simp) (by simp)

instance [∀ slash inner, Decidable (P slash inner)] (cs : List Char) :
    Decidable (EachBracket P cs) :=
  decidable_of_iff _ eachBracket_iff_forall_lt.symm

lemma eachBracket_nil : EachBracket P [] := by
  rintro before inner h
  cases before <;> cases h

/-- What has no brackets may stand before a text, unless a backslash meets a bracket. -/
lemma eachBracket_append (hbracket : '[' ∉ front)
    (hmeet : endsInSlash front = true → rest.head? ≠ some '[') :
    EachBracket P (front ++ rest) ↔ EachBracket P rest := by
  have hends (before inner : List Char) (h : rest = before ++ '[' :: inner) :
      endsInSlash (front ++ before) = endsInSlash before := by
    cases before with
    | nil =>
      rw [List.append_nil, Bool.eq_false_iff.mpr fun hslash => hmeet hslash (by rw [h]; rfl)]
      rfl
    | cons c before => exact endsInSlash_append_cons front before
  constructor
  · rintro h before inner rfl
    rw [← hends before inner rfl]
    exact h (front ++ before) inner (by rw [List.append_assoc])
  · rintro h before inner heq
    rcases append_eq_append_cons_cases heq with ⟨extra, rfl, hrest⟩ | ⟨extra, rfl, -⟩
    · rw [hends extra inner hrest]
      exact h extra inner hrest
    · exact absurd (by simp) hbracket

/-- The first bracket of a text, and those behind it. -/
lemma eachBracket_bracket (k : ℕ) (inner : List Char) :
    EachBracket P (slashes k ++ '[' :: inner) ↔ P (decide (0 < k)) inner ∧ EachBracket P inner := by
  rw [← endsInSlash_slashes]
  have hends (extra : List Char) :
      endsInSlash (slashes k ++ '[' :: extra) = endsInSlash extra := by
    rw [endsInSlash_append_cons]
    cases extra with
    | nil => rfl
    | cons d extra => exact endsInSlash_append_cons ['['] extra
  constructor
  · intro h
    refine ⟨h (slashes k) inner rfl, ?_⟩
    rintro extra inner' rfl
    rw [← hends]
    exact h (slashes k ++ '[' :: extra) inner' (by simp)
  · rintro ⟨hfirst, hrest⟩ before inner' heq
    rcases append_eq_append_cons_cases heq with ⟨extra, rfl, hextra⟩ | ⟨extra, hslashes, -⟩
    · rcases List.cons_eq_append_iff.mp hextra with ⟨rfl, hinner⟩ | ⟨extra, rfl, hinner⟩
      · obtain ⟨-, rfl⟩ := List.cons.inj hinner
        rwa [List.append_nil]
      · rw [hends]
        exact hrest extra inner' hinner
    · exact absurd (hslashes ▸ List.mem_append_right before List.mem_cons_self) (not_mem_slashes k)

/-- There are no brackets between those of a tag. -/
lemma eachBracket_body (hbody : ∀ c ∈ body, isBracket c = false) (rest : List Char) :
    EachBracket P (body ++ ']' :: rest) ↔ EachBracket P rest := by
  have hends : endsInSlash (body ++ [']']) = false := endsInSlash_append_cons body []
  have happend : EachBracket P (body ++ [']'] ++ rest) ↔ EachBracket P rest :=
    eachBracket_append (Segment.not_mem_closed hbody) fun h =>
      absurd (hends.symm.trans h) (by decide)
  rwa [List.append_assoc] at happend

end EachBracket

/-! ## Tags -/

/-- What begins a tag does so whether or not what follows is escaped. -/
lemma opensTag_append_escapeFrom_eq (fuel : ℕ) (front cs : List Char)
    (ht : ∀ c ∈ t, isBracket c = false) :
    opensTag (front ++ (escapeFrom fuel cs ++ t)) = opensTag (front ++ cs) := by
  have hfind : (front ++ (escapeFrom fuel cs ++ t)).find? isBracket
      = (front ++ cs).find? isBracket := by
    have hnone : t.find? isBracket = none := by
      rw [List.find?_eq_none]
      simpa using ht
    rw [List.find?_append, List.find?_append, hnone, Option.or_none, find?_escapeFrom,
      List.find?_append]
  unfold opensTag
  rw [hfind]
  by_cases hclosing : (front ++ cs).find? isBracket = some ']'
  · have hhead : (front ++ (escapeFrom fuel cs ++ t)).head?.any beginsTag
        = (front ++ cs).head?.any beginsTag := by
      cases front with
      | cons c front => rfl
      | nil =>
        rw [List.nil_append, List.nil_append, ← head?_escapeFrom fuel cs]
        cases hescaped : escapeFrom fuel cs with
        | cons c escaped => rfl
        | nil =>
          rw [List.nil_append, ← find?_escapeFrom fuel, hescaped] at hclosing
          cases hclosing
    rw [hhead]
  · have hfalse : ((front ++ cs).find? isBracket == some ']') = false := by simpa using hclosing
    rw [hfalse, Bool.and_false, Bool.and_false]

lemma isBracket_of_mem_slashes (j : ℕ) : ∀ c ∈ slashes j, isBracket c = false := by
  intro c hc
  rw [List.eq_of_mem_replicate hc]
  decide

/-- A bracket begins no tag, with a text that follows. -/
def TaglessBracket (back : List Char) (_ : Bool) (inner : List Char) : Prop :=
  opensTag (inner ++ back) = false

/-- What begins no tag may stand before a text that is shown. -/
lemma shows_append_of_tagless {opened : List String} (hend : endsInSlash front = false)
    (htagless : EachBracket (TaglessBracket back) front) (h : Shows opened back) :
    Shows opened (front ++ back) := by
  induction hn : front.length using Nat.strong_induction_on generalizing front with
  | _ n ih =>
    cases Markup.front front with
    | nil => exact h
    | @slashes k rest hslash hbracket =>
      rw [eachBracket_append (not_mem_slashes _) fun _ => hbracket] at htagless
      have hlength : rest.length < n := by
        rw [← hn, List.length_append, List.length_replicate]
        omega
      have hrest := ih _ hlength (endsInSlash_of_append _ hend) htagless rfl
      cases rest with
      | nil =>
        rw [List.append_nil, endsInSlash_slashes] at hend
        simp at hend
      | cons c rest =>
        rw [List.append_assoc]
        refine shows_slashes ?_ ?_ hrest (k + 1)
        · exact hslash
        · exact hbracket
    | @cons c rest hslash hbracket =>
      have heach : EachBracket (TaglessBracket back) ([c] ++ rest)
          ↔ EachBracket (TaglessBracket back) rest :=
        eachBracket_append (by simpa using hbracket.symm) (by simp [endsInSlash, hslash])
      have hlength : rest.length < n := by
        rw [← hn, List.length_cons]
        omega
      exact shows_cons hslash hbracket
        (ih _ hlength (endsInSlash_of_append [c] hend) (heach.mp htagless) rfl)
    | bracket k inner =>
      rw [eachBracket_bracket] at htagless
      have hlength : inner.length < n := by
        rw [← hn, List.length_append, List.length_cons]
        omega
      have hends : endsInSlash inner = false :=
        endsInSlash_of_append (slashes k ++ ['[']) (by simpa using hend)
      rw [List.append_assoc]
      exact shows_bracket (tag?_eq_none_iff.mpr htagless.1)
        (ih _ hlength hends htagless.2 rfl) k

/-! ## The segments of a line -/

open Segment

/-- A line can be divided into segments, which are shown as they are written exactly if a condition
holds. -/
def Divided (given written : List Char) (faithful : Prop) : Prop :=
  ∃ ss, Parsed ss ∧ givenLine ss = given ∧ writtenLine ss = written ∧
    ((∀ s ∈ ss, s.Faithful) ↔ faithful)

namespace Divided

variable {given written : List Char} {faithful faithful' : Prop}

/-- One more segment at the beginning. -/
lemma cons {s : Segment} (h : Divided given written faithful) (hfits : s.Fits given) :
    Divided (s.given ++ given) (s.written ++ written) (s.Faithful ∧ faithful) := by
  obtain ⟨ss, hparsed, rfl, rfl, hfaithful⟩ := h
  exact ⟨s :: ss, ⟨hfits, hparsed⟩, givenLine_cons s ss, writtenLine_cons s ss,
    by rw [List.forall_mem_cons, hfaithful]⟩

lemma congr (h : Divided given written faithful) (heq : faithful ↔ faithful') :
    Divided given written faithful' :=
  propext heq ▸ h

/-- One more segment that is shown as it is written. -/
lemma cons_faithful {s : Segment} (h : Divided given written faithful) (hfits : s.Fits given)
    (hs : s.Faithful) : Divided (s.given ++ given) (s.written ++ written) faithful :=
  (h.cons hfits).congr ⟨And.right, fun hrest => ⟨hs, hrest⟩⟩

/-- A tag that was not escaped is not shown as it is written. -/
lemma cons_tag (h : Divided given written faithful) (hbody : ∀ c ∈ body, isBracket c = false)
    (hbegins : body.head?.any beginsTag = true) (k : ℕ) :
    Divided (slashes k ++ '[' :: (body ++ ']' :: given))
      (slashes k ++ '[' :: (body ++ ']' :: written)) False := by
  have hline := (h.cons (s := .tag k body false) ⟨hbody, hbegins⟩).congr
    (iff_of_false (fun hboth => Bool.false_ne_true hboth.1) id)
  simpa [Segment.given, Segment.written, slashesGiven, bracketed] using hline

end Divided

lemma divided_slashes (j : ℕ) : Divided (slashes j) (slashes j) True := by
  have hnil : Divided [] [] True := ⟨[], trivial, rfl, rfl, by simp⟩
  cases j with
  | zero => exact hnil
  | succ j =>
    have hrun := hnil.cons_faithful (s := .run j) ⟨nofun, nofun⟩ trivial
    rwa [List.append_nil, List.append_nil] at hrun

/-- A bracket that begins no tag has no backslash before it. -/
def KeptBracket (slash : Bool) (inner : List Char) : Prop :=
  slash = true → opensTag inner = true

instance (slash : Bool) (inner : List Char) : Decidable (KeptBracket slash inner) :=
  inferInstanceAs (Decidable (_ → _))

/-- A bracket has no backslash before it and begins no tag, with a text that follows. -/
def BareBracket (back : List Char) (slash : Bool) (inner : List Char) : Prop :=
  slash = false ∧ opensTag (inner ++ back) = false

instance (back : List Char) (slash : Bool) (inner : List Char) :
    Decidable (BareBracket back slash inner) :=
  inferInstanceAs (Decidable (_ ∧ _))

lemma head?_escapeFrom_of_ne (hslash : rest.head? ≠ some '\\') (hbracket : rest.head? ≠ some '[')
    (fuel : ℕ) : (escapeFrom fuel rest).head? = rest.head? := by
  cases fuel with
  | zero => rfl
  | succ fuel =>
    cases rest with
    | nil => rfl
    | cons c rest =>
      rw [escapeFrom_cons fuel (by simpa using hslash) (by simpa using hbracket)]
      rfl

/-- A text that was escaped is divided into segments whose tags are. -/
lemma divided_escapeFrom (fuel : ℕ) (hfuel : cs.length ≤ fuel) (j : ℕ) :
    Divided (escapeFrom fuel cs ++ slashes j) (cs ++ slashes j) (EachBracket KeptBracket cs) := by
  induction fuel generalizing cs with
  | zero =>
    obtain rfl := List.length_eq_zero_iff.mp (Nat.le_zero.mp hfuel)
    exact (divided_slashes j).congr (iff_of_true trivial eachBracket_nil)
  | succ fuel ih =>
    cases front cs with
    | nil => exact (divided_slashes j).congr (iff_of_true trivial eachBracket_nil)
    | @slashes k rest hslash hbracket =>
      rw [escapeFrom_slashes fuel k hslash hbracket]
      rw [List.length_append, List.length_replicate] at hfuel
      have heach : EachBracket KeptBracket (slashes (k + 1) ++ rest)
          ↔ EachBracket KeptBracket rest :=
        eachBracket_append (not_mem_slashes _) fun _ => hbracket
      cases rest with
      | nil =>
        rw [escapeFrom_nil, List.append_nil, slashes, slashes, List.replicate_append_replicate]
        exact (divided_slashes _).congr (iff_of_true trivial
          (by rw [← List.append_nil (List.replicate _ _), heach]; exact eachBracket_nil))
      | cons c rest =>
        have hfits : Fits (escapeFrom fuel (c :: rest) ++ slashes j) (.run k) := by
          have hhead : (escapeFrom fuel (c :: rest) ++ slashes j).head? = (c :: rest).head? := by
            rw [List.head?_append, head?_escapeFrom_of_ne hslash hbracket]
            rfl
          exact ⟨hhead ▸ hslash, hhead ▸ hbracket⟩
        have hrest := (ih (by omega)).cons_faithful hfits trivial
        rw [List.append_assoc, List.append_assoc]
        exact hrest.congr heach.symm
    | @cons c rest hslash hbracket =>
      rw [escapeFrom_cons fuel hslash hbracket]
      have hrest := (ih (Nat.le_of_succ_le_succ hfuel)).cons_faithful (s := .char c)
        ⟨hslash, hbracket⟩ trivial
      have heach : EachBracket KeptBracket ([c] ++ rest) ↔ EachBracket KeptBracket rest :=
        eachBracket_append (by simpa using hbracket.symm) (by simp [endsInSlash, hslash])
      exact hrest.congr heach.symm
    | bracket k inner =>
      rw [escapeFrom_bracket, eachBracket_bracket]
      rw [List.length_append, List.length_cons] at hfuel
      cases htag : tag? inner with
      | none =>
        have hopens := tag?_eq_none_iff.mp htag
        have hfits : Fits (escapeFrom fuel inner ++ slashes j) (.bracket k) :=
          tag?_eq_none_iff.mpr
            (opensTag_append_escapeFrom fuel hopens (isBracket_of_mem_slashes j))
        have hkept : Faithful (.bracket k) ↔ KeptBracket (decide (0 < k)) inner := by
          simp [Faithful, KeptBracket, hopens]
        have hrest := (ih (by omega)).cons hfits
        rw [hkept] at hrest
        simpa [given, written] using hrest
      | some p =>
        obtain ⟨body, rest⟩ := p
        have hopens : opensTag inner = true := by
          rw [← Bool.not_eq_false, ← tag?_eq_none_iff, htag]
          exact Option.some_ne_none _
        obtain ⟨rfl, hbody, hbegins⟩ := eq_of_tag? htag
        rw [List.length_append, List.length_cons] at hfuel
        have hrest := (ih (show rest.length ≤ fuel by omega)).cons_faithful (s := .tag k body true)
          ⟨hbody, hbegins⟩ rfl
        have hiff : EachBracket KeptBracket rest ↔
            KeptBracket (decide (0 < k)) (body ++ ']' :: rest) ∧
              EachBracket KeptBracket (body ++ ']' :: rest) := by
          rw [eachBracket_body hbody]
          exact ⟨fun h => ⟨fun _ => hopens, h⟩, And.right⟩
        have hslashes : slashes (2 * k + 1) = slashes k ++ slashes k ++ ['\\'] := by
          rw [slashes, slashes, List.replicate_append_replicate, ← Nat.two_mul,
            List.replicate_succ']
        rw [hiff] at hrest
        simpa [given, written, slashesGiven, bracketed, hslashes] using hrest

lemma find?_body (hbody : ∀ c ∈ body, isBracket c = false) (rest : List Char) :
    (body ++ ']' :: rest).find? isBracket = some ']' := by
  have hnone : body.find? isBracket = none := by
    rw [List.find?_eq_none]
    simpa using hbody
  rw [List.find?_append, hnone, Option.none_or]
  rfl

/-- Behind a text without brackets and the closing bracket that follows it a line goes on. -/
lemma exists_behind_closing {ss : List Segment} (hparsed : Parsed ss)
    (hgiven : givenLine ss = body ++ ']' :: rest) (hbody : ∀ c ∈ body, isBracket c = false) :
    ∃ ss', Parsed ss' ∧ givenLine ss' = rest ∧ writtenLine ss = body ++ ']' :: writtenLine ss' := by
  induction ss generalizing body with
  | nil => cases body <;> cases hgiven
  | cons s ss ih =>
    obtain ⟨hfits, hparsed⟩ := hparsed
    have hwritten := writtenLine_cons s ss
    have hclosing := find?_body hbody rest
    rw [← hgiven] at hclosing
    rw [givenLine_cons] at hgiven hclosing
    cases s with
    | char c =>
      cases body with
      | nil =>
        obtain ⟨rfl, hrest⟩ := List.cons.inj hgiven
        exact ⟨ss, hparsed, hrest, hwritten⟩
      | cons d body =>
        obtain ⟨rfl, hrest⟩ := List.cons.inj hgiven
        obtain ⟨ss', hparsed', hgiven', hwritten'⟩ :=
          ih hparsed hrest (List.forall_mem_cons.mp hbody).2
        exact ⟨ss', hparsed', hgiven', by rw [hwritten, hwritten']; rfl⟩
    | run k =>
      obtain ⟨extra, rfl, hrest⟩ :
          ∃ extra, body = slashes (k + 1) ++ extra ∧ givenLine ss = extra ++ ']' :: rest := by
        refine (append_eq_append_cons_cases hgiven).resolve_right ?_
        rintro ⟨extra, hextra, -⟩
        have hmem : ']' ∈ slashes (k + 1) := by
          rw [show slashes (k + 1) = body ++ ']' :: extra from hextra]
          simp
        exact absurd (List.eq_of_mem_replicate hmem) (by decide)
      obtain ⟨ss', hparsed', hgiven', hwritten'⟩ :=
        ih hparsed hrest fun c hc => hbody c (List.mem_append_right _ hc)
      exact ⟨ss', hparsed', hgiven', by rw [hwritten, hwritten', List.append_assoc]; rfl⟩
    | bracket k =>
      rw [show given (.bracket k) = slashes k ++ ['['] from rfl, List.append_assoc, find?_slashes]
        at hclosing
      cases hclosing
    | tag k body' escaped =>
      rw [given, List.append_assoc, find?_slashes] at hclosing
      cases hclosing

/-- Nor is such a tag if it ends in what follows. -/
lemma Divided.append_tag {given written inner tail : List Char} {faithful : Prop}
    (h : Divided given written faithful) (hgiven : given = tail ++ ']' :: rest)
    (hbody : ∀ c ∈ inner ++ tail, isBracket c = false)
    (hbegins : (inner ++ tail).head?.any beginsTag = true) (k : ℕ) :
    Divided (slashes k ++ '[' :: (inner ++ given)) (slashes k ++ '[' :: (inner ++ written))
      False := by
  obtain ⟨ss, hparsed, rfl, rfl, -⟩ := h
  obtain ⟨ss', hparsed', hrest, hwritten⟩ := exists_behind_closing hparsed hgiven fun c hc =>
    hbody c (List.mem_append_right _ hc)
  have hbehind : Divided rest (writtenLine ss') (∀ s ∈ ss', s.Faithful) :=
    ⟨ss', hparsed', hrest, rfl, Iff.rfl⟩
  rw [hgiven, hwritten, ← List.append_assoc, ← List.append_assoc]
  exact hbehind.cons_tag hbody hbegins k

/-- The segments of a line that ends in a text that was escaped. -/
lemma divided_append_escapeFrom (fuel : ℕ) (hfuel : cs.length ≤ fuel) (j : ℕ)
    (hend : endsInSlash front = false) :
    Divided (front ++ (escapeFrom fuel cs ++ slashes j)) (front ++ (cs ++ slashes j))
      (EachBracket (BareBracket cs) front ∧ EachBracket KeptBracket cs) := by
  induction hn : front.length using Nat.strong_induction_on generalizing front with
  | _ n ih =>
    have hback := divided_escapeFrom fuel hfuel j
    cases Markup.front front with
    | nil => exact hback.congr ⟨fun h => ⟨eachBracket_nil, h⟩, And.right⟩
    | @slashes k rest hslash hbracket =>
      have hlength : rest.length < n := by
        rw [← hn, List.length_append, List.length_replicate]
        omega
      have heach : EachBracket (BareBracket cs) (slashes (k + 1) ++ rest)
          ↔ EachBracket (BareBracket cs) rest :=
        eachBracket_append (not_mem_slashes _) fun _ => hbracket
      cases rest with
      | nil =>
        rw [List.append_nil, endsInSlash_slashes] at hend
        simp at hend
      | cons c rest =>
        have hrest := (ih _ hlength (endsInSlash_of_append _ hend) rfl).cons_faithful (s := .run k)
          ⟨hslash, hbracket⟩ trivial
        rw [List.append_assoc, List.append_assoc, heach]
        exact hrest
    | @cons c rest hslash hbracket =>
      have hlength : rest.length < n := by
        rw [← hn, List.length_cons]
        omega
      have heach : EachBracket (BareBracket cs) ([c] ++ rest) ↔ EachBracket (BareBracket cs) rest :=
        eachBracket_append (by simpa using hbracket.symm) (by simp [endsInSlash, hslash])
      have hrest := (ih _ hlength (endsInSlash_of_append [c] hend) rfl).cons_faithful
        (s := .char c) ⟨hslash, hbracket⟩ trivial
      rw [← heach] at hrest
      exact hrest
    | bracket k inner =>
      have hends : endsInSlash inner = false :=
        endsInSlash_of_append (slashes k ++ ['[']) (by simpa using hend)
      have hlength : inner.length < n := by
        rw [← hn, List.length_append, List.length_cons]
        omega
      have hopens :
          opensTag (inner ++ (escapeFrom fuel cs ++ slashes j)) = opensTag (inner ++ cs) :=
        opensTag_append_escapeFrom_eq fuel inner cs (isBracket_of_mem_slashes j)
      rw [eachBracket_bracket]
      cases htag : tag? (inner ++ (escapeFrom fuel cs ++ slashes j)) with
      | none =>
        have hnot := tag?_eq_none_iff.mp htag
        rw [hopens] at hnot
        have hbare : Faithful (.bracket k) ↔ BareBracket cs (decide (0 < k)) inner := by
          simp [Faithful, BareBracket, hnot]
        have hrest := (ih _ hlength hends rfl).cons (s := .bracket k) htag
        rw [hbare, ← and_assoc] at hrest
        simpa [given, written] using hrest
      | some p =>
        obtain ⟨body, rest⟩ := p
        have htrue : opensTag (inner ++ cs) = true := by
          rw [← hopens, ← Bool.not_eq_false, ← tag?_eq_none_iff, htag]
          exact Option.some_ne_none _
        have hfalse : False ↔ (BareBracket cs (decide (0 < k)) inner ∧
            EachBracket (BareBracket cs) inner) ∧ EachBracket KeptBracket cs :=
          iff_of_false id fun h => absurd (h.1.1.2.symm.trans htrue) (by decide)
        -- The tag ends behind the front or in it.
        obtain ⟨htext, hbody, hbegins⟩ := eq_of_tag? htag
        rcases append_eq_append_cons_cases htext with ⟨extra, rfl, hrest⟩ | ⟨extra, rfl, rfl⟩
        · have hline := (hback.append_tag hrest hbody hbegins k).congr hfalse
          simpa using hline
        · have hshorter : extra.length < n := by
            rw [List.length_append, List.length_cons] at hlength
            omega
          have hextra : endsInSlash extra = false :=
            endsInSlash_of_append (body ++ [']']) (by simpa using hends)
          have hline := ((ih _ hshorter hextra rfl).cons_tag hbody hbegins k).congr hfalse
          simpa using hline

/-! ## Characters that are shown -/

/-- A character that the console neither leaves out nor replaces by blanks. -/
def IsClean (c : Char) : Prop :=
  c ≠ '\t' ∧ isControl c = false

instance : DecidablePred IsClean :=
  fun _ => inferInstanceAs (Decidable (_ ∧ _))

lemma expandTabs_eq_self (h : '\t' ∉ cs) (column : ℕ) : expandTabs column cs = cs := by
  induction cs generalizing column with
  | nil => rfl
  | cons c cs ih =>
    rw [List.mem_cons, not_or] at h
    rw [expandTabs, if_neg (by simpa using Ne.symm h.1), ih h.2, ih h.2, ite_self]

lemma isClean_of_mem_expandTabs (h : ∀ c ∈ cs, isControl c = false) {column : ℕ}
    (hc : c ∈ expandTabs column cs) : IsClean c := by
  induction cs generalizing column with
  | nil => cases hc
  | cons d cs ih =>
    rw [List.forall_mem_cons] at h
    rw [expandTabs] at hc
    split at hc
    · rcases List.mem_append.mp hc with hc | hc
      · rw [List.eq_of_mem_replicate hc]
        exact ⟨by decide, by decide⟩
      · exact ih h.2 hc
    · next htab =>
      have hclean : IsClean d := ⟨by simpa using htab, h.1⟩
      split at hc <;>
      · rcases List.mem_cons.mp hc with rfl | hc
        · exact hclean
        · exact ih h.2 hc

/-- What the console prints of a text that was rendered. -/
lemma expandTabs_filter_eq_self (h : ∀ c ∈ cs, IsClean c) :
    expandTabs 0 (cs.filter (!isControl ·)) = cs := by
  have hfilter : cs.filter (!isControl ·) = cs :=
    List.filter_eq_self.mpr fun c hc => by simp [(h c hc).2]
  rw [hfilter, expandTabs_eq_self fun htab => (h _ htab).1 rfl]

/-! ## Lines -/

/-- A line with a text behind a front can be read: all of its characters are shown, no bracket of
the front has a backslash before it or begins a tag, and no bracket behind it has a backslash before
it unless it begins a tag. -/
structure Legible (front back : List Char) : Prop where
  clean : ∀ c ∈ front ++ back, IsClean c
  bare : EachBracket (BareBracket back) front
  kept : EachBracket KeptBracket back

instance (front back : List Char) : Decidable (Legible front back) :=
  -- The characters of the texts are to be looked at, not all that there are.
  have : Decidable (∀ c ∈ front ++ back, IsClean c) := List.decidableBAll IsClean (front ++ back)
  decidable_of_iff ((∀ c ∈ front ++ back, IsClean c) ∧ EachBracket (BareBracket back) front ∧
      EachBracket KeptBracket back)
    ⟨fun h => ⟨h.1, h.2.1, h.2.2⟩, fun h => ⟨h.clean, h.bare, h.kept⟩⟩

/-- A line that ends in an escaped text can be shown if no tag begins before that text. -/
lemma exists_render_append_escape {front back : String} (hend : endsInSlash front.toList = false)
    (htagless : EachBracket (TaglessBracket back.toList) front.toList) :
    ∃ shown, render (front ++ escape back) = .ok shown := by
  obtain ⟨j, -, hguard⟩ := exists_guardEnd (escapeFrom back.length back.toList)
  have hescaped : (escape back).toList = escapeFrom back.length back.toList ++ slashes j := by
    rw [escape, String.toList_ofList, hguard]
  have hgiven : EachBracket (TaglessBracket (escape back).toList) front.toList := by
    intro before inner hfront
    have hnone : opensTag (inner ++ back.toList) = false := htagless before inner hfront
    rw [TaglessBracket, hescaped, opensTag_append_escapeFrom_eq _ _ _ (isBracket_of_mem_slashes j)]
    exact hnone
  refine exists_render ?_
  rw [String.toList_append]
  have hshown : Shows [] ((escape back).toList ++ []) := shows_escape back (by simp)
  rw [List.append_nil] at hshown
  exact shows_append_of_tagless hend hgiven hshown

lemma isClean_backslash : IsClean '\\' :=
  ⟨by decide, by decide⟩

/-- A line without shortcodes that ends in an escaped text is shown as it is written, but for what
may follow it, exactly if it can be read. -/
lemma render_append_escape_iff {front back : String} (hend : endsInSlash front.toList = false)
    (hfree : Pictogram.Free (front.toList ++ back.toList)) :
    (∃ tail, render (front ++ escape back) = .ok (front ++ back ++ tail))
      ↔ Legible front.toList back.toList := by
  obtain ⟨j, hj, hguard⟩ := exists_guardEnd (escapeFrom back.length back.toList)
  obtain ⟨ss, hparsed, hgiven, hwritten, hfaithful⟩ :=
    divided_append_escapeFrom back.length String.length_toList.le j hend
  have htext : (front ++ escape back).toList = givenLine ss := by
    rw [hgiven, String.toList_append, escape, String.toList_ofList, hguard]
  rw [← List.append_assoc] at hwritten
  have hnone : Pictogram.NoneIn (leftLine ss) := by
    have hline : Pictogram.Free (writtenLine ss) :=
      hwritten ▸ hfree.append_of_not_mem (not_mem_slashes j) fun hmem =>
        absurd (List.eq_of_mem_replicate hmem) (by decide)
    exact hline _ (thinned_leftLine ss)
  have hrender := toOption_render htext hparsed hnone
  have hclean (h : ∀ c ∈ front.toList ++ back.toList, IsClean c) :
      ∀ c ∈ writtenLine ss, IsClean c := by
    intro c hc
    rw [hwritten] at hc
    rcases List.mem_append.mp hc with hc | hc
    · exact h c hc
    · rw [List.eq_of_mem_replicate hc]
      exact isClean_backslash
  constructor
  · rintro ⟨tail, htail⟩
    rw [htail] at hrender
    obtain ⟨shown, hshown, hprinted⟩ := Option.map_eq_some_iff.mp hrender.symm
    have hlist : expandTabs 0 (shown.filter (!isControl ·))
        = front.toList ++ back.toList ++ tail.toList := by
      rw [← String.toList_append, ← String.toList_append, ← hprinted, String.toList_ofList]
    have hcharacters : ∀ c ∈ front.toList ++ back.toList, IsClean c := fun c hc =>
      isClean_of_mem_expandTabs (by simp) (hlist.symm ▸ List.mem_append_left _ hc)
    have hall : shown = front.toList ++ back.toList ++ tail.toList := by
      rw [← hlist, expandTabs_filter_eq_self fun c hc =>
        hclean hcharacters c ((shownLine_sublist hshown).subset hc)]
    have hparts : ∀ s ∈ ss, s.Faithful := by
      refine forall_faithful_of_prefix (y := front.toList ++ back.toList) hshown
        (hall ▸ List.prefix_append _ _) (hwritten ▸ List.prefix_append _ _) ?_
      rw [hwritten, List.length_append, List.length_replicate]
      omega
    exact ⟨hcharacters, (hfaithful.mp hparts).1, (hfaithful.mp hparts).2⟩
  · rintro ⟨hcharacters, hbare, hkept⟩
    refine ⟨String.ofList (slashes j), ?_⟩
    rw [shownLine_of_faithful (hfaithful.mpr ⟨hbare, hkept⟩), Option.map_some,
      expandTabs_filter_eq_self (hclean hcharacters), hwritten] at hrender
    cases hshown : render (front ++ escape back) with
    | error f =>
      rw [hshown] at hrender
      cases hrender
    | ok shown =>
      rw [hshown] at hrender
      have hprinted : shown = String.ofList (front.toList ++ back.toList ++ slashes j) :=
        Option.some.inj hrender
      rw [hprinted, String.ofList_append, String.ofList_append, String.ofList_toList,
        String.ofList_toList]

end MetricsAgent.Markup
