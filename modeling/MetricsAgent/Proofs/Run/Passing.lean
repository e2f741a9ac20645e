import Mathlib.Algebra.Order.Ring.Rat
import Mathlib.Tactic.Common
import Mathlib.Tactic.Linarith
import MetricsAgent.Run.World

/-!
# How time passes

Exact time, and what happens to the world while it passes.  `passTo` and `awaitStop` keep
appointments one after the other; what comes of that depends on the first appointment alone, since
keeping it is what makes the agent stop.  `World.Precedes` collects what holds between any two
worlds of one run: the clock does not go back, a request to stop stands as it was made, and an
appointment whose time has come was kept.
-/

namespace MetricsAgent

/-! ## Exact time -/

namespace Seconds

@[simp] lemma zero_rat : (zero : ℚ) = 0 := rfl

@[simp] lemma add_rat (a b : ℚ) : add a b = a + b := rfl

@[simp] lemma sub_rat (a b : ℚ) : sub a b = a - b := rfl

@[simp] lemma lt_rat (a b : ℚ) : lt a b = decide (a < b) := rfl

@[simp] lemma le_rat (a b : ℚ) : le a b = decide (a ≤ b) := rfl

@[simp] lemma isPositive_rat (a : ℚ) : isPositive a = decide (0 < a) := rfl

@[simp] lemma later_rat (a b : ℚ) : later a b = max a b := by
  unfold later
  by_cases h : a < b
  · simp [h, max_eq_right h.le]
  · simp [h, max_eq_left (not_lt.mp h)]

end Seconds

namespace World

/-! ## Keeping appointments -/

/-- The world but for what others ask of the agent: without the request to stop, without
appointments, and without what the log says of them. -/
def undisturbed {T : Type} (w : World T) : World T :=
  { w with stop := none, stopTime := none, agenda := [], tickets := 0,
           log := w.log.filter (·.source ≠ .shutdown) }

variable {w u v : World ℚ} {a : Appointment ℚ} {rest : List (Appointment ℚ)}

lemma requestStop_of_stopping (h : w.isStopping = true) (reason : String) :
    w.requestStop reason = w := by
  unfold requestStop
  cases hs : w.stop with
  | none => simp [isStopping, hs] at h
  | some r => rfl

lemma requestStop_of_not_stopping (h : w.isStopping = false) (reason : String) :
    w.requestStop reason
      = { w with stop := some reason, stopTime := some w.now }.logLine .info .shutdown
          ("Shutdown requested (" ++ reason ++ ")") := by
  unfold requestStop
  cases hs : w.stop with
  | none => rfl
  | some r => simp [isStopping, hs] at h

@[simp] lemma isStopping_requestStop (w : World ℚ) (reason : String) :
    (w.requestStop reason).isStopping = true := by
  simp [isStopping, stop_requestStop]

@[simp] lemma undisturbed_requestStop (w : World ℚ) (reason : String) :
    (w.requestStop reason).undisturbed = w.undisturbed := by
  cases h : w.isStopping
  · rw [requestStop_of_not_stopping h]
    simp [undisturbed, logLine]
  · rw [requestStop_of_stopping h]

@[simp] lemma now_requestStop (w : World ℚ) (reason : String) :
    (w.requestStop reason).now = w.now := by
  cases h : w.isStopping
  · rw [requestStop_of_not_stopping h]; rfl
  · rw [requestStop_of_stopping h]

@[simp] lemma agenda_requestStop (w : World ℚ) (reason : String) :
    (w.requestStop reason).agenda = w.agenda := by
  cases h : w.isStopping
  · rw [requestStop_of_not_stopping h]; rfl
  · rw [requestStop_of_stopping h]

lemma keepFirst_cons (h : w.agenda = a :: rest) :
    w.keepFirst = { w with now := max w.now a.due, agenda := rest }.requestStop a.reason := by
  simp [keepFirst, h, moveTo]

lemma isStopping_keepFirst (h : w.agenda = a :: rest) : w.keepFirst.isStopping = true := by
  rw [keepFirst_cons h, isStopping_requestStop]

lemma now_keepFirst (h : w.agenda = a :: rest) : w.keepFirst.now = max w.now a.due := by
  rw [keepFirst_cons h, now_requestStop]

lemma stopTime_keepFirst (h : w.agenda = a :: rest) (hw : w.isStopping = false) :
    w.keepFirst.stopTime = some (max w.now a.due) := by
  rw [keepFirst_cons h, requestStop_of_not_stopping (by simpa [isStopping] using hw)]
  rfl

lemma keepWhile_of_not {p : Appointment ℚ → Bool} (h : ∀ a ∈ w.agenda.head?, p a = false) :
    w.keepWhile p = w := by
  unfold keepWhile
  cases ha : w.agenda with
  | nil => rfl
  | cons a rest => simp [h a (by simp [ha])]

lemma keepWhile_cons {p : Appointment ℚ → Bool} (h : w.agenda = a :: rest) (hp : p a = true) :
    w.keepWhile p = w.keepFirst.keepWhile p := by
  have hrest : w.keepFirst.agenda = rest := by rw [keepFirst_cons h, agenda_requestStop]
  simp [keepWhile, h, hrest, hp]

/-- What holds at first and is kept by keeping one appointment holds in the end. -/
lemma keepWhile_induction {p : Appointment ℚ → Bool} {P : World ℚ → Prop} (w : World ℚ) (hw : P w)
    (step : ∀ v a rest, P v → v.agenda = a :: rest → p a = true → P v.keepFirst) :
    P (w.keepWhile p) := by
  induction hl : w.agenda generalizing w with
  | nil => rwa [keepWhile_of_not (by simp [hl])]
  | cons a rest ih =>
    cases hp : p a with
    | false => rwa [keepWhile_of_not (by simpa [hl] using hp)]
    | true =>
      rw [keepWhile_cons hl hp]
      exact ih _ (step w a rest hw hl hp) (by rw [keepFirst_cons hl, agenda_requestStop])

/-! ## Until a time -/

/-- Keeping what is due by a time moves the clock that far at most, changes nothing else that is the
agent's own, and leaves a request to stop that was made before as it is. -/
lemma keepWhile_due (w : World ℚ) (t : ℚ) :
    w.now ≤ (w.keepWhile fun a => Seconds.le a.due t).now ∧
      (w.keepWhile fun a => Seconds.le a.due t).now ≤ max w.now t ∧
      (w.keepWhile fun a => Seconds.le a.due t).undisturbed
        = { w.undisturbed with now := (w.keepWhile fun a => Seconds.le a.due t).now } ∧
      (w.isStopping = true → (w.keepWhile fun a => Seconds.le a.due t).stop = w.stop ∧
        (w.keepWhile fun a => Seconds.le a.due t).stopTime = w.stopTime) := by
  refine keepWhile_induction (P := fun v => w.now ≤ v.now ∧ v.now ≤ max w.now t ∧
    v.undisturbed = { w.undisturbed with now := v.now } ∧
    (w.isStopping = true → v.stop = w.stop ∧ v.stopTime = w.stopTime)) w ?_ ?_
  · exact ⟨le_rfl, le_max_left _ _, rfl, fun _ => ⟨rfl, rfl⟩⟩
  · rintro v a rest ⟨hle, hmax, hown, hstop⟩ ha hdue
    have hdue : a.due ≤ t := by simpa using hdue
    refine ⟨?_, ?_, ?_, fun hw => ?_⟩
    · rw [now_keepFirst ha]
      exact hle.trans (le_max_left _ _)
    · rw [now_keepFirst ha]
      exact max_le hmax (hdue.trans (le_max_right _ _))
    · have hv : { v.undisturbed with now := max v.now a.due }
          = { w.undisturbed with now := max v.now a.due } := by rw [hown]
      rw [now_keepFirst ha, keepFirst_cons ha, undisturbed_requestStop]
      exact hv
    · obtain ⟨h1, h2⟩ := hstop hw
      have hv : v.isStopping = true := by simpa [isStopping, h1] using hw
      rw [keepFirst_cons ha, requestStop_of_stopping (by simpa [isStopping] using hv)]
      exact ⟨h1, h2⟩

@[simp] lemma now_passTo (w : World ℚ) (t : ℚ) : (w.passTo t).now = max w.now t := by
  obtain ⟨h1, h2, -⟩ := keepWhile_due w t
  have h : (w.passTo t).now = max (w.keepWhile fun a => Seconds.le a.due t).now t := by
    simp [passTo, moveTo]
  rw [h]
  exact le_antisymm (max_le h2 (le_max_right _ _)) (max_le_max h1 le_rfl)

lemma undisturbed_passTo (w : World ℚ) (t : ℚ) :
    (w.passTo t).undisturbed = { w.undisturbed with now := max w.now t } := by
  have hv : (w.passTo t).undisturbed
      = { (w.keepWhile fun a => Seconds.le a.due t).undisturbed with now := (w.passTo t).now } :=
    rfl
  rw [hv, (keepWhile_due w t).2.2.1, now_passTo]

lemma passTo_of_stopping (h : w.isStopping = true) (t : ℚ) :
    (w.passTo t).stop = w.stop ∧ (w.passTo t).stopTime = w.stopTime :=
  (keepWhile_due w t).2.2.2 h

/-- As long as the first appointment lies ahead, nobody asks. -/
lemma passTo_of_ahead {t : ℚ} (h : ∀ a ∈ w.agenda.head?, t < a.due) :
    w.passTo t = { w with now := max w.now t } := by
  unfold passTo
  rw [keepWhile_of_not (by simpa using h)]
  simp [moveTo]

/-- The first appointment that is due is when the request to stop is made. -/
lemma passTo_of_due {t : ℚ} (ha : w.agenda = a :: rest) (hdue : a.due ≤ t)
    (hw : w.isStopping = false) :
    (w.passTo t).isStopping = true ∧ (w.passTo t).stopTime = some (max w.now a.due) := by
  have hkeep : (w.passTo t).stop = (w.keepFirst.keepWhile fun a => Seconds.le a.due t).stop ∧
      (w.passTo t).stopTime = (w.keepFirst.keepWhile fun a => Seconds.le a.due t).stopTime := by
    unfold passTo
    rw [keepWhile_cons ha (by simpa using hdue)]
    exact ⟨rfl, rfl⟩
  have hfirst : w.keepFirst.isStopping = true := isStopping_keepFirst ha
  obtain ⟨h1, h2⟩ := (keepWhile_due w.keepFirst t).2.2.2 hfirst
  refine ⟨?_, ?_⟩
  · rw [isStopping, hkeep.1, h1]
    exact hfirst
  · rw [hkeep.2, h2, stopTime_keepFirst ha hw]

/-- Time that passes makes the agent stop exactly if the first appointment is due. -/
lemma isStopping_passTo {t : ℚ} (hw : w.isStopping = false) :
    (w.passTo t).isStopping = true ↔ ∃ a ∈ w.agenda.head?, a.due ≤ t := by
  constructor
  · intro hstop
    by_contra hnone
    push Not at hnone
    rw [passTo_of_ahead hnone] at hstop
    exact absurd hstop (by simpa [isStopping] using hw)
  · rintro ⟨a, ha, hdue⟩
    obtain ⟨rest, hl⟩ := List.head?_eq_some_iff.mp ha
    exact (passTo_of_due hl hdue hw).1

/-! ## Waiting for the request to stop -/

/-- Somebody asks the agent to stop before a pause with this end and ticket is over: the first
appointment is earlier, or at the same instant and ahead in the queue. -/
def AskedBefore (w : World ℚ) (t : ℚ) (ticket : Nat) : Prop :=
  ∃ a ∈ w.agenda.head?, a.due < t ∨ (a.due = t ∧ a.ticket < ticket)

lemma keepUntilStop_of_stopping (h : w.isStopping = true) (l : List (Appointment ℚ)) :
    keepUntilStop l w = w := by
  cases l <;> simp [keepUntilStop, h]

private lemma inTime_iff {t : ℚ} {ticket : Nat} :
    (Seconds.lt a.due t || (Seconds.le a.due t && a.ticket < ticket)) = true ↔
      a.due < t ∨ (a.due = t ∧ a.ticket < ticket) := by
  simp only [Seconds.lt_rat, Seconds.le_rat, Bool.or_eq_true, Bool.and_eq_true, decide_eq_true_eq]
  constructor
  · rintro (h | ⟨h, hk⟩)
    · exact .inl h
    · exact h.lt_or_eq.imp id fun he => ⟨he, hk⟩
  · rintro (h | ⟨h, hk⟩)
    · exact .inl h
    · exact .inr ⟨h.le, hk⟩

lemma awaitStop_of_asked {t : ℚ} {ticket : Nat} (hw : w.isStopping = false)
    (h : w.AskedBefore t ticket) : w.awaitStop t ticket = (true, w.keepFirst) := by
  obtain ⟨a, ha, hbefore⟩ := h
  obtain ⟨rest, hl⟩ := List.head?_eq_some_iff.mp ha
  have hfirst := isStopping_keepFirst hl
  have hkept : keepUntilStop (w.agenda.takeWhile fun a =>
      Seconds.lt a.due t || (Seconds.le a.due t && a.ticket < ticket)) w = w.keepFirst := by
    rw [hl, List.takeWhile_cons, if_pos (inTime_iff.mpr hbefore), keepUntilStop,
      if_neg (by simp [hw]), keepUntilStop_of_stopping hfirst]
  simp only [awaitStop, hkept, hfirst, if_true]

lemma awaitStop_of_not_asked {t : ℚ} {ticket : Nat} (hw : w.isStopping = false)
    (h : ¬ w.AskedBefore t ticket) : w.awaitStop t ticket = (false, w.passTo t) := by
  have hnone : w.agenda.takeWhile
      (fun a => Seconds.lt a.due t || (Seconds.le a.due t && a.ticket < ticket)) = [] := by
    cases hl : w.agenda with
    | nil => rfl
    | cons a rest =>
      have ha : ¬ (a.due < t ∨ (a.due = t ∧ a.ticket < ticket)) :=
        fun hb => h ⟨a, by simp [hl], hb⟩
      rw [List.takeWhile_cons, if_neg (mt inTime_iff.mp ha)]
  simp only [awaitStop, hnone, keepUntilStop, hw, Bool.false_eq_true, if_false]

/-! ## What later worlds have in common -/

/-- What holds of a world and any later one of the same run. -/
structure Precedes (w u : World ℚ) : Prop where
  now_le : w.now ≤ u.now
  /-- A request to stop stands as it was made. -/
  stands : w.isStopping = true → u.stop = w.stop ∧ u.stopTime = w.stopTime
  /-- A request that is made in between is made at a time in between, and no later than the first
  appointment. -/
  asked : w.isStopping = false → u.isStopping = true → ∃ t, u.stopTime = some t ∧ w.now ≤ t ∧
    t ≤ u.now ∧ ∀ a ∈ w.agenda.head?, t ≤ max w.now a.due
  /-- As long as nobody has asked, no appointment was kept. -/
  agenda_eq : u.isStopping = false → u.agenda = w.agenda
  /-- As long as nobody has asked, no appointment was missed while time passed. -/
  ahead : u.isStopping = false → w.now < u.now → ∀ a ∈ u.agenda.head?, u.now < a.due

namespace Precedes

lemma stopping (h : w.Precedes u) (hw : w.isStopping = true) : u.isStopping = true := by
  rw [isStopping, (h.stands hw).1]
  exact hw

lemma not_stopping (h : w.Precedes u) (hu : u.isStopping = false) : w.isStopping = false := by
  cases hw : w.isStopping with
  | false => rfl
  | true => rw [h.stopping hw] at hu; cases hu

/-- Nothing that others do, and no time, lies between two such worlds. -/
lemma of_eq (hnow : u.now = w.now) (hstop : u.stop = w.stop) (htime : u.stopTime = w.stopTime)
    (hagenda : u.agenda = w.agenda) : w.Precedes u where
  now_le := hnow.ge
  stands _ := ⟨hstop, htime⟩
  asked hw hu := by rw [isStopping, hstop] at hu; rw [isStopping, hu] at hw; cases hw
  agenda_eq _ := hagenda
  ahead _ hlt := absurd hnow hlt.ne'

lemma refl (w : World ℚ) : w.Precedes w := of_eq rfl rfl rfl rfl

lemma trans (h : w.Precedes u) (h' : u.Precedes v) : w.Precedes v where
  now_le := h.now_le.trans h'.now_le
  stands hw := by
    obtain ⟨h1, h2⟩ := h.stands hw
    obtain ⟨h3, h4⟩ := h'.stands (h.stopping hw)
    exact ⟨h3.trans h1, h4.trans h2⟩
  asked hw hv := by
    cases hu : u.isStopping with
    | true =>
      obtain ⟨t, ht, h1, h2, h3⟩ := h.asked hw hu
      exact ⟨t, (h'.stands hu).2.trans ht, h1, h2.trans h'.now_le, h3⟩
    | false =>
      obtain ⟨t, ht, h1, h2, h3⟩ := h'.asked hu hv
      refine ⟨t, ht, h.now_le.trans h1, h2, fun a ha => ?_⟩
      have ha' : a ∈ u.agenda.head? := by rwa [h.agenda_eq hu]
      have ht' := h3 a ha'
      rcases h.now_le.lt_or_eq with hlt | heq
      · rw [max_eq_right (h.ahead hu hlt a ha').le] at ht'
        exact ht'.trans (le_max_right _ _)
      · rwa [← heq] at ht'
  agenda_eq hv := (h'.agenda_eq hv).trans (h.agenda_eq (h'.not_stopping hv))
  ahead hv hlt := by
    rcases h'.now_le.lt_or_eq with hlt' | heq
    · exact h'.ahead hv hlt'
    · rw [← heq, h'.agenda_eq hv]
      exact h.ahead (h'.not_stopping hv) (heq ▸ hlt)

end Precedes

/-- There is only one first appointment. -/
lemma due_le_of_first (ha : a ∈ w.agenda.head?) :
    ∀ b ∈ w.agenda.head?, max w.now a.due ≤ max w.now b.due := by
  intro b hb
  obtain rfl := Option.mem_unique ha hb
  exact le_rfl

lemma precedes_requestStop (w : World ℚ) (reason : String) : w.Precedes (w.requestStop reason) := by
  cases h : w.isStopping with
  | true => rw [requestStop_of_stopping h]; exact .refl w
  | false =>
    refine ⟨(now_requestStop w reason).ge, by simp [h], fun _ _ => ⟨w.now, ?_, le_rfl, ?_,
      fun _ _ => le_max_left _ _⟩, fun _ => agenda_requestStop w reason, by simp⟩
    · rw [requestStop_of_not_stopping h]; rfl
    · exact (now_requestStop w reason).ge

lemma precedes_keepFirst (ha : w.agenda = a :: rest) (hw : w.isStopping = false) :
    w.Precedes w.keepFirst := by
  have hnow := now_keepFirst ha
  have hstop := isStopping_keepFirst ha
  have hfirst : a ∈ w.agenda.head? := by simp [ha]
  exact {
    now_le := hnow ▸ le_max_left _ _
    stands := by simp [hw]
    asked := fun _ _ =>
      ⟨_, stopTime_keepFirst ha hw, le_max_left _ _, hnow.ge, due_le_of_first hfirst⟩
    agenda_eq := by simp [hstop]
    ahead := by simp [hstop] }

lemma precedes_passTo (w : World ℚ) (t : ℚ) : w.Precedes (w.passTo t) := by
  have hnow := now_passTo w t
  by_cases hw : w.isStopping = true
  · have hstop := passTo_of_stopping hw t
    have hstopping : (w.passTo t).isStopping = true := by rw [isStopping, hstop.1]; exact hw
    exact ⟨hnow ▸ le_max_left _ _, fun _ => hstop, by simp [hw], by simp [hstopping],
      by simp [hstopping]⟩
  rw [Bool.not_eq_true] at hw
  by_cases hahead : ∀ a ∈ w.agenda.head?, t < a.due
  · -- Nothing is due: only the clock moves.
    rw [passTo_of_ahead hahead] at hnow ⊢
    refine ⟨hnow ▸ le_max_left _ _, by simp [hw], fun _ hu => ?_, fun _ => rfl,
      fun _ hlt a ha => ?_⟩
    · simp only [isStopping] at hu hw; rw [hw] at hu; cases hu
    · rw [hnow] at hlt ⊢
      have hlt' : w.now < t := (lt_max_iff.mp hlt).resolve_left (lt_irrefl _)
      rw [max_eq_right hlt'.le]
      exact hahead a ha
  · -- The first appointment is due, and keeping it makes the agent stop.
    push Not at hahead
    obtain ⟨a, ha, hdue⟩ := hahead
    obtain ⟨rest, hl⟩ := List.head?_eq_some_iff.mp ha
    obtain ⟨h1, h2⟩ := passTo_of_due hl hdue hw
    exact ⟨hnow ▸ le_max_left _ _, by simp [hw], fun _ _ => ⟨_, h2, le_max_left _ _,
      hnow ▸ max_le_max le_rfl hdue, due_le_of_first ha⟩, by simp [h1], by simp [h1]⟩

end World
end MetricsAgent
