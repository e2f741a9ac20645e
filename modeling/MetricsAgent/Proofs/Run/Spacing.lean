import Mathlib.Tactic.Ring
import MetricsAgent.Proofs.Run.Rounds

/-!
# How far apart cycles are

Between two ticks lies at least one interval (`Schedule.add_interval_le_tickAfter`), and the tick
that is set when a cycle starts lies after that start (`Schedule.lt_tickAfter`).  From these two
facts it follows, by induction on the course of the loop, that cycles do not pile up however long
they take, and what becomes of the schedule after a cycle that took too long.  An overrun of an
interval or more restarts the schedule from the end of the cycle; a shorter one leaves the next tick
where it was.
-/

namespace MetricsAgent

open Script

/-- A collector whose calls take the given times, none once these are used up, and then fail. -/
def Collector.timed (delays : List ℚ) : Collector ℚ where
  className := "Collector"
  name := "timed"
  provider := "none"
  version := none
  creationFault := none
  configurationFault := none
  connectionFault := none
  trackingFault := none
  collections n :=
    ⟨delays.getD n 0, none, fun _ => .error (.collection .internal "no metrics" none)⟩

namespace Schedule

variable {R : Type} {s : Schedule ℚ} {cycle : Script ℚ R} {limit : ℕ} {tick : ℚ} {w x : World ℚ}
  {rs : List (Round ℚ)} {o : Except Fault RunEnd}

/-! ## Ticks -/

lemma tickAfter_of_le {now : ℚ} (h : tick + s.interval ≤ now) :
    s.tickAfter tick now = now + s.interval := by
  unfold tickAfter
  exact if_pos (by simpa using h)

lemma tickAfter_of_lt {now : ℚ} (h : now < tick + s.interval) :
    s.tickAfter tick now = tick + s.interval := by
  unfold tickAfter
  exact if_neg (by simpa using h)

/-- The tick that is set when a cycle starts lies ahead. -/
lemma lt_tickAfter (hinterval : 0 < s.interval) (tick now : ℚ) : now < s.tickAfter tick now := by
  by_cases h : tick + s.interval ≤ now
  · rw [tickAfter_of_le h]
    linarith
  · rw [tickAfter_of_lt (not_le.mp h)]
    exact not_le.mp h

/-- Ticks are at least one interval apart. -/
lemma add_interval_le_tickAfter (hinterval : 0 < s.interval) (tick now : ℚ) :
    tick + s.interval ≤ s.tickAfter tick now := by
  by_cases h : tick + s.interval ≤ now
  · rw [tickAfter_of_le h]
    linarith
  · exact (tickAfter_of_lt (not_le.mp h)).ge

namespace Course

/-- No cycle starts before the loop does, or before the tick it waits for. -/
lemma le_start (h : Course s cycle limit tick w rs o x) (hinterval : 0 < s.interval)
    (hcycle : Steadfast 1 cycle) : ∀ r ∈ rs, w.now ≤ r.start.now ∧ tick ≤ r.start.now := by
  induction h with
  | unfinished => simp
  | stopped => simp
  | failed wait work => simp [(lapsed_of_awaitTick wait).now]
  | @next left tick w u v x rs o wait work rest ih =>
    have hu := (lapsed_of_awaitTick wait).now
    rw [List.forall_mem_cons]
    refine ⟨by simp [hu], fun r hr => ?_⟩
    obtain ⟨h1, h2⟩ := ih r hr
    have hwork : u.now ≤ v.now := (precedes_of_absorb hcycle work).now_le
    have htick := add_interval_le_tickAfter hinterval tick u.now
    exact ⟨by linarith [(lapsed_of_awaitTick wait).precedes.now_le], by linarith⟩

/-! ## Cycles apart -/

/-- A cycle has ended before the next one starts. -/
lemma pairwise_finish_le_start (h : Course s cycle limit tick w rs o x) (hinterval : 0 < s.interval)
    (hcycle : Steadfast 1 cycle) : rs.Pairwise fun r r' => r.finish.now ≤ r'.start.now := by
  induction h with
  | unfinished => exact .nil
  | stopped => exact .nil
  | failed => exact List.pairwise_singleton _ _
  | next wait work rest ih =>
    exact .cons (fun r hr => (rest.le_start hinterval hcycle r hr).1) ih

/-- Before `n` intervals have passed since a tick, at most `n` cycles start from it on. -/
lemma countP_start_le (h : Course s cycle limit tick w rs o x) (hinterval : 0 < s.interval)
    (hcycle : Steadfast 1 cycle) {b : ℚ} {n : ℕ} (hb : b < tick + n * s.interval) :
    (rs.countP fun r => r.start.now ≤ b) ≤ n := by
  induction n generalizing limit tick w rs o x with
  | zero =>
    rw [Nat.le_zero, List.countP_eq_zero]
    intro r hr
    have hstart := (h.le_start hinterval hcycle r hr).2
    simp only [decide_eq_true_eq, not_le]
    push_cast at hb
    linarith
  | succ n ih =>
    cases h with
    | unfinished => simp
    | stopped => simp
    | failed => exact (List.countP_le_length).trans (by simp)
    | @next _ _ _ u _ _ _ _ wait work rest =>
      have htick := add_interval_le_tickAfter hinterval tick u.now
      have hrest := ih rest (by push_cast at hb; linarith)
      rw [List.countP_cons]
      split <;> omega

/-- A window that is `k` intervals long has room for `k + 1` starts at most. -/
lemma countP_window_le (h : Course s cycle limit tick w rs o x) (hinterval : 0 < s.interval)
    (hcycle : Steadfast 1 cycle) (a : ℚ) (k : ℕ) :
    (rs.countP fun r => a ≤ r.start.now ∧ r.start.now ≤ a + k * s.interval) ≤ k + 1 := by
  induction h with
  | unfinished => simp
  | stopped => simp
  | failed => exact (List.countP_le_length).trans (by simp)
  | @next left tick w u v x rs o wait work rest ih =>
    by_cases ha : a ≤ u.now
    · -- The window opens before this start, so it closes within `k` intervals of the next tick.
      have htick := lt_tickAfter hinterval tick u.now
      have hrest := rest.countP_start_le hinterval hcycle (b := a + k * s.interval) (n := k)
        (by linarith)
      have hmono : (rs.countP fun r => a ≤ r.start.now ∧ r.start.now ≤ a + k * s.interval)
          ≤ rs.countP fun r => r.start.now ≤ a + k * s.interval :=
        List.countP_mono_left fun r _ hr => by
          simp only [decide_eq_true_eq] at hr ⊢
          exact hr.2
      rw [List.countP_cons]
      split <;> omega
    · rw [List.countP_cons_of_neg (by simpa using fun h => absurd h ha)]
      exact ih

/-! ## Cycles that keep up -/

/-- As long as no cycle takes longer than the interval, each one starts at its tick. -/
lemma start_eq (h : Course s cycle limit tick w rs o x) (hw : w.now ≤ tick)
    (hinterval : 0 < s.interval)
    (hshort : ∀ r ∈ rs, r.finish.now ≤ r.start.now + s.interval) (n : ℕ) (hn : n < rs.length) :
    rs[n].start.now = tick + n * s.interval := by
  induction h generalizing n with
  | unfinished => simp at hn
  | stopped => simp at hn
  | failed wait work =>
    obtain rfl : n = 0 := by simpa using hn
    simpa [hw] using (lapsed_of_awaitTick wait).now
  | @next left tick w u v x rs o wait work rest ih =>
    have hu : u.now = tick := by rw [(lapsed_of_awaitTick wait).now, max_eq_right hw]
    have htick : s.tickAfter tick u.now = tick + s.interval := tickAfter_of_lt (by linarith)
    rw [List.forall_mem_cons] at hshort
    cases n with
    | zero => simpa using hu
    | succ n =>
      have hv : v.now ≤ s.tickAfter tick u.now := by
        have h := hshort.1
        dsimp only at h
        rw [htick]
        linarith
      have hrest := ih hv hshort.2 n (by simpa using hn)
      rw [List.getElem_cons_succ, hrest, htick]
      push_cast
      ring

/-! ## After a cycle that took too long -/

/-- No cycle starts before the tick, so none in a window that closes by then. -/
lemma countP_before_tick (h : Course s cycle limit tick w rs o x) (hinterval : 0 < s.interval)
    (hcycle : Steadfast 1 cycle) {a b : ℚ} (hb : b ≤ tick) :
    (rs.countP fun r => a ≤ r.start.now ∧ r.start.now < b) = 0 := by
  rw [List.countP_eq_zero]
  intro r hr
  have hstart := (h.le_start hinterval hcycle r hr).2
  simp only [decide_eq_true_eq, not_and, not_lt]
  intro _
  linarith

/-- In an interval that began before the tick at most one cycle starts, and one does if the loop
goes on and both the tick and the loop come in time. -/
lemma countP_next (h : Course s cycle limit tick w rs o x) (hinterval : 0 < s.interval)
    (hcycle : Steadfast 1 cycle) {a : ℚ} (ha : a < tick) :
    (rs.countP fun r => a ≤ r.start.now ∧ r.start.now < a + s.interval)
      = if rs ≠ [] ∧ tick < a + s.interval ∧ w.now < a + s.interval then 1 else 0 := by
  have hhead {u : World ℚ} (wait : (awaitTick tick).run w = (.ok false, u)) :
      (a ≤ u.now ∧ u.now < a + s.interval) ↔ tick < a + s.interval ∧ w.now < a + s.interval := by
    have hle : a ≤ u.now := (lapsed_of_awaitTick wait).now ▸ ha.le.trans (le_max_right _ _)
    rw [and_iff_right hle, (lapsed_of_awaitTick wait).now, max_lt_iff, and_comm]
  cases h with
  | unfinished => simp
  | stopped => simp
  | failed wait work => simp [List.countP_cons, hhead wait]
  | @next _ _ _ u _ _ _ _ wait work rest =>
    have htick := add_interval_le_tickAfter hinterval tick u.now
    rw [List.countP_cons, rest.countP_before_tick hinterval hcycle (by linarith)]
    simp [hhead wait]

/-- When the loop comes back later than the tick, the next cycle starts at once.  In the interval
from then on another one starts only if less than an interval was lost, for then the tick after
is still counted from the one that was missed; and none follows that one. -/
lemma countP_late (h : Course s cycle limit tick w rs o x) (hinterval : 0 < s.interval)
    (hcycle : Steadfast 1 cycle) (hlate : tick < w.now) :
    (rs.countP fun r => w.now ≤ r.start.now ∧ r.start.now < w.now + s.interval) ≤ 2 ∧
      ((rs.countP fun r => w.now ≤ r.start.now ∧ r.start.now < w.now + s.interval) ≤ 1 ↔
        ¬ (w.now < tick + s.interval ∧ ∃ r₁ r₂ tail, rs = r₁ :: r₂ :: tail ∧
          r₁.finish.now < w.now + s.interval)) := by
  cases h with
  | unfinished => simp
  | stopped => simp
  | @failed _ _ _ u _ _ wait work =>
    have hone : ([⟨tick, w, u, x⟩] : List (Round ℚ)).countP
        (fun r => w.now ≤ r.start.now ∧ r.start.now < w.now + s.interval) ≤ 1 :=
      List.countP_le_length
    exact ⟨hone.trans (by simp), iff_of_true hone (by simp)⟩
  | @next _ _ _ u v _ rest _ wait work hrest =>
    have hu : u.now = w.now := by rw [(lapsed_of_awaitTick wait).now, max_eq_left hlate.le]
    have hcount := hrest.countP_next hinterval hcycle (a := w.now)
      (hu ▸ lt_tickAfter hinterval tick u.now)
    have hlost : s.tickAfter tick u.now < w.now + s.interval ↔ w.now < tick + s.interval := by
      rw [hu]
      by_cases hmissed : tick + s.interval ≤ w.now
      · simp [tickAfter_of_le hmissed, hmissed]
      · rw [tickAfter_of_lt (not_le.mp hmissed)]
        exact ⟨fun _ => not_le.mp hmissed, fun _ => by linarith⟩
    have hsecond : (∃ r₁ r₂ tail, (⟨tick, w, u, v⟩ : Round ℚ) :: rest = r₁ :: r₂ :: tail ∧
        r₁.finish.now < w.now + s.interval) ↔ rest ≠ [] ∧ v.now < w.now + s.interval := by
      cases rest <;> simp
    rw [List.countP_cons_of_pos (by simp [hu, hinterval]), hcount, hsecond, ← hlost]
    by_cases hanother : rest ≠ [] ∧ s.tickAfter tick u.now < w.now + s.interval ∧
        v.now < w.now + s.interval
    · rw [if_pos hanother]
      exact ⟨le_rfl, iff_of_false (by simp) fun h => h ⟨hanother.2.1, hanother.1, hanother.2.2⟩⟩
    · rw [if_neg hanother]
      exact ⟨by simp, iff_of_true (by simp) fun h => hanother ⟨h.2.1, h.1, h.2.2⟩⟩

end Course

/-! ## Whole runs -/

/-- A list of rounds of which the tick set in the first one and its end are known. -/
lemma exists_first_round {d f : ℚ}
    (h : rs.head?.map (fun r => (s.nextTick r, r.finish.now)) = some (d, f)) :
    ∃ r, rs = [] ++ r :: rs.tail ∧ s.nextTick r = d ∧ r.finish.now = f := by
  cases rs with
  | nil => simp at h
  | cons r rs =>
    obtain ⟨hnext, hfinish⟩ := Prod.mk.inj (Option.some.inj h)
    exact ⟨r, rfl, hnext, hfinish⟩

variable (c : Collector ℚ) (e : Option (Endpoint ℚ))

/-- A run calls for metrics once in each of its rounds.  No cycle starts before the one before it
has ended; however long cycles take, they do not pile up; as long as none takes longer than the
interval, they start at the ticks, with no drift; and the run goes on for as long as it may. -/
theorem run_spaced (limit : ℕ) (w : World ℚ) (hinterval : 0 < s.interval)
    (hdelay : 0 ≤ s.delay w) (hidle : w.cycles.running = false) :
    let rs := s.roundsOf c (e.map Endpoint.upload) limit w
    let outcome := (s.run c (e.map Endpoint.upload) limit).run w
    outcome.2.collections = w.collections ++ rs.map (·.start.now) ∧
      (rs.Pairwise fun r r' => r.finish.now ≤ r'.start.now) ∧
      (∀ (a : ℚ) (k : ℕ),
        (rs.countP fun r => a ≤ r.start.now ∧ r.start.now ≤ a + k * s.interval) ≤ k + 1) ∧
      ((∀ r ∈ rs, r.finish.now ≤ r.start.now + s.interval) → ∀ (n : ℕ) (hn : n < rs.length),
        rs[n].start.now = w.now + s.delay w + n * s.interval) ∧
      (outcome.2.isStopping = false → (outcome.1 = .ok .unfinished ∧ rs.length = limit) ∨
        ∃ f : Fault, outcome.1 = .error f ∧ f.isOrdinary = false) := by
  intro rs outcome
  have hcycle := steadfast_cycle c e
  refine ⟨collections_run s c e limit w, ?_⟩
  rcases run_course s c (e.map Endpoint.upload) limit hidle with
    ⟨u, hu, hrs, -, hend⟩ | ⟨u, x, hu, hcourse, hend⟩
  · -- The run was stopped during the delay: there are no rounds.
    have hnone : rs = [] := hrs
    have hstopping : outcome.2.isStopping = true := hend.isStopping.trans hu.stopping
    simp [hnone, hstopping]
  · have hnow := now_of_lapsed hdelay hu
    refine ⟨hcourse.pairwise_finish_le_start hinterval hcycle,
      hcourse.countP_window_le hinterval hcycle, fun hshort n hn => ?_, fun hgoing => ?_⟩
    · rw [← hnow]
      exact hcourse.start_eq le_rfl hinterval hshort n hn
    · have hx : x.isStopping = false := hend.isStopping.symm.trans hgoing
      rcases hcourse.outcome with h | ⟨-, hstopped⟩ | h
      · exact .inl h
      · rw [hx] at hstopped
        cases hstopped
      · exact .inr h

/-- Cycles that take 3 and 10 seconds keep up with an interval of 10, after a delay of 2. -/
theorem run_spaced_timed :
    (((⟨10, 4⟩ : Schedule ℚ).run (.timed [3, 10]) none 3).run
        { World.start (T := ℚ) 0 with jitterFraction := 1 / 2 }).2.collections = [2, 12, 22] ∧
      ∀ (a : ℚ) (k : ℕ), (((⟨10, 4⟩ : Schedule ℚ).roundsOf (.timed [3, 10]) none 3
        { World.start (T := ℚ) 0 with jitterFraction := 1 / 2 }).countP fun r =>
          a ≤ r.start.now ∧ r.start.now ≤ a + k * 10) ≤ k + 1 := by
  obtain ⟨hcalls, -, hwindow, -⟩ := run_spaced (s := ⟨10, 4⟩) (.timed [3, 10]) none 3
    { World.start (T := ℚ) 0 with jitterFraction := 1 / 2 } (by decide) (by decide +kernel) rfl
  have hstarts : ((⟨10, 4⟩ : Schedule ℚ).roundsOf (.timed [3, 10]) none 3
      { World.start (T := ℚ) 0 with jitterFraction := 1 / 2 }).map (·.start.now) = [2, 12, 22] := by
    decide +kernel
  exact ⟨hcalls.trans hstarts, hwindow⟩

/-- After a cycle that ended later than the tick that was set at its start, two more cycles start
within an interval exactly if less than an interval was lost and the first of the two ends within
that interval with another one to follow; more than two never do. -/
theorem run_restart_iff (limit : ℕ) (w : World ℚ) (hinterval : 0 < s.interval) {r : Round ℚ}
    {pre post : List (Round ℚ)}
    (hrs : s.roundsOf c (e.map Endpoint.upload) limit w = pre ++ r :: post)
    (hlate : s.nextTick r < r.finish.now) :
    ((s.run c (e.map Endpoint.upload) limit).run w).2.collections
        = w.collections ++ (pre ++ r :: post).map (·.start.now) ∧
      (post.countP fun q => r.finish.now ≤ q.start.now ∧
        q.start.now < r.finish.now + s.interval) ≤ 2 ∧
      ((post.countP fun q => r.finish.now ≤ q.start.now ∧
          q.start.now < r.finish.now + s.interval) ≤ 1 ↔
        ¬ (r.finish.now < s.nextTick r + s.interval ∧ ∃ r₁ r₂ tail, post = r₁ :: r₂ :: tail ∧
          r₁.finish.now < r.finish.now + s.interval)) := by
  refine ⟨hrs ▸ collections_run s c e limit w, ?_⟩
  obtain ⟨u, o, x, -, hcourse⟩ := roundsOf_course hrs
  rcases hcourse.after with rfl | ⟨left, hpost⟩
  · simp
  · exact hpost.countP_late hinterval (steadfast_cycle c e) hlate

/-- With an interval of 10, a cycle that takes 25 loses more than an interval: one more cycle starts
before 35. -/
theorem run_restart_timed :
    (((⟨10, 0⟩ : Schedule ℚ).roundsOf (.timed [25]) none 4 (.start 0)).tail.countP fun q =>
      25 ≤ q.start.now ∧ q.start.now < 25 + 10) ≤ 1 := by
  have hfirst : ((⟨10, 0⟩ : Schedule ℚ).roundsOf (.timed [25]) none 4 (.start 0)).head?.map
      (fun r => ((⟨10, 0⟩ : Schedule ℚ).nextTick r, r.finish.now)) = some (10, 25) := by
    decide +kernel
  obtain ⟨r, hrs, hnext, hfinish⟩ := exists_first_round hfirst
  have h := run_restart_iff (.timed [25]) none 4 (.start 0) (by decide) hrs
    (by rw [hnext, hfinish]; norm_num)
  rw [hnext, hfinish] at h
  exact h.2.2.mpr fun hlost => absurd hlost.1 (by norm_num)

/-- It is not so that at most one more cycle starts within an interval after a cycle that ended too
late: with an interval of 10, one that takes 13 is followed by cycles at 13 and at 20. -/
theorem not_forall_restart : ¬ ∀ (s : Schedule ℚ) (c : Collector ℚ) (limit : ℕ) (w : World ℚ)
    (r : Round ℚ) (pre post : List (Round ℚ)), 0 < s.interval →
    s.roundsOf c none limit w = pre ++ r :: post → s.nextTick r < r.finish.now →
    (post.countP fun q => r.finish.now ≤ q.start.now ∧
      q.start.now < r.finish.now + s.interval) ≤ 1 := by
  intro h
  have hfirst : ((⟨10, 0⟩ : Schedule ℚ).roundsOf (.timed [13]) none 4 (.start 0)).head?.map
      (fun r => ((⟨10, 0⟩ : Schedule ℚ).nextTick r, r.finish.now)) = some (10, 13) := by
    decide +kernel
  have htwo : (((⟨10, 0⟩ : Schedule ℚ).roundsOf (.timed [13]) none 4 (.start 0)).tail.countP
      fun q => 13 ≤ q.start.now ∧ q.start.now < 13 + 10) = 2 := by
    decide +kernel
  obtain ⟨r, hrs, hnext, hfinish⟩ := exists_first_round hfirst
  have hone := h ⟨10, 0⟩ (.timed [13]) 4 (.start 0) r [] _ (by decide) hrs
    (by rw [hnext, hfinish]; norm_num)
  rw [hfinish] at hone
  exact absurd (htwo.symm.trans_le hone) (by decide)

end Schedule
end MetricsAgent
