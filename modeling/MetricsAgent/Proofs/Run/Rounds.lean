import MetricsAgent.Proofs.Run.Cycles

/-!
# The rounds of a run

A run is a startup delay and then rounds: waiting for a tick, and a cycle.  `Schedule.rounds` lists
the rounds that the loop of `Schedule.runCycles` goes through and `Schedule.Course` derives its
outcome from them, one rule for each way in which a round can end.  `Schedule.run_course` says the
same of a whole run; what is proved of runs later on is proved by induction on the course.
-/

namespace MetricsAgent

open Script

/-! ## Waiting -/

namespace World

variable {w u v : World ℚ} {t : ℚ}

/-- Somebody has an appointment at the very time at which a pause that begins now is to end, and
comes after it in the queue because the appointment was made later. -/
def AskedAt (w : World ℚ) (t : ℚ) : Prop :=
  ∃ a ∈ w.agenda.head?, a.due = t ∧ w.tickets ≤ a.ticket

/-- A wait for a time ended with that time. -/
structure Lapsed (w u : World ℚ) (t : ℚ) : Prop where
  precedes : w.Precedes u
  collections : u.collections = w.collections
  not_stopping : w.isStopping = false
  now : u.now = max w.now t
  /-- The wait does not tell of a request that is made at its end, after it in the queue. -/
  stopping_iff : u.isStopping = true ↔ w.now < t ∧ w.AskedAt t
  stopTime : u.isStopping = true → u.stopTime = some t

/-- A wait ended because the agent was asked to stop. -/
structure Halted (w u : World ℚ) : Prop where
  precedes : w.Precedes u
  collections : u.collections = w.collections
  stopping : u.isStopping = true
  now : w.isStopping = true → u.now = w.now
  stopTime : w.isStopping = false → u.stopTime = some u.now

lemma lapsed_refl (hw : w.isStopping = false) (ht : t ≤ w.now) : w.Lapsed w t where
  precedes := .refl w
  collections := rfl
  not_stopping := hw
  now := (max_eq_left ht).symm
  stopping_iff := by simp [hw, ht.not_gt]
  stopTime := by simp [hw]

lemma halted_refl (hw : w.isStopping = true) : w.Halted w where
  precedes := .refl w
  collections := rfl
  stopping := hw
  now _ := rfl
  stopTime := by simp [hw]

/-- A pause that is alert to the request to stop ends with its time or because of a request. -/
lemma pass_true (hw : w.isStopping = false) (hlt : w.now < t) :
    ((w.pass true t).1 = false ∧ w.Lapsed (w.pass true t).2 t) ∨
      ((w.pass true t).1 = true ∧ w.Halted (w.pass true t).2) := by
  let q : World ℚ := { w with tickets := w.tickets + 1 }
  have hq : w.Precedes q := .of_eq rfl rfl rfl rfl
  have hqw : q.isStopping = false := hw
  have hpass : w.pass true t = q.awaitStop t w.tickets := rfl
  by_cases hasked : q.AskedBefore t w.tickets
  · right
    rw [hpass, awaitStop_of_asked hqw hasked]
    obtain ⟨a, ha, -⟩ := hasked
    obtain ⟨rest, hl⟩ := List.head?_eq_some_iff.mp ha
    have hown : q.keepFirst.undisturbed = { q.undisturbed with now := max q.now a.due } := by
      rw [keepFirst_cons hl, undisturbed_requestStop]
      rfl
    refine ⟨rfl, hq.trans (precedes_keepFirst hl hqw), collections_of_undisturbed (w := q) hown,
      isStopping_keepFirst hl, by simp [hw], fun _ => ?_⟩
    rw [stopTime_keepFirst hl hqw, now_keepFirst hl]
  · left
    rw [hpass, awaitStop_of_not_asked hqw hasked]
    have hdue : (q.passTo t).isStopping = true ↔ w.AskedAt t := by
      rw [isStopping_passTo hqw]
      constructor
      · rintro ⟨a, ha, hle⟩
        have heq : a.due = t := le_antisymm hle (not_lt.mp fun hlt => hasked ⟨a, ha, .inl hlt⟩)
        exact ⟨a, ha, heq, not_lt.mp fun hticket => hasked ⟨a, ha, .inr ⟨heq, hticket⟩⟩⟩
      · rintro ⟨a, ha, heq, -⟩
        exact ⟨a, ha, heq.le⟩
    refine ⟨rfl, hq.trans (precedes_passTo q t),
      collections_of_undisturbed (w := q) (undisturbed_passTo q t), hw, now_passTo q t,
      hdue.trans (and_iff_right hlt).symm, fun h => ?_⟩
    obtain ⟨a, ha, rfl, -⟩ := hdue.mp h
    obtain ⟨rest, hl⟩ := List.head?_eq_some_iff.mp ha
    have hstop := (passTo_of_due (w := q) hl le_rfl hqw).2
    rwa [max_eq_right hlt.le] at hstop

/-- It does not last longer than until its time. -/
lemma now_pass_true_le (hw : w.isStopping = false) (t : ℚ) :
    (w.pass true t).2.now ≤ max w.now t := by
  let q : World ℚ := { w with tickets := w.tickets + 1 }
  have hqw : q.isStopping = false := hw
  have hpass : w.pass true t = q.awaitStop t w.tickets := rfl
  by_cases hasked : q.AskedBefore t w.tickets
  · rw [hpass, awaitStop_of_asked hqw hasked]
    obtain ⟨a, ha, hbefore⟩ := hasked
    obtain ⟨rest, hl⟩ := List.head?_eq_some_iff.mp ha
    have hdue : a.due ≤ t := hbefore.elim le_of_lt fun h => h.1.le
    exact (now_keepFirst hl).le.trans (max_le_max le_rfl hdue)
  · rw [hpass, awaitStop_of_not_asked hqw hasked]
    exact (now_passTo q t).le

end World

/-- Waiting for the request to stop ends with its time or because of a request. -/
lemma Script.run_waitForStop_cases (timeout : ℚ) (w : World ℚ) :
    (∃ u, (waitForStop timeout).run w = (.ok false, u) ∧ w.Lapsed u (w.now + timeout)) ∨
      ∃ u, (waitForStop timeout).run w = (.ok true, u) ∧ w.Halted u := by
  rw [run_waitForStop]
  by_cases hw : w.isStopping = true
  · rw [if_pos hw]
    exact .inr ⟨w, rfl, World.halted_refl hw⟩
  rw [if_neg hw]
  rw [Bool.not_eq_true] at hw
  by_cases ht : timeout ≤ 0
  · rw [if_pos (by simpa using ht)]
    exact .inl ⟨w, rfl, World.lapsed_refl hw (by linarith)⟩
  · rw [if_neg (by simpa using ht)]
    rcases World.pass_true (t := w.now + timeout) hw (by linarith) with ⟨hb, hu⟩ | ⟨hb, hu⟩
    · exact .inl ⟨_, by rw [Seconds.add_rat, hb], hu⟩
    · exact .inr ⟨_, by rw [Seconds.add_rat, hb], hu⟩

lemma Script.now_le_of_waitForStop {timeout : ℚ} {w u : World ℚ} {r : Except Fault Bool}
    (h : (waitForStop timeout).run w = (r, u)) : u.now ≤ max w.now (w.now + timeout) := by
  rw [run_waitForStop] at h
  by_cases hw : w.isStopping = true
  · rw [if_pos hw] at h
    cases h
    exact le_max_left _ _
  rw [if_neg hw] at h
  split at h
  · cases h
    exact le_max_left _ _
  · cases h
    exact World.now_pass_true_le (by simpa using hw) _

namespace Schedule

/-- So does waiting for a tick, if it has not come already. -/
lemma awaitTick_cases (tick : ℚ) (w : World ℚ) :
    (∃ u, (awaitTick tick).run w = (.ok false, u) ∧ w.Lapsed u tick) ∨
      ∃ u, (awaitTick tick).run w = (.ok true, u) ∧ w.Halted u := by
  unfold awaitTick
  rw [run_bind_ok (run_world w)]
  dsimp only
  by_cases hlt : w.now < tick
  · rw [if_pos (by simpa using hlt)]
    simpa using run_waitForStop_cases (Seconds.sub tick w.now) w
  · rw [if_neg (by simpa using hlt), run_pure]
    cases hw : w.isStopping with
    | false => exact .inl ⟨w, rfl, World.lapsed_refl hw (not_lt.mp hlt)⟩
    | true => exact .inr ⟨w, rfl, World.halted_refl hw⟩

lemma now_le_of_awaitTick {tick : ℚ} {w u : World ℚ} {r : Except Fault Bool}
    (h : (awaitTick tick).run w = (r, u)) : u.now ≤ max w.now tick := by
  unfold awaitTick at h
  rw [run_bind_ok (run_world w)] at h
  dsimp only at h
  by_cases hlt : w.now < tick
  · rw [if_pos (by simpa using hlt)] at h
    simpa using now_le_of_waitForStop h
  · rw [if_neg (by simpa using hlt), run_pure] at h
    cases h
    exact le_max_left _ _

lemma lapsed_of_awaitTick {tick : ℚ} {w u : World ℚ}
    (h : (awaitTick tick).run w = (.ok false, u)) : w.Lapsed u tick := by
  rcases awaitTick_cases tick w with ⟨v, hv, hlapsed⟩ | ⟨v, hv, -⟩
  · obtain ⟨-, rfl⟩ := Prod.mk.inj (hv.symm.trans h)
    exact hlapsed
  · cases hv.symm.trans h

lemma halted_of_awaitTick {tick : ℚ} {w u : World ℚ}
    (h : (awaitTick tick).run w = (.ok true, u)) : w.Halted u := by
  rcases awaitTick_cases tick w with ⟨v, hv, -⟩ | ⟨v, hv, hhalted⟩
  · cases hv.symm.trans h
  · obtain ⟨-, rfl⟩ := Prod.mk.inj (hv.symm.trans h)
    exact hhalted

end Schedule

/-! ## Rounds -/

/-- One round of the loop: the tick it waits for, and the world when the waiting begins, when the
cycle starts and when the cycle has ended. -/
structure Round (T : Type) where
  tick : T
  called : World T
  start : World T
  finish : World T

namespace Schedule

section Loop

variable {T R : Type} [Seconds T]

/-- The tick that is set when the cycle of a round starts. -/
def nextTick (s : Schedule T) (r : Round T) : T :=
  s.tickAfter r.tick r.start.now

/-- The rounds that running cycles from a tick on goes through. -/
def rounds (s : Schedule T) (cycle : Script T R) : ℕ → T → World T → List (Round T)
  | 0, _, _ => []
  | left + 1, tick, w =>
    match (awaitTick tick).run w with
    | (.ok false, u) =>
      match (absorb cycle).run u with
      | (.ok _, v) => ⟨tick, w, u, v⟩ :: rounds s cycle left (s.tickAfter tick u.now) v
      | (.error _, v) => [⟨tick, w, u, v⟩]
    | _ => []

/-- How running cycles from a tick on comes to its outcome and to its last world, and by which
rounds. -/
inductive Course (s : Schedule T) (cycle : Script T R) :
    ℕ → T → World T → List (Round T) → Except Fault RunEnd → World T → Prop
  | unfinished (tick : T) (w : World T) : Course s cycle 0 tick w [] (.ok .unfinished) w
  | stopped {left : ℕ} {tick : T} {w u : World T} (wait : (awaitTick tick).run w = (.ok true, u)) :
    Course s cycle (left + 1) tick w [] (.ok .stopped) u
  | failed {left : ℕ} {tick : T} {w u v : World T} {f : Fault}
      (wait : (awaitTick tick).run w = (.ok false, u))
      (work : (absorb cycle).run u = (.error f, v)) :
    Course s cycle (left + 1) tick w [⟨tick, w, u, v⟩] (.error f) v
  | next {left : ℕ} {tick : T} {w u v x : World T} {rs : List (Round T)}
      {o : Except Fault RunEnd} (wait : (awaitTick tick).run w = (.ok false, u))
      (work : (absorb cycle).run u = (.ok (), v))
      (rest : Course s cycle left (s.tickAfter tick u.now) v rs o x) :
    Course s cycle (left + 1) tick w (⟨tick, w, u, v⟩ :: rs) o x

end Loop

variable {R : Type} {s : Schedule ℚ} {cycle : Script ℚ R} {limit : ℕ} {tick : ℚ} {w x : World ℚ}
  {rs : List (Round ℚ)} {o : Except Fault RunEnd}

/-- The loop goes through its rounds. -/
theorem rounds_course (s : Schedule ℚ) (cycle : Script ℚ R) (limit : ℕ) (tick : ℚ) (w : World ℚ) :
    Course s cycle limit tick w (s.rounds cycle limit tick w)
      ((s.runCycles cycle limit tick).run w).1 ((s.runCycles cycle limit tick).run w).2 := by
  induction limit generalizing tick w with
  | zero => exact .unfinished tick w
  | succ left ih =>
    unfold rounds runCycles
    rcases awaitTick_cases tick w with ⟨u, hwait, -⟩ | ⟨u, hwait, -⟩
    · rw [run_bind_ok hwait, hwait]
      dsimp only
      rw [if_neg Bool.false_ne_true, run_bind_ok (run_world u)]
      rcases hwork : (absorb cycle).run u with ⟨f | ⟨⟩, v⟩
      · rw [run_bind_error hwork]
        exact .failed hwait hwork
      · rw [run_bind_ok hwork]
        exact .next hwait hwork (ih _ v)
    · rw [run_bind_ok hwait, hwait]
      dsimp only
      rw [if_pos rfl, run_pure]
      exact .stopped hwait

lemma precedes_of_absorb {u v : World ℚ} {r : Except Fault Unit} (hcycle : Steadfast 1 cycle)
    (work : (absorb cycle).run u = (r, v)) : u.Precedes v := by
  have hwork := (steadfast_absorb hcycle).precedes u
  rwa [work] at hwork

/-- The cycle of a round calls for metrics once, when it starts. -/
lemma collections_of_absorb {u v : World ℚ} {r : Except Fault Unit} (hcycle : Steadfast 1 cycle)
    (work : (absorb cycle).run u = (r, v)) : v.collections = u.collections ++ [u.now] := by
  have hwork := (steadfast_absorb hcycle).collections u
  rwa [work] at hwork

/-- Ordinary faults do not end the loop. -/
lemma not_isOrdinary_of_absorb {u v : World ℚ} {f : Fault}
    (work : (absorb cycle).run u = (.error f, v)) : f.isOrdinary = false := by
  unfold absorb at work
  rw [run_bind_ok (run_attempt cycle u)] at work
  rcases hcycle : cycle.run u with ⟨g | r, x⟩ <;> rw [hcycle] at work
  · dsimp only at work
    by_cases hg : g.isOrdinary = true
    · rw [if_pos hg] at work
      cases work
    · rw [if_neg hg, run_throw] at work
      cases work
      simpa using hg
  · cases work

namespace Course

/-- Once the agent was asked to stop, no round follows. -/
lemma of_stopping (h : Course s cycle limit tick w rs o x) (hw : w.isStopping = true) :
    rs = [] ∧ x.now = w.now := by
  cases h with
  | unfinished => exact ⟨rfl, rfl⟩
  | stopped wait => exact ⟨rfl, (halted_of_awaitTick wait).now hw⟩
  | failed wait => exact absurd (lapsed_of_awaitTick wait).not_stopping (by simp [hw])
  | next wait => exact absurd (lapsed_of_awaitTick wait).not_stopping (by simp [hw])

lemma precedes (h : Course s cycle limit tick w rs o x) (hcycle : Steadfast 1 cycle) :
    w.Precedes x := by
  induction h with
  | unfinished tick w => exact .refl w
  | stopped wait => exact (halted_of_awaitTick wait).precedes
  | failed wait work =>
    exact (lapsed_of_awaitTick wait).precedes.trans (precedes_of_absorb hcycle work)
  | next wait work rest ih =>
    exact ((lapsed_of_awaitTick wait).precedes.trans (precedes_of_absorb hcycle work)).trans ih

/-- The loop goes on from any of its rounds as it would from its first. -/
lemma after {pre post : List (Round ℚ)} {r : Round ℚ}
    (h : Course s cycle limit tick w (pre ++ r :: post) o x) :
    post = [] ∨ ∃ left, Course s cycle left (s.nextTick r) r.finish post o x := by
  induction pre generalizing limit tick w with
  | nil =>
    cases h with
    | failed => exact .inl rfl
    | next wait work rest => exact .inr ⟨_, rest⟩
  | cons q pre ih =>
    rw [List.cons_append] at h
    generalize hrs : pre ++ r :: post = rs at h
    cases h with
    | failed => simp at hrs
    | next wait work rest => exact ih (hrs ▸ rest)

/-- What holds of a single wait and the cycle after it holds of every round. -/
lemma forall_rounds {P : Round ℚ → Prop} (h : Course s cycle limit tick w rs o x)
    (step : ∀ r : Round ℚ, (awaitTick r.tick).run r.called = (.ok false, r.start) →
      r.finish = ((absorb cycle).run r.start).2 → P r) : ∀ r ∈ rs, P r := by
  induction h with
  | unfinished => simp
  | stopped => simp
  | failed wait work => simpa using step ⟨_, _, _, _⟩ wait (by rw [work])
  | next wait work rest ih =>
    rw [List.forall_mem_cons]
    exact ⟨step ⟨_, _, _, _⟩ wait (by rw [work]), ih⟩

lemma lapsed (h : Course s cycle limit tick w rs o x) : ∀ r ∈ rs, r.called.Lapsed r.start r.tick :=
  h.forall_rounds fun _ wait _ => lapsed_of_awaitTick wait

lemma finish_eq (h : Course s cycle limit tick w rs o x) :
    ∀ r ∈ rs, r.finish = ((absorb cycle).run r.start).2 :=
  h.forall_rounds fun _ _ hfinish => hfinish

lemma start_precedes_finish (h : Course s cycle limit tick w rs o x) (hcycle : Steadfast 1 cycle) :
    ∀ r ∈ rs, r.start.Precedes r.finish :=
  h.forall_rounds fun r _ hfinish => hfinish ▸ (steadfast_absorb hcycle).precedes r.start

/-- Metrics are called for at the starts of cycles and at no other time. -/
lemma collections (h : Course s cycle limit tick w rs o x) (hcycle : Steadfast 1 cycle) :
    x.collections = w.collections ++ rs.map (·.start.now) := by
  induction h with
  | unfinished => simp
  | stopped wait => simpa using (halted_of_awaitTick wait).collections
  | failed wait work =>
    rw [collections_of_absorb hcycle work, (lapsed_of_awaitTick wait).collections]
    rfl
  | next wait work rest ih =>
    rw [ih, collections_of_absorb hcycle work, (lapsed_of_awaitTick wait).collections]
    simp

/-- The loop goes through all the rounds that it may go through unless the agent is asked to stop or
a fault that is not an ordinary one ends it. -/
lemma outcome (h : Course s cycle limit tick w rs o x) :
    (o = .ok .unfinished ∧ rs.length = limit) ∨ (o = .ok .stopped ∧ x.isStopping = true) ∨
      ∃ f : Fault, o = .error f ∧ f.isOrdinary = false := by
  induction h with
  | unfinished => exact .inl ⟨rfl, rfl⟩
  | stopped wait => exact .inr (.inl ⟨rfl, (halted_of_awaitTick wait).stopping⟩)
  | failed wait work => exact .inr (.inr ⟨_, rfl, not_isOrdinary_of_absorb work⟩)
  | next wait work rest ih => simpa using ih

end Course

/-! ## Whole runs -/

section Run

variable {T R : Type} [Seconds T]

/-- A world in which it is noted whether a run is going on. -/
def underway (running : Bool) (w : World T) : World T :=
  { w with cycles := { w.cycles with running := running } }

/-- The world in which the delay before the first cycle begins. -/
def setOut (s : Schedule T) (w : World T) : World T :=
  (underway true w).logLine .info .scheduler
    ("Scheduler starting (interval " ++ Decimal.general 6 false (Seconds.shown s.interval)
      ++ "s, startup jitter " ++ Decimal.fixed 2 (Seconds.shown (s.delay w)) ++ "s)")

/-- A run with any work in the place of its cycles. -/
def runWith (s : Schedule T) (cycle : Script T R) (limit : ℕ) : Script T RunEnd := do
  if (← world).cycles.running then
    throw (.scheduling "Scheduler is already running" none)
  setRunning true
  (s.course cycle limit).ensuring (setRunning false)

lemma run_eq_runWith (s : Schedule T) (c : Collector T) (d : Option (Destination T)) (limit : ℕ) :
    s.run c d limit = s.runWith (Cycle.run c d) limit := rfl

/-- The rounds of such a run. -/
def roundsWith (s : Schedule T) (cycle : Script T R) (limit : ℕ) (w : World T) : List (Round T) :=
  if w.cycles.running then []
  else
    match (waitForStop (s.delay w)).run (s.setOut w) with
    | (.ok false, u) => s.rounds cycle limit u.now u
    | _ => []

/-- The rounds of a whole run. -/
def roundsOf (s : Schedule T) (c : Collector T) (d : Option (Destination T)) (limit : ℕ)
    (w : World T) : List (Round T) :=
  if w.cycles.running then []
  else
    match (waitForStop (s.delay w)).run (s.setOut w) with
    | (.ok false, u) => s.rounds (Cycle.run c d) limit u.now u
    | _ => []

/-- A run of which it is noted that it is going on, and in the end that it is not. -/
lemma run_runWith (s : Schedule T) (cycle : Script T R) (limit : ℕ) {w : World T}
    (hidle : w.cycles.running = false) :
    (s.runWith cycle limit).run w
      = (((s.course cycle limit).run (underway true w)).1,
        underway false ((s.course cycle limit).run (underway true w)).2) := by
  have hset (running : Bool) (u : World T) :
      (setRunning running : Script T Unit).run u = (.ok (), underway running u) := rfl
  unfold runWith
  rw [run_bind_ok (run_world w), if_neg (by simp [hidle])]
  dsimp only
  rw [run_bind_ok (hset true w), run_ensuring (hset false)]

/-- The run ends at once if it is asked to stop during the delay. -/
lemma run_course_of_true {s : Schedule T} {cycle : Script T R} {limit : ℕ} {w u : World T}
    (h : (waitForStop (s.delay w)).run (s.setOut w) = (.ok true, u)) :
    (s.course cycle limit).run (underway true w) = (.ok .beforeFirst,
      u.logLine .info .scheduler "Shutdown requested before first cycle") := by
  unfold course
  rw [run_bind_ok (run_world _), run_bind_ok (run_log _ _ _ _)]
  exact (run_bind_ok h).trans rfl

end Run

lemma alike_underway (running : Bool) (w : World ℚ) : w.Alike (underway running w) :=
  (World.Inward.cycles fun t => { t with running := running }).alike w

/-- After the delay the loop decides how the run ends. -/
lemma run_course_of_false (cycle : Script ℚ R) (limit : ℕ) {u : World ℚ}
    (h : (waitForStop (s.delay w)).run (s.setOut w) = (.ok false, u)) :
    ((s.course cycle limit).run (underway true w)).1 = ((s.runCycles cycle limit u.now).run u).1 ∧
      ((s.runCycles cycle limit u.now).run u).2.Alike
        ((s.course cycle limit).run (underway true w)).2 := by
  have hloop : (s.course cycle limit).run (underway true w) = (do
      let reached ← s.runCycles cycle limit u.now
      if reached = .stopped then
        log .info .scheduler
          ("Scheduler stopped after " ++ decimalText (← world).cycles.total ++ " cycles")
      return reached : Script ℚ RunEnd).run u := by
    unfold course
    rw [run_bind_ok (run_world _), run_bind_ok (run_log _ _ _ _)]
    exact (run_bind_ok h).trans rfl
  rw [hloop]
  rcases hr : (s.runCycles cycle limit u.now).run u with ⟨f | reached, x⟩
  · rw [run_bind_error hr]
    exact ⟨rfl, .refl x⟩
  · rw [run_bind_ok hr]
    dsimp only
    by_cases hstopped : reached = .stopped
    · rw [if_pos hstopped, run_bind_ok (run_world x), run_bind_ok (run_log _ _ _ _)]
      exact ⟨rfl, (World.Inward.logLine _ _ _).alike x⟩
    · rw [if_neg hstopped]
      exact ⟨rfl, .refl x⟩

/-- A run ends during the delay before its first cycle, or it goes through its rounds. -/
theorem runWith_course (s : Schedule ℚ) (cycle : Script ℚ R) (limit : ℕ)
    (hidle : w.cycles.running = false) :
    (∃ u, (waitForStop (s.delay w)).run (s.setOut w) = (.ok true, u) ∧ (s.setOut w).Halted u ∧
        s.roundsWith cycle limit w = [] ∧ ((s.runWith cycle limit).run w).1 = .ok .beforeFirst ∧
        u.Alike ((s.runWith cycle limit).run w).2) ∨
      ∃ u x, (s.setOut w).Lapsed u (w.now + s.delay w) ∧
        Course s cycle limit u.now u (s.roundsWith cycle limit w)
          ((s.runWith cycle limit).run w).1 x ∧ x.Alike ((s.runWith cycle limit).run w).2 := by
  have hdelay : (s.setOut w).now + s.delay w = w.now + s.delay w := rfl
  rw [run_runWith s cycle limit hidle]
  unfold roundsWith
  rw [if_neg (by simp [hidle])]
  rcases run_waitForStop_cases (s.delay w) (s.setOut w) with ⟨u, hwait, hu⟩ | ⟨u, hwait, hu⟩
  · right
    obtain ⟨h1, h2⟩ := run_course_of_false cycle limit hwait
    rw [hwait, h1]
    exact ⟨u, _, hdelay ▸ hu, rounds_course s _ limit u.now u, h2.trans (alike_underway false _)⟩
  · left
    rw [hwait, run_course_of_true hwait]
    exact ⟨u, rfl, hu, rfl, rfl,
      ((World.Inward.logLine _ _ _).alike u).trans (alike_underway false _)⟩

/-- So does a run of a collector that delivers to a destination. -/
theorem run_course (s : Schedule ℚ) (c : Collector ℚ) (d : Option (Destination ℚ)) (limit : ℕ)
    (hidle : w.cycles.running = false) :
    (∃ u, (s.setOut w).Halted u ∧ s.roundsOf c d limit w = [] ∧
        ((s.run c d limit).run w).1 = .ok .beforeFirst ∧ u.Alike ((s.run c d limit).run w).2) ∨
      ∃ u x, (s.setOut w).Lapsed u (w.now + s.delay w) ∧
        Course s (Cycle.run c d) limit u.now u (s.roundsOf c d limit w)
          ((s.run c d limit).run w).1 x ∧ x.Alike ((s.run c d limit).run w).2 := by
  rcases runWith_course s (Cycle.run c d) limit hidle with ⟨u, -, h⟩ | h
  · exact .inl ⟨u, h⟩
  · exact .inr h

/-- When the delay before the first cycle is over. -/
lemma now_of_lapsed {s : Schedule ℚ} {u : World ℚ} (hdelay : 0 ≤ s.delay w)
    (hu : (s.setOut w).Lapsed u (w.now + s.delay w)) : u.now = w.now + s.delay w := by
  rw [hu.now]
  exact max_eq_right (le_add_of_nonneg_right hdelay)

lemma alike_setOut (s : Schedule ℚ) (w : World ℚ) : w.Alike (s.setOut w) :=
  (alike_underway true w).trans ((World.Inward.logLine _ _ _).alike _)

/-- A run calls for metrics at the starts of its cycles and at no other time. -/
theorem collections_runWith (s : Schedule ℚ) (hcycle : Steadfast 1 cycle) (limit : ℕ)
    (w : World ℚ) : ((s.runWith cycle limit).run w).2.collections
      = w.collections ++ (s.roundsWith cycle limit w).map (·.start.now) := by
  have hset := (s.alike_setOut w).collections
  by_cases hrunning : w.cycles.running = true
  · unfold runWith roundsWith
    rw [run_bind_ok (run_world w), if_pos hrunning, if_pos hrunning, List.map_nil, List.append_nil]
    rfl
  rw [Bool.not_eq_true] at hrunning
  rcases runWith_course s cycle limit hrunning with
    ⟨u, -, hu, hrs, -, hend⟩ | ⟨u, x, hu, hcourse, hend⟩
  · rw [hend.collections, hu.collections, hset, hrs, List.map_nil, List.append_nil]
  · rw [hend.collections, hcourse.collections hcycle, hu.collections, hset]

theorem collections_run (s : Schedule ℚ) (c : Collector ℚ) (e : Option (Endpoint ℚ)) (limit : ℕ)
    (w : World ℚ) : ((s.run c (e.map Endpoint.upload) limit).run w).2.collections
      = w.collections ++ (s.roundsOf c (e.map Endpoint.upload) limit w).map (·.start.now) :=
  collections_runWith s (steadfast_cycle c e) limit w

/-- The rounds of a run from one on. -/
lemma roundsOf_course {s : Schedule ℚ} {c : Collector ℚ} {d : Option (Destination ℚ)} {r : Round ℚ}
    {pre post : List (Round ℚ)} (hrs : s.roundsOf c d limit w = pre ++ r :: post) :
    ∃ u o x, (s.setOut w).Lapsed u (w.now + s.delay w) ∧
      Course s (Cycle.run c d) limit u.now u (pre ++ r :: post) o x := by
  have hidle : w.cycles.running = false := by
    by_contra hrunning
    unfold roundsOf at hrs
    rw [if_pos (by simpa using hrunning)] at hrs
    simp at hrs
  rcases run_course s c d limit hidle with ⟨u, -, hnone, -⟩ | ⟨u, x, hu, hcourse, -⟩
  · rw [hnone] at hrs
    simp at hrs
  · exact ⟨u, _, x, hu, hrs ▸ hcourse⟩

end Schedule
end MetricsAgent
