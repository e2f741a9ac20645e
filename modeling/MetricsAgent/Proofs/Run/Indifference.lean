import MetricsAgent.Proofs.Run.Endings
import MetricsAgent.Proofs.Run.Ordinary
import MetricsAgent.Proofs.Run.Stopping

/-!
# The schedule does not depend on success

Two runs whose cycles take the same times and that are asked to stop at the same time start their
cycles at the same times and end at the same time, whatever their cycles come to.  The two loops are
compared round by round (`Schedule.Course.agree`): what a cycle hands on to the loop is the time at
which it has ended, and whether the agent was asked to stop by then.  The wait for a tick is over by
the tick, so a loop that is stopped during a wait was asked no later than the cycle would have
started, and the other one does not start it either.

So that any cycle may fail in any way, each has a collector and a destination of its own, or fails in
its bookkeeping once some time has passed (`Turn`).
-/

namespace MetricsAgent

open Script

/-! ## The time of the request -/

namespace World

variable {w u x : World ℚ} {t tick : ℚ}

/-- When the agent was asked to stop, if it was. -/
def askedTime? (w : World ℚ) : Option ℚ :=
  if w.isStopping then w.stopTime else none

/-- A request that was made is known with its time, which is not ahead. -/
def Timed (w : World ℚ) : Prop :=
  w.isStopping = true → ∃ t ≤ w.now, w.stopTime = some t

lemma askedTime?_of_stopping (h : w.isStopping = true) : w.askedTime? = w.stopTime := if_pos h

lemma askedTime?_of_not_stopping (h : w.isStopping = false) : w.askedTime? = none :=
  if_neg (by simp [h])

lemma isStopping_of_askedTime? (h : w.askedTime? = some t) : w.isStopping = true := by
  by_contra hgoing
  rw [askedTime?_of_not_stopping (by simpa using hgoing)] at h
  cases h

lemma Alike.askedTime? (h : w.Alike u) : u.askedTime? = w.askedTime? := by
  unfold World.askedTime?
  rw [h.isStopping, h.stopTime]

lemma Timed.of_precedes (hw : w.Timed) (h : w.Precedes u) : u.Timed := by
  intro hu
  cases hstopping : w.isStopping with
  | true =>
    obtain ⟨t, ht, hset⟩ := hw hstopping
    exact ⟨t, ht.trans h.now_le, (h.stands hstopping).2.trans hset⟩
  | false =>
    obtain ⟨t, hset, -, ht, -⟩ := h.asked hstopping hu
    exact ⟨t, ht, hset⟩

/-- A wait that was cut short ended with the request, or at once if that had been made before. -/
lemma now_of_halted (h : w.Halted x) (hw : w.Timed) :
    ∃ t, x.askedTime? = some t ∧ x.now = max w.now t := by
  rw [askedTime?_of_stopping h.stopping]
  cases hstopping : w.isStopping with
  | true =>
    obtain ⟨t, ht, hset⟩ := hw hstopping
    exact ⟨t, (h.precedes.stands hstopping).2.trans hset,
      (h.now hstopping).trans (max_eq_left ht).symm⟩
  | false =>
    exact ⟨x.now, h.stopTime hstopping, (max_eq_right h.precedes.now_le).symm⟩

end World

/-- How long the cycle of a round takes. -/
def Round.duration (r : Round ℚ) : ℚ := r.finish.now - r.start.now

/-! ## Two loops -/

namespace Schedule

variable {R R' : Type} {s : Schedule ℚ} {cycle : Script ℚ R} {cycle' : Script ℚ R'} {limit : ℕ}
  {tick t : ℚ} {w w' u u' x x' : World ℚ} {rs rs' : List (Round ℚ)} {o o' : Except Fault RunEnd}

/-- What the loop needs of its cycles: they begin with a call for metrics, take no notice of the
request to stop and fail in ordinary ways only. -/
structure Regular (cycle : Script ℚ R) : Prop where
  steadfast : Steadfast 1 cycle
  ordinary : cycle.Ordinary

/-- An ordinary cycle does not end the loop. -/
lemma Regular.absorb_ne_error (h : Regular cycle) {f : Fault} :
    (absorb cycle).run u ≠ (.error f, x) := by
  intro work
  have hf := not_isOrdinary_of_absorb work
  unfold absorb at work
  rw [run_bind_ok (run_attempt cycle u)] at work
  rcases hrun : cycle.run u with ⟨g | r, v⟩ <;> rw [hrun] at work
  · have hg := h.ordinary u g (by rw [hrun])
    dsimp only at work
    rw [if_pos hg] at work
    cases work
  · cases work

/-- A wait that lapsed was over by the time of the request. -/
lemma le_askedTime (hlapsed : w.Lapsed u tick) (hprecedes : u.Precedes x)
    (hasked : x.askedTime? = some t) : u.now ≤ t := by
  have hx := World.isStopping_of_askedTime? hasked
  rw [World.askedTime?_of_stopping hx] at hasked
  cases hu : u.isStopping with
  | true =>
    have htick := (hprecedes.stands hu).2.trans (hlapsed.stopTime hu)
    rw [hasked, Option.some.injEq] at htick
    have hahead := (hlapsed.stopping_iff.mp hu).1
    rw [hlapsed.now, max_eq_right hahead.le, htick]
  | false =>
    obtain ⟨t', hset, hle, -⟩ := hprecedes.asked hu hx
    rw [hasked, Option.some.injEq] at hset
    exact hset ▸ hle

/-- A cycle that does not start at the very time of the request starts before it. -/
lemma start_lt (hlapsed : w.Lapsed u tick) (hprecedes : u.Precedes x)
    (hasked : x.askedTime? = some t) (hstart : x.askedTime? ≠ some u.now) : u.now < t := by
  refine lt_of_le_of_ne (le_askedTime hlapsed hprecedes hasked) fun heq => hstart ?_
  rw [hasked, heq]

/-- Two loops that wait for one tick from the same time on and are asked to stop at the same time
are both stopped during the wait or neither is. -/
lemma not_lapsed_of_halted (wait : (awaitTick tick).run w = (.ok true, x))
    (wait' : (awaitTick tick).run w' = (.ok false, u')) (hnow : w.now = w'.now) (hw : w.Timed)
    (hprecedes : u'.Precedes x') (hasked : x.askedTime? = x'.askedTime?)
    (hstart : x'.askedTime? ≠ some u'.now) : False := by
  obtain ⟨t, ht, hx⟩ := World.now_of_halted (halted_of_awaitTick wait) hw
  have hlapsed := lapsed_of_awaitTick wait'
  have hlt : u'.now < t := start_lt hlapsed hprecedes (hasked.symm.trans ht) hstart
  have hle : max w.now t ≤ max w.now tick := hx ▸ now_le_of_awaitTick wait
  rw [hlapsed.now, ← hnow] at hlt
  exact absurd hlt ((le_max_right _ _).trans hle).not_gt

/-- Two loops that start at the same time with the same tick, whose cycles take the same times and
which are asked to stop at the same time start their cycles at the same times and end at the same
time and in the same way. -/
theorem Course.agree (h : Course s cycle limit tick w rs o x)
    (h' : Course s cycle' limit tick w' rs' o' x') (hcycle : Regular cycle)
    (hcycle' : Regular cycle') (hnow : w.now = w'.now) (hw : w.Timed) (hw' : w'.Timed)
    (hduration : ∀ q ∈ rs.zip rs', q.1.duration = q.2.duration)
    (hasked : x.askedTime? = x'.askedTime?)
    (hstart : ∀ r ∈ rs, x.askedTime? ≠ some r.start.now)
    (hstart' : ∀ r ∈ rs', x'.askedTime? ≠ some r.start.now) :
    rs.map (·.start.now) = rs'.map (·.start.now) ∧ x.now = x'.now ∧
      ∃ reached, o = .ok reached ∧ o' = .ok reached := by
  induction h generalizing w' rs' with
  | unfinished tick w =>
    cases h' with
    | unfinished => exact ⟨rfl, hnow, .unfinished, rfl, rfl⟩
  | failed wait work => exact absurd work hcycle.absorb_ne_error
  | stopped wait =>
    cases h' with
    | failed wait' work' => exact absurd work' hcycle'.absorb_ne_error
    | stopped wait' =>
      obtain ⟨t, ht, hx⟩ := World.now_of_halted (halted_of_awaitTick wait) hw
      obtain ⟨t', ht', hx'⟩ := World.now_of_halted (halted_of_awaitTick wait') hw'
      rw [ht, ht', Option.some.injEq] at hasked
      exact ⟨rfl, by rw [hx, hx', hnow, hasked], .stopped, rfl, rfl⟩
    | next wait' work' rest' =>
      have hprecedes := (precedes_of_absorb hcycle'.steadfast work').trans
        (rest'.precedes hcycle'.steadfast)
      exact (not_lapsed_of_halted wait wait' hnow hw hprecedes hasked
        (hstart' _ List.mem_cons_self)).elim
  | @next left tick w u v x rs o wait work rest ih =>
    have hlapsed := lapsed_of_awaitTick wait
    have hprecedes := precedes_of_absorb hcycle.steadfast work
    cases h' with
    | failed wait' work' => exact absurd work' hcycle'.absorb_ne_error
    | stopped wait' =>
      exact (not_lapsed_of_halted wait' wait hnow.symm hw'
        (hprecedes.trans (rest.precedes hcycle.steadfast)) hasked.symm
        (hstart _ List.mem_cons_self)).elim
    | @next _ _ _ u' v' _ rs' _ wait' work' rest' =>
      have hlapsed' := lapsed_of_awaitTick wait'
      have hprecedes' := precedes_of_absorb hcycle'.steadfast work'
      rw [List.zip_cons_cons, List.forall_mem_cons] at hduration
      rw [List.forall_mem_cons] at hstart hstart'
      -- Both cycles start at the same time and take the same time, so the loops go on alike.
      have hbegin : u.now = u'.now := by rw [hlapsed.now, hlapsed'.now, hnow]
      have hfinish : v.now = v'.now := by
        have hlong := hduration.1
        unfold Round.duration at hlong
        linarith
      rw [← hbegin] at rest'
      obtain ⟨hstarts, hend⟩ := ih rest' hfinish
        (hw.of_precedes (hlapsed.precedes.trans hprecedes))
        (hw'.of_precedes (hlapsed'.precedes.trans hprecedes')) hduration.2 hasked hstart.2
        hstart'.2
      exact ⟨by rw [List.map_cons, List.map_cons, hbegin, hstarts], hend⟩

/-- A loop that is asked to stop before its first cycle would start has none. -/
lemma Course.of_asked (h : Course s cycle limit tick w rs o x) (hcycle : Regular cycle)
    (hw : w.Timed) (hasked : x.askedTime? = some t) (ht : t ≤ max w.now tick)
    (hstart : ∀ r ∈ rs, x.askedTime? ≠ some r.start.now) :
    rs = [] ∧ x.now = max w.now t ∧ ∃ reached, o = .ok reached ∧
      (limit ≠ 0 → reached ≠ .unfinished) := by
  cases h with
  | unfinished =>
    have hx := World.isStopping_of_askedTime? hasked
    obtain ⟨t', ht', hset⟩ := hw hx
    rw [World.askedTime?_of_stopping hx, hset, Option.some.injEq] at hasked
    exact ⟨rfl, (max_eq_left (hasked ▸ ht')).symm, .unfinished, rfl, fun h => absurd rfl h⟩
  | failed wait work => exact absurd work hcycle.absorb_ne_error
  | stopped wait =>
    obtain ⟨t', ht', hx⟩ := World.now_of_halted (halted_of_awaitTick wait) hw
    rw [hasked, Option.some.injEq] at ht'
    exact ⟨rfl, ht' ▸ hx, .stopped, rfl, fun _ => RunEnd.noConfusion⟩
  | next wait work rest =>
    have hlapsed := lapsed_of_awaitTick wait
    have hlt := start_lt hlapsed ((precedes_of_absorb hcycle.steadfast work).trans
      (rest.precedes hcycle.steadfast)) hasked (hstart _ List.mem_cons_self)
    rw [hlapsed.now] at hlt
    exact absurd ht hlt.not_ge

/-- Everything before the start of a cycle comes after the beginning of the loop. -/
lemma Course.precedes_start (h : Course s cycle limit tick w rs o x) (hcycle : Regular cycle) :
    ∀ r ∈ rs, w.Precedes r.start := by
  induction h with
  | unfinished => simp
  | stopped => simp
  | failed wait work => simpa using (lapsed_of_awaitTick wait).precedes
  | next wait work rest ih =>
    have hfirst := (lapsed_of_awaitTick wait).precedes
    rw [List.forall_mem_cons]
    refine ⟨hfirst, fun r hr => ?_⟩
    exact (hfirst.trans (precedes_of_absorb hcycle.steadfast work)).trans (ih r hr)

/-! ## Two runs -/

lemma timed_setOut (s : Schedule ℚ) (hw : w.Timed) : (s.setOut w).Timed :=
  hw.of_precedes (s.alike_setOut w).precedes

/-- A run that was stopped during the delay and one that was not but is asked to stop at the same
time end at the same time, which is the end of the delay; no cycle starts in either. -/
lemma agree_of_halted (wait : (waitForStop (s.delay w)).run (s.setOut w) = (.ok true, u))
    (hhalted : (s.setOut w).Halted u) (hw : w.Timed)
    (hlapsed : (s.setOut w').Lapsed u' (w'.now + s.delay w')) (hw' : w'.Timed)
    (h' : Course s cycle limit u'.now u' rs o x) (hcycle : Regular cycle) (hnow : w.now = w'.now)
    (hdelay : s.delay w = s.delay w') (hasked : u.askedTime? = x.askedTime?)
    (hstart : ∀ r ∈ rs, x.askedTime? ≠ some r.start.now) :
    rs = [] ∧ u.now = x.now ∧ ∃ reached, o = .ok reached ∧
      (limit ≠ 0 → reached ≠ .unfinished) := by
  obtain ⟨t, ht, hu⟩ := World.now_of_halted hhalted (s.timed_setOut hw)
  have hle : u.now ≤ u'.now := by
    have hbound := now_le_of_waitForStop wait
    rw [hlapsed.now]
    exact hbound.trans_eq (by rw [hdelay]; exact congrArg₂ max hnow (by rw [← hnow]; rfl))
  rw [hasked] at ht
  have hge : u'.now ≤ t := le_askedTime hlapsed (h'.precedes hcycle.steadfast) ht
  have htu : t ≤ u.now := hu ▸ le_max_right _ _
  have hu' : u'.Timed := (s.timed_setOut hw').of_precedes hlapsed.precedes
  obtain ⟨hnone, hx, hend⟩ := h'.of_asked hcycle hu' ht (by rw [max_self]; linarith) hstart
  exact ⟨hnone, by rw [hx, max_eq_right hge]; linarith, hend⟩

/-- How two runs agree: in when their cycles start and when they end, and in whether they end. -/
structure Agree (rs rs' : List (Round ℚ)) (p p' : Except Fault RunEnd × World ℚ) (limit : ℕ) :
    Prop where
  starts : rs.map (·.start.now) = rs'.map (·.start.now)
  now : p.2.now = p'.2.now
  ends : ∃ a b, p.1 = .ok a ∧ p'.1 = .ok b ∧ (limit ≠ 0 → (a = .unfinished ↔ b = .unfinished))

theorem runWith_agree (hidle : w.cycles.running = false) (hidle' : w'.cycles.running = false)
    (hcycle : Regular cycle) (hcycle' : Regular cycle') (hw : w.Timed) (hw' : w'.Timed)
    (hnow : w.now = w'.now) (hdelay : s.delay w = s.delay w')
    (hduration : ∀ q ∈ (s.roundsWith cycle limit w).zip (s.roundsWith cycle' limit w'),
      q.1.duration = q.2.duration)
    (hasked : ((s.runWith cycle limit).run w).2.askedTime?
      = ((s.runWith cycle' limit).run w').2.askedTime?)
    (hstart : ∀ r ∈ s.roundsWith cycle limit w,
      ((s.runWith cycle limit).run w).2.askedTime? ≠ some r.start.now)
    (hstart' : ∀ r ∈ s.roundsWith cycle' limit w',
      ((s.runWith cycle' limit).run w').2.askedTime? ≠ some r.start.now) :
    Agree (s.roundsWith cycle limit w) (s.roundsWith cycle' limit w')
      ((s.runWith cycle limit).run w) ((s.runWith cycle' limit).run w') limit := by
  rcases runWith_course s cycle limit hidle with
    ⟨u, wait, hu, hrs, ho, hend⟩ | ⟨u, x, hu, hcourse, hend⟩ <;>
  rcases runWith_course s cycle' limit hidle' with
    ⟨u', wait', hu', hrs', ho', hend'⟩ | ⟨u', x', hu', hcourse', hend'⟩ <;>
  simp only [hend.askedTime?, hend'.askedTime?] at hasked hstart hstart'
  · -- Both are stopped during the delay.
    obtain ⟨t, ht, hnow₁⟩ := World.now_of_halted hu (s.timed_setOut hw)
    obtain ⟨t', ht', hnow₂⟩ := World.now_of_halted hu' (s.timed_setOut hw')
    rw [ht, ht', Option.some.injEq] at hasked
    refine ⟨by rw [hrs, hrs'], ?_, _, _, ho, ho', fun _ => Iff.rfl⟩
    rw [hend.now, hend'.now, hnow₁, hnow₂, hasked]
    exact congrArg₂ max hnow rfl
  · obtain ⟨hnone, hsame, reached, hreached, hgoing⟩ := agree_of_halted wait hu hw hu' hw' hcourse'
      hcycle' hnow hdelay hasked hstart'
    refine ⟨by rw [hrs, hnone], by rw [hend.now, hend'.now, hsame], _, _, ho, hreached, ?_⟩
    exact fun hlimit => iff_of_false RunEnd.noConfusion (hgoing hlimit)
  · obtain ⟨hnone, hsame, reached, hreached, hgoing⟩ := agree_of_halted wait' hu' hw' hu hw hcourse
      hcycle hnow.symm hdelay.symm hasked.symm hstart
    refine ⟨by rw [hrs', hnone], by rw [hend.now, hend'.now, hsame], _, _, hreached, ho', ?_⟩
    exact fun hlimit => iff_of_false (hgoing hlimit) RunEnd.noConfusion
  · -- Neither is: their loops begin alike.
    have hbegin : u.now = u'.now := by
      rw [hu.now, hu'.now, hdelay, ← hnow]
      exact congrArg₂ max hnow rfl
    rw [← hbegin] at hcourse'
    obtain ⟨hstarts, hsame, reached, ho, ho'⟩ := hcourse.agree hcourse' hcycle hcycle' hbegin
      ((s.timed_setOut hw).of_precedes hu.precedes)
      ((s.timed_setOut hw').of_precedes hu'.precedes) hduration hasked hstart hstart'
    exact ⟨hstarts, by rw [hend.now, hend'.now, hsame], _, _, ho, ho', fun _ => Iff.rfl⟩

end Schedule

/-! ## Cycles that come to anything -/

/-- A cycle that begins with a call for metrics, takes no notice of the request to stop and fails in
ordinary ways only. -/
structure Turn where
  cycle : Script ℚ (CycleResult ℚ)
  regular : Schedule.Regular cycle

namespace Turn

/-- The cycle of a collector and a destination that fail in ordinary ways, with a destination that takes
no notice of the request to stop. -/
def ofCycle (c : Collector ℚ) (d : Option (Destination ℚ)) (hc : c.Ordinary)
    (hordinary : ∀ send ∈ d, ∀ p, (send p).Ordinary)
    (hsteadfast : ∀ send ∈ d, ∀ p, Steadfast 0 (send p)) : Turn where
  cycle := Cycle.run c d
  regular := ⟨Cycle.steadfast_run c hsteadfast, Cycle.ordinary_run hc hordinary⟩

/-- The cycle at an endpoint, or at none, from which nothing but ordinary faults comes back. -/
def ofEndpoint (c : Collector ℚ) (hc : c.Ordinary) (e : Option (Endpoint ℚ))
    (he : ∀ x ∈ e, x.Ordinary) : Turn :=
  ofCycle c (e.map Endpoint.upload) hc
    (by
      intro send hsend p
      obtain ⟨x, hx, rfl⟩ := Option.mem_map.mp hsend
      exact Endpoint.ordinary_upload (he x hx) p)
    (by
      intro send hsend p
      obtain ⟨x, -, rfl⟩ := Option.mem_map.mp hsend
      exact x.steadfast_upload p)

/-- A cycle in which the bookkeeping of the collector fails once some time has passed. -/
def straying (delay : ℚ) (f : Fault) (hf : f.isOrdinary = true) : Turn where
  cycle := do
    let w ← world
    Cycle.changeTotals (·.begun w.clock)
    record .collect
    sleep delay
    throw f
  regular := by
    constructor
    · refine .world_bind (fun w => ?_) fun w => rfl
      refine .change_bind (.cycles fun t => t.begun w.clock) ?_
      exact Steadfast.bind .record_collect fun _ => Steadfast.bind (.sleep _) fun _ => .throw f
    · refine Ordinary.bind .world fun w => Ordinary.bind (.change _) fun _ => ?_
      exact Ordinary.bind (.change _) fun _ => Ordinary.bind (.sleep _) fun _ => .throw hf

end Turn

/-- A cycle by its turn, which is the number of cycles before it. -/
def Cycle.inTurn (turns : ℕ → Turn) : Script ℚ (CycleResult ℚ) := do
  (turns (← world).cycles.total).cycle

/-- If all turns are the same, so are the cycles. -/
lemma Cycle.inTurn_const (turn : Turn) : Cycle.inTurn (fun _ => turn) = turn.cycle := by
  have hlook (cycle : Script ℚ (CycleResult ℚ)) : (world >>= fun _ => cycle) = cycle := rfl
  exact hlook _

lemma Cycle.regular_inTurn (turns : ℕ → Turn) : Schedule.Regular (Cycle.inTurn turns) where
  steadfast := .world_bind (fun w => (turns w.cycles.total).regular.steadfast) fun _ => rfl
  ordinary := Ordinary.bind .world fun w => (turns w.cycles.total).regular.ordinary

/-- A run whose cycles take turns, from a world in which no run is going on. -/
structure Trial where
  turns : ℕ → Turn
  world : World ℚ
  idle : world.cycles.running = false
  timed : world.Timed

namespace Trial

/-- How the run ends on a schedule, and in which world. -/
def run (q : Trial) (s : Schedule ℚ) (limit : ℕ) : Except Fault RunEnd × World ℚ :=
  (s.runWith (Cycle.inTurn q.turns) limit).run q.world

/-- The rounds of the run. -/
def rounds (q : Trial) (s : Schedule ℚ) (limit : ℕ) : List (Round ℚ) :=
  s.roundsWith (Cycle.inTurn q.turns) limit q.world

/-- A run with one collector and one destination is the run of the schedule. -/
lemma run_const {q : Trial} {turn : Turn} {c : Collector ℚ} {d : Option (Destination ℚ)}
    (hturns : q.turns = fun _ => turn) (hcycle : turn.cycle = Cycle.run c d) (s : Schedule ℚ)
    (limit : ℕ) : q.run s limit = (s.run c d limit).run q.world := by
  rw [run, hturns, Cycle.inTurn_const, hcycle, Schedule.run_eq_runWith]

/-- If it is an appointment that stops the agent, a cycle can start at the very time of the request
only if that is its tick: no other cycle starts before all is done that is due. -/
theorem start_ne_of_appointment (q : Trial) (s : Schedule ℚ) (limit : ℕ) {a : Appointment ℚ}
    (ha : a ∈ q.world.agenda.head?) (hahead : q.world.now < a.due)
    (hasked : (q.run s limit).2.askedTime? = some a.due)
    (htick : ∀ r ∈ q.rounds s limit, r.tick ≠ a.due) :
    ∀ r ∈ q.rounds s limit, (q.run s limit).2.askedTime? ≠ some r.start.now := by
  have hregular := Cycle.regular_inTurn q.turns
  intro r hr hsame
  have hdue : r.start.now = a.due := Option.some.inj (hsame.symm.trans hasked)
  rcases Schedule.runWith_course s (Cycle.inTurn q.turns) limit q.idle with
    ⟨u, -, -, hrs, -⟩ | ⟨u, x, hu, hcourse, hend⟩
  · unfold rounds at hr
    rw [hrs] at hr
    cases hr
  · have hprecedes : q.world.Precedes r.start :=
      ((s.alike_setOut q.world).precedes.trans hu.precedes).trans
        (hcourse.precedes_start hregular r hr)
    cases hstopping : r.start.isStopping with
    | true =>
      -- The request was made at the tick.
      have hset := ((hcourse.start_precedes hregular.steadfast r hr).stands hstopping).2.trans
        ((hcourse.lapsed r hr).stopTime hstopping)
      have hx : x.askedTime? = some a.due := hend.askedTime?.symm.trans hasked
      rw [World.askedTime?_of_stopping (World.isStopping_of_askedTime? hx), hset] at hx
      exact htick r hr (Option.some.inj hx)
    | false =>
      -- The appointment still lies ahead.
      have hagenda := hprecedes.agenda_eq hstopping
      have hlt := hprecedes.ahead hstopping (hdue ▸ hahead) a (hagenda ▸ ha)
      exact absurd hdue hlt.ne

/-- The schedule does not depend on success or failure: whatever their cycles come to, two runs with
the same delay, the same durations of cycles and the same time of the request to stop, at which no
cycle just starts, call for metrics at the same times, when their cycles start, and end at the same
time, and neither fails. -/
theorem run_agree (p q : Trial) (s : Schedule ℚ) (limit : ℕ) (hnow : p.world.now = q.world.now)
    (hdelay : s.delay p.world = s.delay q.world)
    (hduration : ∀ x ∈ (p.rounds s limit).zip (q.rounds s limit), x.1.duration = x.2.duration)
    (hasked : (p.run s limit).2.askedTime? = (q.run s limit).2.askedTime?)
    (hp : ∀ r ∈ p.rounds s limit, (p.run s limit).2.askedTime? ≠ some r.start.now)
    (hq : ∀ r ∈ q.rounds s limit, (q.run s limit).2.askedTime? ≠ some r.start.now) :
    ∃ starts, (p.run s limit).2.collections = p.world.collections ++ starts ∧
      (q.run s limit).2.collections = q.world.collections ++ starts ∧
      (p.rounds s limit).map (·.start.now) = starts ∧
      (q.rounds s limit).map (·.start.now) = starts ∧
      (p.run s limit).2.now = (q.run s limit).2.now ∧
      ∃ a b, (p.run s limit).1 = .ok a ∧ (q.run s limit).1 = .ok b ∧
        (limit ≠ 0 → (a = .unfinished ↔ b = .unfinished)) := by
  have hagree := Schedule.runWith_agree p.idle q.idle (Cycle.regular_inTurn p.turns)
    (Cycle.regular_inTurn q.turns) p.timed q.timed hnow hdelay hduration hasked hp hq
  have hcollections (q : Trial) : (q.run s limit).2.collections
      = q.world.collections ++ (q.rounds s limit).map (·.start.now) :=
    Schedule.collections_runWith s (Cycle.regular_inTurn q.turns).steadfast limit q.world
  exact ⟨_, hcollections p, (hcollections q).trans (congrArg _ hagree.starts.symm), rfl,
    hagree.starts.symm, hagree.now, hagree.ends⟩

/-- Nobody has asked, but there is an appointment for 25 seconds. -/
def appointed : World ℚ := { World.start 0 with agenda := [⟨25, 0, "SIGTERM"⟩] }

lemma timed_appointed : appointed.Timed := fun h => absurd h (by decide)

lemma ordinary_timed (fault : Option Fault) (hfault : ∀ f, fault = some f → f.isOrdinary = true)
    (delays : List ℚ) : { Collector.timed delays with trackingFault := fault }.Ordinary where
  tracking {f} := hfault f
  result {n at_ f} h := by
    have hf : Fault.collection .internal "no metrics" none = f := Except.error.inj h
    rw [← hf]
    rfl

/-- Every collection fails, the first one after three seconds and the third one after two. -/
def failing : Trial where
  turns _ := .ofEndpoint _ (ordinary_timed none nofun [3, 0, 2]) none (by simp)
  world := appointed
  idle := rfl
  timed := timed_appointed

/-- The first collection is successful after three seconds but is not delivered, and after it the
bookkeeping fails, at once and then after two seconds. -/
def mixed : Trial where
  turns n := match n with
    | 0 => .ofCycle
      { Collector.timed [] with collections := fun _ => ⟨3, none, fun _ => .ok (.payload .bare)⟩ }
      (some (.answering (.error (.delivery .exhausted none)))) ⟨nofun, nofun⟩
      (by
        intro send hsend p
        cases hsend
        exact .throw rfl)
      (by
        intro send hsend p
        cases hsend
        exact .throw _)
    | 1 => .ofEndpoint _ (ordinary_timed (some (.foreign "RuntimeError" none none))
      (by rintro f ⟨⟩; decide) []) none (by simp)
    | _ => .straying 2 (.foreign "RuntimeError" none none) (by decide)
  world := appointed
  idle := rfl
  timed := timed_appointed

/-- With an interval of ten seconds, both runs start three cycles and end when they are asked to. -/
theorem run_agree_appointed : (mixed.run ⟨10, 0⟩ 5).2.collections = [0, 10, 20] ∧
    (mixed.run ⟨10, 0⟩ 5).2.now = 25 ∧
      ((Schedule.run ⟨10, 0⟩ (Collector.timed [3, 0, 2]) none 5).run appointed).2.collections
        = [0, 10, 20] := by
  have hp := failing.start_ne_of_appointment ⟨10, 0⟩ 5 rfl (by decide) (by decide +kernel)
    (by decide +kernel)
  have hq := mixed.start_ne_of_appointment ⟨10, 0⟩ 5 rfl (by decide) (by decide +kernel)
    (by decide +kernel)
  obtain ⟨starts, hcollections, hcalls, hstarts, -, hnow, -⟩ := run_agree failing mixed ⟨10, 0⟩ 5
    rfl rfl (by decide +kernel) (by decide +kernel) hp hq
  have hfailing : (failing.rounds ⟨10, 0⟩ 5).map (·.start.now) = [0, 10, 20] := by decide +kernel
  have hend : (failing.run ⟨10, 0⟩ 5).2.now = 25 := by decide +kernel
  rw [run_const (q := failing) (c := Collector.timed [3, 0, 2]) (d := none) rfl rfl] at hcollections
  have hworld : failing.world = appointed := rfl
  rw [hworld] at hcollections
  rw [hcalls, ← hnow, hend, hcollections, ← hstarts, hfailing]
  exact ⟨rfl, rfl, rfl⟩

end Trial
end MetricsAgent
