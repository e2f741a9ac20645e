import MetricsAgent.Proofs.Run.Spacing

/-!
# How a run stops

The request to stop is heeded in the delay before the first cycle and between cycles.  A wait that
ends with its time does not tell of a request made at that very time after it, so one more cycle can
start then, and only then (`Schedule.Course.start_stopping`).  At any other time the run stops when
it is asked to, or when the cycle in flight has ended (`Schedule.Course.prompt`); and it is asked to
by anybody who has an appointment (`Schedule.run_stopping_of_appointment`).
-/

namespace MetricsAgent

open Script

namespace Schedule

variable {R : Type} {s : Schedule ℚ} {cycle : Script ℚ R} {limit : ℕ} {tick t : ℚ} {w x : World ℚ}
  {rs : List (Round ℚ)} {o : Except Fault RunEnd}

/-! ## Rounds and the request to stop -/

namespace Course

lemma finish_precedes (h : Course s cycle limit tick w rs o x) (hcycle : Steadfast 1 cycle) :
    ∀ r ∈ rs, r.finish.Precedes x := by
  induction h with
  | unfinished => simp
  | stopped => simp
  | failed => simpa using World.Precedes.refl _
  | next wait work rest ih =>
    rw [List.forall_mem_cons]
    exact ⟨rest.precedes hcycle, ih⟩

lemma start_precedes (h : Course s cycle limit tick w rs o x) (hcycle : Steadfast 1 cycle) :
    ∀ r ∈ rs, r.start.Precedes x := fun r hr =>
  (h.start_precedes_finish hcycle r hr).trans (h.finish_precedes hcycle r hr)

/-- A cycle that starts after the request is the last one, and the request was made at its tick. -/
lemma start_stopping {pre post : List (Round ℚ)} {r : Round ℚ}
    (h : Course s cycle limit tick w (pre ++ r :: post) o x) (hcycle : Steadfast 1 cycle)
    (hr : r.start.isStopping = true) : post = [] ∧ r.start.stopTime = some r.tick := by
  have hmem : r ∈ pre ++ r :: post := by simp
  refine ⟨?_, (h.lapsed r hmem).stopTime hr⟩
  rcases h.after with hnil | ⟨left, hpost⟩
  · exact hnil
  · exact (hpost.of_stopping ((h.start_precedes_finish hcycle r hmem).stopping hr)).1

/-- If the request comes at no tick, no cycle starts after it. -/
lemma start_not_stopping (h : Course s cycle limit tick w rs o x) (hcycle : Steadfast 1 cycle)
    (hset : x.stopTime = some t) (htick : ∀ r ∈ rs, r.called.now < r.tick → t ≠ r.tick) :
    ∀ r ∈ rs, r.start.isStopping = false := by
  intro r hr
  by_contra hstopping
  rw [Bool.not_eq_false] at hstopping
  have hlapsed := h.lapsed r hr
  have hstands := ((h.start_precedes hcycle r hr).stands hstopping).2
  rw [hset, hlapsed.stopTime hstopping] at hstands
  exact htick r hr (hlapsed.stopping_iff.mp hstopping).1 (Option.some.inj hstands)

lemma start_le (h : Course s cycle limit tick w rs o x) (hcycle : Steadfast 1 cycle)
    (hx : x.isStopping = true) (hset : x.stopTime = some t)
    (hstart : ∀ r ∈ rs, r.start.isStopping = false) : ∀ r ∈ rs, r.start.now ≤ t := by
  intro r hr
  obtain ⟨t', ht', hle, -⟩ := (h.start_precedes hcycle r hr).asked (hstart r hr) hx
  rw [hset] at ht'
  exact (Option.some.inj ht') ▸ hle

/-- The loop is over when the agent is asked to stop, or else when the cycle in flight has ended; at
its beginning the request may just have been made. -/
lemma prompt (h : Course s cycle limit tick w rs o x) (hcycle : Steadfast 1 cycle)
    (hw : w.isStopping = true → w.stopTime = some w.now) (hx : x.isStopping = true)
    (hset : x.stopTime = some t)
    (hstart : ∀ r ∈ rs, r.start.isStopping = false) (ho : o ≠ .ok .unfinished) :
    (∀ r ∈ rs, t < r.finish.now → x.now = r.finish.now) ∧
      ((∀ r ∈ rs, r.finish.now ≤ t) → x.now = t) := by
  induction h with
  | unfinished => exact absurd rfl ho
  | @stopped _ _ w x wait =>
    have hhalted := halted_of_awaitTick wait
    have htime : x.stopTime = some x.now := by
      by_cases hstopping : w.isStopping = true
      · rw [(hhalted.precedes.stands hstopping).2, hw hstopping, hhalted.now hstopping]
      · exact hhalted.stopTime (by simpa using hstopping)
    rw [hset] at htime
    exact ⟨by simp, fun _ => (Option.some.inj htime).symm⟩
  | failed wait work =>
    rw [List.forall_mem_singleton] at hstart
    obtain ⟨t', ht', -, hle, -⟩ := (precedes_of_absorb hcycle work).asked hstart hx
    rw [hset] at ht'
    obtain rfl := Option.some.inj ht'
    rw [List.forall_mem_singleton, List.forall_mem_singleton]
    exact ⟨fun _ => rfl, fun h => le_antisymm h hle⟩
  | @next left tick w u v x rs o wait work rest ih =>
    rw [List.forall_mem_cons] at hstart
    simp only [List.forall_mem_cons]
    cases hv : v.isStopping with
    | true =>
      -- The request was made during this cycle, and no other follows.
      obtain ⟨rfl, hnow⟩ := rest.of_stopping hv
      obtain ⟨t', ht', -, hle, -⟩ := (precedes_of_absorb hcycle work).asked hstart.1 hv
      have hstands := ((rest.precedes hcycle).stands hv).2
      rw [hset, ht'] at hstands
      obtain rfl := Option.some.inj hstands
      simp only [List.not_mem_nil, false_implies, implies_true, and_true]
      exact ⟨fun _ => hnow, fun h => hnow.trans (le_antisymm h hle)⟩
    | false =>
      -- The request was made after this cycle.
      obtain ⟨t', ht', hle, -⟩ := (rest.precedes hcycle).asked hv hx
      rw [hset] at ht'
      obtain rfl := Option.some.inj ht'
      obtain ⟨hflight, hidle⟩ := ih (by simp [hv]) hx hset hstart.2 ho
      exact ⟨⟨fun hlt => absurd hlt hle.not_gt, hflight⟩, fun h => hidle h.2⟩

/-- The loop does not go through all its rounds before a time that is fewer intervals away. -/
lemma ne_unfinished (h : Course s cycle (limit + 1) tick w rs o x) (hinterval : 0 < s.interval)
    (hcycle : Steadfast 1 cycle) (hle : ∀ r ∈ rs, r.start.now ≤ t)
    (ht : t < tick + limit * s.interval) : o ≠ .ok .unfinished := by
  rintro rfl
  have hcount := h.countP_start_le hinterval hcycle ht
  rw [List.countP_eq_length.mpr (by simpa using hle)] at hcount
  rcases h.outcome with ⟨-, hlength⟩ | ⟨hstopped, -⟩ | ⟨f, hf, -⟩
  · omega
  · cases hstopped
  · cases hf

end Course

/-! ## Whole runs -/

variable (c : Collector ℚ) (e : Option (Endpoint ℚ))

/-- A cycle starts after the request to stop exactly if its tick was waited for and the request was
made at that very tick and came after the wait in the queue; it is the last cycle then. -/
theorem run_start_stopping_iff (limit : ℕ) (w : World ℚ) {r : Round ℚ} {pre post : List (Round ℚ)}
    (hrs : s.roundsOf c (e.map Endpoint.upload) limit w = pre ++ r :: post) :
    ((s.run c (e.map Endpoint.upload) limit).run w).2.collections
        = w.collections ++ (pre ++ r :: post).map (·.start.now) ∧
      (r.start.isStopping = true ↔ r.called.now < r.tick ∧ r.called.AskedAt r.tick) ∧
      (r.start.isStopping = true → post = [] ∧ r.start.stopTime = some r.tick) := by
  obtain ⟨u, o, x, -, hcourse⟩ := roundsOf_course hrs
  refine ⟨hrs ▸ collections_run s c e limit w, ?_, hcourse.start_stopping (steadfast_cycle c e)⟩
  exact (hcourse.lapsed r (by simp)).stopping_iff

/-- With an interval of 10, somebody who makes an appointment for 10 once the wait for the tick at
10 has begun is overtaken by a second cycle. -/
theorem run_start_stopping_timed : ∃ r ∈ (⟨10, 0⟩ : Schedule ℚ).roundsOf (.timed []) none 2
      { World.start (T := ℚ) 0 with agenda := [⟨10, 1, "test"⟩] },
    r.start.isStopping = true ∧ r.called.now < r.tick ∧ r.called.AskedAt r.tick := by
  obtain ⟨r, hr, hstopping⟩ : ∃ r ∈ (⟨10, 0⟩ : Schedule ℚ).roundsOf (.timed []) none 2
      { World.start (T := ℚ) 0 with agenda := [⟨10, 1, "test"⟩] }, r.start.isStopping = true := by
    decide +kernel
  obtain ⟨pre, post, hrs⟩ := List.append_of_mem hr
  obtain ⟨-, hiff, -⟩ := run_start_stopping_iff (.timed []) none 2 _ hrs
  exact ⟨r, hr, hstopping, hiff.mp hstopping⟩

/-- It is not so that no cycle starts after the request to stop. -/
theorem not_forall_start_not_stopping : ¬ ∀ (s : Schedule ℚ) (c : Collector ℚ) (limit : ℕ)
    (w : World ℚ), 0 < s.interval → w.isStopping = false →
    ∀ r ∈ s.roundsOf c none limit w, r.start.isStopping = false := by
  intro h
  have hall := h ⟨10, 0⟩ (.timed []) 2 { World.start (T := ℚ) 0 with agenda := [⟨10, 1, "test"⟩] }
    (by decide) rfl
  exact absurd hall (by decide +kernel)

/-- A run that is asked to stop at a time that is none of the ticks it waited for ends at that time,
or when the cycle in flight at that time has ended.  Every cycle that started did so before the
request, and came to the same end as if the request had not been made. -/
theorem run_prompt (limit : ℕ) (w : World ℚ) (t : ℚ) (hinterval : 0 < s.interval)
    (hdelay : 0 ≤ s.delay w) (hidle : w.cycles.running = false) (hfresh : w.isStopping = false)
    (hlimit : t < w.now + limit * s.interval)
    (hstopping : ((s.run c (e.map Endpoint.upload) (limit + 1)).run w).2.isStopping = true)
    (hset : ((s.run c (e.map Endpoint.upload) (limit + 1)).run w).2.stopTime = some t)
    (htick : ∀ r ∈ s.roundsOf c (e.map Endpoint.upload) (limit + 1) w,
      r.called.now < r.tick → t ≠ r.tick) :
    let rs := s.roundsOf c (e.map Endpoint.upload) (limit + 1) w
    let outcome := (s.run c (e.map Endpoint.upload) (limit + 1)).run w
    let cycle := absorb (Cycle.run c (e.map Endpoint.upload))
    (outcome.1 = .ok .beforeFirst ∨ outcome.1 = .ok .stopped ∨
        ∃ f : Fault, outcome.1 = .error f ∧ f.isOrdinary = false) ∧
      (∀ r ∈ rs, t < r.finish.now → outcome.2.now = r.finish.now) ∧
      ((∀ r ∈ rs, r.finish.now ≤ t) → outcome.2.now = t) ∧
      outcome.2.collections = w.collections ++ rs.map (·.start.now) ∧
      (∀ r ∈ rs, w.now + s.delay w ≤ r.start.now ∧ r.start.now ≤ t ∧ r.start.isStopping = false) ∧
      (∀ r ∈ rs, r.finish = (cycle.run r.start).2 ∧
        r.finish.undisturbed = (cycle.run r.start.undisturbed).2.undisturbed) := by
  intro rs outcome cycle
  have hcycle := steadfast_cycle c e
  have hcalls := collections_run s c e (limit + 1) w
  rcases run_course s c (e.map Endpoint.upload) (limit + 1) hidle with
    ⟨u, hu, hrs, hend, halike⟩ | ⟨u, x, hu, hcourse, halike⟩
  · -- The request was made during the delay: there are no rounds.
    have hnone : rs = [] := hrs
    have htime : some t = some u.now :=
      (hset.symm.trans halike.stopTime).trans (hu.stopTime hfresh)
    have hnow : outcome.2.now = t := halike.now.trans (Option.some.inj htime).symm
    exact ⟨.inl hend, by simp [hnone], fun _ => hnow, hcalls, by simp [hnone], by simp [hnone]⟩
  have hx : x.isStopping = true := halike.isStopping.symm.trans hstopping
  have hxset : x.stopTime = some t := halike.stopTime.symm.trans hset
  have hunow := now_of_lapsed hdelay hu
  have hstart := hcourse.start_not_stopping hcycle hxset htick
  have hle := hcourse.start_le hcycle hx hxset hstart
  have ho := hcourse.ne_unfinished hinterval hcycle hle (by rw [hunow]; linarith)
  have hend : (∀ r ∈ rs, t < r.finish.now → outcome.2.now = r.finish.now) ∧
      ((∀ r ∈ rs, r.finish.now ≤ t) → outcome.2.now = t) := by
    rw [show outcome.2.now = x.now from halike.now]
    exact hcourse.prompt hcycle (fun h => by rw [hu.stopTime h, hunow]) hx hxset hstart ho
  refine ⟨.inr ?_, hend.1, hend.2, hcalls, fun r hr => ⟨?_, hle r hr, hstart r hr⟩, fun r hr => ?_⟩
  · rcases hcourse.outcome with ⟨h, -⟩ | ⟨h, -⟩ | h
    · exact absurd h ho
    · exact .inl h
    · exact .inr h
  · exact hunow ▸ (hcourse.le_start hinterval hcycle r hr).1
  · have hfinish := hcourse.finish_eq r hr
    exact ⟨hfinish, by rw [hfinish, ((steadfast_absorb hcycle).undisturbed r.start).2]⟩

/-- A cycle that takes 13 is in flight when the request comes at 5, and the run ends with it. -/
theorem run_prompt_timed : (((⟨10, 0⟩ : Schedule ℚ).run (.timed [13]) none (1 + 1)).run
    ((World.start 0).appoint 5 "test")).2.now = 13 := by
  have hfirst : ((⟨10, 0⟩ : Schedule ℚ).roundsOf (.timed [13]) none (1 + 1)
      ((World.start 0).appoint 5 "test")).head?.map
      (fun r => ((⟨10, 0⟩ : Schedule ℚ).nextTick r, r.finish.now)) = some (10, 13) := by
    decide +kernel
  obtain ⟨r, hrs, -, hfinish⟩ := exists_first_round hfirst
  obtain ⟨-, hflight, -⟩ := run_prompt (s := ⟨10, 0⟩) (.timed [13]) none 1
    ((World.start 0).appoint 5 "test") 5 (by decide) (by decide +kernel) rfl rfl
    (by decide +kernel) (by decide +kernel) (by decide +kernel) (by decide +kernel)
  have hmem : r ∈ (⟨10, 0⟩ : Schedule ℚ).roundsOf (.timed [13]) none (1 + 1)
      ((World.start 0).appoint 5 "test") := by
    rw [hrs]
    simp
  exact (hflight r hmem (by rw [hfinish]; norm_num)).trans hfinish

/-- Whoever has the first appointment is heard: the run is asked to stop at its time at the latest,
unless a fault that is not an ordinary one ends it. -/
theorem run_stopping_of_appointment (limit : ℕ) (w : World ℚ) {a : Appointment ℚ}
    (hinterval : 0 < s.interval) (hdelay : 0 ≤ s.delay w) (hidle : w.cycles.running = false)
    (hfresh : w.isStopping = false) (ha : a ∈ w.agenda.head?) (hahead : w.now < a.due)
    (hlimit : a.due < w.now + limit * s.interval) :
    let outcome := (s.run c (e.map Endpoint.upload) (limit + 1)).run w
    (∃ t, outcome.2.isStopping = true ∧ outcome.2.stopTime = some t ∧ t ≤ a.due) ∨
      ∃ f : Fault, outcome.1 = .error f ∧ f.isOrdinary = false := by
  intro outcome
  have hcycle := steadfast_cycle c e
  have hset : w.Precedes (s.setOut w) := .of_eq rfl rfl rfl rfl
  -- From the first world on, a request that is made is made by the time of the appointment.
  have hasked {x : World ℚ} (hwx : w.Precedes x) (halike : x.Alike outcome.2)
      (hx : x.isStopping = true) :
      ∃ t, outcome.2.isStopping = true ∧ outcome.2.stopTime = some t ∧ t ≤ a.due := by
    obtain ⟨t, ht, -, -, hfirst⟩ := hwx.asked hfresh hx
    refine ⟨t, halike.isStopping.trans hx, halike.stopTime.trans ht, ?_⟩
    simpa [hahead.le] using hfirst a ha
  rcases run_course s c (e.map Endpoint.upload) (limit + 1) hidle with
    ⟨u, hu, -, -, halike⟩ | ⟨u, x, hu, hcourse, halike⟩
  · exact .inl (hasked (hset.trans hu.precedes) halike hu.stopping)
  have hwx : w.Precedes x := (hset.trans hu.precedes).trans (hcourse.precedes hcycle)
  cases hx : x.isStopping with
  | true => exact .inl (hasked hwx halike hx)
  | false =>
    right
    rcases hcourse.outcome with ⟨ho, -⟩ | ⟨-, hstopped⟩ | h
    · -- All rounds were gone through before the appointment, and there are too many for that.
      have hnow : x.now ≤ a.due := by
        rcases hwx.now_le.lt_or_eq with hlt | heq
        · exact (hwx.ahead hx hlt a (by rwa [hwx.agenda_eq hx])).le
        · exact heq ▸ hahead.le
      have hle : ∀ r ∈ s.roundsOf c (e.map Endpoint.upload) (limit + 1) w, r.start.now ≤ a.due :=
        fun r hr => (hcourse.start_precedes hcycle r hr).now_le.trans hnow
      exact absurd ho (hcourse.ne_unfinished hinterval hcycle hle
        (by rw [now_of_lapsed hdelay hu]; linarith))
    · rw [hx] at hstopped
      cases hstopped
    · exact h

end Schedule
end MetricsAgent
