import MetricsAgent.Proofs.Delivery.Faults
import MetricsAgent.Run.Schedule

/-!
# Work that fails in ordinary ways

A script is `Script.Ordinary` if whatever it fails with may be handled.  A cycle handles every such
fault of collecting and of delivering and passes on those of the bookkeeping alone, so it is
ordinary if its collector and its destination are (`Cycle.ordinary_run`); an endpoint is one if
nothing but ordinary faults comes back from it (`Endpoint.ordinary_upload`).  A run on a schedule takes
no notice of such faults, so it does not fail at all (`Schedule.succeeds_course`).
-/

namespace MetricsAgent

open Script

/-- Whatever a script fails with may be handled. -/
def Script.Ordinary {T R : Type} [Seconds T] (s : Script T R) : Prop :=
  ∀ (w : World T) (f : Fault), (s.run w).1 = .error f → f.isOrdinary = true

namespace Script.Ordinary

variable {T R Q : Type} [Seconds T] {s : Script T R} {f : R → Script T Q}

/-- A script that does not fail. -/
lemma of_ok (h : ∀ w, ∃ r u, s.run w = (.ok r, u)) : s.Ordinary := by
  intro w f hf
  obtain ⟨r, u, hrun⟩ := h w
  rw [hrun] at hf
  cases hf

lemma pure (r : R) : Ordinary (Pure.pure r : Script T R) := of_ok fun w => ⟨r, w, rfl⟩

lemma world : Ordinary (Script.world : Script T (World T)) := of_ok fun w => ⟨w, w, rfl⟩

lemma change (g : World T → World T) : Ordinary (Script.change g) := of_ok fun w => ⟨(), g w, rfl⟩

lemma sleep (duration : T) : Ordinary (Script.sleep duration) :=
  of_ok fun w => ⟨(), _, run_sleep duration w⟩

lemma requestStop (reason : Option String) :
    Ordinary (Script.requestStop reason : Script T Unit) := by
  cases reason with
  | none => exact pure ()
  | some r => exact change _

lemma throw {e : Fault} (he : e.isOrdinary = true) :
    Ordinary (MonadExcept.throw e : Script T R) := by
  intro w f hf
  cases hf
  exact he

lemma tell (f : Fault) : Ordinary (Script.tell f : Script T String) := by
  unfold Script.tell
  split
  · exact pure _
  · exact throw (Fault.isOrdinary_of_silence? ‹_›)

lemma bind (hs : s.Ordinary) (hf : ∀ r, (f r).Ordinary) : (s >>= f).Ordinary := by
  intro w e he
  rcases hr : s.run w with ⟨e' | r, u⟩
  · rw [run_bind_error hr] at he
    cases he
    exact hs w e (by rw [hr])
  · rw [run_bind_ok hr] at he
    exact hf r u e he

/-- What is done with an outcome need not reckon with other faults. -/
lemma attempt_bind {f : Except Fault R → Script T Q} (hs : s.Ordinary)
    (hf : ∀ r, (∀ e, r = .error e → e.isOrdinary = true) → (f r).Ordinary) :
    (s.attempt >>= f).Ordinary := by
  intro w e he
  rw [run_bind_ok (run_attempt s w)] at he
  exact hf _ (hs w) _ e he

/-- Something may be done beforehand under a condition. -/
lemma when {c : Prop} [Decidable c] {s : Script T Unit} {f : Unit → Script T Q} (hs : s.Ordinary)
    (hf : (f ()).Ordinary) : Ordinary (if c then s >>= f else f ()) := by
  split
  · exact hs.bind fun _ => hf
  · exact hf

end Script.Ordinary

/-! ## Collecting -/

/-- Nothing but ordinary faults comes from a collector while it collects. -/
structure Collector.Ordinary {T : Type} (c : Collector T) : Prop where
  tracking {f : Fault} : c.trackingFault = some f → f.isOrdinary = true
  result {n : ℕ} {at_ : DateTime} {f : Fault} :
    (c.collections n).result at_ = .error f → f.isOrdinary = true

namespace Collector

variable {T : Type} [Seconds T] {c : Collector T}

lemma ordinary_collect (h : c.Ordinary) : c.collect.Ordinary := by
  refine Ordinary.bind (.change _) fun _ => Ordinary.bind .world fun w => ?_
  refine Ordinary.bind (.change _) fun _ => Ordinary.bind (.sleep _) fun _ => ?_
  refine Ordinary.bind (.requestStop _) fun _ => Ordinary.bind .world fun u => ?_
  split
  · exact .pure _
  · rename_i f hf
    exact .throw (h.result hf)

lemma ordinary_failWith {fault : Option Fault}
    (h : ∀ f, fault = some f → f.isOrdinary = true) :
    (failWith fault : Script T Unit).Ordinary := by
  cases fault with
  | none => exact .pure ()
  | some f => exact .throw (h f rfl)

theorem ordinary_trackedCollect (h : c.Ordinary) : c.trackedCollect.Ordinary := by
  unfold trackedCollect
  refine .when (.change _) ?_
  refine Ordinary.bind (ordinary_failWith fun f => h.tracking) fun _ => ?_
  refine Ordinary.bind (.change _) fun _ => Ordinary.bind .world fun w => ?_
  refine (ordinary_collect h).attempt_bind fun r hr => ?_
  split
  · exact Ordinary.bind .world fun w => Ordinary.bind (.change _) fun _ => .pure _
  · rename_i f
    rw [if_pos (hr f rfl)]
    refine Ordinary.bind (.change _) fun _ => .throw ?_
    unfold asCollectionFault
    split
    · exact hr f rfl
    · split
      · rfl
      · exact Fault.isOrdinary_of_silence? ‹_›

end Collector

/-! ## Delivering -/

/-- Nothing but ordinary faults comes back from an endpoint. -/
structure Endpoint.Ordinary {T : Type} (e : Endpoint T) : Prop where
  failure {n : ℕ} {f : Fault} : (e.replies n).failure = some f → f.isOrdinary = true
  body {n : ℕ} {f : Fault} : (e.replies n).body = .error f → f.isOrdinary = true

namespace Endpoint

variable {T : Type} [Seconds T] {e : Endpoint T}

omit [Seconds T] in
lemma isOrdinary_of_raised {f : Fault} (h : e.Ordinary) (hf : Raised e f) :
    f.isOrdinary = true := by
  cases hf with
  | own => rfl
  | tooLong => rfl
  | failure hfailure => exact h.failure hfailure
  | body hbody => exact h.body hbody

theorem ordinary_upload (h : e.Ordinary) (c : Collected) : (e.upload c).Ordinary :=
  fun _ _ hf => isOrdinary_of_raised h (raised_of_run_upload hf)

end Endpoint

/-! ## Cycles -/

namespace Cycle

variable {T : Type} [Seconds T] {c : Collector T} {d : Option (Destination T)}

lemma ordinary_conclude (started : T) (r : CycleResult T) : (conclude started r).Ordinary := by
  refine Ordinary.bind (Ordinary.bind .world fun w => .pure _) fun duration => ?_
  exact Ordinary.bind (.change _) fun _ => Ordinary.bind (.change _) fun _ => .pure _

lemma ordinary_failed (stage : CycleStage) (f : Fault) (extra : Entries)
    (line error : String → String) (started : T) (r : CycleResult T) :
    (failed stage f extra line error started r).Ordinary :=
  Ordinary.bind (.change _) fun _ => Ordinary.bind (.tell f) fun _ => Ordinary.bind (.change _)
    fun _ => Ordinary.bind (.change _) fun _ => ordinary_conclude _ _

lemma ordinary_deliver (hd : ∀ send ∈ d, ∀ p, (send p).Ordinary) (payload : Collected)
    (started : T) (r : CycleResult T) : (deliver d payload started r).Ordinary := by
  unfold deliver
  cases d with
  | none =>
    exact Ordinary.bind (.change _) fun _ => Ordinary.bind (.change _) fun _ =>
      ordinary_conclude _ _
  | some send =>
    refine (hd send rfl payload).attempt_bind fun outcome houtcome => ?_
    split
    · exact Ordinary.bind (.change _) fun _ => Ordinary.bind (ordinary_conclude _ _) fun _ =>
        Ordinary.bind (.change _) fun _ => .pure _
    · rename_i f
      rw [if_pos (houtcome f rfl)]
      split
      · exact ordinary_failed _ _ _ _ _ _ _
      · exact ordinary_failed _ _ _ _ _ _ _

/-- What a cycle passes on may be handled if all of it may be that it meets with. -/
theorem ordinary_run (hc : c.Ordinary) (hd : ∀ send ∈ d, ∀ p, (send p).Ordinary) :
    (run c d).Ordinary := by
  refine Ordinary.bind .world fun w => Ordinary.bind (.change _) fun _ => ?_
  refine Ordinary.bind (.change _) fun _ => ?_
  refine (Collector.ordinary_trackedCollect hc).attempt_bind fun outcome houtcome => ?_
  split
  · exact Ordinary.bind (Ordinary.bind .world fun w => .pure _) fun collection =>
      ordinary_deliver hd _ _ _
  · rename_i f
    split
    · exact ordinary_failed _ _ _ _ _ _ _
    · exact .throw (houtcome _ rfl)

end Cycle

/-! ## Runs on a schedule -/

/-- Some work comes to a result from every world. -/
def Script.Succeeds {T R : Type} [Seconds T] (s : Script T R) : Prop :=
  ∀ w : World T, ∃ r u, s.run w = (.ok r, u)

namespace Script.Succeeds

variable {T R Q : Type} [Seconds T] {s : Script T R} {f : R → Script T Q}

lemma pure (r : R) : Succeeds (Pure.pure r : Script T R) := fun w => ⟨r, w, rfl⟩

lemma world : Succeeds (Script.world : Script T (World T)) := fun w => ⟨w, w, rfl⟩

lemma change (g : World T → World T) : Succeeds (Script.change g) := fun w => ⟨(), g w, rfl⟩

lemma bind (hs : s.Succeeds) (hf : ∀ r, (f r).Succeeds) : (s >>= f).Succeeds := by
  intro w
  obtain ⟨r, u, hr⟩ := hs w
  rw [run_bind_ok hr]
  exact hf r u

lemma attempt (s : Script T R) : s.attempt.Succeeds := fun w => ⟨_, _, run_attempt s w⟩

lemma waitForStop (timeout : T) : Succeeds (Script.waitForStop timeout) := by
  intro w
  rw [run_waitForStop]
  split
  · exact ⟨true, w, rfl⟩
  · split
    · exact ⟨false, w, rfl⟩
    · exact ⟨_, _, rfl⟩

end Script.Succeeds

namespace Schedule

variable {T R : Type} [Seconds T] {cycle : Script T R}

/-- A cycle that fails in ordinary ways is only logged. -/
lemma succeeds_absorb (h : cycle.Ordinary) : (absorb cycle).Succeeds := by
  intro w
  have hordinary := h w
  have hattempt := run_attempt cycle w
  unfold absorb
  rw [run_bind_ok hattempt]
  rcases hrun : cycle.run w with ⟨f | r, u⟩
  · rw [hrun] at hordinary
    dsimp only
    rw [if_pos (hordinary f rfl)]
    exact ⟨(), _, rfl⟩
  · exact ⟨(), u, rfl⟩

lemma succeeds_runCycles (h : cycle.Ordinary) (s : Schedule T) (limit : ℕ) (tick : T) :
    (s.runCycles cycle limit tick).Succeeds := by
  induction limit generalizing tick with
  | zero => exact .pure _
  | succ limit ih =>
    have htick : (awaitTick tick).Succeeds := by
      refine Succeeds.bind .world fun w => ?_
      dsimp only
      split
      · exact .waitForStop _
      · exact .pure _
    refine htick.bind fun stopping => ?_
    split
    · exact .pure _
    · exact Succeeds.bind .world fun w => (succeeds_absorb h).bind fun _ => ih _

/-- However many of its cycles fail, a run ends well. -/
theorem succeeds_course (h : cycle.Ordinary) (s : Schedule T) (limit : ℕ) :
    (s.course cycle limit).Succeeds := by
  refine Succeeds.bind .world fun w => Succeeds.bind (.change _) fun _ => ?_
  refine Succeeds.bind (.waitForStop _) fun stopping => ?_
  split
  · exact Succeeds.bind (.change _) fun _ => .pure _
  · refine Succeeds.bind .world fun u => (succeeds_runCycles h s _ _).bind fun reached => ?_
    split
    · exact Succeeds.bind .world fun v => Succeeds.bind (.change _) fun _ => .pure _
    · exact .pure _

/-- A run that is the only one ends well. -/
lemma run_ok (s : Schedule T) {c : Collector T} {d : Option (Destination T)}
    (h : (Cycle.run c d).Ordinary) (limit : ℕ) {w : World T} (hidle : w.cycles.running = false) :
    ∃ r u, (s.run c d limit).run w = (.ok r, u) := by
  let running : World T := { w with cycles := { w.cycles with running := true } }
  have hrunning : (setRunning true).run w = (.ok (), running) := rfl
  obtain ⟨r, u, hcourse⟩ := s.succeeds_course h limit running
  unfold run
  rw [run_bind_ok (run_world w), hidle, if_neg Bool.false_ne_true, run_bind_ok hrunning,
    run_ensuring (fun _ => rfl), hcourse]
  exact ⟨r, _, rfl⟩

end Schedule
end MetricsAgent
