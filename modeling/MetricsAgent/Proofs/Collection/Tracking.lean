import MetricsAgent.Proofs.Run.Courses

/-!
# Tracked calls

A tracked call counts the call, calls for metrics, and notes what came of it
(`trackedCollect_apply`).  The totals in which it counted the call may not be there any more by then,
because somebody has begun new ones; then nothing is noted.  Only the call itself has a pause, so a
course of the tracked call is one of the call, and what leaves it is what the call came to, with any
fault of another kind as a fault of collection, or what gets in the way of telling it
(`comes_trackedCollect`).
-/

namespace MetricsAgent

open Script

/-! ## Collecting -/

namespace Collector

variable {T A : Type} [Seconds T] {others : World T → A → World T → Prop}
  {K : World T → List A → World T → Prop} (c : Collector T)

/-- What a collector does once it was called. -/
def answer (c : Collector T) : Script T Collected := do
  let call := c.collections (← world).collector.calls
  changeState fun s => { s with calls := s.calls + 1 }
  sleep call.delay
  Script.requestStop call.stopReason
  match call.result (← world).clock with
  | .ok p => return p
  | .error f => throw f

lemma collect_eq : c.collect = (record .collect >>= fun _ => c.answer) := rfl

/-- A collector that answers counts the call, lets time pass and may ask the agent to stop. -/
lemma along_answer (hK : World.Composes others K)
    (hcounted : ∀ w : World T, K w []
      { w with collector := { w.collector with calls := w.collector.calls + 1 } })
    (hstop : ∀ (w : World T) (reason : String), K w [] (w.requestStop reason)) :
    c.answer.Along others K := by
  refine .bind hK (.world hK) fun w => .bind hK (.change hcounted) fun _ => ?_
  refine .bind hK (.sleep hK _) fun _ => .bind hK (.requestStop hK hstop _) fun _ => ?_
  refine .bind hK (.world hK) fun u => ?_
  split
  · exact .pure hK _
  · exact .throw hK _

/-! ## Tracked calls -/

/-- What leaves a tracked call, given what the call for metrics came to. -/
def tracked : Except Fault Collected → Except Fault Collected
  | .ok p => .ok p
  | .error f => .error (if f.isOrdinary then asCollectionFault f else f)

/-- The world in which a tracked call calls for metrics. -/
def begun (w : World T) : World T :=
  { w with collector := { w.collector with totals := w.collector.totals.begun } }

/-- The totals once a call that they count has come to something. -/
def totalled (r : Except Fault Collected) (ended : DateTime) (t : CollectionTotals) :
    CollectionTotals :=
  match r with
  | .ok _ => t.succeeded ended
  | .error f => if f.isOrdinary then t.failed else t

/-- What a call came to is noted in the totals that were there when it began. -/
def noted (resets : ℕ) (r : Except Fault Collected) (w : World T) : World T :=
  if w.collector.resets = resets then
    { w with collector := { w.collector with totals := totalled r w.clock w.collector.totals } }
  else w

omit [Seconds T] in
lemma changeTotalsSince_bind_apply {R : Type} (resets : ℕ)
    (f : CollectionTotals → CollectionTotals) (g : Unit → Script T R) (w : World T) :
    (changeTotalsSince resets f >>= g) w = g () (if w.collector.resets = resets then
      { w with collector := { w.collector with totals := f w.collector.totals } } else w) := by
  show g () { w with collector := if _ then _ else _ } = _
  split <;> rfl

/-- A tracked call counts the call, calls for metrics, and notes what came of it without a pause. -/
lemma trackedCollect_apply (h : c.trackingFault = none) (w : World T) :
    c.trackedCollect w = (c.collect (begun w)).andThen fun r u =>
      .done (tracked r) (noted w.collector.resets r u) := by
  unfold trackedCollect
  rw [h]
  show (c.collect.attempt >>= _) (begun w) = _
  rw [attempt_bind_apply]
  congr 1
  funext r u
  cases r with
  | ok p =>
    show (changeTotalsSince w.collector.resets (·.succeeded u.clock) >>= fun _ => pure p) u = _
    rw [changeTotalsSince_bind_apply]
    rfl
  | error f =>
    dsimp only
    by_cases hf : f.isOrdinary = true
    · rw [if_pos hf, tracked, if_pos hf, noted, totalled, if_pos hf]
      exact changeTotalsSince_bind_apply _ _ _ u
    · rw [if_neg hf, tracked, if_neg hf, noted, totalled, if_neg hf]
      show Activity.done _ u = _
      rw [ite_id]

/-- A course of a tracked call is one of the call for metrics in it. -/
lemma comes_trackedCollect (h : c.trackingFault = none) {w v : World T}
    {l : List (Interlude A (World T))} {r : Except Fault Collected} :
    (c.trackedCollect w).Comes others l r v ↔ ∃ q u, (c.collect (begun w)).Comes others l q u ∧
      r = tracked q ∧ v = noted w.collector.resets q u := by
  rw [trackedCollect_apply c h, Activity.comes_andThen_iff]
  constructor
  · rintro ⟨l₁, l₂, q, u, rfl, hfirst, hsecond⟩
    obtain ⟨rfl, hr, hv⟩ := Activity.comes_done_iff.mp hsecond
    exact ⟨q, u, by rwa [List.append_nil], hr, hv⟩
  · rintro ⟨q, u, hfirst, rfl, rfl⟩
    exact ⟨l, [], q, u, (List.append_nil l).symm, hfirst, .done _ _⟩

/-- What leaves a tracked call: what the call for metrics returned; a fault of collection as it is;
any other fault that may be handled as a fault of collection that follows from it, or what gets in the
way of telling it; and every other fault as it is. -/
inductive Leaves : Except Fault Collected → Except Fault Collected → Prop
  | returned (p : Collected) : Leaves (.ok p) (.ok p)
  | collection {f : Fault} (h : f.isCollection = true) : Leaves (.error f) (.error f)
  | wrapped {f : Fault} (h : f.isCollection = false) (hordinary : f.isOrdinary = true)
      (htellable : f.Tellable) : Leaves (.error f) (.error (.collection .internal f.named (some f)))
  | silenced {f g : Fault} (h : f.isCollection = false) (hordinary : f.isOrdinary = true)
      (hsilence : f.silence? = some g) : Leaves (.error f) (.error g)
  | passed {f : Fault} (h : f.isOrdinary = false) : Leaves (.error f) (.error f)

lemma leaves_tracked (q : Except Fault Collected) : Leaves q (tracked q) := by
  cases q with
  | ok p => exact .returned p
  | error f =>
    by_cases hordinary : f.isOrdinary = true
    · rw [tracked, if_pos hordinary]
      cases hcollection : f.isCollection with
      | true =>
        rw [asCollectionFault_of_isCollection hcollection]
        exact .collection hcollection
      | false =>
        cases hsilence : f.silence? with
        | none =>
          rw [asCollectionFault_of_tellable hcollection hsilence]
          exact .wrapped hcollection hordinary hsilence
        | some g =>
          rw [asCollectionFault_of_silence? hcollection hsilence]
          exact .silenced hcollection hordinary hsilence
    · rw [tracked, if_neg hordinary]
      exact .passed (Bool.eq_false_iff.mpr hordinary)

end Collector

end MetricsAgent
