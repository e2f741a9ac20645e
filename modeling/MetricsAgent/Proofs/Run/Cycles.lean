import MetricsAgent.Proofs.Delivery.Sending
import MetricsAgent.Proofs.Run.Steadfast
import MetricsAgent.Run.Schedule

/-!
# What a cycle does is its own

A collection, a delivery with all its attempts and a whole cycle are steadfast.  A cycle begins with
exactly one call for metrics (`Cycle.steadfast_run`), and so does its run on the schedule, where
ordinary faults are only logged (`Schedule.steadfast_absorb`).
-/

namespace MetricsAgent

open Script

namespace Collector

lemma steadfast_collect (c : Collector ℚ) : Steadfast 1 c.collect := by
  refine Steadfast.bind .record_collect fun _ => .world_bind (fun w => ?_) fun w => rfl
  refine .change_bind (.collector fun s => { s with calls := s.calls + 1 })
    (Steadfast.bind (.sleep _) fun _ => ?_)
  refine Steadfast.bind (.requestStop _) fun _ => .world_bind (fun u => ?_) fun u => rfl
  split
  · exact .pure _
  · exact .throw _

lemma steadfast_changeState (f : CollectorState → CollectorState) :
    Steadfast 0 (changeState f : Script ℚ Unit) :=
  .change (.collector f)

lemma steadfast_trackedCollect (c : Collector ℚ) : Steadfast 1 c.trackedCollect := by
  unfold trackedCollect
  cases hf : c.trackingFault with
  | some f => exact Steadfast.bind .record_collect fun _ => .throw_bind f _
  | none =>
    refine .pure_bind (.change_bind (.collector fun s => { s with totals := s.totals.begun }) ?_)
    refine .world_bind (fun w => ?_) fun w => rfl
    refine Steadfast.bind (steadfast_collect c).attempt fun r => ?_
    split
    · exact .world_bind (fun w => Steadfast.bind (steadfast_changeState _) fun _ => .pure _)
        fun w => rfl
    · split
      · exact Steadfast.bind (steadfast_changeState _) fun _ => .throw _
      · exact .throw _
end Collector

namespace Endpoint

variable (e : Endpoint ℚ)

lemma steadfast_exchange (method url : String) (headers : Headers) (body : Option String) :
    Steadfast 0 (e.exchange method url headers body) := by
  refine .change_bind (.record (by simp)) (.world_bind (fun w => ?_) fun w => rfl)
  refine .change_bind (.requests (· + 1)) (Steadfast.bind (.sleep _) fun _ => ?_)
  refine Steadfast.bind (.requestStop _) fun _ => ?_
  split
  · exact .throw _
  · exact .pure _

lemma steadfast_send (body : String) : Steadfast 0 (e.send body) := by
  refine .change_bind (.openSession _ _) (.recover ?_ fun f => .throw _)
  refine Steadfast.bind (e.steadfast_exchange _ _ _ _) fun reply => ?_
  exact Steadfast.bind (.log _ _ _) fun _ => .of_run_eq (run_checkReply reply)

lemma steadfast_waitBefore (attempt : ℕ) (delay : ℚ) : Steadfast 0 (e.waitBefore attempt delay) :=
  Steadfast.bind (.log _ _ _) fun _ => .change_bind (.record (by simp)) (.sleep _)

lemma steadfast_attempts (body : String) (left attempt : ℕ) (delay : ℚ) (last : Fault) :
    Steadfast 0 (e.attempts body left attempt delay last) := by
  induction left generalizing attempt delay last with
  | zero => exact Steadfast.bind (.logFault _ _ _ _) fun _ => .throw _
  | succ left ih =>
    unfold attempts
    refine .when (e.steadfast_waitBefore _ _) ?_
    refine Steadfast.bind (e.steadfast_send body).attempt fun r => ?_
    split
    · exact .log _ _ _
    · split
      · exact .when (.logFault _ _ _ _) (.throw _)
      · exact Steadfast.bind (.logFault _ _ _ _) fun _ => ih _ _ _

lemma steadfast_upload (c : Collected) : Steadfast 0 (e.upload c) := by
  unfold upload
  split
  · exact .throw _
  · exact Steadfast.bind (.log _ _ _) fun _ => e.steadfast_attempts _ _ _ _ _

end Endpoint

namespace Cycle

lemma steadfast_changeTotals (f : CycleTotals ℚ → CycleTotals ℚ) : Steadfast 0 (changeTotals f) :=
  .change (.cycles f)

lemma steadfast_conclude (started : ℚ) (r : CycleResult ℚ) : Steadfast 0 (conclude started r) := by
  refine Steadfast.bind (.world_bind (fun _ => .pure _) fun _ => rfl) fun duration => ?_
  exact Steadfast.bind (steadfast_changeTotals _) fun _ =>
    .change_bind (.recordCycle _ _ _ _) (.pure _)

lemma steadfast_failed (stage : CycleStage) (f : Fault) (extra : Entries)
    (line error : String → String) (started : ℚ) (r : CycleResult ℚ) :
    Steadfast 0 (failed stage f extra line error started r) :=
  Steadfast.bind (steadfast_changeTotals _) fun _ => Steadfast.bind (.tell f) fun _ =>
    Steadfast.bind (.log _ _ _) fun _ => .change_bind (.capture _ _ _) (steadfast_conclude _ _)

lemma steadfast_deliver {d : Option (Destination ℚ)} (hd : ∀ send ∈ d, ∀ p, Steadfast 0 (send p))
    (payload : Collected) (started : ℚ) (r : CycleResult ℚ) :
    Steadfast 0 (deliver d payload started r) := by
  unfold deliver
  split
  · exact Steadfast.bind (steadfast_changeTotals _) fun _ =>
      Steadfast.bind (.log _ _ _) fun _ => steadfast_conclude _ _
  · rename_i send
    refine Steadfast.bind (hd send rfl payload).attempt fun o => ?_
    split
    · exact Steadfast.bind (steadfast_changeTotals _) fun _ =>
        Steadfast.bind (steadfast_conclude _ _) fun _ =>
          Steadfast.bind (.log _ _ _) fun _ => .pure _
    · split
      · exact steadfast_failed _ _ _ _ _ _ _
      · split
        · exact steadfast_failed _ _ _ _ _ _ _
        · exact .throw _

theorem steadfast_run (c : Collector ℚ) {d : Option (Destination ℚ)}
    (hd : ∀ send ∈ d, ∀ p, Steadfast 0 (send p)) : Steadfast 1 (run c d) := by
  refine .world_bind (fun w => ?_) fun w => rfl
  refine .change_bind (.cycles fun t => t.begun w.clock) (.change_bind (.leaveNote _ _ _ _) ?_)
  refine Steadfast.bind c.steadfast_trackedCollect.attempt fun r => ?_
  split
  · exact Steadfast.bind (.world_bind (fun _ => .pure _) fun _ => rfl) fun _ =>
      steadfast_deliver hd _ _ _
  · split
    · exact steadfast_failed _ _ _ _ _ _ _
    · exact .throw _

end Cycle
namespace Schedule

lemma steadfast_absorb {R : Type} {n : ℕ} {cycle : Script ℚ R} (h : Steadfast n cycle) :
    Steadfast n (absorb cycle) := by
  refine Steadfast.bind h.attempt fun r => ?_
  split
  · exact .pure ()
  · split
    · exact .log _ _ _
    · exact .throw _

/-- The cycles of a collector that delivers to an endpoint, or nowhere. -/
theorem steadfast_cycle (c : Collector ℚ) (e : Option (Endpoint ℚ)) :
    Steadfast 1 (Cycle.run c (e.map Endpoint.upload)) := by
  refine Cycle.steadfast_run c fun send hsend p => ?_
  obtain ⟨e, -, rfl⟩ := Option.mem_map.mp hsend
  exact e.steadfast_upload p

end Schedule
end MetricsAgent
