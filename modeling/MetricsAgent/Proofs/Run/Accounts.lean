import MetricsAgent.Delivery.Uploader
import MetricsAgent.Proofs.Run.Keeping
import MetricsAgent.Proofs.Run.Telling
import MetricsAgent.Run.Cycle

/-!
# Accounts of cycles

What is kept of the cycles: their totals, and the reports that one of them has ended.  Collecting and
delivering are somebody else's work and leave the accounts alone (`Script.Apart`); only the cycle
itself writes in them.
-/

namespace MetricsAgent

open Script

/-! ## Reports of cycles -/

/-- How a cycle has ended, if an event reports the end of one. -/
def Event.endedCycle? : Event → Option (List (String × Value))
  | .report "sentry.metrics.count" [.text "cycle.total", .int 1] named => some named
  | _ => none

/-- How a cycle is reported to have ended. -/
def CycleResult.tags {T : Type} (r : CycleResult T) : List (String × Value) :=
  [("attributes", .record
    [("success", .text (if r.success then "true" else "false")), ("stage", .text r.stage.name)])]

namespace World

variable {T : Type} {w u v : World T}

/-- The cycles that were reported to have ended, the first one first. -/
def endedCycles (w : World T) : List (List (String × Value)) :=
  w.trace.reverse.filterMap fun e => e.2.endedCycle?

lemma endedCycles_record (w : World T) (e : Event) :
    (w.record e).endedCycles = w.endedCycles ++ e.endedCycle?.toList := by
  have hone : [(w.now, e)].filterMap (fun e => e.2.endedCycle?) = e.endedCycle?.toList := by
    cases h : e.endedCycle? <;> simp [h]
  simp only [endedCycles, record, List.reverse_cons, List.filterMap_append, hone]

lemma endedCycles_withCycles (w : World T) (c : CycleTotals T) :
    { w with cycles := c }.endedCycles = w.endedCycles := rfl

/-- Two worlds with the same accounts. -/
structure SameAccounts (w u : World T) : Prop where
  cycles : u.cycles = w.cycles
  reporting : u.reporting = w.reporting
  endedCycles : u.endedCycles = w.endedCycles

namespace SameAccounts

lemma refl (w : World T) : w.SameAccounts w := ⟨rfl, rfl, rfl⟩

lemma trans (h : w.SameAccounts u) (h' : u.SameAccounts v) : w.SameAccounts v :=
  ⟨h'.cycles.trans h.cycles, h'.reporting.trans h.reporting, h'.endedCycles.trans h.endedCycles⟩

lemma record {e : Event} (he : e.endedCycle? = none) (w : World T) :
    w.SameAccounts (w.record e) :=
  ⟨rfl, rfl, by rw [endedCycles_record, he, Option.toList_none, List.append_nil]⟩

lemma of_quiet (h : w.Quiet u) : w.SameAccounts u := by
  obtain ⟨_, _, _, _, _, _, rfl⟩ := h
  exact ⟨rfl, rfl, rfl⟩

lemma lasting : Lasting (SameAccounts (T := T)) := ⟨trans, of_quiet⟩

end SameAccounts
end World

/-! ## Work that leaves the accounts alone -/

/-- A script leaves the accounts alone, whatever it comes to. -/
def Script.Apart {T R : Type} [Seconds T] (s : Script T R) : Prop :=
  ∀ w : World T, w.SameAccounts (s.run w).2

namespace World.SameAccounts

variable {T : Type}

lemma allowsCollecting : AllowsCollecting (SameAccounts (T := T)) where
  call w := .record rfl w
  state _ _ := ⟨rfl, rfl, rfl⟩

lemma allowsDelivering : AllowsDelivering (SameAccounts (T := T)) where
  request w _ _ _ _ := .record rfl w
  counted _ _ := ⟨rfl, rfl, rfl⟩
  waited w _ := .record rfl w
  opened w _ _ _ :=
    (⟨rfl, rfl, rfl⟩ : w.SameAccounts { w with session := .opened, ownsSession := true }).trans
      (.record rfl _)

end World.SameAccounts

/-- An endpoint leaves the accounts of the cycles alone. -/
theorem Endpoint.apart_upload {T : Type} [Seconds T] (e : Endpoint T) (c : Collected) :
    (e.upload c).Apart :=
  e.keeps_upload World.SameAccounts.lasting World.SameAccounts.allowsDelivering c

namespace Collector

variable {T : Type} [Seconds T] (c : Collector T)

theorem apart_trackedCollect : c.trackedCollect.Apart :=
  c.keeps_trackedCollect World.SameAccounts.lasting World.SameAccounts.allowsCollecting

/-- A call for metrics comes to what the collector answers at some time to one of its calls. -/
lemma exists_run_collect (w : World T) :
    ∃ n at_ u, c.collect.run w = ((c.collections n).result at_, u) := by
  have hstop (reason : Option String) (u : World T) :
      ∃ v, (requestStop reason).run u = (.ok (), v) := by
    cases reason with
    | none => exact ⟨u, rfl⟩
    | some r => exact ⟨_, rfl⟩
  let called : World T := { w.record .collect with
    collector := { w.collector with calls := w.collector.calls + 1 } }
  obtain ⟨v, hv⟩ := hstop (c.collections w.collector.calls).stopReason
    ((sleep (c.collections w.collector.calls).delay).run called).2
  refine ⟨w.collector.calls, v.clock, v, ?_⟩
  unfold collect
  rw [run_bind_ok (run_record _ w), run_bind_ok (run_world _)]
  refine (run_bind_ok (run_change _ _)).trans ((run_bind_ok (run_sleep _ called)).trans ?_)
  rw [run_sleep] at hv
  refine (run_bind_ok hv).trans ((run_bind_ok (run_world v)).trans ?_)
  have hcalls : (w.record .collect).collector.calls = w.collector.calls := rfl
  rw [hcalls]
  cases (c.collections w.collector.calls).result v.clock <;> rfl

/-- What a tracked call fails with: the fault of the bookkeeping, or what became of the fault of a call
for metrics. -/
lemma exists_of_run_trackedCollect {w : World T} {f : Fault}
    (h : (c.trackedCollect.run w).1 = .error f) : c.trackingFault = some f ∨
      ∃ n at_ e, (c.collections n).result at_ = .error e ∧
        f = if e.isOrdinary then asCollectionFault e else e := by
  unfold trackedCollect at h
  cases htracking : c.trackingFault with
  | some g =>
    rw [htracking] at h
    have hg : g = f := Except.error.inj h
    exact .inl (congrArg some hg)
  | none =>
    rw [htracking] at h
    obtain ⟨n, at_, u, hcollect⟩ := c.exists_run_collect
      { w with collector := { w.collector with totals := w.collector.totals.begun } }
    have hbegun : (changeTotals CollectionTotals.begun : Script T Unit).run w = (.ok (),
        { w with collector := { w.collector with totals := w.collector.totals.begun } }) := rfl
    have hnone : (failWith none : Script T Unit).run w = (.ok (), w) := rfl
    dsimp only at h
    rw [if_neg (by simp), run_bind_ok hnone, run_bind_ok hbegun, run_bind_ok (run_world _),
      run_bind_ok (run_attempt _ _), hcollect] at h
    refine .inr ⟨n, at_, ?_⟩
    cases hresult : (c.collections n).result at_ with
    | ok p =>
      rw [hresult] at h
      have hok : (Except.ok p : Except Fault Collected) = .error f := h
      cases hok
    | error e =>
      rw [hresult] at h
      refine ⟨e, rfl, ?_⟩
      by_cases he : e.isOrdinary = true
      · simp only [if_pos he] at h
        rw [if_pos he]
        exact (Except.error.inj h).symm
      · simp only [if_neg he] at h
        rw [if_neg he]
        exact (Except.error.inj h).symm

/-- A fault that may be handled but is none of collection comes from the bookkeeping, if those that
come from calls for metrics can be told. -/
theorem trackingFault_of_run (hc : c.Outspoken) {w : World T} {f : Fault}
    (h : (c.trackedCollect.run w).1 = .error f) (hforeign : f.isCollection = false)
    (hordinary : f.isOrdinary = true) : c.trackingFault = some f := by
  rcases c.exists_of_run_trackedCollect h with htracking | ⟨n, at_, e, hresult, rfl⟩
  · exact htracking
  · by_cases he : e.isOrdinary = true
    · rw [if_pos he, isCollection_asCollectionFault (hc.result hresult)] at hforeign
      cases hforeign
    · rw [if_neg he] at hordinary
      exact absurd hordinary he

/-- What a tracked call fails with can be told if all can that it meets with. -/
lemma tellable_of_run (hc : c.Outspoken) {w : World T} {f : Fault}
    (h : (c.trackedCollect.run w).1 = .error f) : f.Tellable := by
  rcases c.exists_of_run_trackedCollect h with htracking | ⟨n, at_, e, hresult, rfl⟩
  · exact hc.tracking htracking
  · split
    · exact tellable_asCollectionFault (hc.result hresult)
    · exact hc.result hresult

end Collector

end MetricsAgent
