import Mathlib.Data.List.DropRight
import MetricsAgent.Proofs.Run.Accounts
import MetricsAgent.Proofs.Run.Ordinary

/-!
# How a cycle ends

Once metrics were called for, a cycle comes to a result by one of a few ways, and on each it is
counted under the stage of the result, its duration is kept and its end is reported
(`Cycle.EndsWith`).  What goes on in between leaves the accounts alone, so the ways differ only in
what they log and capture.

Of a destination it is only taken that it leaves the accounts alone and that it fails with faults
that may be handled and can be told (`Destination.Fair`), as an endpoint does if nothing else comes
back from it (`Endpoint.fair_upload`).  After a fault that cannot be told the cycle is counted and
comes to no result (`Cycle.run_failed_of_silence?`).
-/

namespace MetricsAgent

open Script

/-! ## Counts -/

namespace CycleTotals

variable {T : Type}

/-- How many cycles have ended at a stage. -/
def endedAt (t : CycleTotals T) : CycleStage → ℕ
  | .collect => t.collectFailures
  | .upload => t.uploadFailures
  | .done => t.succeeded

lemma total_ended_lasted (t : CycleTotals T) (stage : CycleStage) (started : DateTime)
    (duration : T) : ((t.ended stage started).lasted duration).total = t.total := by
  cases stage <;> rfl

lemma last_ended_lasted (t : CycleTotals T) (stage : CycleStage) (started : DateTime)
    (duration : T) : ((t.ended stage started).lasted duration).last = t.last := by
  cases stage <;> rfl

lemma lastSuccess_ended_lasted (t : CycleTotals T) (stage : CycleStage) (started : DateTime)
    (duration : T) : ((t.ended stage started).lasted duration).lastSuccess
      = if stage = .done then some started else t.lastSuccess := by
  cases stage <;> rfl

lemma endedAt_ended_lasted (t : CycleTotals T) (stage : CycleStage) (started : DateTime)
    (duration : T) (s : CycleStage) : ((t.ended stage started).lasted duration).endedAt s
      = t.endedAt s + if s = stage then 1 else 0 := by
  cases stage <;> cases s <;> rfl

lemma durations_ended_lasted (t : CycleTotals T) (stage : CycleStage) (started : DateTime)
    (duration : T) : ((t.ended stage started).lasted duration).durations
      = (t.durations ++ [duration]).rtake keptDurations := by
  cases stage <;> simp only [ended, lasted, List.rtake]

end CycleTotals

/-! ## Ends of cycles -/

/-- A cycle ends at a stage: from the world `w` it has come to a result, in the world `u`, that goes
on from what was known of the cycle before. -/
structure Cycle.EndsWith {T : Type} (w : World T) (k : CycleResult T) (s : CycleStage)
    (r : CycleResult T) (u : World T) : Prop where
  stage : r.stage = s
  collection : r.collection = k.collection
  started : r.started = k.started
  error : r.error = none ↔ s = .done
  cycles : u.cycles = (w.cycles.ended s k.started).lasted r.duration
  reporting : u.reporting = w.reporting
  endedCycles : u.endedCycles = w.endedCycles ++ if w.reporting then [r.tags] else []

/-- A destination that leaves the accounts of the cycles alone and fails with faults that may be
handled and can be told. -/
structure Destination.Fair {T : Type} [Seconds T] (send : Destination T) : Prop where
  apart (p : Collected) : (send p).Apart
  ordinary (p : Collected) (w : World T) (f : Fault) : ((send p).run w).1 = .error f →
    f.isOrdinary = true
  tellable (p : Collected) (w : World T) (f : Fault) : ((send p).run w).1 = .error f → f.Tellable

/-- A destination that answers as it is told and does nothing. -/
def Destination.answering {T : Type} (o : Except Fault Unit) : Destination T :=
  fun _ w => .done o w

lemma Destination.Fair.answering {T : Type} [Seconds T] {o : Except Fault Unit}
    (ho : ∀ f, o = .error f → f.isOrdinary = true ∧ f.Tellable) :
    (Destination.answering o : Destination T).Fair where
  apart _ w := .refl w
  ordinary _ _ f hf := (ho f hf).1
  tellable _ _ f hf := (ho f hf).2

/-- Whatever comes back from an endpoint can be told. -/
structure Endpoint.Outspoken {T : Type} (e : Endpoint T) : Prop where
  failure {n : ℕ} {f : Fault} : (e.replies n).failure = some f → f.Tellable
  body {n : ℕ} {f : Fault} : (e.replies n).body = .error f → f.Tellable

/-- What an endpoint fails with by itself has words, so it is fair if what comes back from it is. -/
theorem Endpoint.fair_upload {T : Type} [Seconds T] {e : Endpoint T} (hordinary : e.Ordinary)
    (houtspoken : e.Outspoken) : Destination.Fair e.upload where
  apart p := e.apart_upload p
  ordinary p w f hf := ordinary_upload hordinary p w f hf
  tellable p w f hf := by
    cases raised_of_run_upload hf with
    | own => rfl
    | tooLong => rfl
    | failure hfailure => exact houtspoken.failure hfailure
    | body hbody => exact houtspoken.body hbody

namespace Cycle

variable {T : Type} [Seconds T] {w v u : World T} {k r : CycleResult T} {s : CycleStage}

omit [Seconds T] in
lemma EndsWith.of_sameAccounts (h : w.SameAccounts v) (hends : EndsWith v k s r u) :
    EndsWith w k s r u where
  stage := hends.stage
  collection := hends.collection
  started := hends.started
  error := hends.error
  cycles := by rw [hends.cycles, h.cycles]
  reporting := hends.reporting.trans h.reporting
  endedCycles := by rw [hends.endedCycles, h.endedCycles, h.reporting]

omit [Seconds T] in
lemma EndsWith.andThen_sameAccounts (hends : EndsWith w k s r v) (h : v.SameAccounts u) :
    EndsWith w k s r u where
  stage := hends.stage
  collection := hends.collection
  started := hends.started
  error := hends.error
  cycles := h.cycles.trans hends.cycles
  reporting := h.reporting.trans hends.reporting
  endedCycles := h.endedCycles.trans hends.endedCycles

/-! ### Reports -/

omit [Seconds T] in
lemma sameAccounts_send {call : String} (hcall : call ≠ "sentry.metrics.count")
    (positional : List Value) (named : List (String × Value)) (w : World T) :
    w.SameAccounts (Reporting.send call positional named w) := by
  refine .record ?_ w
  unfold Event.endedCycle?
  split
  · rename_i h
    exact absurd (Event.report.inj h).1 hcall
  · rfl

omit [Seconds T] in
lemma sameAccounts_allowsReporting : World.AllowsReporting (World.SameAccounts (T := T)) :=
  ⟨sameAccounts_send⟩

omit [Seconds T] in
lemma sameAccounts_leaveNote (message category level : String) (data : Value) (w : World T) :
    w.SameAccounts (Reporting.leaveNote message category level data w) :=
  World.SameAccounts.lasting.leaveNote sameAccounts_allowsReporting message category level data w

omit [Seconds T] in
lemma sameAccounts_capture (stage : String) (f : Fault) (extra : Entries) (w : World T) :
    w.SameAccounts (Reporting.capture stage f extra w) :=
  World.SameAccounts.lasting.capture sameAccounts_allowsReporting stage f extra w

omit [Seconds T] in
/-- The report of a cycle is one report of its end. -/
lemma endedCycles_recordCycle (r : CycleResult T) (duration : Number) (collection : Option Number)
    (w : World T) :
    (Reporting.recordCycle r.success r.stage.name duration collection w).endedCycles
      = w.endedCycles ++ if w.reporting then [r.tags] else [] := by
  unfold Reporting.recordCycle Reporting.ifStarted
  cases hw : w.reporting with
  | false => simp
  | true =>
    have hcount (named : List (String × Value)) (w : World T) :
        (Reporting.send "sentry.metrics.count" [.text "cycle.total", .int 1] named w).endedCycles
          = w.endedCycles ++ [named] :=
      w.endedCycles_record _
    have herrors (named : List (String × Value)) (w : World T) :
        (Reporting.send "sentry.metrics.count" [.text "cycle.errors", .int 1] named w).endedCycles
          = w.endedCycles := by
      have hother : (Event.report "sentry.metrics.count" [.text "cycle.errors", .int 1]
          named).endedCycle? = none := by simp [Event.endedCycle?]
      exact (World.SameAccounts.record hother w).endedCycles
    have hmeasure (positional : List Value) (named : List (String × Value)) (w : World T) :
        (Reporting.send "sentry.metrics.distribution" positional named w).endedCycles
          = w.endedCycles :=
      (sameAccounts_send (by decide) positional named w).endedCycles
    cases collection <;> cases hs : r.success <;>
      simp [hcount, herrors, hmeasure, CycleResult.tags, hs]

omit [Seconds T] in
lemma cycles_recordCycle (success : Bool) (stage : String) (duration : Number)
    (collection : Option Number) (w : World T) :
    (Reporting.recordCycle success stage duration collection w).cycles = w.cycles := by
  unfold Reporting.recordCycle Reporting.ifStarted
  cases collection <;> cases success <;> split <;> rfl

omit [Seconds T] in
lemma reporting_recordCycle (success : Bool) (stage : String) (duration : Number)
    (collection : Option Number) (w : World T) :
    (Reporting.recordCycle success stage duration collection w).reporting = w.reporting := by
  unfold Reporting.recordCycle Reporting.ifStarted
  cases collection <;> cases success <;> split <;> rfl

/-! ### From the count to the result -/

/-- A cycle that was counted under the stage of its result ends there. -/
lemma endsWith_conclude
    (h : { w with cycles := w.cycles.ended s k.started }.SameAccounts v) (hstage : r.stage = s)
    (hcollection : r.collection = k.collection) (hstarted : r.started = k.started)
    (herror : r.error = none ↔ s = .done) (started : T) :
    ∃ r' u, (conclude started r).run v = (.ok r', u) ∧ EndsWith w k s r' u := by
  have hcycles : v.cycles = w.cycles.ended s k.started := h.cycles
  obtain ⟨duration, hduration⟩ : ∃ t, t = Seconds.milliseconds (Seconds.sub v.now started) :=
    ⟨_, rfl⟩
  obtain ⟨lasted, hlasted⟩ : ∃ u : World T, u = { v with cycles := v.cycles.lasted duration } :=
    ⟨_, rfl⟩
  have hrun : (conclude started r).run v = (.ok { r with duration := duration },
      Reporting.recordCycle r.success r.stage.name (Seconds.toNumber duration)
        (r.collection.map Seconds.toNumber) lasted) := by
    rw [hlasted, hduration]
    rfl
  have hended : lasted.endedCycles = w.endedCycles := by
    rw [hlasted, World.endedCycles_withCycles]
    exact h.endedCycles
  have hreporting : lasted.reporting = w.reporting := by
    rw [hlasted]
    exact h.reporting
  refine ⟨_, _, hrun, hstage, hcollection, hstarted, herror, ?_, ?_, ?_⟩
  · rw [cycles_recordCycle, hlasted, ← hcycles]
  · rw [reporting_recordCycle, hreporting]
  · rw [endedCycles_recordCycle, hended, hreporting]
    rfl

lemma run_answering (o : Except Fault Unit) (p : Collected) (w : World T) :
    (Destination.answering o p).run w = (o, w) := rfl

/-- A cycle that failed with a fault that can be told is counted and reported under its stage. -/
lemma endsWith_failed {f : Fault} (hf : f.Tellable) (hk : k.stage = s) (hs : s ≠ .done)
    (extra : Entries) (line error : String → String) (started : T) (w : World T) :
    ∃ r u, (failed s f extra line error started k).run w = (.ok r, u) ∧ EndsWith w k s r u := by
  have hlog (u : World T) : u.SameAccounts (u.logLine .error .scheduler (line f.text)) :=
    ⟨rfl, rfl, rfl⟩
  unfold failed
  rw [tell_of_tellable hf]
  exact endsWith_conclude (w := w) (k := k) (r := { k with error := some (error f.text) })
    ((hlog _).trans (sameAccounts_capture s.name f extra _)) hk rfl rfl (by simp [hs]) started

/-- A cycle that failed with a fault that cannot be told is counted, and comes to no result: it ends in
what gets in the way of telling the fault. -/
lemma run_failed_of_silence? {f g : Fault} (hf : f.silence? = some g) (s : CycleStage)
    (extra : Entries) (line error : String → String) (started : T) (w : World T) :
    (failed s f extra line error started k).run w
      = (.error g, { w with cycles := w.cycles.ended s k.started }) := by
  unfold failed
  rw [tell_of_silence? hf]
  rfl

/-- What is asked of a destination is asked once: a delivery goes on as it does with a destination
that gives the same answer and has done its work already. -/
lemma run_deliver_some (send : Destination T) (p : Collected) (started : T) (r : CycleResult T)
    (w : World T) : (deliver (some send) p started r).run w
      = (deliver (some (.answering ((send p).run w).1)) p started r).run ((send p).run w).2 := by
  unfold deliver
  rw [run_bind_ok (run_attempt _ _), run_bind_ok (run_attempt _ _), run_answering]

/-- The stage that a cycle gets to once it has collected a payload. -/
def stageAfter (d : Option (Destination T)) (p : Collected) (w : World T) : CycleStage :=
  match d with
  | none => .upload
  | some send =>
    match ((send p).run w).1 with
    | .ok () => .done
    | .error _ => .upload

/-- A delivery ends a cycle: with a success if the destination has taken the payload, and as a failed
delivery if it has not or if there is none. -/
lemma endsWith_deliver {d : Option (Destination T)} (hd : ∀ send ∈ d, send.Fair) (p : Collected)
    (started : T) (hk : k.stage = .upload) (herror : k.error = none) (w : World T) :
    ∃ r u, (deliver d p started k).run w = (.ok r, u) ∧
      EndsWith w k (stageAfter d p w) r u := by
  have hlogged (level : LogLevel) (message : String) (u : World T) :
      u.SameAccounts (u.logLine level .scheduler message) := ⟨rfl, rfl, rfl⟩
  cases d with
  | none =>
    obtain ⟨r, u, hr, hends⟩ := endsWith_conclude (k := k) (s := .upload)
      (r := { k with error := some "No uploader configured" })
      (hlogged .error "Upload skipped: no uploader configured" _) hk rfl rfl (by simp) started
    exact ⟨r, u, hr, hends⟩
  | some send =>
    rw [run_deliver_some]
    rcases hsend : (send p).run w with ⟨f | _, v⟩
    · have hstage : stageAfter (some send) p w = .upload := by simp [stageAfter, hsend]
      have hapart : w.SameAccounts v := by simpa [hsend] using (hd send rfl).apart p w
      have hordinary := (hd send rfl).ordinary p w f (by rw [hsend])
      have htellable := (hd send rfl).tellable p w f (by rw [hsend])
      rw [hstage]
      by_cases hdelivery : f.isDelivery = true
      · obtain ⟨r, u, hr, hends⟩ := endsWith_failed htellable hk (by simp) []
          ("Upload failed: " ++ ·) id started v
        refine ⟨r, u, ?_, hends.of_sameAccounts hapart⟩
        rw [← hr]
        unfold deliver
        rw [run_bind_ok (run_attempt _ _), run_answering]
        simp only [if_pos hdelivery]
      · obtain ⟨r, u, hr, hends⟩ := endsWith_failed htellable hk (by simp) []
          (fun _ => "Unexpected error during upload") (f.name ++ ": " ++ ·) started v
        refine ⟨r, u, ?_, hends.of_sameAccounts hapart⟩
        rw [← hr]
        unfold deliver
        rw [run_bind_ok (run_attempt _ _), run_answering]
        simp only [if_neg hdelivery, if_pos hordinary]
    · have hstage : stageAfter (some send) p w = .done := by simp [stageAfter, hsend]
      have hapart : w.SameAccounts v := by simpa [hsend] using (hd send rfl).apart p w
      rw [hstage]
      obtain ⟨r, u, hr, hends⟩ := endsWith_conclude (w := v) (k := k) (s := .done)
        (r := { k with stage := .done }) (.refl _) rfl rfl rfl (by simp [herror]) started
      obtain ⟨message, hrun⟩ : ∃ message, (deliver (some (.answering (.ok ()))) p started k).run v
          = (.ok r, u.logLine .info .scheduler message) := by
        unfold deliver
        rw [run_bind_ok (run_attempt _ _), run_answering]
        have hcounted : (count .done k.started).run v
            = (.ok (), { v with cycles := v.cycles.ended .done k.started }) := rfl
        rw [run_bind_ok hcounted, run_bind_ok hr]
        exact ⟨_, rfl⟩
      exact ⟨r, _, hrun, (hends.of_sameAccounts hapart).andThen_sameAccounts (hlogged _ _ u)⟩

end Cycle
end MetricsAgent
