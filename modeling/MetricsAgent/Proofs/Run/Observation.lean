import MetricsAgent.Proofs.Run.Discretion
import MetricsAgent.Proofs.Run.Interference
import MetricsAgent.Proofs.Run.Spacing

/-!
# Reporting only observes

Collecting and delivering are discreet, and so are cycles, which report how they have ended, and
whole runs; the rounds of a run correspond to each other one by one (`Schedule.rounds_unreported`).
However a schedule is used, nothing but the reports tells whether reporting was started
(`Schedule.uses_unreported`).
-/

namespace MetricsAgent

open Script

/-! ## Collecting -/

namespace Collector

variable {T : Type} (c : Collector T)

lemma discreet_failWith (f : Option Fault) : (failWith f : Script T Unit).Discreet := by
  cases f with
  | none => exact .pure ()
  | some f => exact .throw f

lemma discreet_changeState (f : CollectorState → CollectorState) :
    (changeState f : Script T Unit).Discreet := .change fun _ => rfl

variable [Seconds T]

lemma discreet_collect : c.collect.Discreet := by
  refine Discreet.bind (.record rfl) fun _ => .world_bind (fun _ => rfl) fun w => ?_
  refine Discreet.bind (.change fun _ => rfl) fun _ => Discreet.bind (.sleep _) fun _ => ?_
  refine Discreet.bind (.requestStop _) fun _ => .world_bind (fun _ => rfl) fun u => ?_
  split
  · exact .pure _
  · exact .throw _

theorem discreet_trackedCollect : c.trackedCollect.Discreet := by
  unfold trackedCollect
  refine .when (.record rfl) (Discreet.bind (discreet_failWith _) fun _ => ?_)
  refine Discreet.bind (discreet_changeState _) fun _ => .world_bind (fun _ => rfl) fun w => ?_
  refine Discreet.bind c.discreet_collect.attempt fun r => ?_
  split
  · exact .world_bind (fun _ => rfl) fun w =>
      Discreet.bind (discreet_changeState _) fun _ => .pure _
  · split
    · exact Discreet.bind (discreet_changeState _) fun _ => .throw _
    · exact .throw _

end Collector

/-! ## Delivering -/

namespace Endpoint

variable {T : Type} (e : Endpoint T)

lemma discreet_checkReply (r : Reply T) : (checkReply r).Discreet := by
  intro w
  rw [checkReply_apply, checkReply_apply]
  rfl

variable [Seconds T]

lemma discreet_exchange (method url : String) (headers : Headers) (body : Option String) :
    (e.exchange method url headers body).Discreet := by
  refine Discreet.bind (.record rfl) fun _ => .world_bind (fun _ => rfl) fun w => ?_
  refine Discreet.bind (.change fun _ => rfl) fun _ => Discreet.bind (.sleep _) fun _ => ?_
  refine Discreet.bind (.requestStop _) fun _ => ?_
  split
  · exact .throw _
  · exact .pure _

lemma discreet_send (body : String) : (e.send body).Discreet := by
  refine Discreet.bind (.change (.openSession _ _)) fun _ => .recover ?_ fun f => .throw _
  exact (e.discreet_exchange _ _ _ _).bind fun reply => Discreet.bind (.log _ _ _) fun _ =>
    discreet_checkReply reply

lemma discreet_waitBefore (attempt : ℕ) (delay : T) : (e.waitBefore attempt delay).Discreet :=
  Discreet.bind (.log _ _ _) fun _ => Discreet.bind (.record rfl) fun _ => .sleep _

lemma discreet_attempts (body : String) (left attempt : ℕ) (delay : T) (last : Fault) :
    (e.attempts body left attempt delay last).Discreet := by
  induction left generalizing attempt delay last with
  | zero => exact Discreet.bind (.logFault _ _ _ _) fun _ => .throw _
  | succ left ih =>
    unfold attempts
    refine .when (e.discreet_waitBefore _ _)
      (Discreet.bind (e.discreet_send body).attempt fun r => ?_)
    split
    · exact .log _ _ _
    · split
      · exact .when (.logFault _ _ _ _) (.throw _)
      · exact Discreet.bind (.logFault _ _ _ _) fun _ => ih _ _ _

theorem discreet_upload (c : Collected) : (e.upload c).Discreet := by
  unfold upload
  split
  · exact .throw _
  · exact Discreet.bind (.log _ _ _) fun _ => e.discreet_attempts _ _ _ _ _

end Endpoint

/-! ## Cycles -/

namespace Cycle

variable {T : Type}

lemma discreet_count (stage : CycleStage) (started : DateTime) :
    (count stage started : Script T Unit).Discreet := .change fun _ => rfl

variable [Seconds T] (c : Collector T) {d : Option (Destination T)}

lemma discreet_conclude (started : T) (r : CycleResult T) : (conclude started r).Discreet := by
  have hsince : (since started).Discreet := .world_bind (fun _ => rfl) fun w => .pure _
  exact hsince.bind fun duration => Discreet.bind (.change fun _ => rfl) fun _ =>
    Discreet.bind (.change (.recordCycle _ _ _ _)) fun _ => .pure _

lemma discreet_failed (stage : CycleStage) (f : Fault) (extra : Entries)
    (line error : String → String) (started : T) (r : CycleResult T) :
    (failed stage f extra line error started r).Discreet :=
  (discreet_count _ _).bind fun _ => Discreet.bind (.tell f) fun _ => Discreet.bind (.log _ _ _)
    fun _ => Discreet.bind (.change (.capture _ _ _)) fun _ => discreet_conclude _ _

lemma discreet_deliver (hd : ∀ send ∈ d, ∀ p, (send p).Discreet) (payload : Collected) (started : T)
    (r : CycleResult T) : (deliver d payload started r).Discreet := by
  unfold deliver
  cases d with
  | none =>
    exact (discreet_count _ _).bind fun _ => Discreet.bind (.log _ _ _) fun _ =>
      discreet_conclude _ _
  | some send =>
    refine Discreet.bind (hd send rfl payload).attempt fun outcome => ?_
    split
    · exact (discreet_count _ _).bind fun _ => (discreet_conclude _ _).bind fun _ =>
        Discreet.bind (.log _ _ _) fun _ => .pure _
    · split
      · exact discreet_failed _ _ _ _ _ _ _
      · split
        · exact discreet_failed _ _ _ _ _ _ _
        · exact .throw _

theorem discreet_run (hd : ∀ send ∈ d, ∀ p, (send p).Discreet) : (run c d).Discreet := by
  refine .world_bind (fun _ => rfl) fun w => Discreet.bind (.change fun _ => rfl) fun _ => ?_
  refine Discreet.bind (.change (.leaveNote _ _ _ _)) fun _ => ?_
  refine Discreet.bind c.discreet_trackedCollect.attempt fun outcome => ?_
  split
  · exact Discreet.bind (.world_bind (fun _ => rfl) fun w => .pure _) fun collection =>
      discreet_deliver hd _ _ _
  · split
    · exact discreet_failed _ _ _ _ _ _ _
    · exact .throw _

end Cycle

/-! ## Runs -/

namespace Schedule

variable {T R : Type} {cycle : Script T R}

lemma discreet_absorb (h : cycle.Discreet) : (absorb cycle).Discreet := by
  refine Discreet.bind h.attempt fun outcome => ?_
  split
  · exact .pure ()
  · split
    · exact .log _ _ _
    · exact .throw _

variable [Seconds T]

lemma discreet_awaitTick (tick : T) : (awaitTick tick).Discreet := by
  refine .world_bind (fun _ => rfl) fun w => ?_
  dsimp only
  split
  · exact .waitForStop _
  · exact .pure _

lemma discreet_runCycles (h : cycle.Discreet) (s : Schedule T) (limit : ℕ) (tick : T) :
    (s.runCycles cycle limit tick).Discreet := by
  induction limit generalizing tick with
  | zero => exact .pure _
  | succ limit ih =>
    refine (discreet_awaitTick tick).bind fun stopping => ?_
    split
    · exact .pure _
    · exact .world_bind (fun _ => rfl) fun w => (discreet_absorb h).bind fun _ => ih _

lemma discreet_course (h : cycle.Discreet) (s : Schedule T) (limit : ℕ) :
    (s.course cycle limit).Discreet := by
  refine .world_bind (fun _ => rfl) fun w => Discreet.bind (.log _ _ _) fun _ => ?_
  refine Discreet.bind (.waitForStop _) fun stopping => ?_
  split
  · exact Discreet.bind (.log _ _ _) fun _ => .pure _
  · refine .world_bind (fun _ => rfl) fun u => (discreet_runCycles h s _ _).bind fun reached => ?_
    split
    · exact .world_bind (fun _ => rfl) fun v => Discreet.bind (.log _ _ _) fun _ => .pure _
    · exact .pure _

theorem discreet_run (s : Schedule T) (c : Collector T) {d : Option (Destination T)}
    (hd : ∀ send ∈ d, ∀ p, (send p).Discreet) (limit : ℕ) : (s.run c d limit).Discreet := by
  refine .world_bind (fun _ => rfl) fun w => ?_
  split
  · exact .throw _
  · exact Discreet.bind (.change fun _ => rfl) fun _ =>
      (discreet_course (Cycle.discreet_run c hd) s limit).ensuring (.change fun _ => rfl)

end Schedule

/-! ## Uses -/

/-- The round as it would be without reports. -/
def Round.unreported {T : Type} (r : Round T) : Round T :=
  ⟨r.tick, r.called.unreported, r.start.unreported, r.finish.unreported⟩

/-- What a schedule is used for, a cycle by itself or a whole run, and what goes on besides: time
passes, and others ask the agent to stop, at once or at a time to come. -/
inductive Use (T : Type)
  | cycle
  | run (limit : ℕ)
  | pass (t : T)
  | ask (reason : String)
  | appoint (due : T) (reason : String)

/-- What a use comes to; of a run this is how it ends and what each of its cycles comes to. -/
inductive Use.Result (T : Type)
  | cycle (result : Except Fault (CycleResult T))
  | run (ended : Except Fault RunEnd) (cycles : List (Except Fault (CycleResult T)))
  | nothing

namespace Schedule

variable {T R : Type} [Seconds T] {cycle : Script T R}

lemma rounds_unreported (h : cycle.Discreet) (s : Schedule T) (limit : ℕ) (tick : T)
    (w : World T) : s.rounds cycle limit tick w.unreported
      = (s.rounds cycle limit tick w).map Round.unreported := by
  induction limit generalizing tick w with
  | zero => rfl
  | succ limit ih =>
    unfold rounds
    rw [(discreet_awaitTick tick).run]
    rcases (awaitTick tick).run w with ⟨f | stopping, u⟩
    · rfl
    · cases stopping with
      | true => rfl
      | false =>
        dsimp only
        rw [(discreet_absorb h).run]
        rcases (absorb cycle).run u with ⟨f | ⟨⟩, v⟩
        · rfl
        · exact congrArg (_ :: ·) (ih _ v)

variable (s : Schedule T) (c : Collector T) {d : Option (Destination T)}

lemma roundsOf_unreported (hd : ∀ send ∈ d, ∀ p, (send p).Discreet) (limit : ℕ) (w : World T) :
    s.roundsOf c d limit w.unreported = (s.roundsOf c d limit w).map Round.unreported := by
  unfold roundsOf
  rw [show w.unreported.cycles = w.cycles from rfl, show s.delay w.unreported = s.delay w from rfl,
    show s.setOut w.unreported = (s.setOut w).unreported from rfl, (Discreet.waitForStop _).run]
  split
  · rfl
  · rcases (waitForStop (s.delay w)).run (s.setOut w) with ⟨f | stopping, u⟩
    · rfl
    · cases stopping with
      | true => rfl
      | false => exact rounds_unreported (Cycle.discreet_run c hd) s limit u.now u

/-- What a use comes to, and the world after it. -/
def use (s : Schedule T) (c : Collector T) (d : Option (Destination T)) :
    Use T → World T → Use.Result T × World T
  | .cycle, w => (.cycle ((Cycle.run c d).run w).1, ((Cycle.run c d).run w).2)
  | .run limit, w =>
    (.run ((s.run c d limit).run w).1
      ((s.roundsOf c d limit w).map fun r => ((Cycle.run c d).run r.start).1),
      ((s.run c d limit).run w).2)
  | .pass t, w => (.nothing, w.passTo t)
  | .ask reason, w => (.nothing, w.requestStop reason)
  | .appoint due reason, w => (.nothing, w.appoint due reason)

/-- What one use after the other comes to, each with the world after it. -/
def uses (s : Schedule T) (c : Collector T) (d : Option (Destination T)) :
    List (Use T) → World T → List (Use.Result T × World T)
  | [], _ => []
  | u :: us, w => s.use c d u w :: s.uses c d us (s.use c d u w).2

/-- A use comes to the same, and to the same world but for the reports. -/
lemma use_unreported (hd : ∀ send ∈ d, ∀ p, (send p).Discreet) (u : Use T) (w : World T) :
    s.use c d u w.unreported = ((s.use c d u w).1, (s.use c d u w).2.unreported) := by
  cases u with
  | cycle =>
    dsimp only [use]
    rw [(Cycle.discreet_run c hd).run]
  | run limit =>
    dsimp only [use]
    rw [(s.discreet_run c hd limit).run, s.roundsOf_unreported c hd, List.map_map]
    congr 3
    funext r
    show ((Cycle.run c d).run r.start.unreported).1 = _
    rw [(Cycle.discreet_run c hd).run]
  | pass t =>
    dsimp only [use]
    rw [World.passTo_unreported]
  | ask reason => exact congrArg _ (World.Discreet.requestStop reason w)
  | appoint due reason => rfl

lemma uses_map (hd : ∀ send ∈ d, ∀ p, (send p).Discreet) (us : List (Use T)) (w : World T) :
    s.uses c d us w.unreported = (s.uses c d us w).map fun x => (x.1, x.2.unreported) := by
  induction us generalizing w with
  | nil => rfl
  | cons u us ih =>
    unfold uses
    rw [s.use_unreported c hd, List.map_cons, ih]

/-- However a schedule is used, one use after the other, reporting makes no difference but for the
reports: every use comes to the same and leaves the same world.  If reporting was not started,
nothing is reported. -/
theorem uses_unreported (s : Schedule T) (c : Collector T) {d : Option (Destination T)}
    (hd : ∀ send ∈ d, ∀ p, (send p).Discreet) (us : List (Use T)) (w : World T) :
    s.uses c d us w.unreported = (s.uses c d us w).map (fun x => (x.1, x.2.unreported)) ∧
      (w.reporting = false → w.happened Event.isReport = [] →
        ∀ x ∈ s.uses c d us w, x.2.happened Event.isReport = []) := by
  refine ⟨s.uses_map c hd us w, fun hoff hnone x hx => ?_⟩
  rw [← w.unreported_of_none hoff hnone, s.uses_map c hd] at hx
  obtain ⟨y, -, rfl⟩ := List.mem_map.mp hx
  exact y.2.happened_unreported

/-- Where reporting was started, a cycle whose delivery is rejected and a run that is asked to stop in
its second cycle come to the same as where it was not, and there they report nothing. -/
theorem uses_unreported_scripted :
    let s : Schedule ℚ := ⟨10, 0⟩
    let c := Collector.timed [3, 0, 4]
    let e := Endpoint.scripted [.immediate 401 (.ok "revoked")]
    let us : List (Use ℚ) := [.cycle, .appoint 15 "test", .run 5]
    let w : World ℚ := { World.start 0 with reporting := true }
    s.uses c (some e.upload) us w.unreported
        = (s.uses c (some e.upload) us w).map (fun x => (x.1, x.2.unreported)) ∧
      (∀ x ∈ s.uses c (some e.upload) us w.unreported, x.2.happened Event.isReport = []) ∧
      ∀ x ∈ s.uses c (some e.upload) us w, x.2.happened Event.isReport ≠ [] := by
  intro s c e us w
  have hd : ∀ send ∈ some e.upload, ∀ p, (send p).Discreet := by
    rintro send ⟨⟩ p
    exact e.discreet_upload p
  have hreports : ((s.uses c (some e.upload) us w).all fun x =>
      !(x.2.happened Event.isReport).isEmpty) = true := by decide +kernel
  refine ⟨(s.uses_unreported c hd us w).1,
    (s.uses_unreported c hd us w.unreported).2 rfl w.happened_unreported, fun x hx => ?_⟩
  simpa using List.all_eq_true.mp hreports x hx

end Schedule
end MetricsAgent
