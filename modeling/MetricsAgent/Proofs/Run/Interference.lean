import MetricsAgent.Proofs.Run.Endings
import MetricsAgent.Run.Schedule
import MetricsAgent.Run.Tasks

/-!
# Work that others interrupt

While an activity pauses others may act, or it may be abandoned.  `Activity.Runs P Q` says of an
activity that `P` holds whenever it pauses and `Q` once it has ended, as long as others preserve `P`
in its pauses; and that it ends at once, and with `Q` too, if it is abandoned.  A script is
`Script.Steady` if it keeps to it that a run is going on.  Collecting and delivering do, so do whole
cycles and the course of a run; what abandons one of them goes all the way up, since nothing on the
way handles it.  A run itself notes in the end that it is over (`Schedule.runs_run`).
-/

namespace MetricsAgent

open Script

/-! ## Activities -/

namespace Activity

variable {T S R R' : Type} {P Q Q' : S → Prop}

/-- Whenever an activity pauses one thing holds, and another once it has ended, if others preserve the
first in its pauses.  It ends at once if it is abandoned. -/
def Runs (P Q : S → Prop) : Activity T S (Except Fault R) → Prop
  | .done _ s => Q s
  | .pause _ _ s k abandon => P s ∧ (∀ early u, P u → (k early u).Runs P Q) ∧
      ∀ u, P u → ∃ v, abandon u = .done (.error abandoned) v ∧ Q v

/-- What follows an activity has to pass it on that the activity was abandoned. -/
lemma Runs.andThen {a : Activity T S (Except Fault R)} (h : a.Runs P Q)
    {f : Except Fault R → S → Activity T S (Except Fault R')}
    (hf : ∀ r u, Q u → (f r u).Runs P Q')
    (habandoned : ∀ u, Q u → ∃ v, f (.error abandoned) u = .done (.error abandoned) v ∧ Q' v) :
    (a.andThen f).Runs P Q' := by
  induction a with
  | done r s => exact hf r s h
  | pause due alert s k abandon ih =>
    obtain ⟨hs, hk, habandon⟩ := h
    refine ⟨hs, fun early u hu => ih early u (hk early u hu), fun u hu => ?_⟩
    obtain ⟨v, hv, hQ⟩ := habandon u hu
    obtain ⟨x, hx, hQ'⟩ := habandoned v hQ
    refine ⟨x, ?_, hQ'⟩
    show Activity.andThen f (abandon u) = _
    rw [hv]
    exact hx

end Activity

/-! ## Scripts -/

/-- It is noted whether a run is going on. -/
def World.noteRunning {T : Type} (running : Bool) (w : World T) : World T :=
  { w with cycles := { w.cycles with running := running } }

/-- A run is going on. -/
abbrev World.Busy {T : Type} (w : World T) : Prop := w.cycles.running = true

namespace Script

variable {T R Q : Type}

/-- To attempt something is to go on with its outcome. -/
lemma attempt_bind_apply (s : Script T R) (f : Except Fault R → Script T Q) (w : World T) :
    (s.attempt >>= f) w = (s w).andThen f := by
  show ((s w).andThen _).andThen _ = _
  induction s w with
  | done r u => rfl
  | pause due alert u k abandon ih ih' =>
    simp only [Activity.andThen]
    congr 1
    · funext early v
      exact ih early v
    · funext v
      exact ih' v

/-- A run goes on as long as a script does, if others let it. -/
def Steady (s : Script T R) : Prop :=
  ∀ w : World T, w.Busy → (s w).Runs World.Busy World.Busy

/-- A script passes it on that what it follows was abandoned. -/
def Abandons (s : Script T R) : Prop :=
  ∀ w : World T, w.Busy → ∃ v, s w = .done (.error abandoned) v ∧ v.Busy

lemma Abandons.throw : Abandons (MonadExcept.throw abandoned : Script T R) :=
  fun w hw => ⟨w, rfl, hw⟩

lemma Abandons.change_bind {g : World T → World T} (hg : ∀ w, w.Busy → (g w).Busy)
    {f : Unit → Script T R} (hf : (f ()).Abandons) : (Script.change g >>= f).Abandons :=
  fun w hw => hf (g w) (hg w hw)

namespace Steady

variable {s : Script T R}

lemma pure (r : R) : Steady (Pure.pure r : Script T R) := fun _ hw => hw

lemma throw (e : Fault) : Steady (MonadExcept.throw e : Script T R) := fun _ hw => hw

lemma world : Steady (Script.world : Script T (World T)) := fun _ hw => hw

lemma change {g : World T → World T} (hg : ∀ w, w.Busy → (g w).Busy) :
    (Script.change g).Steady := hg

lemma log (level : LogLevel) (source : LogSource) (message : String) :
    Steady (Script.log level source message : Script T Unit) := fun _ hw => hw

lemma logFault (level : LogLevel) (source : LogSource) (message : String) (f : Fault) :
    Steady (Script.logFault level source message f : Script T Unit) := by
  refine change fun w hw => ?_
  unfold World.logFault
  split
  · exact hw
  · exact hw

lemma tell (f : Fault) : Steady (Script.tell f : Script T String) := by
  unfold Script.tell
  split
  · exact pure _
  · exact throw _

lemma record (e : Event) : Steady (Script.record e : Script T Unit) := fun _ hw => hw

lemma bind {f : R → Script T Q} (hs : s.Steady) (hf : ∀ r, (f r).Steady) : (s >>= f).Steady := by
  intro w hw
  refine (hs w hw).andThen (fun r u hu => ?_) fun u hu => ⟨u, rfl, hu⟩
  cases r with
  | ok r => exact hf r u hu
  | error e => exact hu

/-- What is done with an outcome passes it on that there is none. -/
lemma attempt_bind {f : Except Fault R → Script T Q} (hs : s.Steady) (hf : ∀ r, (f r).Steady)
    (habandoned : (f (.error abandoned)).Abandons) : (s.attempt >>= f).Steady := by
  intro w hw
  rw [attempt_bind_apply]
  exact (hs w hw).andThen (fun r u hu => hf r u hu) habandoned

lemma recover {f : Fault → Script T R} (hs : s.Steady) (hf : ∀ e, (f e).Steady)
    (habandoned : (f abandoned).Abandons) : (s.recover f).Steady := by
  intro w hw
  refine (hs w hw).andThen (fun r u hu => ?_) habandoned
  cases r with
  | ok r => exact hu
  | error e => exact hf e u hu

/-- Something may be done beforehand under a condition. -/
lemma when {c : Prop} [Decidable c] {s : Script T Unit} {f : Unit → Script T Q} (hs : s.Steady)
    (hf : (f ()).Steady) : (if c then s >>= f else f ()).Steady := by
  split
  · exact hs.bind fun _ => hf
  · exact hf

lemma requestStop (reason : Option String) :
    Steady (Script.requestStop reason : Script T Unit) := by
  cases reason with
  | none => exact pure ()
  | some r =>
    refine change fun w hw => ?_
    rw [World.Busy, (World.SameAccounts.of_quiet (w.quiet_requestStop r)).cycles]
    exact hw

variable [Seconds T]

lemma sleep (duration : T) : (Script.sleep duration).Steady := by
  intro w hw
  unfold Script.sleep
  split
  · exact ⟨hw, fun _ _ hu => hu, fun u hu => ⟨u, rfl, hu⟩⟩
  · exact hw

lemma waitForStop (timeout : T) : (Script.waitForStop timeout).Steady := by
  intro w hw
  unfold Script.waitForStop
  split
  · exact hw
  · split
    · exact hw
    · exact ⟨hw, fun _ _ hu => hu, fun u hu => ⟨u, rfl, hu⟩⟩

end Steady
end Script

/-! ## Collecting -/

namespace Collector

variable {T : Type} (c : Collector T)

lemma steady_failWith (f : Option Fault) : (failWith f : Script T Unit).Steady := by
  cases f with
  | none => exact .pure ()
  | some f => exact .throw f

lemma steady_changeState (f : CollectorState → CollectorState) :
    (changeState f : Script T Unit).Steady := .change fun _ hw => hw

variable [Seconds T]

lemma steady_collect : c.collect.Steady := by
  refine Steady.bind (.record _) fun _ => Steady.bind .world fun w => ?_
  refine Steady.bind (.change fun _ hw => hw) fun _ => Steady.bind (.sleep _) fun _ => ?_
  refine Steady.bind (.requestStop _) fun _ => Steady.bind .world fun u => ?_
  split
  · exact .pure _
  · exact .throw _

theorem steady_trackedCollect : c.trackedCollect.Steady := by
  unfold trackedCollect
  refine .when (.record _) (Steady.bind (steady_failWith _) fun _ => ?_)
  refine Steady.bind (steady_changeState _) fun _ => Steady.bind .world fun w => ?_
  refine .attempt_bind c.steady_collect (fun r => ?_) ?_
  · split
    · exact Steady.bind .world fun w => Steady.bind (steady_changeState _) fun _ => .pure _
    · split
      · exact Steady.bind (steady_changeState _) fun _ => .throw _
      · exact .throw _
  · exact .throw

end Collector

/-! ## Delivering -/

namespace Endpoint

variable {T : Type} (e : Endpoint T)

lemma steady_openSession : e.openSession.Steady := by
  refine .change fun w hw => ?_
  cases hsession : w.session <;> exact hw

variable [Seconds T]

lemma steady_exchange (method url : String) (headers : Headers) (body : Option String) :
    (e.exchange method url headers body).Steady := by
  refine Steady.bind (.record _) fun _ => Steady.bind .world fun w => ?_
  refine Steady.bind (.change fun _ hw => hw) fun _ => Steady.bind (.sleep _) fun _ => ?_
  refine Steady.bind (.requestStop _) fun _ => ?_
  split
  · exact .throw _
  · exact .pure _

omit [Seconds T] in
/-- A reply is looked at without a pause. -/
lemma checkReply_apply (r : Reply T) (w : World T) : checkReply r w = .done r.verdict w := by
  unfold checkReply Reply.verdict readBody
  dsimp only
  by_cases haccepts : Reply.accepts r.status = true
  · rw [if_pos haccepts, if_pos haccepts]
    rfl
  rw [if_neg haccepts, if_neg haccepts]
  by_cases hrejects : Reply.rejects r.status = true
  · rw [if_pos hrejects, if_pos hrejects]
    cases r.body <;> rfl
  rw [if_neg hrejects, if_neg hrejects]
  by_cases hlimited : r.status = 429
  · rw [if_pos hlimited, if_pos hlimited]
    cases RetryAfter.delay? (r.header? "Retry-After") <;> rfl
  · rw [if_neg hlimited, if_neg hlimited]
    cases r.body <;> rfl

omit [Seconds T] in
lemma steady_checkReply (r : Reply T) : (checkReply r).Steady := by
  intro w hw
  rw [checkReply_apply]
  exact hw

lemma steady_send (body : String) : (e.send body).Steady := by
  refine e.steady_openSession.bind fun _ => .recover ?_ (fun f => .throw _) .throw
  refine (e.steady_exchange _ _ _ _).bind fun reply => Steady.bind (.log _ _ _) fun _ => ?_
  exact steady_checkReply reply

lemma steady_waitBefore (attempt : ℕ) (delay : T) : (e.waitBefore attempt delay).Steady :=
  Steady.bind (.log _ _ _) fun _ => Steady.bind (.record _) fun _ => .sleep _

lemma steady_attempts (body : String) (left attempt : ℕ) (delay : T) (last : Fault) :
    (e.attempts body left attempt delay last).Steady := by
  induction left generalizing attempt delay last with
  | zero => exact Steady.bind (.logFault _ _ _ _) fun _ => .throw _
  | succ left ih =>
    unfold attempts
    refine .when (e.steady_waitBefore _ _) (.attempt_bind (e.steady_send body) (fun r => ?_) .throw)
    split
    · exact .log _ _ _
    · split
      · exact .when (.logFault _ _ _ _) (.throw _)
      · exact Steady.bind (.logFault _ _ _ _) fun _ => ih _ _ _

theorem steady_upload (c : Collected) : (e.upload c).Steady := by
  unfold upload
  split
  · exact .throw _
  · exact Steady.bind (.log _ _ _) fun _ => e.steady_attempts _ _ _ _ _

end Endpoint

/-! ## Cycles -/

namespace Cycle

variable {T : Type}

lemma steady_begun (started : DateTime) :
    (changeTotals (·.begun started) : Script T Unit).Steady := .change fun _ hw => hw

lemma steady_count (stage : CycleStage) (started : DateTime) :
    (count stage started : Script T Unit).Steady :=
  .change fun _ hw => by cases stage <;> exact hw

lemma steady_capture (stage : String) (f : Fault) (extra : Entries) :
    Steady (change (Reporting.capture stage f extra) : Script T Unit) :=
  .change fun w hw => by rw [World.Busy, (sameAccounts_capture stage f extra w).cycles]; exact hw

lemma steady_leaveNote (message category level : String) (data : Value) :
    Steady (change (Reporting.leaveNote message category level data) : Script T Unit) :=
  .change fun w hw => by
    rw [World.Busy, (sameAccounts_leaveNote message category level data w).cycles]; exact hw

variable [Seconds T] (c : Collector T) {d : Option (Destination T)}

lemma steady_conclude (started : T) (r : CycleResult T) : (conclude started r).Steady := by
  refine Steady.bind (Steady.bind .world fun w => .pure _) fun duration => ?_
  have hlasted (w : World T) (hw : w.Busy) :
      World.Busy { w with cycles := w.cycles.lasted duration } := by
    simp only [World.Busy, CycleTotals.lasted]
    exact hw
  refine Steady.bind (.change hlasted) fun _ => Steady.bind (.change fun w hw => ?_) fun _ => .pure _
  rw [World.Busy, cycles_recordCycle]
  exact hw

lemma steady_failed (stage : CycleStage) (f : Fault) (extra : Entries)
    (line error : String → String) (started : T) (r : CycleResult T) :
    (failed stage f extra line error started r).Steady :=
  (steady_count _ _).bind fun _ => Steady.bind (.tell f) fun _ => Steady.bind (.log _ _ _) fun _ =>
    (steady_capture _ _ _).bind fun _ => steady_conclude _ _

lemma steady_deliver (hd : ∀ send ∈ d, ∀ p, (send p).Steady) (payload : Collected) (started : T)
    (r : CycleResult T) : (deliver d payload started r).Steady := by
  unfold deliver
  cases d with
  | none =>
    exact (steady_count _ _).bind fun _ => Steady.bind (.log _ _ _) fun _ => steady_conclude _ _
  | some send =>
    refine .attempt_bind (hd send rfl payload) (fun outcome => ?_) ?_
    · split
      · exact (steady_count _ _).bind fun _ => (steady_conclude _ _).bind fun _ =>
          Steady.bind (.log _ _ _) fun _ => .pure _
      · split
        · exact steady_failed _ _ _ _ _ _ _
        · split
          · exact steady_failed _ _ _ _ _ _ _
          · exact .throw _
    · exact .throw

theorem steady_run (hd : ∀ send ∈ d, ∀ p, (send p).Steady) : (run c d).Steady := by
  refine Steady.bind .world fun w => (steady_begun _).bind fun _ => ?_
  refine (steady_leaveNote _ _ _ _).bind fun _ => ?_
  refine .attempt_bind c.steady_trackedCollect (fun outcome => ?_) ?_
  · split
    · exact Steady.bind (Steady.bind .world fun w => .pure _) fun collection =>
        steady_deliver hd _ _ _
    · split
      · exact steady_failed _ _ _ _ _ _ _
      · exact .throw _
  · exact .throw

end Cycle

/-! ## Runs -/

namespace Schedule

variable {T R : Type} {cycle : Script T R}

lemma steady_absorb (h : cycle.Steady) : (absorb cycle).Steady := by
  refine .attempt_bind h (fun outcome => ?_) ?_
  · split
    · exact .pure ()
    · split
      · exact .log _ _ _
      · exact .throw _
  · exact .throw

variable [Seconds T]

lemma steady_runCycles (h : cycle.Steady) (s : Schedule T) (limit : ℕ) (tick : T) :
    (s.runCycles cycle limit tick).Steady := by
  induction limit generalizing tick with
  | zero => exact .pure _
  | succ limit ih =>
    have htick : (awaitTick tick).Steady := by
      refine Steady.bind .world fun w => ?_
      dsimp only
      split
      · exact .waitForStop _
      · exact .pure _
    refine htick.bind fun stopping => ?_
    split
    · exact .pure _
    · exact Steady.bind .world fun w => (steady_absorb h).bind fun _ => ih _

lemma steady_course (h : cycle.Steady) (s : Schedule T) (limit : ℕ) :
    (s.course cycle limit).Steady := by
  refine Steady.bind .world fun w => Steady.bind (.log _ _ _) fun _ => ?_
  refine Steady.bind (.waitForStop _) fun stopping => ?_
  split
  · exact Steady.bind (.log _ _ _) fun _ => .pure _
  · refine Steady.bind .world fun u => (steady_runCycles h s _ _).bind fun reached => ?_
    split
    · exact Steady.bind .world fun v => Steady.bind (.log _ _ _) fun _ => .pure _
    · exact .pure _

/-- Only one run may be going on. -/
def alreadyRunning : Fault := .scheduling "Scheduler is already running" none

lemma run_of_busy (s : Schedule T) (c : Collector T) (d : Option (Destination T)) (limit : ℕ)
    {w : World T} (h : w.Busy) : s.run c d limit w = .done (.error alreadyRunning) w := by
  show ((if w.cycles.running = true then _ else _ : Script T RunEnd) w) = _
  rw [if_pos h]
  rfl

/-- Where no run is going on, one takes its course; it is noted that it is going on, and in the end
that it is over. -/
lemma run_of_idle (s : Schedule T) (c : Collector T) (d : Option (Destination T)) (limit : ℕ)
    {w : World T} (h : w.cycles.running = false) :
    s.run c d limit w = (s.course (Cycle.run c d) limit (w.noteRunning true)).andThen
      fun r u => .done r (u.noteRunning false) := by
  show ((if w.cycles.running = true then _ else _ : Script T RunEnd) w) = _
  rw [if_neg (by simp [h])]
  show (((s.course (Cycle.run c d) limit).ensuring (setRunning false)) (w.noteRunning true)) = _
  unfold ensuring
  rw [attempt_bind_apply]
  congr 1
  funext r u
  cases r <;> rfl

/-- A run that is accepted is noted while it goes on, and it is noted in the end that it is over,
however it ends. -/
theorem runs_run (s : Schedule T) (c : Collector T) {d : Option (Destination T)}
    (hd : ∀ send ∈ d, ∀ p, (send p).Steady) (limit : ℕ) {w : World T}
    (hidle : w.cycles.running = false) :
    (s.run c d limit w).Runs World.Busy fun u => u.cycles.running = false := by
  rw [run_of_idle s c d limit hidle]
  exact (steady_course (Cycle.steady_run c hd) s limit (w.noteRunning true) rfl).andThen
    (fun _ _ _ => rfl) fun u _ => ⟨u.noteRunning false, rfl, rfl⟩

end Schedule
end MetricsAgent
