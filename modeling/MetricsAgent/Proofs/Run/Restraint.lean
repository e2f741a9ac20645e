import MetricsAgent.Proofs.Run.Keeping
import MetricsAgent.Run.Schedule

/-!
# What work may use

The agent has two things to give back: the collector that was created for it, and the session with
the endpoint.  `World.Restrained` says of some work which calls of the collector it makes at most,
and whether it may open a session; it never closes one, and it opens none while one is open.
Collecting calls for metrics and knows nothing of sessions, delivering leaves the collector alone;
so the restraint of whole runs is that of the two together (`Schedule.keeps_run`).
-/

namespace MetricsAgent

open Script World

/-! ## Calls and sessions -/

namespace Event

/-- Whether an event is a call of the collector. -/
def isUse : Event → Bool
  | .configure _ => true
  | .collect => true
  | .testConnection => true
  | .close => true
  | _ => false

/-- Whether a session is opened or closed. -/
def isSession : Event → Bool
  | .sessionOpen .. => true
  | .sessionClose => true
  | _ => false

end Event

namespace World

variable {T : Type} {w u v : World T} {call : Event → Prop} {opens : Prop}

/-- The calls of the collector, the first one first. -/
def uses (w : World T) : List Event := w.happened Event.isUse

/-- The sessions that were opened and closed, the first one first. -/
def sessions (w : World T) : List Event := w.happened Event.isSession

lemma uses_record (w : World T) (e : Event) :
    (w.record e).uses = w.uses ++ [e].filter Event.isUse :=
  happened_record _ w e

lemma sessions_record (w : World T) (e : Event) :
    (w.record e).sessions = w.sessions ++ [e].filter Event.isSession :=
  happened_record _ w e

/-- Either the session is left alone, or one is opened where none is open and stays so. -/
inductive Connects (opens : Prop) (w u : World T) : Prop
  | kept (session : u.session = w.session) (owns : u.ownsSession = w.ownsSession)
      (sessions : u.sessions = w.sessions)
  | opened (timeout : Number) (headers : Headers) (allowed : opens) (none : w.session ≠ .opened)
      (session : u.session = .opened) (owns : u.ownsSession = true)
      (sessions : u.sessions = w.sessions ++ [.sessionOpen timeout headers])

namespace Connects

lemma trans (h : Connects opens w u) (h' : Connects opens u v) : Connects opens w v := by
  cases h with
  | kept session owns sessions =>
    cases h' with
    | kept session' owns' sessions' =>
      exact .kept (session'.trans session) (owns'.trans owns) (sessions'.trans sessions)
    | opened timeout headers allowed none session' owns' sessions' =>
      rw [session] at none
      rw [sessions] at sessions'
      exact .opened timeout headers allowed none session' owns' sessions'
  | opened timeout headers allowed none session owns sessions =>
    cases h' with
    | kept session' owns' sessions' =>
      exact .opened timeout headers allowed none (session'.trans session) (owns'.trans owns)
        (sessions'.trans sessions)
    | opened _ _ _ none' => exact absurd session none'

/-- Work that may not open a session leaves it as it is. -/
lemma of_not_opens (h : Connects False w u) :
    u.session = w.session ∧ u.sessions = w.sessions := by
  cases h with
  | kept session owns sessions => exact ⟨session, sessions⟩
  | opened _ _ allowed => exact allowed.elim

end Connects

/-- Of the collector only the given calls are made, and a session is opened only if that is allowed
and none is open. -/
structure Restrained (call : Event → Prop) (opens : Prop) (w u : World T) : Prop where
  uses : ∃ calls, u.uses = w.uses ++ calls ∧ ∀ e ∈ calls, call e
  connects : Connects opens w u

namespace Restrained

/-- What is no event and leaves the session alone is restrained. -/
lemma of_same (htrace : u.trace = w.trace) (hsession : u.session = w.session)
    (howns : u.ownsSession = w.ownsSession) : Restrained call opens w u := by
  have hsame (kind : Event → Bool) : u.happened kind = w.happened kind := by
    rw [happened, htrace, happened]
  exact ⟨⟨[], by rw [List.append_nil]; exact hsame _, by simp⟩, .kept hsession howns (hsame _)⟩

lemma lasting : Lasting (Restrained (T := T) call opens) where
  trans h h' := by
    obtain ⟨calls, huses, hcalls⟩ := h.uses
    obtain ⟨calls', huses', hcalls'⟩ := h'.uses
    refine ⟨⟨calls ++ calls', ?_, ?_⟩, h.connects.trans h'.connects⟩
    · rw [huses', huses, List.append_assoc]
    · intro e he
      exact (List.mem_append.mp he).elim (hcalls e) (hcalls' e)
  of_quiet h := by
    obtain ⟨_, _, _, _, _, _, rfl⟩ := h
    exact of_same rfl rfl rfl

/-- Work that may make no call leaves the collector alone. -/
lemma uses_eq (h : Restrained (fun _ => False) opens w u) : u.uses = w.uses := by
  obtain ⟨calls, huses, hcalls⟩ := h.uses
  rw [huses, List.eq_nil_iff_forall_not_mem.mpr hcalls, List.append_nil]

/-- An event that is no call of the collector and is no matter of a session. -/
lemma record {e : Event} (huse : e.isUse = false) (hsession : e.isSession = false) (w : World T) :
    Restrained call opens w (w.record e) := by
  refine ⟨⟨[], ?_, by simp⟩, .kept rfl rfl ?_⟩
  · rw [uses_record]
    simp [huse]
  · rw [sessions_record]
    simp [hsession]

/-- A call of the collector that is allowed. -/
lemma record_call {e : Event} (he : call e) (hsession : e.isSession = false) (w : World T) :
    Restrained call opens w (w.record e) := by
  refine ⟨⟨[e].filter Event.isUse, uses_record w e, ?_⟩, .kept rfl rfl ?_⟩
  · intro e' he'
    rw [List.mem_singleton.mp (List.mem_filter.mp he').1]
    exact he
  · rw [sessions_record]
    simp [hsession]

/-- Collecting is a call for metrics. -/
lemma allowsCollecting (h : call .collect) :
    AllowsCollecting (Restrained (T := T) call opens) where
  call := .record_call h rfl
  state _ _ := .of_same rfl rfl rfl

/-- Delivering opens a session where none is open, and leaves the collector alone. -/
lemma allowsDelivering (h : opens) : AllowsDelivering (Restrained (T := T) call opens) where
  request w _ _ _ _ := .record rfl rfl w
  counted _ _ := .of_same rfl rfl rfl
  waited w _ := .record rfl rfl w
  opened w timeout headers hnone := by
    refine ⟨⟨[], ?_, by simp⟩, .opened timeout headers h hnone rfl rfl (sessions_record _ _)⟩
    rw [uses_record]
    rfl

end Restrained
end World

/-! ## Reporting -/

namespace World.Restrained

variable {T : Type} {w u : World T} {call : Event → Prop} {opens : Prop}

lemma send (h : Restrained call opens w u) (name : String) (positional : List Value)
    (named : List (String × Value)) :
    Restrained call opens w (Reporting.send name positional named u) :=
  lasting.trans h (.record rfl rfl u)

lemma allowsReporting : AllowsReporting (Restrained (T := T) call opens) where
  send _ _ _ w := .record rfl rfl w

lemma recordCycle (success : Bool) (stage : String) (duration : Number)
    (collection : Option Number) (w : World T) :
    Restrained call opens w (Reporting.recordCycle success stage duration collection w) := by
  refine lasting.ifStarted (fun w => ?_) w
  have hboth := ((lasting.refl (K := Restrained call opens) w).send "sentry.metrics.count"
    [.text "cycle.total", .int 1] [("attributes", .record
      [("success", .text (if success then "true" else "false")), ("stage", .text stage)])])
  cases collection <;> cases success
  · exact (hboth.send _ _ _).send _ _ _
  · exact hboth.send _ _ _
  · exact ((hboth.send _ _ _).send _ _ _).send _ _ _
  · exact (hboth.send _ _ _).send _ _ _

end World.Restrained

/-! ## Other calls of the collector -/

namespace Collector

open Restrained

variable {T : Type} [Seconds T] {K : World T → World T → Prop} {call : Event → Prop} {opens : Prop}
  (c : Collector T)

lemma keeps_failWith (hK : Lasting K) (f : Option Fault) :
    (failWith f : Script T Unit).Keeps K := by
  cases f with
  | some f => exact hK.throw f
  | none => exact hK.pure ()

theorem keeps_testConnection (h : call .testConnection) :
    c.testConnection.Keeps (Restrained call opens) :=
  lasting.bind (fun w => .record_call h rfl w) fun _ => keeps_failWith lasting _

theorem keeps_configure (hK : Lasting K) {config : Value}
    (hcall : ∀ w, K w (w.record (.configure config)))
    (hstate : ∀ (w : World T) (s : CollectorState), K w { w with collector := s }) :
    (c.configure config).Keeps K :=
  hK.bind hcall fun _ => hK.bind (fun w => hstate w _) fun _ => keeps_failWith hK _

end Collector

/-! ## Cycles -/

namespace Cycle

open Restrained

variable {T : Type} [Seconds T] {call : Event → Prop} {opens : Prop} (c : Collector T)

lemma keeps_changeTotals (f : CycleTotals T → CycleTotals T) :
    (changeTotals f : Script T Unit).Keeps (Restrained call opens) :=
  fun _ => .of_same rfl rfl rfl

lemma keeps_conclude (started : T) (r : CycleResult T) :
    (conclude started r).Keeps (Restrained call opens) := by
  refine lasting.bind (lasting.bind lasting.world fun w => lasting.pure _) fun duration => ?_
  refine lasting.bind (keeps_changeTotals _) fun _ => ?_
  exact lasting.bind (.change (.recordCycle _ _ _ _)) fun _ => lasting.pure _

lemma keeps_failed (stage : CycleStage) (f : Fault) (extra : Entries)
    (line error : String → String) (started : T) (r : CycleResult T) :
    (failed stage f extra line error started r).Keeps (Restrained call opens) := by
  refine lasting.bind (keeps_changeTotals _) fun _ => lasting.bind (lasting.tell f) fun _ => ?_
  refine lasting.bind (lasting.log _ _ _) fun _ => ?_
  exact lasting.bind (.change (lasting.capture allowsReporting _ _ _)) fun _ => keeps_conclude _ _

lemma keeps_deliver {d : Option (Destination T)}
    (hd : ∀ send ∈ d, ∀ p, (send p).Keeps (Restrained call opens)) (payload : Collected)
    (started : T) (r : CycleResult T) :
    (deliver d payload started r).Keeps (Restrained call opens) := by
  unfold deliver
  cases d with
  | none =>
    refine lasting.bind (keeps_changeTotals _) fun _ => lasting.bind (lasting.log _ _ _) fun _ => ?_
    exact keeps_conclude _ _
  | some send =>
    refine lasting.bind (hd send rfl payload).attempt fun outcome => ?_
    split
    · refine lasting.bind (keeps_changeTotals _) fun _ => lasting.bind (keeps_conclude _ _) ?_
      exact fun r => lasting.bind (lasting.log _ _ _) fun _ => lasting.pure _
    · split
      · exact keeps_failed _ _ _ _ _ _ _
      · split
        · exact keeps_failed _ _ _ _ _ _ _
        · exact lasting.throw _

/-- A cycle does with the collector and the session what its parts do. -/
theorem keeps_run (hc : call .collect) {d : Option (Destination T)}
    (hd : ∀ send ∈ d, ∀ p, (send p).Keeps (Restrained call opens)) :
    (run c d).Keeps (Restrained call opens) := by
  refine lasting.bind lasting.world fun w => lasting.bind (keeps_changeTotals _) fun _ => ?_
  refine lasting.bind (.change (lasting.leaveNote allowsReporting _ _ _ _)) fun _ => ?_
  refine lasting.bind (c.keeps_trackedCollect lasting (allowsCollecting hc)).attempt ?_
  intro outcome
  split
  · refine lasting.bind (lasting.bind lasting.world fun w => lasting.pure _) fun collection => ?_
    exact keeps_deliver hd _ _ _
  · split
    · exact keeps_failed _ _ _ _ _ _ _
    · exact lasting.throw _

theorem keeps_runOnce (hc : call .collect) (out : Stream) :
    (runOnce c out).Keeps (Restrained call opens) := by
  refine lasting.bind (lasting.log _ _ _) fun _ => ?_
  refine lasting.bind (c.keeps_trackedCollect lasting (allowsCollecting hc)).attempt ?_
  intro outcome
  split
  · split
    · exact lasting.bind (lasting.logFault _ _ _ _) fun _ => lasting.bind (lasting.tell _) fun _ =>
        lasting.throw _
    · exact lasting.throw _
  · split
    · exact fun _ => .of_same rfl rfl rfl
    · exact lasting.throw _

end Cycle

/-! ## Runs -/

namespace Schedule

open Restrained

variable {T : Type} [Seconds T] {K : World T → World T → Prop} {R : Type} {cycle : Script T R}

lemma keeps_awaitTick (hK : Lasting K) (tick : T) : (awaitTick tick).Keeps K := by
  refine hK.bind hK.world fun w => ?_
  dsimp only
  split
  · exact hK.waitForStop _
  · exact hK.pure _

lemma keeps_absorb (hK : Lasting K) (hcycle : cycle.Keeps K) : (absorb cycle).Keeps K := by
  refine hK.bind hcycle.attempt fun outcome => ?_
  split
  · exact hK.pure ()
  · split
    · exact hK.log _ _ _
    · exact hK.throw _

/-- Cycles one after the other keep what one of them keeps. -/
lemma keeps_runCycles (hK : Lasting K) (s : Schedule T) (hcycle : cycle.Keeps K) (limit : ℕ)
    (tick : T) : (s.runCycles cycle limit tick).Keeps K := by
  induction limit generalizing tick with
  | zero => exact hK.pure _
  | succ limit ih =>
    refine hK.bind (keeps_awaitTick hK tick) fun stopping => ?_
    split
    · exact hK.pure _
    · exact hK.bind hK.world fun w => hK.bind (keeps_absorb hK hcycle) fun _ => ih _

lemma keeps_course (hK : Lasting K) (s : Schedule T) (hcycle : cycle.Keeps K) (limit : ℕ) :
    (s.course cycle limit).Keeps K := by
  refine hK.bind hK.world fun w => hK.bind (hK.log _ _ _) fun _ => ?_
  refine hK.bind (hK.waitForStop _) fun stopping => ?_
  split
  · exact hK.bind (hK.log _ _ _) fun _ => hK.pure _
  · refine hK.bind hK.world fun u => hK.bind (s.keeps_runCycles hK hcycle _ _) fun reached => ?_
    split
    · exact hK.bind hK.world fun v => hK.bind (hK.log _ _ _) fun _ => hK.pure _
    · exact hK.pure _

/-- A run calls for metrics, opens a session if delivering does, and nothing more. -/
theorem keeps_run (s : Schedule T) (c : Collector T) {call : Event → Prop} {opens : Prop}
    (hc : call .collect) {d : Option (Destination T)}
    (hd : ∀ send ∈ d, ∀ p, (send p).Keeps (Restrained call opens)) (limit : ℕ) :
    (s.run c d limit).Keeps (Restrained call opens) := by
  have hrunning (running : Bool) :
      (setRunning running : Script T Unit).Keeps (Restrained call opens) :=
    Cycle.keeps_changeTotals _
  have hcourse := s.keeps_course lasting (Cycle.keeps_run c hc hd) limit
  refine lasting.bind lasting.world fun w => ?_
  split
  · exact lasting.throw_bind _ _
  · exact lasting.bind (hrunning true) fun _ => lasting.ensuring hcourse (hrunning false)

end Schedule
end MetricsAgent
