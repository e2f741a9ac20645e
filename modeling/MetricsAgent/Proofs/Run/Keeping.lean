import MetricsAgent.Collection.Collector
import MetricsAgent.Proofs.Delivery.Sending
import MetricsAgent.Reporting

/-!
# Work within a relation

What holds between the world before some work and the world after it is shown part by part: if a
relation passes from one part to the next and allows for whatever others do meanwhile
(`World.Lasting`), then scripts whose parts keep it keep it themselves, whether or not they fail.
So only single actions have to be looked at: those that a collection is made of
(`World.AllowsCollecting`), those that a delivery is made of (`World.AllowsDelivering`) and the
reports of what happens between cycles (`World.AllowsReporting`).
-/

namespace MetricsAgent

open Script

/-- A relation between worlds that passes from work to work, and within which others may act. -/
structure World.Lasting {T : Type} (K : World T → World T → Prop) : Prop where
  trans {w u v : World T} : K w u → K u v → K w v
  of_quiet {w u : World T} : w.Quiet u → K w u

/-- Whatever a script comes to, its work keeps a relation. -/
def Script.Keeps {T R : Type} [Seconds T] (K : World T → World T → Prop) (s : Script T R) : Prop :=
  ∀ w : World T, K w (s.run w).2

variable {T R Q : Type} [Seconds T] {K : World T → World T → Prop} {s : Script T R}
  {f : R → Script T Q} {g : World T → World T}

namespace Script.Keeps

lemma attempt (hs : s.Keeps K) : s.attempt.Keeps K := by
  intro w
  rw [run_attempt]
  exact hs w

lemma change (hg : ∀ w, K w (g w)) : (Script.change g).Keeps K := hg

end Script.Keeps

namespace World.Lasting

variable (hK : Lasting K)

include hK

omit [Seconds T] in
lemma refl (w : World T) : K w w := hK.of_quiet (.refl w)

omit [Seconds T] in
lemma foldl {A : Type} {step : World T → A → World T} (hstep : ∀ w a, K w (step w a)) (l : List A)
    (w : World T) : K w (l.foldl step w) := by
  induction l generalizing w with
  | nil => exact hK.refl w
  | cons a l ih => exact hK.trans (hstep w a) (ih _)

lemma pure (r : R) : (Pure.pure r : Script T R).Keeps K := hK.refl

lemma throw (e : Fault) : (MonadExcept.throw e : Script T R).Keeps K := hK.refl

lemma world : (Script.world : Script T (World T)).Keeps K := hK.refl

/-- What follows some work, if anything does, keeps a relation from the end of that work on. -/
lemma after (s : Script T R) (hf : ∀ r, (f r).Keeps K) (w : World T) :
    K (s.run w).2 ((s >>= f).run w).2 := by
  rcases hr : s.run w with ⟨e | r, u⟩
  · rw [run_bind_error hr]
    exact hK.refl u
  · rw [run_bind_ok hr]
    exact hf r u

lemma bind (hs : s.Keeps K) (hf : ∀ r, (f r).Keeps K) : (s >>= f).Keeps K :=
  fun w => hK.trans (hs w) (hK.after s hf w)

lemma throw_bind (e : Fault) (f : R → Script T Q) :
    ((MonadExcept.throw e : Script T R) >>= f).Keeps K :=
  hK.throw e

/-- What a fault is met with, if there is one, keeps a relation from the end of the work on. -/
lemma after_recover {f : Fault → Script T R} (s : Script T R) (hf : ∀ e, (f e).Keeps K)
    (w : World T) : K (s.run w).2 ((s.recover f).run w).2 := by
  rcases hr : s.run w with ⟨e | r, u⟩
  · rw [run_recover_error hr]
    exact hf e u
  · rw [run_recover_ok hr]
    exact hK.refl u

lemma recover {f : Fault → Script T R} (hs : s.Keeps K) (hf : ∀ e, (f e).Keeps K) :
    (s.recover f).Keeps K :=
  fun w => hK.trans (hs w) (hK.after_recover s hf w)

lemma ensuring {last : Script T Unit} (hs : s.Keeps K) (hlast : last.Keeps K) :
    (s.ensuring last).Keeps K := by
  refine hK.bind hs.attempt fun r => hK.bind hlast fun _ => ?_
  cases r with
  | ok r => exact hK.pure r
  | error e => exact hK.throw e

/-- Something may be done beforehand under a condition. -/
lemma when {c : Prop} [Decidable c] {s : Script T Unit} {f : Unit → Script T Q} (hs : s.Keeps K)
    (hf : (f ()).Keeps K) : (if c then s >>= f else f ()).Keeps K := by
  split
  · exact hK.bind hs fun _ => hf
  · exact hf

lemma log (level : LogLevel) (source : LogSource) (message : String) :
    (Script.log level source message : Script T Unit).Keeps K :=
  fun w => hK.of_quiet (w.quiet_logLine level source message)

lemma logFault (level : LogLevel) (source : LogSource) (message : String) (f : Fault) :
    (Script.logFault level source message f : Script T Unit).Keeps K :=
  fun w => hK.of_quiet (w.quiet_logFault level source message f)

lemma tell (f : Fault) : (Script.tell f : Script T String).Keeps K := by
  unfold Script.tell
  split
  · exact hK.pure _
  · exact hK.throw _

lemma requestStop (reason : Option String) :
    (Script.requestStop reason : Script T Unit).Keeps K := by
  cases reason with
  | none => exact hK.pure ()
  | some r => exact fun w => hK.of_quiet (w.quiet_requestStop r)

lemma sleep (duration : T) : (Script.sleep duration).Keeps K := by
  intro w
  rw [run_sleep]
  split
  · exact hK.of_quiet (w.quiet_pass false _)
  · exact hK.refl w

lemma waitForStop (timeout : T) : (Script.waitForStop timeout).Keeps K := by
  intro w
  rw [run_waitForStop]
  split
  · exact hK.refl w
  · split
    · exact hK.refl w
    · exact hK.of_quiet (w.quiet_pass true _)

end World.Lasting

/-! ## Collecting -/

/-- What a collector does while it collects lies within a relation. -/
structure World.AllowsCollecting {T : Type} (K : World T → World T → Prop) : Prop where
  call (w : World T) : K w (w.record .collect)
  state (w : World T) (s : CollectorState) : K w { w with collector := s }

namespace Collector

variable (hK : World.Lasting K) (h : World.AllowsCollecting K) (c : Collector T)

include hK h

omit hK in
lemma keeps_changeState (f : CollectorState → CollectorState) :
    (changeState f : Script T Unit).Keeps K :=
  fun w => h.state w _

lemma keeps_collect : c.collect.Keeps K := by
  refine hK.bind h.call fun _ => hK.bind hK.world fun w => ?_
  refine hK.bind (keeps_changeState h _) fun _ => hK.bind (hK.sleep _) fun _ => ?_
  refine hK.bind (hK.requestStop _) fun _ => hK.bind hK.world fun u => ?_
  split
  · exact hK.pure _
  · exact hK.throw _

theorem keeps_trackedCollect : c.trackedCollect.Keeps K := by
  unfold trackedCollect
  cases c.trackingFault with
  | some f => exact hK.bind h.call fun _ => hK.throw_bind f _
  | none =>
    refine hK.bind (hK.pure ()) fun _ => hK.bind (keeps_changeState h _) fun _ => ?_
    refine hK.bind hK.world fun w => hK.bind (c.keeps_collect hK h).attempt fun r => ?_
    split
    · exact hK.bind hK.world fun w => hK.bind (keeps_changeState h _) fun _ => hK.pure _
    · split
      · exact hK.bind (keeps_changeState h _) fun _ => hK.throw _
      · exact hK.throw _

end Collector

/-! ## Delivering -/

/-- What an endpoint is sent, and what is done for it, lies within a relation. -/
structure World.AllowsDelivering {T : Type} (K : World T → World T → Prop) : Prop where
  request (w : World T) (method url : String) (headers : Headers) (body : Option String) :
    K w (w.record (.request method url headers body))
  counted (w : World T) (requests : ℕ) : K w { w with requests := requests }
  waited (w : World T) (duration : Number) : K w (w.record (.sleep duration))
  opened (w : World T) (timeout : Number) (headers : Headers) : w.session ≠ .opened →
    K w ({ w with session := .opened, ownsSession := true }.record (.sessionOpen timeout headers))

namespace Endpoint

variable (hK : World.Lasting K) (h : World.AllowsDelivering K) (e : Endpoint T)

include hK h

lemma keeps_openSession : e.openSession.Keeps K := by
  refine .change fun w => ?_
  cases hsession : w.session with
  | opened => exact hK.refl w
  | absent | closed => exact h.opened w _ _ (by simp [hsession])

lemma keeps_exchange (method url : String) (headers : Headers) (body : Option String) :
    (e.exchange method url headers body).Keeps K := by
  refine hK.bind (fun w => h.request w _ _ _ _) fun _ => hK.bind hK.world fun w => ?_
  refine hK.bind (fun w => h.counted w _) fun _ => hK.bind (hK.sleep _) fun _ => ?_
  refine hK.bind (hK.requestStop _) fun _ => ?_
  split
  · exact hK.throw _
  · exact hK.pure _

lemma keeps_send (body : String) : (e.send body).Keeps K := by
  refine hK.bind (e.keeps_openSession hK h) fun _ => hK.recover ?_ fun f => hK.throw _
  refine hK.bind (e.keeps_exchange hK h _ _ _ _) fun reply => hK.bind (hK.log _ _ _) ?_
  intro _ w
  rw [run_checkReply]
  exact hK.refl w

lemma keeps_waitBefore (attempt : ℕ) (delay : T) : (e.waitBefore attempt delay).Keeps K :=
  hK.bind (hK.log _ _ _) fun _ => hK.bind (fun w => h.waited w _) fun _ => hK.sleep _

lemma keeps_attempts (body : String) (left attempt : ℕ) (delay : T) (last : Fault) :
    (e.attempts body left attempt delay last).Keeps K := by
  induction left generalizing attempt delay last with
  | zero => exact hK.bind (hK.logFault _ _ _ _) fun _ => hK.throw _
  | succ left ih =>
    unfold attempts
    refine hK.when (e.keeps_waitBefore hK h _ _) ?_
    refine hK.bind (e.keeps_send hK h body).attempt fun r => ?_
    split
    · exact hK.log _ _ _
    · split
      · exact hK.when (hK.logFault _ _ _ _) (hK.throw _)
      · exact hK.bind (hK.logFault _ _ _ _) fun _ => ih _ _ _

theorem keeps_upload (c : Collected) : (e.upload c).Keeps K := by
  unfold upload
  split
  · exact hK.throw _
  · exact hK.bind (hK.log _ _ _) fun _ => e.keeps_attempts hK h _ _ _ _ _

theorem keeps_probe : e.probe.Keeps K := by
  refine hK.bind (hK.log _ _ _) fun _ => hK.bind (e.keeps_openSession hK h) fun _ => ?_
  refine hK.bind (hK.recover (e.keeps_exchange hK h _ _ _ _) fun f => hK.throw _) ?_
  intro reply
  split
  · exact hK.log _ _ _
  · split
    · exact hK.throw _
    · exact hK.throw _

end Endpoint

/-! ## Reporting -/

/-- What is reported lies within a relation, counts apart. -/
structure World.AllowsReporting {T : Type} (K : World T → World T → Prop) : Prop where
  send {call : String} (hcall : call ≠ "sentry.metrics.count") (positional : List Value)
    (named : List (String × Value)) (w : World T) : K w (Reporting.send call positional named w)

namespace World.Lasting

variable (hK : Lasting K)

include hK

omit [Seconds T] in
/-- What is done only if reporting was started keeps a relation if it does so itself. -/
lemma ifStarted (hg : ∀ w, K w (g w)) (w : World T) : K w (Reporting.ifStarted g w) := by
  unfold Reporting.ifStarted
  split
  · exact hg w
  · exact hK.refl w

variable (h : AllowsReporting K)

include h

omit [Seconds T] in
lemma leaveNote (message category level : String) (data : Value) (w : World T) :
    K w (Reporting.leaveNote message category level data w) :=
  hK.ifStarted (h.send (by decide) _ _) w

omit [Seconds T] in
lemma capture (stage : String) (f : Fault) (extra : Entries) (w : World T) :
    K w (Reporting.capture stage f extra w) := by
  refine hK.ifStarted (fun w => ?_) w
  refine hK.trans (hK.trans (hK.trans (h.send ?_ _ _ w) (h.send ?_ _ _ _)) (h.send ?_ _ _ _))
    (h.send ?_ _ _ _)
  all_goals decide

omit [Seconds T] in
lemma describeAgent (engine : String) (provider : Option String) (interval : Option Number)
    (source : Option String) (w : World T) :
    K w (Reporting.describeAgent engine provider interval source w) := by
  refine hK.ifStarted (fun w => ?_) w
  refine hK.trans ?_ (h.send (by decide) _ _ _)
  split
  · exact hK.trans (h.send (by decide) _ _ w) (h.send (by decide) _ _ _)
  · exact h.send (by decide) _ _ w

end World.Lasting
end MetricsAgent
