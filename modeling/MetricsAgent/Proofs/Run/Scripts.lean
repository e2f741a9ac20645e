import Mathlib.Tactic.Common
import MetricsAgent.Run.Activity

/-!
# Scripts carried out

What `Script.run` makes of each way to put scripts together.  Every statement about what the agent
does goes through these equations; none of them looks at a pause, which only `run_sleep` and
`run_waitForStop` do.
-/

namespace MetricsAgent
namespace Script

variable {T R Q : Type} [Seconds T]

/-! ## Putting scripts together -/

@[simp] lemma run_pure (r : R) (w : World T) : (pure r : Script T R).run w = (.ok r, w) := rfl

@[simp] lemma run_throw (f : Fault) (w : World T) :
    (throw f : Script T R).run w = (.error f, w) := rfl

lemma run_bind (s : Script T R) (f : R → Script T Q) (w : World T) :
    (s >>= f).run w = match s.run w with
      | (.ok r, u) => (f r).run u
      | (.error e, u) => (.error e, u) := by
  show ((s w).andThen _).finish World.pause = _
  rw [Activity.finish_andThen]
  show _ = match (s w).finish World.pause with
    | (.ok r, u) => (f r).run u
    | (.error e, u) => (.error e, u)
  rcases (s w).finish World.pause with ⟨_ | r, u⟩ <;> rfl

/-- A script that comes to a result hands it on. -/
lemma run_bind_ok {s : Script T R} {f : R → Script T Q} {w u : World T} {r : R}
    (h : s.run w = (.ok r, u)) : (s >>= f).run w = (f r).run u := by
  rw [run_bind, h]

/-- A script that fails ends everything after it. -/
lemma run_bind_error {s : Script T R} {f : R → Script T Q} {w u : World T} {e : Fault}
    (h : s.run w = (.error e, u)) : (s >>= f).run w = (.error e, u) := by
  rw [run_bind, h]

@[simp] lemma run_attempt (s : Script T R) (w : World T) :
    s.attempt.run w = (.ok (s.run w).1, (s.run w).2) := by
  show ((s w).andThen _).finish World.pause = _
  rw [Activity.finish_andThen]
  rfl

/-- What becomes of an outcome from which a script recovers. -/
def resume (f : Fault → Script T R) : Except Fault R → Script T R
  | .ok r => succeed r
  | .error e => f e

omit [Seconds T] in
/-- Recovering is looking at the outcome first. -/
lemma recover_eq (s : Script T R) (f : Fault → Script T R) :
    s.recover f = s.attempt >>= resume f := by
  funext w
  show (s w).andThen _ = ((s w).andThen _).andThen _
  induction s w with
  | done r u => cases r <;> rfl
  | pause t alert u k abandon ih ih' =>
    simp only [Activity.andThen]
    congr 1
    · funext early v
      exact ih early v
    · funext v
      exact ih' v

lemma run_recover_ok {s : Script T R} {f : Fault → Script T R} {w u : World T} {r : R}
    (h : s.run w = (.ok r, u)) : (s.recover f).run w = (.ok r, u) := by
  rw [recover_eq, run_bind_ok (run_attempt s w), h]
  rfl

lemma run_recover_error {s : Script T R} {f : Fault → Script T R} {w u : World T} {e : Fault}
    (h : s.run w = (.error e, u)) : (s.recover f).run w = (f e).run u := by
  rw [recover_eq, run_bind_ok (run_attempt s w), h]
  rfl

/-- What is done in the end changes nothing about the outcome. -/
lemma run_ensuring {last : Script T Unit} {g : World T → World T}
    (hlast : ∀ u, last.run u = (.ok (), g u)) (s : Script T R) (w : World T) :
    (s.ensuring last).run w = ((s.run w).1, g (s.run w).2) := by
  unfold ensuring
  rw [run_bind_ok (run_attempt s w), run_bind_ok (hlast _)]
  rcases s.run w with ⟨_ | r, u⟩ <;> rfl

/-! ## Single actions -/

@[simp] lemma run_world (w : World T) : (world : Script T (World T)).run w = (.ok w, w) := rfl

@[simp] lemma run_change (f : World T → World T) (w : World T) :
    (change f).run w = (.ok (), f w) := rfl

@[simp] lemma run_record (e : Event) (w : World T) :
    (record e : Script T Unit).run w = (.ok (), w.record e) := rfl

@[simp] lemma run_log (level : LogLevel) (source : LogSource) (message : String) (w : World T) :
    (log level source message : Script T Unit).run w
      = (.ok (), w.logLine level source message) := rfl

lemma run_sleep (duration : T) (w : World T) :
    (sleep duration : Script T Unit).run w
      = (.ok (), if Seconds.isPositive duration then
          (w.pass false (Seconds.add w.now duration)).2 else w) := by
  unfold sleep run
  split <;> rfl

/-- Waiting for the request to stop: the result is told at once if the request was made or if there
is nothing to wait for, and by the pause otherwise. -/
lemma run_waitForStop (timeout : T) (w : World T) :
    (waitForStop timeout : Script T Bool).run w
      = if w.isStopping then (.ok true, w)
        else if Seconds.le timeout Seconds.zero then (.ok false, w)
        else (.ok (w.pass true (Seconds.add w.now timeout)).1,
          (w.pass true (Seconds.add w.now timeout)).2) := by
  cases hw : w.isStopping
  · cases ht : Seconds.le timeout Seconds.zero <;>
      simp [waitForStop, run, hw, ht, Activity.finish, World.pause]
  · simp [waitForStop, run, hw, Activity.finish]

end Script
end MetricsAgent
