import Mathlib.Tactic.Common
import MetricsAgent.Run.World

/-!
# What others do

While the agent waits, time passes and others ask it to stop.  Whatever they do touches the clock,
the request to stop, the appointments and the log, and nothing that the agent itself keeps or does:
`World.Quiet` says so of two worlds, and `World.quiet_pass` of a pause, alert or not.
-/

namespace MetricsAgent
namespace World

variable {T : Type} {w u v : World T}

/-! ## Events -/

/-- The events of a kind, the first one first. -/
def happened (kind : Event → Bool) (w : World T) : List Event :=
  (w.trace.reverse.map (·.2)).filter kind

lemma happened_record (kind : Event → Bool) (w : World T) (e : Event) :
    (w.record e).happened kind = w.happened kind ++ [e].filter kind := by
  simp only [happened, record, List.reverse_cons, List.map_append, List.filter_append,
    List.map_cons, List.map_nil]

/-! ## Quiet -/

/-- Nothing lies between two worlds but time, requests to stop and lines of the log. -/
def Quiet (w u : World T) : Prop :=
  ∃ now log stop stopTime agenda tickets, u = { w with
    now := now, log := log, stop := stop, stopTime := stopTime, agenda := agenda,
    tickets := tickets }

namespace Quiet

lemma refl (w : World T) : w.Quiet w :=
  ⟨w.now, w.log, w.stop, w.stopTime, w.agenda, w.tickets, rfl⟩

lemma trans (h : w.Quiet u) (h' : u.Quiet v) : w.Quiet v := by
  obtain ⟨now, log, stop, stopTime, agenda, tickets, rfl⟩ := h
  obtain ⟨now', log', stop', stopTime', agenda', tickets', rfl⟩ := h'
  exact ⟨now', log', stop', stopTime', agenda', tickets', rfl⟩

end Quiet

lemma quiet_logLine (w : World T) (level : LogLevel) (source : LogSource) (message : String) :
    w.Quiet (w.logLine level source message) :=
  ⟨_, _, _, _, _, _, rfl⟩

lemma quiet_logFault (w : World T) (level : LogLevel) (source : LogSource) (message : String)
    (f : Fault) : w.Quiet (w.logFault level source message f) := by
  unfold logFault
  split
  · exact w.quiet_logLine level source _
  · exact .refl w

lemma quiet_requestStop (w : World T) (reason : String) : w.Quiet (w.requestStop reason) := by
  unfold requestStop
  cases w.stop with
  | some _ => exact .refl w
  | none => exact ⟨_, _, _, _, _, _, rfl⟩

variable [Seconds T]

lemma quiet_keepFirst (w : World T) : w.Quiet w.keepFirst := by
  unfold keepFirst
  cases w.agenda with
  | nil => exact .refl w
  | cons a rest =>
    have hmoved : w.Quiet ({ w with agenda := rest }.moveTo a.due) := ⟨_, _, _, _, _, _, rfl⟩
    exact hmoved.trans (quiet_requestStop _ a.reason)

lemma quiet_keepWhile (p : Appointment T → Bool) (w : World T) : w.Quiet (w.keepWhile p) := by
  have hfold (l : List (Appointment T)) (u : World T) :
      u.Quiet (l.foldl (fun w _ => w.keepFirst) u) := by
    induction l generalizing u with
    | nil => exact .refl u
    | cons a l ih => exact (quiet_keepFirst u).trans (ih _)
  exact hfold _ w

lemma quiet_passTo (w : World T) (t : T) : w.Quiet (w.passTo t) :=
  (w.quiet_keepWhile _).trans ⟨_, _, _, _, _, _, rfl⟩

lemma quiet_keepUntilStop (l : List (Appointment T)) (w : World T) :
    w.Quiet (keepUntilStop l w) := by
  induction l generalizing w with
  | nil => exact .refl w
  | cons a l ih =>
    unfold keepUntilStop
    split
    · exact .refl w
    · exact (quiet_keepFirst w).trans (ih _)

/-- Nothing that the agent keeps or does is touched by a pause. -/
lemma quiet_pass (alert : Bool) (w : World T) (due : T) : w.Quiet (w.pass alert due).2 := by
  have hticket : w.Quiet w.takeTicket.2 := ⟨_, _, _, _, _, _, rfl⟩
  unfold pass awaitStop
  dsimp only
  cases alert with
  | false => exact hticket.trans (quiet_passTo _ _)
  | true =>
    rw [if_pos rfl]
    split
    · exact hticket.trans (quiet_keepUntilStop _ _)
    · exact hticket.trans ((quiet_keepUntilStop _ _).trans (quiet_passTo _ _))

end World
end MetricsAgent
