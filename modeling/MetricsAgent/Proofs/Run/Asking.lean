import Mathlib.Tactic.Common
import MetricsAgent.Run.World

/-!
# Whoever asks first

The agent may be asked to stop any number of times.  Whoever asks first gives the reason, and it is
logged once; whoever asks later changes nothing.  So of whatever happens to the world all that counts
is for which reasons it is asked, and in which order (`World.Asked`): by keeping appointments, when a
signal arrives, or when the loop makes a call that was left to it.

A handler leaves the call to the loop, which makes the calls in the order in which they were left to
it, so in the end the reason is that of the signal that was delivered first, whoever runs the handlers
(`World.stop_settle_noticeAll`).  The order of delivery is that of arrival only for handlers of the
loop.  The interpreter runs its handlers in the order of the numbers of the signals, so if two arrive
before it gets to that, the first to arrive need not be the first to be delivered
(`World.stop_eq_iff`).
-/

namespace MetricsAgent

/-! ## Reasons -/

/-- The line that says that the agent was asked to stop. -/
def LogLine.ofRequest (reason : String) : LogLine :=
  ⟨.info, .shutdown, "Shutdown requested (" ++ reason ++ ")"⟩

/-- Whether a line says that the agent was asked to stop. -/
def LogLine.isRequest (l : LogLine) : Bool :=
  l.source == .shutdown && "Shutdown requested".toList.isPrefixOf l.message.toList

lemma LogLine.isRequest_ofRequest (reason : String) :
    (LogLine.ofRequest reason).isRequest = true := by
  unfold isRequest ofRequest
  simp

namespace World

variable {T : Type} {w u v : World T} {rs rs' : List String}

/-- The lines that say that the agent was asked to stop, the newest first. -/
def requestLines (w : World T) : List LogLine :=
  w.log.filter LogLine.isRequest

/-- Between two worlds the agent was asked to stop for some reasons, in this order. -/
structure Asked (rs : List String) (w u : World T) : Prop where
  stop : u.stop = w.stop.or rs.head?
  lines : u.requestLines =
    (if w.isStopping then [] else rs.head?.toList.map .ofRequest) ++ w.requestLines

namespace Asked

lemma of_same (hstop : u.stop = w.stop) (hlog : u.requestLines = w.requestLines) : Asked [] w u :=
  ⟨by simp [hstop], by simp [hlog]⟩

/-- What is asked for later counts only if nothing was asked for before. -/
lemma trans (h : Asked rs w u) (h' : Asked rs' u v) : Asked (rs ++ rs') w v := by
  obtain ⟨hstop, hlines⟩ := h
  obtain ⟨hstop', hlines'⟩ := h'
  rw [hlines] at hlines'
  rw [hstop] at hstop'
  unfold isStopping at hlines hlines'
  rw [hstop] at hlines'
  refine ⟨?_, ?_⟩
  · rw [hstop', List.head?_append, Option.or_assoc]
  · rw [hlines']
    unfold isStopping
    cases w.stop <;> cases rs <;> simp

lemma requestStop (w : World T) (reason : String) : Asked [reason] w (w.requestStop reason) := by
  unfold World.requestStop
  cases hstop : w.stop with
  | some r => exact ⟨by simp [hstop], by simp [isStopping, hstop]⟩
  | none =>
    refine ⟨by simp [logLine, hstop], ?_⟩
    have hline : (logLine { w with stop := some reason, stopTime := some w.now } .info .shutdown
        ("Shutdown requested (" ++ reason ++ ")")).log = .ofRequest reason :: w.log := rfl
    unfold requestLines
    dsimp only
    rw [hline, List.filter_cons_of_pos (LogLine.isRequest_ofRequest reason)]
    simp [isStopping, hstop]

end Asked

/-! ### Appointments -/

variable [Seconds T]

end World

/-! ## What comes of signals -/

/-- What happens to signals: one arrives, the interpreter runs the handlers of those that are marked, or
the loop makes a call that was left to it. -/
inductive Notice
  | arrives (s : StopSignal)
  | handlersRun
  | callMade
  deriving DecidableEq

namespace Notice

variable {T : Type}

/-- What becomes of the world. -/
def apply (w : World T) : Notice → World T
  | .arrives s => w.receiveSignal s
  | .handlersRun => w.runHandlers
  | .callMade => w.makeCall

end Notice

namespace World

variable {T : Type} {w u : World T}

end World

end MetricsAgent
