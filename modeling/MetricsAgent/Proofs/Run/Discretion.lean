import MetricsAgent.Proofs.Run.Scripts
import MetricsAgent.Proofs.Run.Quiet
import MetricsAgent.Reporting

/-!
# Discretion

What the agent reports goes into the trace and nowhere else.  `World.unreported` is a world as it
would be without reports, and a script is `Script.Discreet` if it does in that world what it does in
the world itself, reports apart: it comes to the same results, pauses in the same way, and leaves
worlds that correspond to each other, whatever others do in its pauses (`Activity.Mirrors`).  World
functions are looked at one by one (`World.Discreet`), and time passes alike in both worlds
(`World.pause_unreported`); from these the ways to put scripts together make discreet scripts.
-/

namespace MetricsAgent

open Script

/-! ## Worlds without reports -/

namespace World

variable {T : Type}

/-- The world as it would be if nothing was reported: without the reports that were made, and with
reporting not started. -/
def unreported (w : World T) : World T :=
  { w with trace := w.trace.filter (!·.2.isReport), reporting := false }

/-- A change to the world does the same whether or not the agent reports. -/
def Discreet (g : World T → World T) : Prop :=
  ∀ w : World T, g w.unreported = (g w).unreported

/-- A change to the world consists of reports. -/
def OnlyReports (g : World T → World T) : Prop :=
  ∀ w : World T, (g w).unreported = w.unreported

lemma happened_unreported (w : World T) : w.unreported.happened Event.isReport = [] := by
  unfold happened unreported
  simp [List.filter_eq_nil_iff]

/-- Where nothing was reported and reporting was not started, there is nothing to leave out. -/
lemma unreported_of_none (w : World T) (hoff : w.reporting = false)
    (hnone : w.happened Event.isReport = []) : w.unreported = w := by
  have htrace : w.trace.filter (!·.2.isReport) = w.trace := by
    rw [List.filter_eq_self]
    intro x hx
    have hother := List.filter_eq_nil_iff.mp hnone x.2
      (List.mem_map_of_mem (List.mem_reverse.mpr hx))
    simpa using hother
  unfold unreported
  rw [htrace, ← hoff]

namespace Discreet

variable {f g : World T → World T}

lemma id : Discreet fun w : World T => w := fun _ => rfl

lemma comp (hf : Discreet f) (hg : Discreet g) : Discreet fun w => f (g w) := fun w =>
  (congrArg f (hg w)).trans (hf (g w))

lemma foldl {A : Type} {f : World T → A → World T} (hf : ∀ a, Discreet (f · a)) (l : List A) :
    Discreet fun w => l.foldl f w := by
  induction l with
  | nil => exact .id
  | cons a l ih => exact ih.comp (hf a)

lemma logLine (level : LogLevel) (source : LogSource) (message : String) :
    Discreet fun w : World T => w.logLine level source message := fun _ => rfl

lemma logFault (level : LogLevel) (source : LogSource) (message : String) (f : Fault) :
    Discreet fun w : World T => w.logFault level source message f := by
  unfold World.logFault
  split
  · exact logLine level source _
  · exact .id

lemma record {e : Event} (he : e.isReport = false) : Discreet fun w : World T => w.record e := by
  intro w
  unfold World.record unreported
  rw [List.filter_cons_of_pos (by simp [he])]

lemma requestStop (reason : String) : Discreet fun w : World T => w.requestStop reason := by
  intro w
  unfold World.requestStop
  dsimp only
  rw [show w.unreported.stop = w.stop from rfl]
  cases w.stop with
  | none => rfl
  | some r => rfl

lemma openSession (timeout : Number) (headers : Headers) :
    Discreet fun w : World T => match w.session with
      | .opened => w
      | _ => { w with session := .opened, ownsSession := true }.record
          (.sessionOpen timeout headers) := by
  intro w
  dsimp only
  rw [show w.unreported.session = w.session from rfl]
  cases w.session with
  | opened => rfl
  | absent | closed =>
    exact record (e := .sessionOpen timeout headers) rfl
      { w with session := .opened, ownsSession := true }

end Discreet

/-! ### Time -/

section Time

variable [Seconds T]

lemma keepFirst_unreported (w : World T) : w.unreported.keepFirst = w.keepFirst.unreported := by
  unfold keepFirst
  rw [show w.unreported.agenda = w.agenda from rfl]
  cases w.agenda with
  | nil => rfl
  | cons a rest => exact Discreet.requestStop a.reason ({ w with agenda := rest }.moveTo a.due)

lemma passTo_unreported (w : World T) (t : T) :
    w.unreported.passTo t = (w.passTo t).unreported := by
  have hkept : w.unreported.keepWhile (fun a => Seconds.le a.due t)
      = (w.keepWhile fun a => Seconds.le a.due t).unreported :=
    Discreet.foldl (f := fun w _ => w.keepFirst) (fun _ => keepFirst_unreported) _ w
  unfold passTo
  rw [hkept]
  rfl

lemma keepUntilStop_unreported (l : List (Appointment T)) (w : World T) :
    keepUntilStop l w.unreported = (keepUntilStop l w).unreported := by
  induction l generalizing w with
  | nil => rfl
  | cons a l ih =>
    unfold keepUntilStop
    rw [show w.unreported.isStopping = w.isStopping from rfl, keepFirst_unreported]
    split
    · rfl
    · exact ih w.keepFirst

lemma awaitStop_unreported (w : World T) (t : T) (ticket : ℕ) : w.unreported.awaitStop t ticket
    = ((w.awaitStop t ticket).1, (w.awaitStop t ticket).2.unreported) := by
  unfold awaitStop
  dsimp only
  rw [show w.unreported.agenda = w.agenda from rfl, keepUntilStop_unreported, passTo_unreported]
  split
  · next hstop => rw [if_pos (show (keepUntilStop _ w).isStopping = true from hstop)]
  · next hstop => rw [if_neg (show ¬ (keepUntilStop _ w).isStopping = true from hstop)]

/-- A pause goes by in the same way, whether or not the agent reports. -/
lemma pause_unreported (alert : Bool) (w : World T) (due : Option T) :
    w.unreported.pause alert due
      = ((w.pause alert due).1, (w.pause alert due).2.unreported) := by
  have hticket : w.unreported.takeTicket = (w.takeTicket.1, w.takeTicket.2.unreported) := rfl
  cases due with
  | none =>
    unfold pause awaitRequest
    dsimp only
    rw [hticket]
    exact congrArg (fun u : World T => (u.isStopping, u))
      (keepUntilStop_unreported w.takeTicket.2.agenda w.takeTicket.2)
  | some t =>
    unfold pause pass
    rw [hticket]
    cases alert with
    | false =>
      dsimp only
      rw [passTo_unreported]
      rfl
    | true => exact awaitStop_unreported w.takeTicket.2 t w.takeTicket.1

end Time

/-! ### Reports -/

namespace OnlyReports

variable {f g : World T → World T}

lemma id : OnlyReports fun w : World T => w := fun _ => rfl

lemma comp (hf : OnlyReports f) (hg : OnlyReports g) : OnlyReports fun w => f (g w) := fun w =>
  (hf (g w)).trans (hg w)

lemma ite {c : Prop} [Decidable c] (hf : OnlyReports f) (hg : OnlyReports g) :
    OnlyReports fun w => if c then f w else g w := fun w => by
  dsimp only
  split
  · exact hf w
  · exact hg w

lemma send (call : String) (positional : List Value) (named : List (String × Value)) :
    OnlyReports (T := T) (Reporting.send call positional named) := by
  intro w
  unfold Reporting.send World.record unreported
  rw [List.filter_cons_of_neg (by simp [Event.isReport])]

end OnlyReports

namespace Discreet

variable {f : World T → World T}

/-- Reports that are made only if reporting was started make no other difference. -/
lemma ifStarted (hf : OnlyReports f) : Discreet (Reporting.ifStarted f) := by
  intro w
  show w.unreported = (Reporting.ifStarted f w).unreported
  unfold Reporting.ifStarted
  split
  · exact (hf w).symm
  · rfl

lemma leaveNote (message category level : String) (data : Value) :
    Discreet (T := T) (Reporting.leaveNote message category level data) :=
  ifStarted (.send _ _ _)

lemma capture (stage : String) (f : Fault) (extra : Entries) :
    Discreet (T := T) (Reporting.capture stage f extra) :=
  ifStarted ((OnlyReports.send _ _ _).comp ((OnlyReports.send _ _ _).comp
    ((OnlyReports.send _ _ _).comp (.send _ _ _))))

lemma recordCycle (success : Bool) (stage : String) (duration : Number)
    (collection : Option Number) :
    Discreet (T := T) (Reporting.recordCycle success stage duration collection) := by
  cases collection with
  | none =>
    exact ifStarted ((OnlyReports.ite .id (.send _ _ _)).comp
      ((OnlyReports.send _ _ _).comp (.send _ _ _)))
  | some c =>
    exact ifStarted ((OnlyReports.ite .id (.send _ _ _)).comp ((OnlyReports.send _ _ _).comp
      ((OnlyReports.send _ _ _).comp (.send _ _ _))))

end Discreet
end World

/-! ## Activities -/

namespace Activity

variable {T S R R' : Type} {e : S → S} {a b : Activity T S R}

/-- An activity does what another one does, in states that are seen through `e`, as long as others act
in the pauses of both alike. -/
def Mirrors (e : S → S) : Activity T S R → Activity T S R → Prop
  | .done r s, b => b = .done r (e s)
  | .pause due alert s k abandon, b => ∃ k' abandon', b = .pause due alert (e s) k' abandon' ∧
      (∀ early u, (k early u).Mirrors e (k' early (e u))) ∧
      ∀ u, (abandon u).Mirrors e (abandon' (e u))

lemma Mirrors.andThen (h : a.Mirrors e b) {f g : R → S → Activity T S R'}
    (hf : ∀ r u, (f r u).Mirrors e (g r (e u))) : (a.andThen f).Mirrors e (b.andThen g) := by
  induction a generalizing b with
  | done r s =>
    obtain rfl := h
    exact hf r s
  | pause due alert s k abandon ih ih' =>
    obtain ⟨k', abandon', rfl, hk, habandon⟩ := h
    exact ⟨_, _, rfl, fun early u => ih early u (hk early u), fun u => ih' u (habandon u)⟩

/-- Carried out in a state seen through `e` an activity comes to the same result. -/
lemma Mirrors.finish (h : a.Mirrors e b) {pass : Bool → S → Option T → Bool × S}
    (hpass : ∀ alert s due, pass alert (e s) due = ((pass alert s due).1, e (pass alert s due).2)) :
    b.finish pass = ((a.finish pass).1, e (a.finish pass).2) := by
  induction a generalizing b with
  | done r s =>
    obtain rfl := h
    rfl
  | pause due alert s k abandon ih =>
    obtain ⟨k', abandon', rfl, hk, -⟩ := h
    unfold Activity.finish
    rw [hpass]
    exact ih _ _ (hk _ _)

end Activity

/-! ## Scripts -/

namespace Script

variable {T R Q : Type}

/-- A script does the same whether or not the agent reports. -/
def Discreet (s : Script T R) : Prop :=
  ∀ w : World T, (s w).Mirrors World.unreported (s w.unreported)

namespace Discreet

variable {s : Script T R}

/-- So it comes to the same result, and to the same world but for the reports. -/
lemma run [Seconds T] (hs : s.Discreet) (w : World T) :
    s.run w.unreported = ((s.run w).1, (s.run w).2.unreported) :=
  (hs w).finish World.pause_unreported

lemma pure (r : R) : Discreet (Pure.pure r : Script T R) := fun _ => rfl

lemma throw (f : Fault) : Discreet (MonadExcept.throw f : Script T R) := fun _ => rfl

lemma change {g : World T → World T} (hg : World.Discreet g) : (Script.change g).Discreet :=
  fun w => congrArg _ (hg w)

lemma log (level : LogLevel) (source : LogSource) (message : String) :
    Discreet (Script.log level source message : Script T Unit) := .change (.logLine _ _ _)

lemma logFault (level : LogLevel) (source : LogSource) (message : String) (f : Fault) :
    Discreet (Script.logFault level source message f : Script T Unit) := .change (.logFault _ _ _ _)

lemma tell (f : Fault) : Discreet (Script.tell f : Script T String) := by
  unfold Script.tell
  split
  · exact pure _
  · exact throw _

lemma record {e : Event} (he : e.isReport = false) :
    Discreet (Script.record e : Script T Unit) := .change (.record he)

lemma bind {f : R → Script T Q} (hs : s.Discreet) (hf : ∀ r, (f r).Discreet) :
    (s >>= f).Discreet := by
  intro w
  refine (hs w).andThen fun r u => ?_
  cases r with
  | ok r => exact hf r u
  | error e => rfl

/-- What is done with what is seen of the world must not hang on reports. -/
lemma world_bind {f : World T → Script T Q} (hsame : ∀ w, f w.unreported = f w)
    (hf : ∀ w, (f w).Discreet) : (Script.world >>= f).Discreet := by
  intro w
  show (f w w).Mirrors World.unreported (f w.unreported w.unreported)
  rw [hsame]
  exact hf w w

lemma attempt (hs : s.Discreet) : s.attempt.Discreet :=
  fun w => (hs w).andThen fun _ _ => rfl

lemma recover {f : Fault → Script T R} (hs : s.Discreet) (hf : ∀ e, (f e).Discreet) :
    (s.recover f).Discreet := by
  intro w
  refine (hs w).andThen fun r u => ?_
  cases r with
  | ok r => rfl
  | error e => exact hf e u

lemma ensuring {last : Script T Unit} (hs : s.Discreet) (hlast : last.Discreet) :
    (s.ensuring last).Discreet := by
  refine hs.attempt.bind fun r => hlast.bind fun _ => ?_
  cases r with
  | ok r => exact pure r
  | error e => exact throw e

/-- Something may be done beforehand under a condition. -/
lemma when {c : Prop} [Decidable c] {s : Script T Unit} {f : Unit → Script T Q} (hs : s.Discreet)
    (hf : (f ()).Discreet) : (if c then s >>= f else f ()).Discreet := by
  split
  · exact hs.bind fun _ => hf
  · exact hf

lemma requestStop (reason : Option String) :
    Discreet (Script.requestStop reason : Script T Unit) := by
  cases reason with
  | none => exact pure ()
  | some r => exact change (.requestStop r)

variable [Seconds T]

lemma sleep (duration : T) : (Script.sleep duration).Discreet := by
  intro w
  unfold Script.sleep
  split
  · exact ⟨_, _, rfl, fun _ _ => rfl, fun _ => rfl⟩
  · rfl

lemma waitForStop (timeout : T) : (Script.waitForStop timeout).Discreet := by
  intro w
  unfold Script.waitForStop
  rw [show w.unreported.isStopping = w.isStopping from rfl]
  split
  · rfl
  · split
    · rfl
    · exact ⟨_, _, rfl, fun _ _ => rfl, fun _ => rfl⟩

end Discreet
end Script

end MetricsAgent
