import MetricsAgent.Proofs.Run.Passing
import MetricsAgent.Proofs.Run.Scripts
import MetricsAgent.Reporting

/-!
# Work that is not interrupted

A cycle collects and delivers without heeding the request to stop: none of its pauses is alert to it
and it never looks whether it was made.  `Script.Steadfast` says this of a script through what can
be observed: carried out in the world as it would be if nobody asked anything of the agent, the
script comes to the same result and leaves the same world but for the requests.  It also counts the
calls for metrics with which the script begins.

A world function that only concerns the agent itself is `World.Inward`; from such functions, pauses
and requests to stop the ways to put scripts together make steadfast scripts.
-/

namespace MetricsAgent

open Script

/-! ## Calls for metrics -/

namespace World

/-- The time of an event that is a call for metrics. -/
def collectionTime? {T : Type} : T × Event → Option T
  | (t, .collect) => some t
  | _ => none

/-- When metrics were called for, the first call first. -/
def collections {T : Type} (w : World T) : List T :=
  w.trace.reverse.filterMap collectionTime?

variable {w u v : World ℚ}

lemma collections_record (w : World ℚ) (e : Event) :
    (w.record e).collections = w.collections ++ (collectionTime? (w.now, e)).toList := by
  have hone : [(w.now, e)].filterMap collectionTime? = (collectionTime? (w.now, e)).toList := by
    cases h : collectionTime? (w.now, e) <;> simp [h]
  simp only [collections, record, List.reverse_cons, List.filterMap_append, hone]

@[simp] lemma undisturbed_undisturbed (w : World ℚ) :
    w.undisturbed.undisturbed = w.undisturbed := by
  simp [undisturbed]

@[simp] lemma now_undisturbed (w : World ℚ) : w.undisturbed.now = w.now := rfl

lemma collections_of_undisturbed {w u : World ℚ} {t : ℚ}
    (h : u.undisturbed = { w.undisturbed with now := t }) : u.collections = w.collections := by
  have htrace := congrArg World.trace h
  change u.trace = w.trace at htrace
  rw [collections, htrace, collections]

/-- Two worlds that differ in what concerns the agent alone: neither time nor anything that others
do lies between them, and no call for metrics. -/
structure Alike (w u : World ℚ) : Prop where
  now : u.now = w.now
  stop : u.stop = w.stop
  stopTime : u.stopTime = w.stopTime
  agenda : u.agenda = w.agenda
  collections : u.collections = w.collections

namespace Alike

lemma refl (w : World ℚ) : w.Alike w := ⟨rfl, rfl, rfl, rfl, rfl⟩

lemma trans (h : w.Alike u) (h' : u.Alike v) : w.Alike v :=
  ⟨h'.now.trans h.now, h'.stop.trans h.stop, h'.stopTime.trans h.stopTime,
    h'.agenda.trans h.agenda, h'.collections.trans h.collections⟩

lemma precedes (h : w.Alike u) : w.Precedes u := .of_eq h.now h.stop h.stopTime h.agenda

lemma isStopping (h : w.Alike u) : u.isStopping = w.isStopping := congrArg Option.isSome h.stop

end Alike

/-- What the agent does for itself: it leaves a world alike, and nothing in it hangs on what others
ask of the agent. -/
structure Inward (g : World ℚ → World ℚ) : Prop where
  alike (w : World ℚ) : w.Alike (g w)
  undisturbed (w : World ℚ) : (g w.undisturbed).undisturbed = (g w).undisturbed

namespace Inward

variable {g f : World ℚ → World ℚ}

lemma id : Inward fun w => w := ⟨.refl, undisturbed_undisturbed⟩

lemma comp (hf : Inward f) (hg : Inward g) : Inward fun w => f (g w) where
  alike w := (hg.alike w).trans (hf.alike _)
  undisturbed w := by
    rw [← hf.undisturbed (g w.undisturbed), hg.undisturbed w, hf.undisturbed (g w)]

lemma cycles (f : CycleTotals ℚ → CycleTotals ℚ) :
    Inward fun w => { w with cycles := f w.cycles } :=
  ⟨fun _ => ⟨rfl, rfl, rfl, rfl, rfl⟩, fun _ => by simp [World.undisturbed]⟩

lemma collector (f : CollectorState → CollectorState) :
    Inward fun w => { w with collector := f w.collector } :=
  ⟨fun _ => ⟨rfl, rfl, rfl, rfl, rfl⟩, fun _ => by simp [World.undisturbed]⟩

lemma requests (f : ℕ → ℕ) : Inward fun w => { w with requests := f w.requests } :=
  ⟨fun _ => ⟨rfl, rfl, rfl, rfl, rfl⟩, fun _ => by simp [World.undisturbed]⟩

lemma logLine (level : LogLevel) (source : LogSource) (message : String) :
    Inward fun w => w.logLine level source message :=
  ⟨fun _ => ⟨rfl, rfl, rfl, rfl, rfl⟩,
    fun _ => by by_cases h : source = .shutdown <;> simp [World.undisturbed, World.logLine, h]⟩

lemma logFault (level : LogLevel) (source : LogSource) (message : String) (f : Fault) :
    Inward fun w => w.logFault level source message f := by
  unfold World.logFault
  split
  · exact logLine level source _
  · exact ⟨fun _ => ⟨rfl, rfl, rfl, rfl, rfl⟩, fun _ => by simp [World.undisturbed]⟩

lemma record {e : Event} (he : e ≠ .collect) : Inward fun w => w.record e := by
  refine ⟨fun w => ⟨rfl, rfl, rfl, rfl, ?_⟩, fun _ => by simp [World.undisturbed, World.record]⟩
  have hnone : collectionTime? (w.now, e) = none := by
    cases e with
    | collect => exact absurd rfl he
    | _ => rfl
  rw [collections_record, hnone, Option.toList_none, List.append_nil]

/-! ### Sessions and reports -/

lemma openSession (timeout : Number) (headers : Headers) :
    Inward fun w => match w.session with
      | .opened => w
      | _ => { w with session := .opened, ownsSession := true }.record
          (.sessionOpen timeout headers) := by
  have hnew : Inward fun w => { w with session := .opened, ownsSession := true }.record
      (.sessionOpen timeout headers) :=
    (Inward.record (e := .sessionOpen timeout headers) (by simp)).comp
      ⟨fun _ => ⟨rfl, rfl, rfl, rfl, rfl⟩, fun _ => by simp [World.undisturbed]⟩
  refine ⟨fun w => ?_, fun w => ?_⟩
  · cases h : w.session
    · exact hnew.alike w
    · exact .refl w
    · exact hnew.alike w
  · have hsame : w.undisturbed.session = w.session := rfl
    cases h : w.session <;> simp only [hsame, h]
    · exact hnew.undisturbed w
    · exact undisturbed_undisturbed w
    · exact hnew.undisturbed w

lemma ifStarted (h : Inward f) : Inward (Reporting.ifStarted f) := by
  refine ⟨fun w => ?_, fun w => ?_⟩
  · unfold Reporting.ifStarted
    split
    · exact h.alike w
    · exact .refl w
  · have hsame : w.undisturbed.reporting = w.reporting := rfl
    unfold Reporting.ifStarted
    rw [hsame]
    split
    · exact h.undisturbed w
    · exact undisturbed_undisturbed w

lemma send (call : String) (positional : List Value) (named : List (String × Value)) :
    Inward (Reporting.send call positional named) :=
  record (by simp)

lemma leaveNote (message category level : String) (data : Value) :
    Inward (Reporting.leaveNote message category level data) :=
  ifStarted (send _ _ _)

lemma capture (stage : String) (f : Fault) (extra : Entries) :
    Inward (Reporting.capture stage f extra) :=
  ifStarted ((send _ _ _).comp ((send _ _ _).comp ((send _ _ _).comp (send _ _ _))))

lemma recordCycle (success : Bool) (stage : String) (duration : Number)
    (collection : Option Number) :
    Inward (Reporting.recordCycle success stage duration collection) := by
  refine ifStarted ?_
  cases collection <;> cases success
  · exact (send _ _ _).comp ((send _ _ _).comp (send _ _ _))
  · exact (send _ _ _).comp (send _ _ _)
  · exact (send _ _ _).comp ((send _ _ _).comp ((send _ _ _).comp (send _ _ _)))
  · exact (send _ _ _).comp ((send _ _ _).comp (send _ _ _))

end Inward

/-! ### What others do -/

@[simp] lemma now_pass_false (w : World ℚ) (t : ℚ) : (w.pass false t).2.now = max w.now t :=
  now_passTo _ t

lemma undisturbed_pass_false (w : World ℚ) (t : ℚ) :
    (w.pass false t).2.undisturbed = { w.undisturbed with now := max w.now t } :=
  undisturbed_passTo w.takeTicket.2 t

lemma precedes_pass_false (w : World ℚ) (t : ℚ) : w.Precedes (w.pass false t).2 :=
  (Precedes.of_eq rfl rfl rfl rfl : w.Precedes w.takeTicket.2).trans (precedes_passTo _ t)

end World

/-! ## Steadfast scripts -/

/-- A script goes on whether or not the agent is asked to stop: it does in the undisturbed world
what it does in any.  It begins with a number of calls for metrics and makes no other. -/
structure Script.Steadfast {R : Type} (calls : ℕ) (s : Script ℚ R) : Prop where
  precedes (w : World ℚ) : w.Precedes (s.run w).2
  undisturbed (w : World ℚ) : (s.run w.undisturbed).1 = (s.run w).1 ∧
    (s.run w.undisturbed).2.undisturbed = (s.run w).2.undisturbed
  collections (w : World ℚ) : (s.run w).2.collections = w.collections ++ List.replicate calls w.now

namespace Script.Steadfast

variable {R Q : Type} {n : ℕ} {s : Script ℚ R} {f : R → Script ℚ Q} {g : World ℚ → World ℚ}

/-- A script that comes to one outcome and leaves the world as it is. -/
lemma of_run_eq {o : Except Fault R} (h : ∀ w, s.run w = (o, w)) : Steadfast 0 s where
  precedes w := by
    rw [h]
    exact .refl w
  undisturbed w := by
    rw [h, h]
    exact ⟨rfl, World.undisturbed_undisturbed w⟩
  collections w := by simp [h]

lemma pure (r : R) : Steadfast 0 (Pure.pure r : Script ℚ R) := of_run_eq (run_pure r)

lemma throw (e : Fault) : Steadfast 0 (MonadExcept.throw e : Script ℚ R) := of_run_eq (run_throw e)

lemma bind (hs : Steadfast n s) (hf : ∀ r, Steadfast 0 (f r)) : Steadfast n (s >>= f) where
  precedes w := by
    have h := hs.precedes w
    rcases hr : s.run w with ⟨e | r, u⟩ <;> rw [hr] at h
    · rw [run_bind_error hr]
      exact h
    · rw [run_bind_ok hr]
      exact h.trans ((hf r).precedes u)
  undisturbed w := by
    obtain ⟨h1, h2⟩ := hs.undisturbed w
    rcases hr : s.run w with ⟨e | r, u⟩ <;> rcases hr' : s.run w.undisturbed with ⟨o, u'⟩ <;>
      rw [hr, hr'] at h1 h2 <;> change o = _ at h1 <;> subst h1
    · rw [run_bind_error hr, run_bind_error hr']
      exact ⟨rfl, h2⟩
    · rw [run_bind_ok hr, run_bind_ok hr']
      -- Both continuations do what they would do in the one undisturbed world.
      obtain ⟨h3, h4⟩ := (hf r).undisturbed u
      obtain ⟨h5, h6⟩ := (hf r).undisturbed u'
      change u'.undisturbed = u.undisturbed at h2
      rw [h2] at h5 h6
      exact ⟨h5.symm.trans h3, h6.symm.trans h4⟩
  collections w := by
    have h := hs.collections w
    rcases hr : s.run w with ⟨e | r, u⟩ <;> rw [hr] at h
    · rw [run_bind_error hr]
      exact h
    · rw [run_bind_ok hr, (hf r).collections u]
      simpa using h

lemma pure_bind {r : R} (hf : Steadfast n (f r)) :
    Steadfast n ((Pure.pure r : Script ℚ R) >>= f) :=
  hf

lemma throw_bind (e : Fault) (f : R → Script ℚ Q) :
    Steadfast 0 ((MonadExcept.throw e : Script ℚ R) >>= f) :=
  throw e

/-- Something may be done beforehand under a condition. -/
lemma when {c : Prop} [Decidable c] {s : Script ℚ Unit} {f : Unit → Script ℚ Q}
    (hs : Steadfast 0 s) (hf : Steadfast 0 (f ())) :
    Steadfast 0 (if c then s >>= f else f ()) := by
  split
  · exact hs.bind fun _ => hf
  · exact hf

/-- What a script finds out about the world must not hang on the requests. -/
lemma world_bind {f : World ℚ → Script ℚ Q} (hf : ∀ w, Steadfast n (f w))
    (hsame : ∀ w, f w.undisturbed = f w) : Steadfast n (world >>= f) where
  precedes w := by
    rw [run_bind_ok (run_world w)]
    exact (hf w).precedes w
  undisturbed w := by
    rw [run_bind_ok (run_world w), run_bind_ok (run_world w.undisturbed), hsame w]
    exact (hf w).undisturbed w
  collections w := by
    rw [run_bind_ok (run_world w)]
    exact (hf w).collections w

/-- What the agent does for itself comes before or between the work. -/
lemma change_bind {f : Unit → Script ℚ Q} (hg : World.Inward g) (hf : Steadfast n (f ())) :
    Steadfast n (change g >>= f) where
  precedes w := by
    rw [run_bind_ok (run_change g w)]
    exact (hg.alike w).precedes.trans (hf.precedes _)
  undisturbed w := by
    rw [run_bind_ok (run_change g w), run_bind_ok (run_change g w.undisturbed)]
    obtain ⟨h1, h2⟩ := hf.undisturbed (g w)
    obtain ⟨h3, h4⟩ := hf.undisturbed (g w.undisturbed)
    rw [hg.undisturbed w] at h3 h4
    exact ⟨h3.symm.trans h1, h4.symm.trans h2⟩
  collections w := by
    rw [run_bind_ok (run_change g w), hf.collections, (hg.alike w).collections, (hg.alike w).now]

lemma change (hg : World.Inward g) : Steadfast 0 (Script.change g) :=
  ⟨fun w => (hg.alike w).precedes, fun w => ⟨rfl, hg.undisturbed w⟩,
    fun w => by simpa using (hg.alike w).collections⟩

lemma log (level : LogLevel) (source : LogSource) (message : String) :
    Steadfast 0 (Script.log level source message) :=
  change (.logLine level source message)

lemma logFault (level : LogLevel) (source : LogSource) (message : String) (f : Fault) :
    Steadfast 0 (Script.logFault level source message f) :=
  change (.logFault level source message f)

lemma tell (f : Fault) : Steadfast 0 (Script.tell f : Script ℚ String) := by
  unfold Script.tell
  split
  · exact pure _
  · exact throw _

lemma attempt (hs : Steadfast n s) : Steadfast n s.attempt where
  precedes w := by simpa using hs.precedes w
  undisturbed w := by
    obtain ⟨h1, h2⟩ := hs.undisturbed w
    simp [h1, h2]
  collections w := by simpa using hs.collections w

lemma recover {f : Fault → Script ℚ R} (hs : Steadfast n s) (hf : ∀ e, Steadfast 0 (f e)) :
    Steadfast n (s.recover f) := by
  rw [recover_eq]
  refine hs.attempt.bind fun r => ?_
  cases r with
  | ok r => exact pure r
  | error e => exact hf e

lemma sleep (duration : ℚ) : Steadfast 0 (Script.sleep duration) where
  precedes w := by
    rw [run_sleep]
    split
    · exact World.precedes_pass_false w _
    · exact .refl w
  undisturbed w := by
    simp only [run_sleep]
    refine ⟨trivial, ?_⟩
    split
    · rw [World.undisturbed_pass_false, World.undisturbed_pass_false]
      simp
    · exact World.undisturbed_undisturbed w
  collections w := by
    rw [run_sleep, List.replicate_zero, List.append_nil]
    split
    · exact World.collections_of_undisturbed (World.undisturbed_pass_false w _)
    · rfl

lemma requestStop (reason : Option String) :
    Steadfast 0 (Script.requestStop reason : Script ℚ Unit) := by
  cases reason with
  | none => exact pure ()
  | some r =>
    refine ⟨fun w => w.precedes_requestStop r, fun w => ⟨rfl, ?_⟩, fun w => ?_⟩
    · show (w.undisturbed.requestStop r).undisturbed = (w.requestStop r).undisturbed
      rw [World.undisturbed_requestStop, World.undisturbed_requestStop,
        World.undisturbed_undisturbed]
    · rw [List.replicate_zero, List.append_nil]
      exact World.collections_of_undisturbed (t := w.now) (w.undisturbed_requestStop r)

lemma record_collect : Steadfast 1 (record .collect : Script ℚ Unit) := by
  refine ⟨fun w => .of_eq rfl rfl rfl rfl, fun w => ⟨rfl, ?_⟩, fun w => ?_⟩
  · simp [World.undisturbed, World.record]
  · exact World.collections_record w .collect

end Script.Steadfast
end MetricsAgent
