import MetricsAgent.Proofs.Collection.Tracking
import MetricsAgent.Proofs.Command.Status

/-!
# Dry runs

A dry run calls for metrics once, and touches neither a session nor the endpoint.  It prints the
whole document of the payload, and a line feed, or nothing, and it succeeds exactly if it has printed
(`Mode.tryOut_whole`); what it fails with says whether the collection failed or its outcome could not
be printed.

This holds on every course, whatever the collector does and whatever others do meanwhile, as long as
they leave alone what is looked at here (`World.Aside`).  Creating the collector is aside, and so is
closing it; of the dry run itself only the call for metrics has a pause, and what follows it is told
by one case for each outcome of the call (`Cycle.Shown`).
-/

namespace MetricsAgent

open Script World

/-! ## What is looked at -/

/-- Whether an event is part of collecting or delivering. -/
def Event.isWork : Event → Bool
  | .collect => true
  | .upload => true
  | .sessionOpen .. => true
  | .request .. => true
  | .sessionClose => true
  | .sleep _ => true
  | _ => false

namespace World

variable {T : Type} {w u v : World T}

/-- The parts of collecting and delivering, the first one first. -/
def work (w : World T) : List Event := w.happened Event.isWork

lemma work_record (w : World T) (e : Event) :
    (w.record e).work = w.work ++ [e].filter Event.isWork :=
  happened_record _ w e

/-- Between two worlds nothing was collected or delivered. -/
structure Still (w u : World T) : Prop where
  work : u.work = w.work
  session : u.session = w.session
  requests : u.requests = w.requests

lemma Still.trans (h : w.Still u) (h' : u.Still v) : w.Still v :=
  ⟨h'.work.trans h.work, h'.session.trans h.session, h'.requests.trans h.requests⟩

/-- Nothing was printed either. -/
structure Aside (w u : World T) : Prop extends Still w u where
  printed : u.printed = w.printed

namespace Aside

lemma refl (w : World T) : w.Aside w := ⟨⟨rfl, rfl, rfl⟩, rfl⟩

lemma trans (h : w.Aside u) (h' : u.Aside v) : w.Aside v :=
  ⟨h.toStill.trans h'.toStill, h'.printed.trans h.printed⟩

lemma of_same (htrace : u.trace = w.trace) (hprinted : u.printed = w.printed)
    (hsession : u.session = w.session) (hrequests : u.requests = w.requests) : w.Aside u :=
  ⟨⟨by rw [World.work, happened, htrace]; rfl, hsession, hrequests⟩, hprinted⟩

lemma of_quiet (h : w.Quiet u) : w.Aside u := by
  obtain ⟨_, _, _, _, _, _, rfl⟩ := h
  exact .of_same rfl rfl rfl rfl

/-- An event that is no part of collecting or delivering. -/
lemma record {e : Event} (he : e.isWork = false) (w : World T) : w.Aside (w.record e) := by
  refine ⟨⟨?_, rfl, rfl⟩, rfl⟩
  rw [work_record]
  simp [he]

lemma lasting : Lasting (Aside (T := T)) where
  trans h h' := h.trans h'
  of_quiet h := of_quiet h

end Aside

/-- What others may do meanwhile. -/
def Besides (w : World T) (_ : Unit) (u : World T) : Prop := w.Aside u

lemma composes_aside : Composes (Besides (T := T)) fun w _ u => w.Aside u where
  refl := .refl
  trans h h' := h.trans h'
  meanwhile h := h

end World

/-! ## Collecting -/

namespace Collector

variable {T : Type} [Seconds T] {c : Collector T} {w u : World T}
  {l : List (Interlude Unit (World T))}

lemma aside_noted (resets : ℕ) (q : Except Fault Collected) (w : World T) :
    w.Aside (noted resets q w) := by
  unfold noted
  split
  · exact .of_same rfl rfl rfl rfl
  · exact .refl w

/-- Once it was called, a collector does nothing that is looked at. -/
lemma aside_collect {q : Except Fault Collected} (h : (c.collect w).Comes Besides l q u) :
    (w.record .collect).Aside u := by
  rw [collect_eq] at h
  obtain ⟨l₁, l₂, x, y, rfl, hfirst, hsecond⟩ := comes_bind_iff.mp h
  obtain ⟨rfl, rfl, rfl⟩ := Activity.comes_done_iff.mp hfirst
  exact c.along_answer composes_aside (fun _ => .of_same rfl rfl rfl rfl)
    (fun w reason => .of_quiet (w.quiet_requestStop reason)) _ _ _ _ hsecond

/-- A tracked call does nothing that is looked at but to call for metrics. -/
lemma aside_trackedCollect {q : Except Fault Collected}
    (h : (c.trackedCollect w).Comes Besides l q u) : (w.record .collect).Aside u := by
  cases htracking : c.trackingFault with
  | none =>
    obtain ⟨q', x, hcollect, -, rfl⟩ := (comes_trackedCollect c htracking).mp h
    have hbegun : (w.record .collect).Aside ((begun w).record .collect) :=
      .of_same rfl rfl rfl rfl
    exact (hbegun.trans (aside_collect hcollect)).trans (aside_noted _ _ _)
  | some f =>
    unfold trackedCollect at h
    rw [htracking] at h
    obtain ⟨-, -, rfl⟩ := Activity.comes_done_iff.mp h
    exact .refl _

end Collector

/-! ## One collection -/

namespace Cycle

variable {T : Type} [Seconds T] {c : Collector T} {out : Stream} {w u v : World T}
  {l : List (Interlude Unit (World T))} {r : Except Fault Unit}

/-- It is said in the log that a collection follows. -/
def announced (w : World T) : World T :=
  w.logLine .info .scheduler "Running single collection (dry run)"

/-- What becomes of a collection that is to be printed, and of what was printed before it: the whole
document and a line feed are printed, or nothing. -/
inductive Shown (out : Stream) (before : List (Stream × String)) :
    Except Fault Collected → Except Fault Unit → List (Stream × String) → Prop
  | printed {p : Collected} {text : String} (hformat : p.format Json.indented = .ok text) :
      Shown out before (.ok p) (.ok ()) ((out, text ++ "\n") :: before)
  | unformatted {p : Collected} {e : Payload.FormatFault}
      (hformat : p.format Json.indented = .error e) : Shown out before (.ok p)
        (.error (.scheduling ("Could not format payload: " ++ e.message) (some e.toFault))) before
  | failed {f : Fault} (hcollection : f.isCollection = true) (htellable : f.Tellable) :
      Shown out before (.error f)
        (.error (.scheduling ("Collection failed: " ++ f.text) (some f))) before
  | silenced {f g : Fault} (hcollection : f.isCollection = true) (hsilence : f.silence? = some g) :
      Shown out before (.error f) (.error g) before
  | passed {f : Fault} (hcollection : f.isCollection = false) :
      Shown out before (.error f) (.error f) before

/-- What is done with the outcome of the one collection. -/
lemma comes_runOnce (h : (runOnce c out w).Comes Besides l r v) :
    ∃ q u, (c.trackedCollect (announced w)).Comes Besides l q u ∧ u.Still v ∧
      Shown out u.printed q r v.printed := by
  unfold runOnce at h
  obtain ⟨l₁, l₂, x, y, rfl, hfirst, hsecond⟩ := comes_bind_iff.mp h
  obtain ⟨rfl, rfl, rfl⟩ := Activity.comes_done_iff.mp hfirst
  obtain ⟨l₃, l₄, q, u, rfl, htracked, hlast⟩ := comes_attempt_bind_iff.mp hsecond
  suffices hend : l₄ = [] ∧ u.Still v ∧ Shown out u.printed q r v.printed by
    obtain ⟨rfl, hstill, hshown⟩ := hend
    exact ⟨q, u, by rwa [List.nil_append, List.append_nil], hstill, hshown⟩
  cases q with
  | error f =>
    dsimp only at hlast
    cases hstage : f.stage? with
    | some stage =>
      have hcollection : f.isCollection = true := by rw [Fault.isCollection, hstage]; rfl
      have haside := Aside.of_quiet (u.quiet_logFault .error .scheduler (collectionFailed stage) f)
      rw [hstage] at hlast
      cases hsilence : f.silence? with
      | none =>
        rw [tell_of_tellable hsilence] at hlast
        obtain ⟨rfl, rfl, rfl⟩ := Activity.comes_done_iff.mp hlast
        exact ⟨rfl, haside.toStill, haside.printed ▸ .failed hcollection hsilence⟩
      | some g =>
        rw [tell_of_silence? hsilence] at hlast
        obtain ⟨rfl, rfl, rfl⟩ := Activity.comes_done_iff.mp hlast
        exact ⟨rfl, haside.toStill, haside.printed ▸ .silenced hcollection hsilence⟩
    | none =>
      rw [hstage] at hlast
      obtain ⟨rfl, rfl, rfl⟩ := Activity.comes_done_iff.mp hlast
      exact ⟨rfl, (Aside.refl _).toStill, .passed (by rw [Fault.isCollection, hstage]; rfl)⟩
  | ok p =>
    cases hformat : p.format Json.indented with
    | ok text =>
      dsimp only at hlast
      rw [hformat] at hlast
      obtain ⟨rfl, rfl, rfl⟩ := Activity.comes_done_iff.mp hlast
      exact ⟨rfl, ⟨rfl, rfl, rfl⟩, .printed hformat⟩
    | error e =>
      dsimp only at hlast
      rw [hformat] at hlast
      obtain ⟨rfl, rfl, rfl⟩ := Activity.comes_done_iff.mp hlast
      exact ⟨rfl, (Aside.refl _).toStill, .unformatted hformat⟩

end Cycle

/-! ## Dry runs -/

namespace Mode

variable {T : Type} [Seconds T] {c : Collector T} {out : Stream} {w v : World T}
  {l : List (Interlude Unit (World T))} {r : Except Fault Unit}

/-- A dry run prints a whole document and a line feed and succeeds, or prints nothing and fails. -/
def Whole (out : Stream) (w v : World T) (r : Except Fault Unit) : Prop :=
  (r = .ok () ∧ ∃ (p : Payload) (text : String), p.format Json.indented = .ok text ∧
      v.printed = (out, text ++ "\n") :: w.printed) ∨
    (∃ f, r = .error f) ∧ v.printed = w.printed

/-- What a dry run comes to, given what the call for metrics came to: a payload is printed if there
is a text of it; everything else that was returned, and every fault that may be handled and can be
told, is a fault of scheduling; and of a fault that cannot be told comes what gets in the way. -/
structure Answers (out : Stream) (w v : World T) (q : Except Fault Collected)
    (r : Except Fault Unit) : Prop where
  printed {p : Payload} {text : String} : q = .ok (.payload p) →
    p.format Json.indented = .ok text → r = .ok () ∧ v.printed = (out, text ++ "\n") :: w.printed
  unformatted {p : Payload} {e : Payload.FormatFault} : q = .ok (.payload p) →
    p.format Json.indented = .error e →
      r = .error (.scheduling ("Could not format payload: " ++ e.message) (some e.toFault))
  notAPayload {x : Value} : q = .ok (.other x) →
    r = .error (.scheduling ("Could not format payload: Expected Payload, got " ++ x.kindName)
      (some (Payload.FormatFault.notAPayload x.kindName).toFault))
  failed {f : Fault} : q = .error f → f.isOrdinary = true → f.Tellable →
    ∃ g, Collector.Leaves (.error f) (.error g) ∧
      r = .error (.scheduling ("Collection failed: " ++ g.text) (some g))
  silenced {f g : Fault} : q = .error f → f.isOrdinary = true → f.silence? = some g → r = .error g
  passed {f : Fault} : q = .error f → f.isOrdinary = false → r = .error f

/-- A dry run on a course, with a collector that was at hand in some world: it calls for metrics
once, opens and closes no session, makes no request and waits for none, and prints all or nothing. -/
structure TriedOut (c : Collector T) (out : Stream) (w ready : World T)
    (l : List (Interlude Unit (World T))) (r : Except Fault Unit) (v : World T) : Prop where
  work : v.work = w.work ++ [.collect]
  session : v.session = w.session
  requests : v.requests = w.requests
  whole : Whole out w v r
  answers : c.trackingFault = none → ∃ q u,
    (c.collect (Collector.begun (Cycle.announced ready))).Comes Besides l q u ∧
      Answers out w v q r

omit [Seconds T] in
lemma whole_of_shown {q : Except Fault Collected}
    (h : Cycle.Shown out w.printed q r v.printed) : Whole out w v r := by
  generalize hafter : v.printed = after at h
  cases h with
  | @printed p text hformat =>
    cases p with
    | payload p => exact .inl ⟨rfl, p, text, hformat, hafter⟩
    | other x => cases hformat
  | unformatted => exact .inr ⟨⟨_, rfl⟩, hafter⟩
  | failed => exact .inr ⟨⟨_, rfl⟩, hafter⟩
  | silenced => exact .inr ⟨⟨_, rfl⟩, hafter⟩
  | passed => exact .inr ⟨⟨_, rfl⟩, hafter⟩

omit [Seconds T] in
lemma answers_of_shown {q : Except Fault Collected}
    (h : Cycle.Shown out w.printed (Collector.tracked q) r v.printed) : Answers out w v q r := by
  generalize hafter : v.printed = after at h
  constructor
  · rintro p text rfl hformat
    cases h with
    | printed hformat' =>
      obtain rfl := Except.ok.inj (hformat.symm.trans hformat')
      exact ⟨rfl, hafter⟩
    | unformatted hformat' => cases hformat.symm.trans hformat'
  · rintro p e rfl hformat
    cases h with
    | printed hformat' => cases hformat.symm.trans hformat'
    | unformatted hformat' =>
      obtain rfl := Except.error.inj (hformat.symm.trans hformat')
      rfl
  · rintro x rfl
    cases h with
    | printed hformat => cases hformat
    | unformatted hformat =>
      cases hformat
      rfl
  · rintro f rfl hordinary htellable
    have hleaves := Collector.leaves_tracked (.error f)
    rw [Collector.tracked, if_pos hordinary] at h hleaves
    cases h with
    | failed => exact ⟨_, hleaves, rfl⟩
    | silenced _ hsilence =>
      cases (Collector.tellable_asCollectionFault htellable).symm.trans hsilence
    | passed hcollection =>
      cases (Collector.isCollection_asCollectionFault htellable).symm.trans hcollection
  · rintro f g rfl hordinary hsilence
    rw [Collector.tracked, if_pos hordinary] at h
    cases hcollection : f.isCollection with
    | true =>
      rw [Collector.asCollectionFault_of_isCollection hcollection] at h
      cases h with
      | failed _ htellable => cases htellable.symm.trans hsilence
      | silenced _ hsilence' => rw [Option.some.inj (hsilence'.symm.trans hsilence)]
      | passed hforeign => cases hcollection.symm.trans hforeign
    | false =>
      have hforeign := Fault.isCollection_of_silence? hsilence
      rw [Collector.asCollectionFault_of_silence? hcollection hsilence] at h
      cases h with
      | failed hcollection' => cases hcollection'.symm.trans hforeign
      | silenced hcollection' => cases hcollection'.symm.trans hforeign
      | passed => rfl
  · rintro f rfl hordinary
    rw [Collector.tracked, if_neg (by simp [hordinary])] at h
    cases h with
    | failed hcollection =>
      cases (Fault.isOrdinary_of_isCollection hcollection).symm.trans hordinary
    | silenced hcollection =>
      cases (Fault.isOrdinary_of_isCollection hcollection).symm.trans hordinary
    | passed => rfl

/-- The collector is closed on every course, and nothing else is done after the one collection. -/
lemma comes_tryOut (h : (tryOut c out w).Comes Besides l r v) :
    ∃ u, (Cycle.runOnce c out w).Comes Besides l r u ∧ v = u.collectorClosed := by
  obtain ⟨l₁, l₂, q, u, rfl, honce, hlast⟩ := comes_attempt_bind_iff.mp h
  cases q with
  | ok x =>
    obtain ⟨rfl, rfl, rfl⟩ := Activity.comes_done_iff.mp hlast
    exact ⟨u, by rwa [List.append_nil], rfl⟩
  | error e =>
    obtain ⟨rfl, rfl, rfl⟩ := Activity.comes_done_iff.mp hlast
    exact ⟨u, by rwa [List.append_nil], rfl⟩

omit [Seconds T] in
lemma aside_collectorClosed (w : World T) : w.Aside w.collectorClosed :=
  (Aside.record rfl w).trans (.of_same rfl rfl rfl rfl)

/-- With a collector that is at hand. -/
lemma triedOut_of_comes {ready : World T} (hready : w.Aside ready)
    (h : (tryOut c out ready).Comes Besides l r v) : TriedOut c out w ready l r v := by
  obtain ⟨x, honce, rfl⟩ := comes_tryOut h
  obtain ⟨q, u, htracked, hstill, hshown⟩ := Cycle.comes_runOnce honce
  have hannounced : w.Aside (Cycle.announced ready) :=
    hready.trans (.of_quiet (ready.quiet_logLine _ _ _))
  have hcalled := Collector.aside_trackedCollect htracked
  have hclosed := hstill.trans (aside_collectorClosed x).toStill
  rw [hcalled.printed, show ((Cycle.announced ready).record .collect).printed = w.printed from
    hannounced.printed] at hshown
  refine ⟨?_, ?_, ?_, whole_of_shown hshown, ?_⟩
  · rw [hclosed.work, hcalled.work, work_record, hannounced.work]
    rfl
  · exact (hclosed.session.trans hcalled.session).trans hannounced.session
  · exact (hclosed.requests.trans hcalled.requests).trans hannounced.requests
  · intro htracking
    obtain ⟨q', y, hcollect, rfl, -⟩ := (Collector.comes_trackedCollect c htracking).mp htracked
    exact ⟨q', y, hcollect, answers_of_shown hshown⟩

end Mode

/-! ## Creation -/

namespace Catalogue

variable {T : Type} [Seconds T] (c : Catalogue T) (s : Settings)

omit [Seconds T] in
lemma immediate_engineName : (engineName s : Script T String).Immediate := by
  unfold engineName
  split
  · exact .pure _
  · exact .throw _

omit [Seconds T] in
lemma immediate_findClass (engine : String) : (c.findClass engine).Immediate := by
  refine .bind (.change _) fun _ => ?_
  split
  · exact .throw _
  · refine .when (.change _) (.bind (.change _) fun _ => ?_)
    split
    · split <;> exact .throw _
    · split
      · exact .pure _
      · exact .throw _

omit [Seconds T] in
lemma immediate_make (k : CollectorClass T) : (make k s).Immediate := by
  refine .recover (.bind ?_ fun collector => ?_) fun f => ?_
  · unfold instantiate
    split
    · exact .throw _
    · split
      · exact .throw _
      · exact .pure _
  · refine .bind (.bind (.change _) fun _ => .bind (.change _) fun _ => ?_) fun _ => .pure _
    unfold Collector.failWith
    split
    · exact .throw _
    · exact .pure _
  · split <;> exact .throw _

omit [Seconds T] in
/-- A collector is created without a pause. -/
lemma immediate_create : (c.create s).Immediate := by
  rw [create_eq]
  refine .bind ?_ fun k => .bind (immediate_make s k) fun collector =>
    .bind (immediate_engineName s) fun engine => .bind (.change _) fun _ => .pure _
  unfold choose
  split
  · split
    · exact .pure _
    · exact .throw _
  · exact .bind (immediate_engineName s) fun engine => c.immediate_findClass engine

lemma aside_create (w : World T) : w.Aside ((c.create s).run w).2 :=
  c.keeps_create Aside.lasting s (.record rfl) (fun _ _ => .of_same rfl rfl rfl rfl) w

end Catalogue

/-! ## Dry runs of settings -/

namespace Mode

variable {T : Type} [Seconds T]

/-- The dry run of some settings, with the collector that is given or one that is created. -/
def tryOutWith (s : Settings) (site : Site T) (given : Option (Collector T)) (out : Stream) :
    Script T Unit := do
  let c ← match given with
    | some c => succeed c
    | none => site.catalogue.create s
  tryOut c out

lemma work_dryRun (l : Settings.Loaded) (site : Site T) (limit : ℕ) :
    work .dryRun l site limit = tryOutWith l.settings site none .standard := rfl

/-- There is a collector for a dry run: it is given, or it is created from the settings. -/
inductive Obtained (s : Settings) (site : Site T) (w : World T) :
    Option (Collector T) → Collector T → World T → Prop
  | given (c : Collector T) : Obtained s site w (some c) c w
  | created {c : Collector T} {u : World T} (h : (site.catalogue.create s).run w = (.ok c, u)) :
      Obtained s site w none c u

/-- What the dry run of some settings comes to on a course: there is a collector and it is tried out,
or none can be created and nothing else is done. -/
inductive Tried (s : Settings) (site : Site T) (out : Stream) (w : World T) :
    Option (Collector T) → List (Interlude Unit (World T)) → Except Fault Unit → World T → Prop
  | collector {given : Option (Collector T)} {c : Collector T} {u v : World T}
      {l : List (Interlude Unit (World T))} {r : Except Fault Unit}
      (hobtained : Obtained s site w given c u) (htried : TriedOut c out w u l r v) :
      Tried s site out w given l r v
  | none {f : Fault} {v : World T} (hcreate : (site.catalogue.create s).run w = (.error f, v))
      (haside : w.Aside v) : Tried s site out w none [] (.error f) v

lemma tried_of_comes {s : Settings} {site : Site T} {given : Option (Collector T)} {out : Stream}
    {w v : World T} {l : List (Interlude Unit (World T))} {r : Except Fault Unit}
    (h : (tryOutWith s site given out w).Comes Besides l r v) : Tried s site out w given l r v := by
  cases given with
  | some c => exact .collector (.given c) (triedOut_of_comes (.refl w) h)
  | none =>
    obtain ⟨l₁, l₂, q, u, rfl, hfirst, hsecond⟩ := comes_bind_iff.mp h
    obtain ⟨rfl, hcreate⟩ := (site.catalogue.immediate_create s).comes_iff.mp hfirst
    have haside := site.catalogue.aside_create s w
    rw [hcreate] at haside
    cases q with
    | ok c => exact .collector (.created hcreate) (triedOut_of_comes haside hsecond)
    | error f =>
      obtain ⟨rfl, rfl, rfl⟩ := hsecond
      exact .none hcreate haside

/-- A dry run comes to an end, and on every course it calls for metrics once and prints the whole
document or nothing. -/
theorem tryOut_whole (s : Settings) (site : Site T) (given : Option (Collector T)) (out : Stream)
    (w : World T) :
    (∃ l, (tryOutWith s site given out w).Comes Besides l
        ((tryOutWith s site given out).run w).1 ((tryOutWith s site given out).run w).2) ∧
      ∀ l r v, (tryOutWith s site given out w).Comes Besides l r v →
        Tried s site out w given l r v :=
  ⟨exists_comes_run (fun _ _ hquiet => ⟨(), .of_quiet hquiet⟩) _ w,
    fun _ _ _ h => tried_of_comes h⟩

/-- A payload with no metrics in it. -/
def barePayload : Payload where
  agentVersion := agentVersion
  timestamp := ⟨⟨2024, 1, 15⟩, 10, 30, 0, 0, some 0⟩
  instanceId := ""
  database := ⟨"postgres", none, "generic", []⟩
  queries := none
  tables := none
  indexes := none
  settings := none
  schema := none

/-- A collector that returns the payload at once. -/
def bareCollector : Collector ℚ :=
  { Collector.timed [] with collections := fun _ => ⟨0, none, fun _ => .ok (.payload barePayload)⟩ }

/-- A site where this is the collector of the settings. -/
def bareSite : Site ℚ where
  catalogue := ⟨[("m", .ok [("C", .collector bareCollector [])])], []⟩
  replies _ := .immediate 200 (.ok "")

/-- The payload is printed. -/
theorem tryOut_whole_bareSite : ∃ loaded l v text,
    Settings.load Catalogue.namingHost (some "c.yaml") (Command.overrides none) = .ok loaded ∧
      (work .dryRun loaded bareSite 1 (World.start 0)).Comes Besides l (.ok ()) v ∧
        v.work = [.collect] ∧ v.printed = [(.standard, text ++ "\n")] := by
  obtain ⟨loaded, hload, hpath⟩ := Catalogue.load_namingHost
  obtain ⟨es, hes, hcheck⟩ := Settings.exists_check_of_load hload
  obtain ⟨e, hengine⟩ := (Settings.usable_of_supplied hes hcheck).database.engine
  have hselection : Catalogue.Selection bareSite.catalogue loaded.settings
      (.ok (.complete bareCollector)) :=
    .named hpath (Catalogue.loadClass_only _)
  obtain ⟨u, hcreate, -⟩ := Catalogue.run_create_of_complete hselection rfl hengine (World.start 0)
  obtain ⟨text, hformat⟩ : ∃ text, barePayload.format Json.indented = .ok text := ⟨_, rfl⟩
  obtain ⟨hends, hall⟩ := tryOut_whole loaded.settings bareSite none .standard (World.start 0)
  obtain ⟨l, r, v, hcourse⟩ : ∃ l r v, (tryOutWith loaded.settings bareSite none .standard
      (World.start 0)).Comes Besides l r v := hends.imp fun l h => ⟨_, _, h⟩
  cases hall l r v hcourse with
  | collector hobtained htried =>
    cases hobtained with
    | created hready =>
      obtain ⟨hc, -⟩ := Prod.mk.inj (hcreate.symm.trans hready)
      cases hc
      obtain ⟨q, x, hcollect, hanswers⟩ := htried.answers rfl
      obtain ⟨-, rfl, -⟩ := Activity.comes_done_iff.mp hcollect
      obtain ⟨hr, hprinted⟩ := hanswers.printed rfl hformat
      rw [hr, ← work_dryRun loaded bareSite 1] at hcourse
      exact ⟨loaded, l, _, text, hload, hcourse, htried.work, hprinted⟩
  | none hfailed => cases hcreate.symm.trans hfailed

end Mode

end MetricsAgent
