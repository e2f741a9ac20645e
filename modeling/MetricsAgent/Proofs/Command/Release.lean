import MetricsAgent.Command.Mode
import MetricsAgent.Proofs.Collection.Loading
import MetricsAgent.Proofs.Run.Restraint
import MetricsAgent.Proofs.Run.Spacing

/-!
# Everything is given back

Whatever a mode of the agent comes to, the collector that was created for it is closed once, after
all other calls, and no session is left open.  The work of a mode is restrained
(`World.Restrained`), so it neither closes the collector nor a session, and opens at most one; what
remains is what closing does in the end, which happens whether or not the work fails
(`Script.run_ensuring`).  Before the collector is closed on every way out nothing can fail:
creating it has found the name of the engine already.
-/

namespace MetricsAgent

open Script World

/-! ## Closing -/

namespace World

variable {T : Type} {w u v : World T}

/-- The collector is closed. -/
def collectorClosed (w : World T) : World T :=
  { w.record .close with collector := { w.collector with initialized := false } }

/-- The session is closed if the agent has opened it. -/
def sessionClosed (w : World T) : World T :=
  if w.ownsSession then
    { (match w.session with
      | .opened => w.record .sessionClose
      | _ => w) with session := .absent }
  else w

@[simp] lemma uses_collectorClosed (w : World T) :
    w.collectorClosed.uses = w.uses ++ [.close] :=
  w.uses_record .close

@[simp] lemma sessions_collectorClosed (w : World T) : w.collectorClosed.sessions = w.sessions := by
  refine (w.sessions_record .close).trans ?_
  simp [Event.isSession]

@[simp] lemma session_collectorClosed (w : World T) : w.collectorClosed.session = w.session := rfl

@[simp] lemma uses_sessionClosed (w : World T) : w.sessionClosed.uses = w.uses := by
  unfold sessionClosed
  split
  · cases w.session with
    | opened =>
      refine (w.uses_record .sessionClose).trans ?_
      simp [Event.isUse]
    | absent | closed => rfl
  · rfl

/-- One session was opened at most, and none is open any more. -/
structure Visited (w v : World T) : Prop where
  sessions : v.sessions = w.sessions ∨ ∃ timeout headers,
    v.sessions = w.sessions ++ [.sessionOpen timeout headers, .sessionClose]
  session : v.session = .absent

/-- A session that was opened is closed. -/
lemma visited_sessionClosed {opens : Prop} (h : Connects opens w u)
    (habsent : w.session = .absent) : Visited w u.sessionClosed := by
  unfold sessionClosed
  cases h with
  | kept session owns sessions =>
    rw [session, habsent]
    split
    · exact ⟨.inl sessions, rfl⟩
    · exact ⟨.inl sessions, session.trans habsent⟩
  | opened timeout headers _ _ session owns sessions =>
    rw [if_pos owns, session]
    refine ⟨.inr ⟨timeout, headers, ?_⟩, rfl⟩
    refine (u.sessions_record .sessionClose).trans ?_
    rw [sessions, List.append_assoc]
    rfl

/-- Of the collector one call is made any number of times, and then it is closed; no session is left
open. -/
structure Released (call : Event) (w v : World T) : Prop extends Visited w v where
  uses : ∃ calls, v.uses = w.uses ++ calls ++ [.close] ∧ ∀ e ∈ calls, e = call

/-- Work that touches neither the collector nor a session. -/
abbrev Idle : World T → World T → Prop :=
  Restrained (fun _ => False) False

namespace Visited

lemma of_connects (h : Connects False w v) (habsent : w.session = .absent) : Visited w v :=
  ⟨.inl h.of_not_opens.2, h.of_not_opens.1.trans habsent⟩

lemma idle_left (h : Connects False w u) (h' : Visited u v) : Visited w v :=
  ⟨by rw [← h.of_not_opens.2]; exact h'.sessions, h'.session⟩

lemma idle_right (h : Visited w u) (h' : Connects False u v) : Visited w v :=
  ⟨by rw [h'.of_not_opens.2]; exact h.sessions, h'.of_not_opens.1.trans h.session⟩

end Visited

namespace Released

variable {call : Event}

lemma idle_left (h : Idle w u) (h' : Released call u v) : Released call w v :=
  ⟨.idle_left h.connects h'.toVisited, by rw [← h.uses_eq]; exact h'.uses⟩

lemma idle_right (h : Released call w u) (h' : Idle u v) : Released call w v :=
  ⟨h.toVisited.idle_right h'.connects, by rw [h'.uses_eq]; exact h.uses⟩

end Released
end World

open Restrained

/-! ## Creation -/

namespace Catalogue

variable {T : Type} [Seconds T] {K : World T → World T → Prop}

lemma keeps_engineName (hK : Lasting K) (s : Settings) :
    (engineName s : Script T String).Keeps K := by
  unfold engineName
  split
  · exact hK.pure _
  · exact hK.throw _

lemma keeps_findClass (hK : Lasting K) (c : Catalogue T) (engine : String) :
    (c.findClass engine).Keeps K := by
  refine hK.bind (hK.log _ _ _) fun _ => ?_
  split
  · exact hK.throw _
  · refine hK.when (hK.log _ _ _) (hK.bind (hK.log _ _ _) fun _ => ?_)
    split
    · split <;> exact hK.throw _
    · split
      · exact hK.pure _
      · exact hK.throw _

lemma keeps_choose (hK : Lasting K) (c : Catalogue T) (s : Settings) :
    (c.choose s).Keeps K := by
  unfold choose
  split
  · split
    · exact hK.pure _
    · exact hK.throw _
  · exact hK.bind (keeps_engineName hK s) fun engine => c.keeps_findClass hK engine

/-- To create a collector is to configure it and no more. -/
theorem keeps_create (hK : Lasting K) (c : Catalogue T) (s : Settings)
    (hcall : ∀ w, K w (w.record (.configure (collectorConfig s))))
    (hstate : ∀ (w : World T) (k : CollectorState), K w { w with collector := k }) :
    (c.create s).Keeps K := by
  have hmake (k : CollectorClass T) : (make k s).Keeps K := by
    refine hK.recover (hK.bind ?_ fun collector => ?_) fun f => ?_
    · unfold instantiate
      split
      · exact hK.throw _
      · split
        · exact hK.throw _
        · exact hK.pure _
    · exact hK.bind (collector.keeps_configure hK hcall hstate) fun _ => hK.pure _
    · split <;> exact hK.throw _
  rw [create_eq]
  refine hK.bind (c.keeps_choose hK s) fun k => hK.bind (hmake k) fun collector => ?_
  refine hK.bind (keeps_engineName hK s) fun engine => hK.bind (hK.log _ _ _) ?_
  exact fun _ => hK.pure _

theorem restrained_create (c : Catalogue T) (s : Settings) :
    (c.create s).Keeps (Restrained (· = .configure (collectorConfig s)) False) :=
  c.keeps_create lasting s (.record_call (by rfl) rfl) fun _ _ => .of_same rfl rfl rfl

/-- Where a collector was created, the engine is known. -/
lemma exists_engine_of_create {c : Catalogue T} {s : Settings} {w u : World T} {k : Collector T}
    (h : (c.create s).run w = (.ok k, u)) : ∃ e, s.database.resolvedEngine? = some e := by
  cases hengine : s.database.resolvedEngine? with
  | some e => exact ⟨e, rfl⟩
  | none =>
    have hfail (v : World T) : ∃ f, (engineName s : Script T String).run v = (.error f, v) :=
      ⟨_, by rw [engineName, hengine]; rfl⟩
    rw [create_eq] at h
    rcases hchoose : (c.choose s).run w with ⟨f | chosen, v⟩
    · rw [run_bind_error hchoose] at h
      cases h
    rw [run_bind_ok hchoose] at h
    rcases hmake : (make chosen s).run v with ⟨f | collector, x⟩
    · rw [run_bind_error hmake] at h
      cases h
    obtain ⟨f, hname⟩ := hfail x
    rw [run_bind_ok hmake, run_bind_error hname] at h
    cases h

lemma run_engineName {s : Settings} {e : Engine} (h : s.database.resolvedEngine? = some e)
    (w : World T) : (engineName s).run w = (.ok e.name, w) := by
  rw [engineName, h]
  rfl

end Catalogue

/-! ## Modes -/

namespace Endpoint

variable {T : Type} [Seconds T] {R : Type}

lemma run_closing (s : Script T R) (w : World T) :
    (closing s).run w = ((s.run w).1, (s.run w).2.sessionClosed) :=
  run_ensuring (fun _ => rfl) s w

/-- Whatever the work comes to, the session that it has opened is closed after it. -/
lemma visited_closing {call : Event → Prop} {s : Script T R}
    (hs : s.Keeps (Restrained call True)) {w : World T} (habsent : w.session = .absent) :
    Visited w ((closing s).run w).2 ∧
      ∃ calls, ((closing s).run w).2.uses = w.uses ++ calls ∧ ∀ e ∈ calls, call e := by
  rw [run_closing, uses_sessionClosed]
  exact ⟨visited_sessionClosed (hs w).connects habsent, (hs w).uses⟩

end Endpoint

namespace Mode

variable {T : Type} [Seconds T] {R : Type} {call : Event → Prop} {opens : Prop}

lemma run_closing (s : Script T R) (w : World T) :
    (closing s).run w = ((s.run w).1, (s.run w).2.collectorClosed) :=
  run_ensuring (fun _ => rfl) s w

lemma keeps_sayThen (ending text : String) :
    (Console.sayThen ending text : Script T Unit).Keeps (Restrained call opens) := by
  unfold Console.sayThen
  split
  · exact fun _ => .of_same rfl rfl rfl
  · exact lasting.throw _

lemma restrained_installHandlers (w : World T) :
    Restrained call opens w w.installHandlers := by
  refine lasting.foldl (fun w s => ?_) StopSignal.all w
  have hhandler (e : Event) (huse : e.isUse = false) (hsession : e.isSession = false) :
      Restrained call opens w { w.record e with handled := w.handled ++ [s] } :=
    lasting.trans (.record huse hsession w) (.of_same rfl rfl rfl)
  have hlogged (u : World T) (message : String) :
      Restrained call opens u (u.logLine .debug .shutdown message) :=
    .of_same rfl rfl rfl
  dsimp only
  refine lasting.trans (lasting.trans ?_ (lasting.foldl ?_ _ _)) (hlogged _ _)
  · cases w.fallbackHandlers with
    | false => exact hhandler _ rfl rfl
    | true => exact hhandler _ rfl rfl
  · intro w signal
    exact .of_same rfl rfl rfl

lemma keeps_say (text : String) :
    (Console.say text : Script T Unit).Keeps (Restrained call opens) :=
  keeps_sayThen _ text

/-! ## The collector -/

/-- Whatever the work comes to, the collector is closed after it. -/
lemma uses_closing {s : Script T R} (hs : s.Keeps (Restrained call opens)) (w : World T) :
    ∃ calls, ((closing s).run w).2.uses = w.uses ++ calls ++ [.close] ∧ ∀ e ∈ calls, call e := by
  obtain ⟨calls, huses, hcalls⟩ := (hs w).uses
  refine ⟨calls, ?_, hcalls⟩
  rw [run_closing, uses_collectorClosed, huses]

omit [Seconds T] in
lemma connects_collectorClosed {w u : World T} (h : Connects opens w u) :
    Connects opens w u.collectorClosed :=
  h.trans (.kept rfl rfl (sessions_collectorClosed u))

lemma connects_closing {s : Script T R} (hs : s.Keeps (Restrained call opens)) (w : World T) :
    Connects opens w ((closing s).run w).2 := by
  rw [run_closing]
  exact connects_collectorClosed (hs w).connects

/-! ## The three modes -/

/-- The call that the collector is there for in a mode. -/
def purpose : Mode → Event
  | .agent => .collect
  | .dryRun => .collect
  | .connectionTest => .testConnection

theorem released_tryOut (c : Collector T) (out : Stream) {w : World T}
    (habsent : w.session = .absent) : Released .collect w ((tryOut c out).run w).2 := by
  have honce : (Cycle.runOnce c out).Keeps (Restrained (· = .collect) False) :=
    Cycle.keeps_runOnce c (by rfl) out
  exact ⟨.of_connects (connects_closing honce w) habsent, uses_closing honce w⟩

/-- Cycles on a schedule call for metrics, and the session that they deliver with is closed. -/
lemma run_cycles (s : Settings) (site : Site T) (c : Collector T) (limit : ℕ) {w : World T}
    (habsent : w.session = .absent) :
    Visited w ((cycles s site c limit).run w).2 ∧ ∃ calls,
      ((cycles s site c limit).run w).2.uses = w.uses ++ calls ∧ ∀ e ∈ calls, e = .collect := by
  have hupload : ∀ send ∈ some (endpoint s site).upload, ∀ p,
      (send p).Keeps (Restrained (· = .collect) True) := by
    intro send hsend p
    rw [← Option.some.inj hsend]
    exact (endpoint s site).keeps_upload lasting (allowsDelivering trivial) p
  have hrun (plan : Schedule T) : (plan.run c (some (endpoint s site).upload) limit).Keeps
      (Restrained (· = .collect) True) :=
    plan.keeps_run c (by rfl) hupload limit
  refine Endpoint.visited_closing ?_ habsent
  split
  · exact lasting.bind (hrun _) fun _ => lasting.pure ()
  · exact lasting.throw _

theorem released_serve (l : Settings.Loaded) (site : Site T) (c : Collector T) (limit : ℕ)
    {engine : Engine} (hengine : l.settings.database.resolvedEngine? = some engine)
    {w : World T} (habsent : w.session = .absent) :
    Released .collect w ((serve l site c limit).run w).2 := by
  have hclosed {u : World T} (hu : u.session = .absent) :
      Released .collect u ((closing (cycles l.settings site c limit)).run u).2 := by
    obtain ⟨hvisited, calls, huses, hcalls⟩ := run_cycles l.settings site c limit hu
    rw [run_closing]
    refine ⟨⟨?_, hvisited.session⟩, calls, ?_, hcalls⟩
    · rw [sessions_collectorClosed]
      exact hvisited.sessions
    · rw [uses_collectorClosed, huses]
  unfold serve
  rw [run_bind_ok (Catalogue.run_engineName hengine w), run_bind_ok (run_log _ _ _ w),
    run_bind_ok (run_change _ _)]
  -- Nothing has failed so far, and what was done is idle.
  have hdescribed : Idle w (Reporting.describeAgent engine.name
      (some l.settings.database.provider.name)
      (some (.int l.settings.collection.interval)) (l.source.map FilePath.text)
      (w.logLine .info .runner ("Starting dbpulse " ++ agentVersion ++ " (database: "
        ++ engine.name ++ ", interval: " ++ signedText l.settings.collection.interval ++ "s)"))) :=
    lasting.trans (lasting.log _ _ _ w) (lasting.describeAgent allowsReporting _ _ _ _ _)
  refine .idle_left hdescribed ?_
  refine (hclosed (hdescribed.connects.of_not_opens.1.trans habsent)).idle_right ?_
  exact lasting.after _ (fun _ => lasting.log _ _ _) _

lemma keeps_checkDatabase (engine : String) (c : Collector T) :
    (checkDatabase engine c).Keeps (Restrained (· = .testConnection) opens) := by
  refine lasting.bind (keeps_sayThen _ _) fun _ => ?_
  refine lasting.bind (lasting.recover (c.keeps_testConnection (by rfl)) fun f => ?_) fun _ =>
    lasting.bind (keeps_say _) fun _ => keeps_say _
  split
  · exact lasting.bind (keeps_say _) fun _ => lasting.throw _
  · exact lasting.throw _

/-- The session of the check of an endpoint is closed, whether or not the check succeeds. -/
lemma run_checkEndpoint (e : Endpoint T) {w : World T} (habsent : w.session = .absent) :
    Visited w ((checkEndpoint e).run w).2 ∧ ((checkEndpoint e).run w).2.uses = w.uses := by
  have hprobe : Script.Keeps (Restrained (fun _ => False) True) (e.probe.recover fun f => do
      if f.isDelivery then Console.say failedMark
      throw f) :=
    lasting.recover (e.keeps_probe lasting (allowsDelivering trivial)) fun f =>
      lasting.when (keeps_say _) (lasting.throw f)
  have hbegin : Idle w ((Console.sayThen "" ("Testing ingestion endpoint "
      ++ Markup.escape e.settings.endpoint ++ "... ")).run w).2 :=
    keeps_sayThen _ _ w
  unfold checkEndpoint Console.begin
  rcases hrun : (Console.sayThen "" ("Testing ingestion endpoint "
    ++ Markup.escape e.settings.endpoint ++ "... ") : Script T Unit).run w with ⟨f | r, u⟩ <;>
    rw [hrun] at hbegin
  · rw [run_bind_error hrun]
    exact ⟨.of_connects hbegin.connects habsent, hbegin.uses_eq⟩
  · rw [run_bind_ok hrun]
    have hu := hbegin.connects.of_not_opens.1.trans habsent
    have hlast := lasting.after (K := Idle) (Endpoint.closing (e.probe.recover fun f => do
      if f.isDelivery then Console.say failedMark
      throw f)) (fun _ => keeps_say passedMark) u
    rw [Endpoint.run_closing] at hlast
    have hvisited := visited_sessionClosed (hprobe u).connects hu
    refine ⟨.idle_left hbegin.connects (hvisited.idle_right hlast.connects), ?_⟩
    rw [hlast.uses_eq, uses_sessionClosed, (hprobe u).uses_eq, hbegin.uses_eq]

theorem released_checkConnections (s : Settings) (site : Site T) (c : Collector T) {w : World T}
    (habsent : w.session = .absent) :
    Released .testConnection w ((checkConnections s site c).run w).2 := by
  have hdatabase : Script.Keeps (Restrained (· = .testConnection) False) (do
      checkDatabase (← Catalogue.engineName s) c : Script T Unit) :=
    lasting.bind (Catalogue.keeps_engineName lasting s) fun engine => keeps_checkDatabase engine c
  have hconnects := connects_closing hdatabase w
  obtain ⟨calls, huses, hcalls⟩ := uses_closing hdatabase w
  unfold checkConnections
  rcases hrun : (closing (do
    checkDatabase (← Catalogue.engineName s) c) : Script T Unit).run w with ⟨f | r, u⟩ <;>
    rw [hrun] at hconnects huses
  · rw [run_bind_error hrun]
    exact ⟨.of_connects hconnects habsent, calls, huses, hcalls⟩
  · rw [run_bind_ok hrun]
    obtain ⟨hvisited, hsame⟩ :=
      run_checkEndpoint (endpoint s site) (hconnects.of_not_opens.1.trans habsent)
    exact ⟨.idle_left hconnects hvisited, calls, hsame.trans huses, hcalls⟩

/-! ## All modes -/

/-- What a mode leaves behind: if the collector was created, it was configured, called for its
purpose any number of times and closed, in this order; and no session is left open. -/
structure Clean (m : Mode) (l : Settings.Loaded) (site : Site T) (w v : World T) : Prop
    extends Visited w v where
  uses {c u} : (site.catalogue.create l.settings).run w = (.ok c, u) →
    ∃ configurations calls, v.uses = w.uses ++ configurations ++ calls ++ [.close] ∧
      (∀ e ∈ configurations, e = .configure (Catalogue.collectorConfig l.settings)) ∧
      ∀ e ∈ calls, e = m.purpose

namespace Clean

variable {m : Mode} {l : Settings.Loaded} {site : Site T} {w u v : World T}

/-- Where no collector was created, there is nothing to close. -/
lemma of_error {f : Fault} (hrun : (site.catalogue.create l.settings).run w = (.error f, u))
    (habsent : w.session = .absent) : m.Clean l site w u := by
  have hcreate := site.catalogue.restrained_create l.settings w
  rw [hrun] at hcreate
  refine ⟨.of_connects hcreate.connects habsent, ?_⟩
  intro c u hcreated
  cases hrun.symm.trans hcreated

/-- Where the collector was created, it has to be released from then on. -/
lemma of_released {c : Collector T}
    (hrun : (site.catalogue.create l.settings).run w = (.ok c, u))
    (hreleased : Released m.purpose u v) : m.Clean l site w v := by
  have hcreate := site.catalogue.restrained_create l.settings w
  rw [hrun] at hcreate
  obtain ⟨configurations, hconfigured, hconfigurations⟩ := hcreate.uses
  refine ⟨.idle_left hcreate.connects hreleased.toVisited, ?_⟩
  intro c u _
  obtain ⟨calls, huses, hcalls⟩ := hreleased.uses
  refine ⟨configurations, calls, ?_, hconfigurations, hcalls⟩
  rw [huses, hconfigured]

lemma idle_right (h : m.Clean l site w u) (h' : Idle u v) : m.Clean l site w v := by
  refine ⟨h.toVisited.idle_right h'.connects, ?_⟩
  intro c u hrun
  rw [h'.uses_eq]
  exact h.uses hrun

end Clean

theorem clean_work (m : Mode) (l : Settings.Loaded) (site : Site T) (limit : ℕ) {w : World T}
    (habsent : w.session = .absent) : m.Clean l site w ((m.work l site limit).run w).2 := by
  unfold work
  rcases hrun : (site.catalogue.create l.settings).run w with ⟨f | c, u⟩
  · rw [run_bind_error hrun]
    exact .of_error hrun habsent
  · have hcreate := site.catalogue.restrained_create l.settings w
    rw [hrun] at hcreate
    have hu := hcreate.connects.of_not_opens.1.trans habsent
    rw [run_bind_ok hrun]
    cases m with
    | agent =>
      obtain ⟨engine, hengine⟩ := Catalogue.exists_engine_of_create hrun
      have hhandlers : Idle u u.installHandlers := restrained_installHandlers u
      have hserved := released_serve l site c limit hengine
        (hhandlers.connects.of_not_opens.1.trans hu)
      exact .of_released hrun (hserved.idle_left hhandlers)
    | dryRun => exact .of_released hrun (released_tryOut c .standard hu)
    | connectionTest =>
      refine .of_released hrun ((released_checkConnections l.settings site c hu).idle_right ?_)
      exact lasting.after _ (fun _ => keeps_say _) u

/-- What a mode says in the end about how it ended is idle. -/
lemma idle_status (s : Script T Unit) (w : World T) :
    Idle (s.run w).2 ((status s).run w).2 := by
  have hattempt : (s.attempt.run w).2 = (s.run w).2 := by rw [run_attempt]
  rw [← hattempt]
  refine lasting.after s.attempt (fun outcome => ?_) w
  split
  · exact lasting.pure 0
  · split
    · exact lasting.throw _
    · split
      · exact lasting.bind (lasting.tell _) fun _ => lasting.bind (keeps_say _) fun _ => lasting.pure 1
      · exact lasting.bind (.change (lasting.capture allowsReporting _ _ _)) fun _ =>
          lasting.bind (lasting.tell _) fun _ => lasting.bind (keeps_say _) fun _ => lasting.pure 1

/-- Whatever a mode comes to, it closes the collector that was created for it once and after all
other calls, and leaves no session open; nor does this change while its status is told. -/
theorem clean_of_absent (m : Mode) (l : Settings.Loaded) (site : Site T) (limit : ℕ) (w : World T)
    (habsent : w.session = .absent) :
    m.Clean l site w ((m.work l site limit).run w).2 ∧
      m.Clean l site w ((m.run l site limit).run w).2 := by
  have hwork := m.clean_work l site limit habsent
  exact ⟨hwork, hwork.idle_right (idle_status _ w)⟩

/-- A site where the collector of the settings is found. -/
def timedSite : Site ℚ where
  catalogue := ⟨[("m", .ok [("C", .collector (.timed []) [])])], []⟩
  replies _ := .immediate 200 (.ok "")

/-- A signal ends the agent. -/
theorem clean_of_absent_timedSite : ∃ l c u,
    Settings.load Catalogue.namingHost (some "c.yaml") (Command.overrides none) = .ok l ∧
      let w : World ℚ := { World.start 0 with signals := [(.terminate, 100)] }
      (timedSite.catalogue.create l.settings).run w = (.ok c, u) ∧
        Mode.agent.Clean l timedSite w ((Mode.agent.work l timedSite 10).run w).2 := by
  obtain ⟨l, hload, hpath⟩ := Catalogue.load_namingHost
  obtain ⟨es, hes, hcheck⟩ := Settings.exists_check_of_load hload
  obtain ⟨e, hengine⟩ := (Settings.usable_of_supplied hes hcheck).database.engine
  have hselection : Catalogue.Selection timedSite.catalogue l.settings
      (.ok (.complete (.timed []))) :=
    .named hpath (Catalogue.loadClass_only _)
  obtain ⟨u, hrun, -⟩ := Catalogue.run_create_of_complete hselection rfl hengine
    { World.start 0 with signals := [(.terminate, 100)] }
  exact ⟨l, _, u, hload, hrun, (clean_of_absent .agent l timedSite 10 _ rfl).1⟩

end Mode
end MetricsAgent
