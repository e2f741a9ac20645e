import MetricsAgent.Proofs.Command.Release
import MetricsAgent.Proofs.Console.Saying
import MetricsAgent.Proofs.Run.Indifference
import MetricsAgent.Proofs.Settings.Rereading

/-!
# The status tells how it went

A mode comes to a status, nought or one, and it is one exactly if the mode failed at what it is there
for (`Mode.run_eq_one_iff`): whatever it is that fails, it is a fault of the agent's own by the time
the status is told, and only such faults have one (`Mode.run_status`).  That rests on three things.
Everything that is said on the console can be shown (`Console.run_say`).  What a collector or an
endpoint fails with is wrapped before it is passed on.  A run on a schedule takes no notice of cycles
that fail in ordinary ways (`Schedule.succeeds_course`), so it fails only if its schedule cannot be
made, and that of loaded settings can.

A collector and what it gathers are somebody else's, and so this reckons with collectors whose faults
can be told (`Collector.Sound`).  What is gathered is made of whole characters, so a stream takes every
text of it.
-/

namespace MetricsAgent

open Script

/-! ## The status -/

/-- A fault of one of the agent's own families that can be told; all others are passed on. -/
structure Fault.IsOwn (f : Fault) : Prop where
  family : f.isForeign = false
  tellable : f.Tellable

/-- Some work succeeds, or fails with a fault of the agent's own; and it fails exactly if a condition
holds. -/
inductive Ends (fails : Prop) : Except Fault Unit → Prop
  | well (hfails : ¬ fails) : Ends fails (.ok ())
  | badly {f : Fault} (hown : f.IsOwn) (hfails : fails) : Ends fails (.error f)

namespace Ends

variable {T : Type} [Seconds T] {fails fails' : Prop} {s : Script T Unit} {w : World T}

/-- Work after work: what fails first ends both. -/
lemma bind {f : Unit → Script T Unit} (hs : Ends fails (s.run w).1)
    (hf : (s.run w).1 = .ok () → Ends fails' ((f ()).run (s.run w).2).1) :
    Ends (fails ∨ fails') ((s >>= f).run w).1 := by
  rcases hrun : s.run w with ⟨e | _, u⟩ <;> rw [hrun] at hs hf
  · rw [run_bind_error hrun]
    cases hs with
    | badly hown hfails => exact .badly hown (.inl hfails)
  · rw [run_bind_ok hrun]
    cases hs with
    | well hfails =>
      have hnext := hf rfl
      generalize ((f ()).run u).1 = outcome at hnext
      cases hnext with
      | well hfails' => exact .well (not_or.mpr ⟨hfails, hfails'⟩)
      | badly hown hfails' => exact .badly hown (.inr hfails')

/-- Something that succeeds is done after some work. -/
lemma before {f : Unit → Script T Unit} (hs : Ends fails (s.run w).1)
    (hf : ∀ u, ∃ v, (f ()).run u = (.ok (), v)) : Ends fails ((s >>= f).run w).1 := by
  rcases hrun : s.run w with ⟨e | _, u⟩ <;> rw [hrun] at hs
  · rw [run_bind_error hrun]
    exact hs
  · obtain ⟨v, hv⟩ := hf u
    rw [run_bind_ok hrun, hv]
    exact hs

/-- A fault is looked at and passed on. -/
lemma recover {f : Fault → Script T Unit} (hs : Ends fails (s.run w).1)
    (hf : ∀ e u, ∃ v, (f e).run u = (.error e, v)) : Ends fails ((s.recover f).run w).1 := by
  rcases hrun : s.run w with ⟨e | _, u⟩ <;> rw [hrun] at hs
  · obtain ⟨v, hv⟩ := hf e u
    rw [run_recover_error hrun, hv]
    exact hs
  · rw [run_recover_ok hrun]
    exact hs

end Ends

namespace Mode

variable {T : Type} [Seconds T] {fails : Prop}

/-- The status is one exactly if the work fails. -/
lemma run_status {s : Script T Unit} {w : World T} (h : Ends fails (s.run w).1) :
    ∃ n u, (status s).run w = (.ok n, u) ∧ (n = 0 ∨ n = 1) ∧ (n = 1 ↔ fails) := by
  have hattempt := run_attempt s w
  rcases hrun : s.run w with ⟨f | _, u⟩ <;> rw [hrun] at h hattempt
  · obtain ⟨hown, hfails⟩ : f.IsOwn ∧ fails := by
      cases h with
      | badly hown hfails => exact ⟨hown, hfails⟩
    have hone : (1 : ℤ) = 0 ∨ (1 : ℤ) = 1 := .inr rfl
    unfold status
    rw [run_bind_ok hattempt]
    dsimp only
    rw [if_neg (by simp [hown.family]), tell_of_tellable hown.tellable]
    split
    · obtain ⟨shown, hsaid⟩ := Console.run_say (T := T) (shows_loadingFault f.text) u
      rw [run_bind_ok (run_pure f.text u)]
      exact ⟨1, _, run_bind_ok hsaid, hone, iff_of_true rfl hfails⟩
    · rw [run_bind_ok (run_change _ u), run_bind_ok (run_pure f.text _)]
      obtain ⟨shown, hsaid⟩ := Console.run_say (T := T) (shows_fault f.text)
        (Reporting.capture "oneshot" f [] u)
      exact ⟨1, _, run_bind_ok hsaid, hone, iff_of_true rfl hfails⟩
  · have hfails : ¬ fails := by
      cases h with
      | well hfails => exact hfails
    unfold status
    rw [run_bind_ok hattempt]
    exact ⟨0, u, rfl, .inl rfl, iff_of_false (by decide) hfails⟩

end Mode

/-! ## One collection -/

/-- A collector as the agent may meet one: what it is asked for may fail in ordinary ways that can be
told, and its provider is written without markup. -/
structure Collector.Sound {T : Type} (c : Collector T) : Prop where
  provider : '[' ∉ c.provider.toList
  tracking : c.trackingFault = none
  connection : ∀ f ∈ c.connectionFault, f.isOrdinary = true ∧ f.Tellable
  result {n : ℕ} {at_ : DateTime} {f : Fault} :
    (c.collections n).result at_ = .error f → f.isOrdinary = true ∧ f.Tellable

namespace Collector

variable {c : Collector ℚ}

lemma Sound.ordinary {T : Type} {c : Collector T} (h : c.Sound) : c.Ordinary where
  tracking hf := by rw [h.tracking] at hf; cases hf
  result hf := (h.result hf).1

/-- What the next call for metrics comes to, at the time at which it is over. -/
def outcome (c : Collector ℚ) (w : World ℚ) : Except Fault Collected :=
  (c.collections w.collector.calls).result
    { w with now := w.now + max 0 (c.collections w.collector.calls).delay }.clock

/-- A collection fails, or what it has gathered cannot be printed. -/
def FailsOnce (c : Collector ℚ) (w : World ℚ) : Prop :=
  (∃ f, c.outcome w = .error f) ∨
    ∃ p e, c.outcome w = .ok p ∧ p.format Json.indented = .error e

/-- The time of day after a pause and a request to stop. -/
lemma clock_after (delay : ℚ) (reason : Option String) (w : World ℚ) :
    ∃ u v, (sleep delay).run w = (.ok (), u) ∧ (requestStop reason).run u = (.ok (), v) ∧
      v.clock = { w with now := w.now + max 0 delay }.clock := by
  obtain ⟨u, hsleep, hquiet, hnow⟩ : ∃ u, (sleep delay).run w = (.ok (), u) ∧ w.Quiet u ∧
      u.now = w.now + max 0 delay := by
    rw [run_sleep]
    by_cases hdelay : 0 < delay
    · refine ⟨_, by rw [if_pos (by simpa using hdelay)], w.quiet_pass false _, ?_⟩
      rw [World.now_pass_false, Seconds.add_rat, max_eq_right hdelay.le, max_eq_right (by linarith)]
    · refine ⟨w, by rw [if_neg (by simpa using hdelay)], .refl w, ?_⟩
      rw [max_eq_left (not_lt.mp hdelay), add_zero]
  obtain ⟨v, hstop, hquiet', hnow'⟩ : ∃ v, (requestStop reason).run u = (.ok (), v) ∧
      u.Quiet v ∧ v.now = u.now := by
    cases reason with
    | none => exact ⟨u, rfl, .refl u, rfl⟩
    | some r => exact ⟨_, rfl, u.quiet_requestStop r, u.now_requestStop r⟩
  refine ⟨u, v, hsleep, hstop, ?_⟩
  obtain ⟨_, _, _, _, _, _, rfl⟩ := hquiet.trans hquiet'
  rw [← hnow, ← hnow']
  rfl

lemma run_collect (c : Collector ℚ) (w : World ℚ) :
    ∃ u, c.collect.run w = (c.outcome w, u) := by
  let called : World ℚ := { w.record .collect with
    collector := { w.collector with calls := w.collector.calls + 1 } }
  obtain ⟨u, v, hsleep, hstop, hclock⟩ :=
    clock_after (c.collections w.collector.calls).delay
      (c.collections w.collector.calls).stopReason called
  refine ⟨v, ?_⟩
  unfold collect
  rw [run_bind_ok (run_record _ w), run_bind_ok (run_world _)]
  refine (run_bind_ok (run_change _ _)).trans ((run_bind_ok hsleep).trans
    ((run_bind_ok hstop).trans ?_))
  have houtcome :
      (c.collections (w.record .collect).collector.calls).result v.clock = c.outcome w := by
    rw [hclock]
    rfl
  rw [run_bind_ok (run_world v), houtcome]
  cases c.outcome w <;> rfl

lemma Sound.of_outcome (h : c.Sound) {w : World ℚ} {f : Fault}
    (hf : c.outcome w = .error f) : f.isOrdinary = true ∧ f.Tellable :=
  h.result hf

/-- Whatever a collection fails with, it is passed on as a fault of collection. -/
lemma run_trackedCollect (h : c.Sound) (w : World ℚ) :
    ∃ u, c.trackedCollect.run w = ((c.outcome w).mapError asCollectionFault, u) := by
  let begun : World ℚ :=
    { w with collector := { w.collector with totals := w.collector.totals.begun } }
  have hbegun : (changeTotals CollectionTotals.begun : Script ℚ Unit).run w = (.ok (), begun) := rfl
  have hnone : (failWith none : Script ℚ Unit).run w = (.ok (), w) := rfl
  obtain ⟨u, hcollect⟩ : ∃ u, c.collect.run begun = (c.outcome w, u) := c.run_collect begun
  have hattempt := run_attempt c.collect begun
  rw [hcollect] at hattempt
  unfold trackedCollect
  rw [h.tracking]
  dsimp only
  rw [if_neg (by simp), run_bind_ok hnone, run_bind_ok hbegun, run_bind_ok (run_world _),
    run_bind_ok hattempt]
  cases houtcome : c.outcome w with
  | ok p => exact ⟨_, rfl⟩
  | error f =>
    dsimp only
    rw [if_pos (h.of_outcome houtcome).1]
    exact ⟨_, rfl⟩

lemma isOwn_asCollectionFault {f : Fault} (h : f.Tellable) : (asCollectionFault f).IsOwn :=
  ⟨Fault.isForeign_of_isCollection (isCollection_asCollectionFault h), tellable_asCollectionFault h⟩

end Collector

namespace Mode

variable {c : Collector ℚ}

/-- Printing one collection fails exactly if the collection does, or if it cannot be printed. -/
lemma ends_tryOut (h : c.Sound) (out : Stream) (w : World ℚ) :
    Ends (c.FailsOnce w) ((tryOut c out).run w).1 := by
  unfold tryOut
  rw [run_closing]
  obtain ⟨u, htracked⟩ : ∃ u, c.trackedCollect.run
      (w.logLine .info .scheduler "Running single collection (dry run)")
        = ((c.outcome w).mapError Collector.asCollectionFault, u) := c.run_trackedCollect h _
  have hattempt := run_attempt c.trackedCollect
    (w.logLine .info .scheduler "Running single collection (dry run)")
  rw [htracked] at hattempt
  unfold Cycle.runOnce
  rw [run_bind_ok (run_log _ _ _ w), run_bind_ok hattempt]
  cases houtcome : c.outcome w with
  | error f =>
    have hfails : c.FailsOnce w := .inl ⟨f, houtcome⟩
    have htellable : f.Tellable := (h.of_outcome houtcome).2
    obtain ⟨stage, hstage⟩ := Option.isSome_iff_exists.mp
      (Collector.isCollection_asCollectionFault htellable)
    dsimp only [Except.mapError]
    simp only [hstage]
    rw [run_bind_ok (run_logFault _ _ _ _ u),
      tell_of_tellable (Collector.tellable_asCollectionFault htellable)]
    exact .badly ⟨rfl, rfl⟩ hfails
  | ok p =>
    dsimp only [Except.mapError]
    cases hformat : p.format Json.indented with
    | error e => exact .badly ⟨rfl, rfl⟩ (.inr ⟨p, e, houtcome, hformat⟩)
    | ok text =>
      refine .well ?_
      rintro (⟨f, hf⟩ | ⟨p', e, hp, he⟩)
      · rw [houtcome] at hf
        cases hf
      · rw [houtcome] at hp
        cases hp
        rw [hformat] at he
        cases he

end Mode

/-! ## Connections -/

/-- What may come back for a request: it fails in the ways of the network, or it is answered with a
body that can be read. -/
structure Reply.Sound {T : Type} (r : Reply T) : Prop where
  failure : ∀ f ∈ r.failure, f.isTransport = true ∨ f.isTimeout = true
  body : ∃ text, r.body = .ok text

/-- A health probe was answered with success. -/
def Reply.Healthy {T : Type} (r : Reply T) : Prop :=
  r.failure = none ∧ 200 ≤ r.status ∧ r.status < 300

/-- A fault of the network may be handled. -/
lemma Fault.isOrdinary_of_network {f : Fault} (h : f.isTransport = true ∨ f.isTimeout = true) :
    f.isOrdinary = true := by
  have hkinds : ∀ k ∈ transportKinds ++ timeoutKinds, !terminatingKinds.contains k := by decide
  rcases h with h | h
  · cases f with
    | foreign kind message cause =>
      exact hkinds kind (List.mem_append_left _ (by simpa [isTransport] using h))
    | _ => cases h
  · fun_induction isTimeout f with
    | case1 kind message cause => exact hkinds kind (List.mem_append_right _ (by simpa using h))
    | case2 f impediment ih => exact ih h
    | case3 => cases h

namespace Endpoint

variable {T : Type} [Seconds T] {e : Endpoint T}

omit [Seconds T] in
lemma isOwn_asRequestFault (e : Endpoint T) {f : Fault}
    (h : f.isTransport = true ∨ f.isTimeout = true) : (e.asRequestFault f).IsOwn := by
  unfold asRequestFault
  split
  · exact ⟨rfl, rfl⟩
  · next htransport =>
    rw [if_pos (h.resolve_left htransport)]
    exact ⟨rfl, rfl⟩

omit [Seconds T] in
lemma ordinary_of_sound (h : ∀ n, (e.replies n).Sound) : e.Ordinary where
  failure {n f} hf := Fault.isOrdinary_of_network ((h n).failure f hf)
  body {n f} hf := by
    obtain ⟨text, htext⟩ := (h n).body
    rw [htext] at hf
    cases hf

/-- A probe makes one request, and fails unless that is answered with success. -/
lemma ends_probe (h : ∀ n, (e.replies n).Sound) (w : World T) :
    Ends (¬ (e.replies w.requests).Healthy) (e.probe.run w).1 := by
  obtain ⟨u, hopen, hsilent⟩ := e.silent_openSession
    (w.logLine .debug .delivery ("Testing connection to " ++ healthUrl e.settings.endpoint))
  obtain ⟨v, hexchange, -⟩ :=
    e.run_exchange "GET" (healthUrl e.settings.endpoint) e.credentials none u
  have hrequests : u.requests = w.requests := hsilent.requests
  have hsound := h w.requests
  rw [hrequests] at hexchange
  unfold probe
  rw [run_bind_ok (run_log _ _ _ w), run_bind_ok hopen]
  generalize e.replies w.requests = r at hexchange hsound
  unfold Reply.arrival at hexchange
  cases hfailure : r.failure with
  | some f =>
    rw [hfailure] at hexchange
    have hfails : ¬ r.Healthy := fun hhealthy => by simp [hhealthy.1] at hfailure
    have hfault := run_recover_error (f := fun f => fail (e.asRequestFault f)) hexchange
    rw [run_bind_error hfault]
    exact .badly (e.isOwn_asRequestFault (hsound.failure f hfailure)) hfails
  | none =>
    rw [hfailure] at hexchange
    have harrived := run_recover_ok (f := fun f => fail (e.asRequestFault f)) hexchange
    rw [run_bind_ok harrived]
    by_cases hstatus : 200 ≤ r.status ∧ r.status < 300
    · rw [if_pos hstatus]
      exact .well (not_not_intro ⟨hfailure, hstatus⟩)
    · have hfails : ¬ r.Healthy := fun hhealthy => hstatus hhealthy.2
      rw [if_neg hstatus]
      split
      · exact .badly ⟨rfl, rfl⟩ hfails
      · exact .badly ⟨rfl, rfl⟩ hfails

end Endpoint

namespace Mode

variable {T : Type} [Seconds T] {c : Collector T}

/-- The check of an endpoint is that of its health. -/
lemma ends_checkEndpoint {e : Endpoint T} (h : ∀ n, (e.replies n).Sound) (w : World T) :
    Ends (¬ (e.replies w.requests).Healthy) ((checkEndpoint e).run w).1 := by
  obtain ⟨shown, hbegin⟩ := Console.run_begin (shows_endpoint e.settings.endpoint) w
  have hmarked (f : Fault) (u : World T) : ∃ v, (do
      if f.isDelivery then Console.say failedMark
      throw f : Script T Unit).run u = (.error f, v) := by
    by_cases hdelivery : f.isDelivery = true
    · obtain ⟨shown, hsaid⟩ := Console.run_say shows_failedMark u
      refine ⟨u.print .console shown, ?_⟩
      rw [if_pos hdelivery]
      exact run_bind_ok hsaid
    · refine ⟨u, ?_⟩
      rw [if_neg hdelivery]
      rfl
  unfold checkEndpoint
  rw [run_bind_ok hbegin]
  refine Ends.before ?_ fun u => ?_
  · rw [Endpoint.run_closing]
    exact (Endpoint.ends_probe h (w.print .console shown)).recover hmarked
  · obtain ⟨shown, hsaid⟩ := Console.run_say shows_passedMark u
    exact ⟨_, hsaid⟩

/-- The check of the database fails if there is no connection, and it asks nothing of the endpoint. -/
lemma ends_checkDatabase (h : c.Sound) (e : Engine) (w : World T) :
    ∃ r u, (checkDatabase e.name c).run w = (r, u) ∧ u.requests = w.requests ∧
      Ends (c.connectionFault.isSome = true) r := by
  obtain ⟨testing, hbegin⟩ := Console.run_begin (shows_testing e) w
  let tried : World T := (w.print .console testing).record .testConnection
  have hrecord : (record .testConnection).run (w.print .console testing) = (.ok (), tried) := rfl
  unfold checkDatabase
  rw [run_bind_ok hbegin]
  cases hfault : c.connectionFault with
  | none =>
    have htest : c.testConnection.run (w.print .console testing) = (.ok (), tried) := by
      unfold Collector.testConnection
      rw [run_bind_ok hrecord, hfault]
      rfl
    obtain ⟨passed, hpassed⟩ := Console.run_say shows_passedMark tried
    obtain ⟨shown, hshown⟩ := Console.run_say
      (shows_provider h.provider (shownVersion c.version)) (tried.print .console passed)
    exact ⟨_, _, (run_bind_ok (run_recover_ok htest)).trans ((run_bind_ok hpassed).trans hshown), rfl,
      .well (by simp)⟩
  | some f =>
    have htest : c.testConnection.run (w.print .console testing) = (.error f, tried) := by
      unfold Collector.testConnection
      rw [run_bind_ok hrecord, hfault]
      rfl
    obtain ⟨failed, hfailed⟩ := Console.run_say shows_failedMark tried
    refine ⟨.error (Collector.asCollectionFault f), tried.print .console failed, ?_, rfl,
      .badly (Collector.isOwn_asCollectionFault (h.connection f hfault).2) rfl⟩
    refine run_bind_error ((run_recover_error htest).trans ?_)
    rw [if_pos (h.connection f hfault).1, run_bind_ok hfailed]
    rfl

/-- The test of both connections. -/
lemma ends_checkConnections (h : c.Sound) {s : Settings} {site : Site T} {e : Engine}
    (hengine : s.database.resolvedEngine? = some e) (hsite : ∀ n, (site.replies n).Sound)
    (w : World T) :
    Ends (c.connectionFault.isSome = true ∨ ¬ (site.replies w.requests).Healthy)
      ((checkConnections s site c).run w).1 := by
  obtain ⟨r, u, hdatabase, hrequests, hends⟩ := ends_checkDatabase h e w
  have hclosed : (closing (do checkDatabase (← Catalogue.engineName s) c) : Script T Unit).run w
      = (r, u.collectorClosed) := by
    rw [run_closing, run_bind_ok (Catalogue.run_engineName hengine w), hdatabase]
  unfold checkConnections
  refine Ends.bind ?_ fun _ => ?_
  · rw [hclosed]
    exact hends
  · rw [hclosed, ← hrequests]
    exact ends_checkEndpoint (e := endpoint s site) hsite u.collectorClosed

end Mode

/-! ## Creation -/

namespace Catalogue

variable {T : Type} [Seconds T]

/-- The accounts of the cycles are left alone while a collector is created. -/
lemma apart_create (c : Catalogue T) (s : Settings) : (c.create s).Apart :=
  c.keeps_create World.SameAccounts.lasting s (.record rfl) fun _ _ => ⟨rfl, rfl, rfl⟩

end Catalogue

/-! ## Modes -/

namespace Mode

/-- A schedule can be made of settings that were accepted. -/
lemma schedule_of_accepted {s : Settings} (h : s.collection.Accepted) :
    ∃ plan : Schedule ℚ, schedule s = .ok plan := by
  have hinterval : ¬ (s.collection.interval : ℚ) ≤ 0 := by
    have hpositive : 0 < s.collection.interval := by
      have := h.interval
      omega
    exact not_le.mpr (by exact_mod_cast hpositive)
  have hjitter : ¬ s.collection.jitter.toRat?.getD 0 < 0 := by
    have hbound := h.jitter.within (.ofFloat .atLeast 0) (by simp)
    cases hrat : s.collection.jitter.toRat? with
    | none => simp
    | some q => exact not_lt.mpr ((Bound.violatedBy_ofFloat_atLeast hrat).mp hbound)
  refine ⟨⟨s.collection.interval, s.collection.jitter.toRat?.getD 0⟩, ?_⟩
  unfold schedule Schedule.make
  rw [if_neg (by simpa [Seconds.le, Seconds.ofNumber, Number.toRat?, Seconds.zero] using hinterval),
    if_neg (by simpa [Seconds.lt, Seconds.ofNumber, Seconds.zero] using hjitter)]
  rfl

/-- The agent ends well, however many of its cycles fail. -/
lemma run_serve {l : Settings.Loaded} {site : Site ℚ} {c : Collector ℚ} {e : Engine}
    (haccepted : l.settings.collection.Accepted)
    (hengine : l.settings.database.resolvedEngine? = some e) (hsite : ∀ n, (site.replies n).Sound)
    (h : c.Sound) (limit : ℕ) {w : World ℚ} (hidle : w.cycles.running = false) :
    ∃ u, (serve l site c limit).run w = (.ok (), u) := by
  obtain ⟨plan, hplan⟩ := schedule_of_accepted haccepted
  have hcycle : (Cycle.run c (some (endpoint l.settings site).upload)).Ordinary := by
    refine Cycle.ordinary_run h.ordinary fun send hsend p => ?_
    rw [← Option.some.inj hsend]
    exact Endpoint.ordinary_upload (Endpoint.ordinary_of_sound hsite) p
  unfold serve
  rw [run_bind_ok (Catalogue.run_engineName hengine w), run_bind_ok (run_log _ _ _ w),
    run_bind_ok (run_change _ _)]
  generalize hdescribed : Reporting.describeAgent _ _ _ _ _ = described
  have hsame : w.SameAccounts described := by
    rw [← hdescribed]
    refine World.SameAccounts.trans ?_
      (World.SameAccounts.lasting.describeAgent Cycle.sameAccounts_allowsReporting _ _ _ _ _)
    exact ⟨rfl, rfl, rfl⟩
  obtain ⟨reached, u, hrun⟩ := plan.run_ok hcycle limit (by rw [hsame.cycles]; exact hidle)
  have hcycles : (cycles l.settings site c limit).run described = (.ok (), u.sessionClosed) := by
    unfold cycles
    rw [Endpoint.run_closing, hplan]
    dsimp only
    rw [run_bind_ok hrun]
    rfl
  have hclosed : (closing (cycles l.settings site c limit)).run described
      = (.ok (), u.sessionClosed.collectorClosed) := by
    rw [run_closing, hcycles]
  rw [run_bind_ok hclosed]
  exact ⟨_, rfl⟩

lemma sameAccounts_installHandlers {T : Type} [Seconds T] (w : World T) :
    w.SameAccounts w.installHandlers := by
  refine World.SameAccounts.lasting.foldl (fun w s => ?_) StopSignal.all w
  have hhandler (e : Event) (he : e.endedCycle? = none) :
      w.SameAccounts { w.record e with handled := w.handled ++ [s] } :=
    (World.SameAccounts.record he w).trans ⟨rfl, rfl, rfl⟩
  have hlogged (u : World T) (message : String) :
      u.SameAccounts (u.logLine .debug .shutdown message) :=
    ⟨rfl, rfl, rfl⟩
  dsimp only
  refine World.SameAccounts.trans (.trans ?_ (World.SameAccounts.lasting.foldl ?_ _ _)) (hlogged _ _)
  · cases w.fallbackHandlers with
    | false => exact hhandler _ rfl
    | true => exact hhandler _ rfl
  · intro u signal
    exact ⟨rfl, rfl, rfl⟩

/-- What a mode is there for has failed: its collector could not be created, or the one collection of
a dry run failed or could not be printed, or a connection was found wanting.  An agent does not
fail. -/
def Fails (m : Mode) (l : Settings.Loaded) (site : Site ℚ) (w : World ℚ) : Prop :=
  match (site.catalogue.create l.settings).run w with
  | (.error _, _) => True
  | (.ok c, u) =>
    match m with
    | .agent => False
    | .dryRun => c.FailsOnce u
    | .connectionTest => c.connectionFault.isSome = true ∨ ¬ (site.replies u.requests).Healthy

/-- The work of a mode fails exactly if what the mode is there for has failed. -/
lemma ends_work (m : Mode) {l : Settings.Loaded} (haccepted : l.settings.collection.Accepted)
    {site : Site ℚ} (hsite : ∀ n, (site.replies n).Sound) (limit : ℕ) {w : World ℚ}
    (hidle : w.cycles.running = false)
    (hfailed : ∀ f u, (site.catalogue.create l.settings).run w = (.error f, u) →
      f.IsLoading ∧ f.Tellable)
    (hcreated : ∀ c u, (site.catalogue.create l.settings).run w = (.ok c, u) → c.Sound) :
    Ends (m.Fails l site w) ((m.work l site limit).run w).1 := by
  have hapart := site.catalogue.apart_create l.settings w
  unfold work Fails
  rcases hrun : (site.catalogue.create l.settings).run w with ⟨f | c, u⟩
  · obtain ⟨⟨_, _, _, _, rfl⟩, htellable⟩ := hfailed f u hrun
    rw [run_bind_error hrun]
    exact .badly ⟨rfl, htellable⟩ trivial
  obtain ⟨e, hengine⟩ := Catalogue.exists_engine_of_create hrun
  have hsound := hcreated c u hrun
  rw [hrun] at hapart
  rw [run_bind_ok hrun]
  dsimp only
  cases m with
  | agent =>
    have hhandled : u.installHandlers.cycles.running = false := by
      rw [(sameAccounts_installHandlers u).cycles, hapart.cycles]
      exact hidle
    obtain ⟨v, hserve⟩ := run_serve haccepted hengine hsite hsound limit hhandled
    dsimp only
    rw [run_bind_ok (run_change _ u), hserve]
    exact .well id
  | dryRun => exact ends_tryOut hsound .standard u
  | connectionTest =>
    refine (ends_checkConnections hsound hengine hsite u).before fun v => ?_
    obtain ⟨shown, hsaid⟩ := Console.run_say shows_allPassed v
    exact ⟨_, hsaid⟩

/-- With settings that were loaded, a mode always comes to a status, whatever its collector and its
endpoint do; and the status is one exactly if what the mode is there for has failed. -/
theorem run_eq_one_iff {h : Settings.Host} {named : Option String} {overrides : Entries}
    {l : Settings.Loaded} (hload : Settings.load h named overrides = .ok l) (m : Mode)
    {site : Site ℚ} (hsite : ∀ n, (site.replies n).Sound) (limit : ℕ) {w : World ℚ}
    (hidle : w.cycles.running = false)
    (hfailed : ∀ f u, (site.catalogue.create l.settings).run w = (.error f, u) →
      f.IsLoading ∧ f.Tellable)
    (hcreated : ∀ c u, (site.catalogue.create l.settings).run w = (.ok c, u) → c.Sound) :
    ∃ n u, (m.run l site limit).run w = (.ok n, u) ∧ (n = 0 ∨ n = 1) ∧
      (n = 1 ↔ m.Fails l site w) := by
  obtain ⟨_, -, hcheck⟩ := Settings.exists_check_of_load hload
  have haccepted := (Settings.accepted_of_check _ _ hcheck).collection
  exact run_status (m.ends_work haccepted hsite limit hidle hfailed hcreated)

/-- Where every collection fails a dry run does, and the agent does not. -/
theorem run_eq_one_iff_timedSite : ∃ l,
    Settings.load Catalogue.namingHost (some "c.yaml") (Command.overrides none) = .ok l ∧
      (∃ u, (Mode.agent.run l timedSite 10).run (World.start 0) = (.ok 0, u)) ∧
      ∃ u, (Mode.dryRun.run l timedSite 10).run (World.start 0) = (.ok 1, u) := by
  obtain ⟨l, hload, hpath⟩ := Catalogue.load_namingHost
  obtain ⟨es, hes, hcheck⟩ := Settings.exists_check_of_load hload
  obtain ⟨e, hengine⟩ := (Settings.usable_of_supplied hes hcheck).database.engine
  have hselection : Catalogue.Selection timedSite.catalogue l.settings
      (.ok (.complete (.timed []))) :=
    .named hpath (Catalogue.loadClass_only _)
  obtain ⟨v, hrun, -⟩ :=
    Catalogue.run_create_of_complete hselection rfl hengine (World.start 0)
  have hstatus (m : Mode) : ∃ n u, (m.run l timedSite 10).run (World.start 0) = (.ok n, u) ∧
      (n = 0 ∨ n = 1) ∧ (n = 1 ↔ m.Fails l timedSite (World.start 0)) := by
    refine run_eq_one_iff hload m ?_ 10 rfl ?_ ?_
    · exact fun _ => ⟨by rintro f ⟨⟩, "", rfl⟩
    · intro f u hf
      cases hrun.symm.trans hf
    · intro c u hc
      cases hrun.symm.trans hc
      refine ⟨by decide, rfl, by rintro f ⟨⟩, fun hf => ?_⟩
      cases hf
      exact ⟨rfl, rfl⟩
  refine ⟨l, hload, ?_, ?_⟩
  · obtain ⟨n, u, hn, hcases, hone⟩ := hstatus .agent
    have hwell : ¬ Mode.agent.Fails l timedSite (World.start 0) := by
      unfold Fails
      rw [hrun]
      exact id
    exact ⟨u, by rw [hn, hcases.resolve_right fun h => hwell (hone.mp h)]⟩
  · obtain ⟨n, u, hn, -, hone⟩ := hstatus .dryRun
    have hfails : Mode.dryRun.Fails l timedSite (World.start 0) := by
      unfold Fails
      rw [hrun]
      exact .inl ⟨_, rfl⟩
    exact ⟨u, by rw [hn, hone.mpr hfails]⟩

end Mode
end MetricsAgent
