import MetricsAgent.Proofs.Command.Release
import MetricsAgent.Proofs.Console.Legible
import MetricsAgent.Proofs.Console.Saying
import MetricsAgent.Proofs.Delivery.Origin
import MetricsAgent.Proofs.Settings.Rereading

/-!
# What a test of the connections has found

A test of the connections tells in one line what the collector says of its database, and goes on to
the endpoint.  The version is escaped there and the provider is not, so that a provider may have
markup in it.  Then the line lacks a part of it, or the console cannot show the line and the test
breaks off before anything is asked of the endpoint (`Mode.BreaksOff`).  The line alone decides
which it is (`Mode.run_databaseChecked`), and whatever follows is the check of the endpoint, so the
test reports what it has found exactly if the line can be read (`Mode.reports_iff`).
-/

namespace MetricsAgent

open Script

/-! ## What is silent -/

namespace World

variable {T : Type}

lemma lasting_silent : Lasting (Silent (T := T)) := ⟨Silent.trans, Silent.of_quiet⟩

lemma silent_print (w : World T) (s : Stream) (text : String) : w.Silent (w.print s text) :=
  ⟨rfl, rfl⟩

lemma silent_collectorClosed (w : World T) : w.Silent w.collectorClosed :=
  (Silent.record rfl w).trans ⟨rfl, rfl⟩

lemma silent_sessionClosed (w : World T) : w.Silent w.sessionClosed := by
  unfold sessionClosed
  split
  · cases w.session with
    | opened => exact (Silent.record rfl w).trans ⟨rfl, rfl⟩
    | absent | closed => exact ⟨rfl, rfl⟩
  · exact .refl w

end World

namespace Mode

open World

variable {T : Type} [Seconds T] {c : Collector T} {s : Settings} {site : Site T} {w : World T}

lemma silent_say (text : String) : (Console.say text : Script T Unit).Keeps Silent := by
  unfold Console.say Console.sayThen
  split
  · exact fun w => w.silent_print _ _
  · exact lasting_silent.throw _

/-- The check of an endpoint makes one request, with the credentials. -/
lemma traffic_checkEndpoint (e : Endpoint T) (w : World T) : ((checkEndpoint e).run w).2.traffic
    = w.traffic ++ [.request "GET" (healthUrl e.settings.endpoint) e.credentials none] := by
  obtain ⟨shown, hbegin⟩ := Console.run_begin (shows_endpoint e.settings.endpoint) w
  let marked (f : Fault) : Script T Unit := do
    if f.isDelivery then Console.say failedMark
    throw f
  have hmarked (f : Fault) : (marked f).Keeps Silent :=
    lasting_silent.when (silent_say _) (lasting_silent.throw f)
  have hclosed (u : World T) :
      (e.probe.run u).2.Silent ((Endpoint.closing (e.probe.recover marked)).run u).2 := by
    rw [Endpoint.run_closing]
    exact (lasting_silent.after_recover e.probe hmarked u).trans (silent_sessionClosed _)
  have hlast : (e.probe.run (w.print .console shown)).2.Silent ((checkEndpoint e).run w).2 := by
    unfold checkEndpoint
    rw [run_bind_ok hbegin]
    exact (hclosed _).trans (lasting_silent.after _ (fun _ => silent_say passedMark) _)
  rw [hlast.traffic, Endpoint.traffic_probe, (w.silent_print .console shown).traffic]

/-! ## The line -/

/-- What stands before the version in the line. -/
def foundFront (c : Collector T) : String :=
  "  Provider: " ++ c.provider ++ ", version: "

/-- The line as it should be read. -/
def foundLine (c : Collector T) : String :=
  foundFront c ++ shownVersion c.version

omit [Seconds T] in
lemma endsInSlash_foundFront (c : Collector T) :
    Markup.endsInSlash (foundFront c).toList = false := by
  rw [foundFront, String.toList_append]
  exact Markup.endsInSlash_append_cons _ _

omit [Seconds T] in
/-- No shortcode reaches beyond a blank of the line. -/
lemma free_foundLine (hprovider : Pictogram.Free c.provider.toList)
    (hversion : Pictogram.Free (shownVersion c.version).toList) :
    Pictogram.Free ((foundFront c).toList ++ (shownVersion c.version).toList) := by
  have hline : (foundFront c).toList ++ (shownVersion c.version).toList
      = "  Provider:".toList ++ ' ' :: ((c.provider.toList ++ [',']) ++ ' ' ::
        ("version:".toList ++ ' ' :: (shownVersion c.version).toList)) := by
    simp [foundFront]
  have hcomma : Pictogram.Free (c.provider.toList ++ [',']) :=
    hprovider.append_of_not_mem (by decide) (by decide)
  have hbehind : Pictogram.Free ("version:".toList ++ ' ' :: (shownVersion c.version).toList) :=
    .append_cons (.of_count (by decide)) hversion (by decide)
  rw [hline]
  exact .append_cons (.of_count (by decide)) (hcomma.append_cons hbehind (by decide)) (by decide)

/-! ## The test -/

/-- The check of the database, after which the collector is closed. -/
def databaseChecked (s : Settings) (c : Collector T) : Script T Unit :=
  closing do checkDatabase (← Catalogue.engineName s) c

/-- Once the database was reached, the line decides: the check succeeds exactly if the console can
show it. -/
lemma run_databaseChecked {e : Engine} (hengine : s.database.resolvedEngine? = some e)
    (hconnected : c.connectionFault = none) (w : World T) :
    ∃ u, w.Silent u ∧ (databaseChecked s c).run w =
      match Markup.render (foundFront c ++ Markup.escape (shownVersion c.version)) with
      | .ok shown => (.ok (), (u.print .console (shown ++ "\n")).collectorClosed)
      | .error f => (.error (.foreign "MarkupError" (some f.message) none), u.collectorClosed) := by
  obtain ⟨testing, hbegin⟩ := Console.run_begin (shows_testing e) w
  let tried : World T := (w.print .console testing).record .testConnection
  have htest : c.testConnection.run (w.print .console testing) = (.ok (), tried) := by
    unfold Collector.testConnection
    rw [run_bind_ok (run_record _ _), hconnected]
    rfl
  obtain ⟨passed, hpassed⟩ := Console.run_say shows_passedMark tried
  have hsilent : w.Silent (tried.print .console passed) :=
    ((w.silent_print .console testing).trans (.record rfl _)).trans (tried.silent_print _ _)
  refine ⟨_, hsilent, ?_⟩
  unfold databaseChecked
  rw [run_closing, run_bind_ok (Catalogue.run_engineName hengine w)]
  unfold checkDatabase
  rw [run_bind_ok hbegin, run_bind_ok (run_recover_ok htest), run_bind_ok hpassed]
  unfold Console.say Console.sayThen foundFront
  generalize Markup.render _ = rendered
  cases rendered with
  | ok shown => rfl
  | error f => rfl

/-- The test tells a line and goes on: the check of the database succeeds and the line is what it
has told last, all that is left is the check of the endpoint, and the endpoint is asked. -/
structure GoesOn (s : Settings) (site : Site T) (c : Collector T) (w : World T) (line : String) :
    Prop where
  told : ∃ u, (databaseChecked s c).run w = (.ok (), u) ∧
    u.printed.head? = some (.console, line ++ "\n") ∧
    (checkConnections s site c).run w = (checkEndpoint (endpoint s site)).run u
  asked : ((checkConnections s site c).run w).2.traffic = w.traffic ++
    [.request "GET" (healthUrl s.ingest.endpoint) (endpoint s site).credentials none]

/-- The test breaks off at the line, which the console cannot show, and nothing is asked of the
endpoint. -/
structure BreaksOff (s : Settings) (site : Site T) (c : Collector T) (w : World T) : Prop where
  fault : ∃ message, ((checkConnections s site c).run w).1
    = .error (.foreign "MarkupError" (some message) none)
  asked : ((checkConnections s site c).run w).2.traffic = w.traffic

/-- The test tells all that the collector says of its database, and goes on. -/
def Reports (s : Settings) (site : Site T) (c : Collector T) (w : World T) : Prop :=
  ∃ tail, GoesOn s site c w (foundLine c ++ tail)

/-- The test tells one line. -/
lemma GoesOn.line_eq {line line' : String} (h : GoesOn s site c w line)
    (h' : GoesOn s site c w line') : line = line' := by
  obtain ⟨u, hrun, hline, -⟩ := h.told
  obtain ⟨u', hrun', hline', -⟩ := h'.told
  obtain rfl : u = u' := congrArg Prod.snd (hrun.symm.trans hrun')
  have hending : line ++ "\n" = line' ++ "\n" :=
    congrArg Prod.snd (Option.some.inj (hline.symm.trans hline'))
  exact String.append_left_inj _ |>.mp hending

lemma BreaksOff.not_goesOn {line : String} (h : BreaksOff s site c w) :
    ¬ GoesOn s site c w line := by
  intro hgoes
  have hlength := congrArg List.length (hgoes.asked.symm.trans h.asked)
  simp at hlength

section Found

variable {e : Engine} (hengine : s.database.resolvedEngine? = some e)
  (hconnected : c.connectionFault = none)

include hengine hconnected

lemma goesOn_of_render {shown : String} (site : Site T) (w : World T)
    (hrender : Markup.render (foundFront c ++ Markup.escape (shownVersion c.version)) = .ok shown) :
    GoesOn s site c w shown := by
  obtain ⟨u, hsilent, hrun⟩ := run_databaseChecked hengine hconnected w
  rw [hrender] at hrun
  have hchecked : (checkConnections s site c).run w = _ := run_bind_ok hrun
  refine ⟨⟨_, hrun, rfl, hchecked⟩, ?_⟩
  have hclosed := (hsilent.trans (u.silent_print .console (shown ++ "\n"))).trans
    (silent_collectorClosed _)
  rw [hchecked, traffic_checkEndpoint, hclosed.traffic]
  rfl

lemma breaksOff_of_render {f : Markup.MarkupFault} (site : Site T) (w : World T)
    (hrender : Markup.render (foundFront c ++ Markup.escape (shownVersion c.version)) = .error f) :
    BreaksOff s site c w := by
  obtain ⟨u, hsilent, hrun⟩ := run_databaseChecked hengine hconnected w
  rw [hrender] at hrun
  have hbroken : (checkConnections s site c).run w = _ := run_bind_error hrun
  refine ⟨⟨f.message, by rw [hbroken]⟩, ?_⟩
  rw [hbroken]
  exact (hsilent.trans (silent_collectorClosed u)).traffic

end Found

/-- The test of the connections tells provider and version as the collector says them and goes on
to the endpoint, exactly if the line of them can be read; otherwise it goes on behind a line that
lacks a part of them, or a tag begins before the version and it breaks off.  Shortcodes are left out
of account. -/
theorem reports_iff {e : Engine} (hengine : s.database.resolvedEngine? = some e)
    (hconnected : c.connectionFault = none) (hprovider : Pictogram.Free c.provider.toList)
    (hversion : Pictogram.Free (shownVersion c.version).toList) (site : Site T) (w : World T) :
    (Reports s site c w ↔
        Markup.Legible (foundFront c).toList (shownVersion c.version).toList) ∧
      ((∃ line, GoesOn s site c w line) ∨ BreaksOff s site c w ∧ ¬ Markup.EachBracket
        (Markup.TaglessBracket (shownVersion c.version).toList) (foundFront c).toList) := by
  have hlegible := Markup.render_append_escape_iff (endsInSlash_foundFront c)
    (free_foundLine hprovider hversion)
  cases hrender : Markup.render (foundFront c ++ Markup.escape (shownVersion c.version)) with
  | ok shown =>
    have hgoes := goesOn_of_render hengine hconnected site w hrender
    refine ⟨?_, .inl ⟨shown, hgoes⟩⟩
    rw [← hlegible, hrender]
    constructor
    · rintro ⟨tail, htail⟩
      exact ⟨tail, by rw [hgoes.line_eq htail]; rfl⟩
    · rintro ⟨tail, htail⟩
      exact ⟨tail, Except.ok.inj htail ▸ hgoes⟩
  | error f =>
    have hbreaks := breaksOff_of_render hengine hconnected site w hrender
    refine ⟨iff_of_false ?_ ?_, .inr ⟨hbreaks, fun htagless => ?_⟩⟩
    · rintro ⟨tail, htail⟩
      exact hbreaks.not_goesOn htail
    · rw [← hlegible, hrender]
      rintro ⟨tail, htail⟩
      cases htail
    · obtain ⟨shown, hshown⟩ :=
        Markup.exists_render_append_escape (endsInSlash_foundFront c) htagless
      rw [hrender] at hshown
      cases hshown

/-- A collector that says these things of its database. -/
def saying (provider version : String) : Collector ℚ :=
  { Collector.timed [] with provider := provider, version := some version }

/-- Brackets are no matter if they are bare or stand in the version; a tag in the provider is. -/
theorem reports_iff_saying :
    let s := Settings.sampled "mysql://db/app"
    Reports s timedSite (saying "aws [1]" "[bold]8.0\\[/bold]") (World.start 0) ∧
      ¬ Reports s timedSite (saying "[aws]" "8.0") (World.start 0) := by
  intro s
  have hengine : s.database.resolvedEngine? = some .mysql := by decide +kernel
  obtain ⟨hbare, -⟩ := reports_iff (c := saying "aws [1]" "[bold]8.0\\[/bold]") hengine rfl
    (.of_count (by decide)) (.of_count (by decide)) timedSite (World.start 0)
  obtain ⟨htagged, -⟩ := reports_iff (c := saying "[aws]" "8.0") hengine rfl
    (.of_count (by decide)) (.of_count (by decide)) timedSite (World.start 0)
  exact ⟨hbare.mpr (by decide +kernel), mt htagged.mp (by decide +kernel)⟩

/-- The line of a provider that closes what was not opened cannot be shown. -/
theorem not_forall_reports : ¬ ∀ (s : Settings) (site : Site ℚ) (c : Collector ℚ) (w : World ℚ),
    s.database.resolvedEngine?.isSome → c.connectionFault = none →
      Pictogram.Free c.provider.toList → Pictogram.Free (shownVersion c.version).toList →
        Reports s site c w := by
  intro h
  let c := saying "rds [/eu]" "8.0"
  have hrender : Markup.render (foundFront c ++ Markup.escape (shownVersion c.version))
      = .error (.unmatched "/eu" 16) := by decide +kernel
  have hbreaks : BreaksOff (Settings.sampled "mysql://db/app") timedSite c (World.start 0) :=
    breaksOff_of_render (e := .mysql) (by decide +kernel) rfl timedSite _ hrender
  obtain ⟨tail, htail⟩ := h (Settings.sampled "mysql://db/app") timedSite c (World.start 0)
    (by decide +kernel) rfl (.of_count (by decide)) (.of_count (by decide))
  exact hbreaks.not_goesOn htail

end Mode
end MetricsAgent
