import MetricsAgent.Proofs.Validation.Places
import MetricsAgent.Settings.Load

/-!
# Errors that explain

Settings that are refused come with an error for the first issue: it names the place, it is about a key
just if the issue is, and if it recommends another name, following it helps
(`SettingsError.explains_of_ofEntries`).  Three views of the settings meet in it: the readers, which
report issues; the table of sections, in which names are looked up; and the mapping itself, from which
the value at a place is taken.  That the first two agree is `Settings.reports_check`.

The third does not quite agree with the first.  Groups of metrics may be written as a set, but no
position leads into one when the value is looked up: a group that there is not is then shown as
nothing at all (`SettingsError.not_forall_shown`).
-/

namespace MetricsAgent

open Read Checked

/-! ## The sections of the settings -/

lemma PoolSettings.reports_check : Reports check [([], fields)] :=
  (reports_closedRecord title <|
    reportsFields_seq (reportsFields_seq (reportsFields_map
      (reportsFields_optional (reports_of_whole (whole_boundedInteger _)) _) _)
      (reportsFields_optional (reports_of_whole (whole_boundedInteger _)) _))
      (reportsFields_optional (reports_of_whole (whole_boundedNumber _)) _)).refine _

lemma IngestSettings.reports_check : Reports check [([], fields)] :=
  reports_closedRecord title <|
    reportsFields_seq (reportsFields_seq (reportsFields_seq (reportsFields_seq (reportsFields_map
      (reportsFields_optional (reports_of_whole fun v => (whole_text v).refine _) _) _)
      (reportsFields_required (reports_of_whole fun v => (whole_text v).refine _)))
      (reportsFields_optional (reports_of_whole (whole_boundedNumber _)) _))
      (reportsFields_optional (reports_of_whole (whole_boundedInteger _)) _))
      (reportsFields_optional (reports_of_whole whole_boolean) _)

lemma DatabaseSettings.reports_check :
    Reports check [([], fields), (["pool"], PoolSettings.fields)] :=
  reports_closedRecord title <|
    reportsFields_seq (reportsFields_seq (reportsFields_seq (reportsFields_seq (reportsFields_map
      (reportsFields_optional (reports_of_whole fun v => (whole_text v).refine _) _) _)
      (reportsFields_optional (reports_of_whole (whole_nullable (whole_oneOf _ _))) _))
      (reportsFields_optional (reports_of_whole (whole_oneOf _ _)) _))
      (reportsFields_optional
        (reports_of_whole (whole_nullable fun v => (whole_text v).refine _)) _))
      (reportsFields_optional PoolSettings.reports_check _)

namespace CollectionSettings

lemma whole_readInterval (v : Value) : (readInterval v).Whole := by
  unfold readInterval
  dsimp only
  split
  · split
    · exact whole_boundedInteger _ _
    · exact whole_refuse_iff.mpr nofun
  · exact whole_boundedInteger _ _

/-- The former names in a sequence are replaced where they stand. -/
lemma reports_readMetrics : Reports readMetrics [] := by
  intro v i hi
  unfold readMetrics at hi
  cases v with
  | list items =>
    apply reports_list (fun v => whole_oneOf MetricGroup.all MetricGroup.name (currentName v))
    rwa [Read.list, ← itemsFrom_comp]
  | _ => exact reports_list (whole_oneOf MetricGroup.all MetricGroup.name) _ _ hi

lemma reports_check : Reports check [([], fields)] :=
  reports_closedRecord title <|
    reportsFields_seq (reportsFields_seq (reportsFields_map
      (reportsFields_optional (reports_of_whole whole_readInterval) _) _)
      (reportsFields_optional (reports_of_whole (whole_boundedNumber _)) _))
      (reportsFields_optional reports_readMetrics _)

end CollectionSettings

lemma LogSettings.reports_check : Reports check [([], fields)] :=
  reports_closedRecord title <|
    reportsFields_seq (reportsFields_seq (reportsFields_map
      (reportsFields_optional (reports_of_whole fun _ => whole_oneOf _ _ _) _) _)
      (reportsFields_optional (reports_of_whole fun _ => whole_oneOf _ _ _) _))
      (reportsFields_optional (reports_of_whole (whole_nullable whole_text)) _)

lemma ReportingSettings.reports_check : Reports check [([], fields)] :=
  reports_closedRecord title <|
    reportsFields_seq (reportsFields_seq (reportsFields_seq (reportsFields_map
      (reportsFields_optional (reports_of_whole whole_boolean) _) _)
      (reportsFields_optional (reports_of_whole (whole_nullable whole_text)) _))
      (reportsFields_optional (reports_of_whole (whole_nullable whole_text)) _))
      (reportsFields_optional (reports_of_whole (whole_boundedNumber _)) _)

namespace Settings

/-- The table of sections lists the sections that are read. -/
lemma reports_check : Reports check sectionFields :=
  reports_closedRecord title <|
    reportsFields_seq (reportsFields_seq (reportsFields_seq (reportsFields_seq (reportsFields_map
      (reportsFields_required IngestSettings.reports_check) _)
      (reportsFields_required DatabaseSettings.reports_check))
      (reportsFields_optional CollectionSettings.reports_check _))
      (reportsFields_optional LogSettings.reports_check _))
      (reportsFields_optional ReportingSettings.reports_check _)

end Settings

/-! ## Suggestions -/

/-- What is found for a word is one of the candidates. -/
lemma Similarity.mem_of_closest? {word : String} {candidates : List String} {k : String}
    (h : closest? word candidates = some k) : k ∈ candidates := by
  suffices hfound : ∀ k, closest? word candidates = some k → k ∈ candidates from hfound k h
  refine List.foldlRecOn (motive := fun best => ∀ k, best = some k → k ∈ candidates) _ _
    (fun _ h => by cases h) ?_
  intro best hbest c hc k hk
  have hc := (List.mem_filter.mp hc).1
  split at hk
  · cases hk
    exact hc
  · dsimp only at hk
    split at hk
    · cases hk
      exact hc
    · exact hbest k hk

namespace SettingsError

lemma didYouMean_injective : Function.Injective didYouMean := by
  intro a b h
  simpa [didYouMean, String.append_assoc] using h

lemma head?_append {s : String} {c : Char} (h : s.toList.head? = some c) (t : String) :
    (s ++ t).toList.head? = some c := by
  rw [String.toList_append, List.head?_append, h]
  rfl

lemma head?_didYouMean (k : String) : (didYouMean k).toList.head? = some 'D' :=
  head?_append (head?_append rfl k) _

lemma head?_of_variableHint? {key s : String} (h : variableHint? key = some s) :
    s.toList.head? = some 'S' := by
  obtain ⟨⟨-, name⟩, -, rfl⟩ := Option.map_eq_some_iff.mp h
  exact head?_append (head?_append (head?_append (head?_append rfl key) _) name) _

/-- The other suggestions start with another letter. -/
lemma head?_of_wording {key message s : String} {got : Value} {c : Cause}
    {suggestion : Option String} (hwording : wording key got c = (message, suggestion))
    (h : suggestion.or (variableHint? key) = some s) : s.toList.head? ≠ some 'D' := by
  have hhint (h : variableHint? key = some s) : s.toList.head? ≠ some 'D' := by
    rw [head?_of_variableHint? h]
    decide
  unfold wording at hwording
  split at hwording
  · cases hwording
    exact hhint h
  · cases hwording
    cases h
    rw [head?_append rfl]
    decide
  · cases hwording
    cases h
    rw [head?_append (head?_append (head?_append rfl _) _)]
    decide
  · cases hwording
    exact hhint h
  · split at hwording
    · next expected hint hwrong =>
      cases hwording
      cases h
      unfold wrongType? at hwrong
      split at hwrong <;> cases hwrong <;> decide
    · cases hwording
      exact hhint h

/-! ## Messages -/

/-- What is said of a value of the wrong type, or of one that is none of the choices, before its
place. -/
def opening? : Cause → Option String
  | .choice _ => some "Invalid value"
  | c => (wrongType? c).map fun (expected, _) => "Expected " ++ expected

lemma exists_wording (key : String) (got : Value) (c : Cause) :
    ∃ before after, (wording key got c).1 = before ++ key ++ after := by
  unfold wording
  split
  · exact ⟨"Missing required configuration section '", "'", rfl⟩
  · exact ⟨"Invalid value for '", "': got " ++ got.describe, by simp only [String.append_assoc]⟩
  · exact ⟨"Value for '", "' is out of range: " ++ got.display, by simp only [String.append_assoc]⟩
  · next reason => exact ⟨"Invalid value for '", "': " ++ reason, by simp only [String.append_assoc]⟩
  · split
    · next expected _ _ =>
      exact ⟨"Expected " ++ expected ++ " for '", "': got " ++ got.describe,
        by simp only [String.append_assoc]⟩
    · exact ⟨"Invalid value for '", "': " ++ c.message, by simp only [String.append_assoc]⟩

lemma wording_of_opening? {key : String} {got : Value} {c : Cause} {opening : String}
    (h : opening ∈ opening? c) :
    (wording key got c).1 = opening ++ " for '" ++ key ++ "': got " ++ got.describe := by
  unfold opening? at h
  split at h
  · cases h
    rfl
  · obtain ⟨⟨expected, hint⟩, hwrong, rfl⟩ := Option.map_eq_some_iff.mp h
    unfold wrongType? at hwrong
    split at hwrong <;> cases hwrong <;> rfl

/-- The error for the first issue, by its cause. -/
lemma ofIssues_cases {i : Issue} {is : List Issue} {data : Value} {file : Option String}
    {e : SettingsError} (h : ofIssues (i :: is) data file = some e) :
    (i.cause = .extra ∧ e = make .key ("Unknown configuration key '" ++ dotted i.place ++ "'") file
      (some (((closestKey? ((i.place.getLast?.map Segment.text).getD "")
        (i.place.dropLast.map Segment.text)).map didYouMean).getD
          "Remove the key or check its spelling and section"))) ∨
    (i.cause ≠ .extra ∧ ∃ message suggestion,
      wording (dotted i.place) (data.lookUp i.place) i.cause = (message, suggestion) ∧
        e = make .value message file (suggestion.or (variableHint? (dotted i.place)))) := by
  obtain ⟨c, place⟩ := i
  cases c with
  | extra =>
    cases h
    exact .inl ⟨rfl, rfl⟩
  | bound b =>
    dsimp only [ofIssues] at h
    split at h
    · cases h
    · cases h
      exact .inr ⟨nofun, _, _, rfl, rfl⟩
  | _ =>
    cases h
    exact .inr ⟨nofun, _, _, rfl, rfl⟩

/-! ## Unknown keys -/

lemma eq_of_mem_sectionFields : ∀ p ∈ Settings.sectionFields, ∀ q ∈ Settings.sectionFields,
    p.1 = q.1 → p = q := by
  decide

/-- The name that is suggested for a key in a section is one of that section. -/
lemma mem_of_closestKey? {unknown k : String} {names : List String} {fields : List Field}
    (hsection : (names, fields) ∈ Settings.sectionFields) (h : closestKey? unknown names = some k) :
    k ∈ fields.map (·.wire) := by
  obtain ⟨⟨names', fields'⟩, hfind, hclosest⟩ := Option.bind_eq_some_iff.mp h
  have hnames : names' = names := by simpa using List.find?_some hfind
  cases eq_of_mem_sectionFields _ (List.mem_of_find?_eq_some hfind) _ hsection hnames
  exact Similarity.mem_of_closest? hclosest

/-- A name of a section is never an unknown key of it. -/
lemma not_mem_issues_of_wire {names : List String} {fields : List Field} {k : String}
    (hsection : (names, fields) ∈ Settings.sectionFields) (hk : k ∈ fields.map (·.wire)) (v : Value) :
    ⟨.extra, names.map .name ++ [.name k]⟩ ∉ (Settings.check v).issues := by
  intro hi
  obtain ⟨names', fields', k', hmem, hplace, hk'⟩ := (Settings.reports_check v _ hi).stranger rfl
  obtain ⟨hnames, hlast⟩ := List.append_inj' hplace rfl
  cases hlast
  have hnames : names = names' :=
    (List.map_inj_right fun _ _ h => Segment.name.inj h).mp hnames
  cases eq_of_mem_sectionFields _ hsection _ hmem hnames
  exact hk' hk

/-! ## Explanations -/

/-- A name may be recommended for an unknown key: it is one of the section in which the key stands, and
no mapping is refused for having this name there. -/
def Recommended (es : Entries) (i : Issue) (k : String) : Prop :=
  ∃ names fields unknown within, i = ⟨.extra, names.map .name ++ [.name unknown]⟩ ∧
    (Value.map es).partAt? (names.map .name) = some (.map within) ∧
    (Entries.field? within unknown).isSome ∧ (names, fields) ∈ Settings.sectionFields ∧
    k ∈ fields.map (·.wire) ∧
    ∀ v, ⟨.extra, names.map .name ++ [.name k]⟩ ∉ (Settings.check v).issues

/-- An error explains an issue with a mapping.  A value of the wrong type, or one that is none of the
choices, is shown as it stands at the place, but as nothing if the place is one in a tuple or a set. -/
structure Explains (e : SettingsError) (i : Issue) (es : Entries) : Prop where
  path : ∃ before after, e.message = before ++ dotted i.place ++ after
  kind : e.kind = if i.cause = .extra then .key else .value
  shown : ∀ opening ∈ opening? i.cause, ∃ part, (Value.map es).partAt? i.place = some part ∧
    (¬ (Value.map es).Hides i.place →
      e.message = opening ++ " for '" ++ dotted i.place ++ "': got " ++ part.describe) ∧
    ((Value.map es).Hides i.place →
      e.message = opening ++ " for '" ++ dotted i.place ++ "': got null")
  recommended : ∀ k, e.suggestion = some (didYouMean k) → Recommended es i k

/-- What is suggested for an unknown key may be recommended. -/
lemma recommended_of_stranger {es : Entries} {i : Issue} {k : String}
    (hfits : i.Fits Settings.sectionFields (.map es)) (hextra : i.cause = .extra)
    (h : ((closestKey? ((i.place.getLast?.map Segment.text).getD "")
      (i.place.dropLast.map Segment.text)).map didYouMean).getD
        "Remove the key or check its spelling and section" = didYouMean k) :
    Recommended es i k := by
  obtain ⟨names, fields, unknown, within, hsection, hi, hwithin, hunknown⟩ :=
    hfits.exists_section hextra
  rw [hi] at h
  have hnames : (names.map Segment.name).map Segment.text = names := by
    rw [List.map_map]
    exact List.map_id names
  rw [List.dropLast_concat, hnames, List.getLast?_concat, Option.map_some, Option.getD_some,
    Segment.text] at h
  have hk : k ∈ fields.map (·.wire) := by
    cases hclosest : closestKey? unknown names with
    | some k' =>
      rw [hclosest] at h
      cases didYouMean_injective h
      exact mem_of_closestKey? hsection hclosest
    | none =>
      rw [hclosest] at h
      have hletter := head?_didYouMean k
      rw [← h] at hletter
      cases hletter
  exact ⟨names, fields, unknown, within, hi, hwithin, hunknown, hsection, hk,
    not_mem_issues_of_wire hsection hk⟩

lemma explains_of_ofIssues {es : Entries} {i : Issue} {is : List Issue} {file : Option String}
    {e : SettingsError} (hfits : i.Fits Settings.sectionFields (.map es))
    (h : ofIssues (i :: is) (.map es) file = some e) : e.Explains i es := by
  rcases ofIssues_cases h with ⟨hextra, rfl⟩ | ⟨hextra, message, suggestion, hwording, rfl⟩
  · refine ⟨⟨"Unknown configuration key '", "'", rfl⟩, by rw [if_pos hextra]; rfl, ?_, ?_⟩
    · rw [hextra]
      nofun
    · exact fun k hk => recommended_of_stranger hfits hextra (Option.some.inj hk)
  · refine ⟨?_, by rw [if_neg hextra]; rfl, ?_, ?_⟩
    · obtain ⟨before, after, hmessage⟩ :=
        exists_wording (dotted i.place) ((Value.map es).lookUp i.place) i.cause
      rw [hwording] at hmessage
      exact ⟨before, after, hmessage⟩
    · intro opening hopening
      have hcause : i.cause ≠ .missing ∧ i.cause ≠ .invalidKey := by
        constructor <;> intro hcause <;> rw [hcause] at hopening <;> cases hopening
      obtain ⟨part, hpart⟩ := hfits.found hcause.1 hcause.2
      obtain ⟨hvisible, hhidden⟩ := Value.lookUp_of_partAt? hpart
      have hmessage : message = opening ++ " for '" ++ dotted i.place ++ "': got "
          ++ ((Value.map es).lookUp i.place).describe := by
        rw [← wording_of_opening? hopening, hwording]
      refine ⟨part, hpart, fun h => ?_, fun h => ?_⟩
      · rwa [hvisible h] at hmessage
      · rw [hhidden h, String.append_assoc] at hmessage
        exact hmessage
    · intro k hk
      exact absurd (head?_didYouMean k) (head?_of_wording hwording hk)

/-- Settings that are refused come with an error that explains the first issue. -/
theorem explains_of_ofEntries {es : Entries} {file : Option String} {e : SettingsError}
    {cause : Option SettingsCause} (h : Settings.ofEntries es file = .error (.settings e cause)) :
    ∃ i is, Settings.check (.map es) = .invalid i is ∧ e.Explains i es := by
  unfold Settings.ofEntries at h
  split at h
  · split at h
    · cases h
    · next i is hcheck =>
      split at h
      · next e' hissues =>
        cases h
        refine ⟨i, is, hcheck, explains_of_ofIssues (Settings.reports_check _ i ?_) hissues⟩
        rw [hcheck]
        exact List.mem_cons_self
      · cases h
  · cases h

/-- Settings with a compression asked for under a name, and with groups of metrics. -/
def asking (name : String) (metrics : Value) : Entries :=
  [(.text "ingest", .record [("endpoint", .text "https://ingest.example"), (name, .bool true)]),
    (.text "database", .record []), (.text "collection", .record [("metrics", metrics)])]

/-- The error for a group that there is not, given the value that is shown. -/
def unknownGroup (shown : Value) : SettingsError :=
  make .value ("Invalid value for 'collection.metrics.0': got " ++ shown.describe) none
    (some ("Expected one of: " ++ choiceText (MetricGroup.all.map MetricGroup.name)))

/-- A misspelt name, and a group that there is not. -/
theorem explains_of_ofEntries_asking :
    (∃ i is, Settings.check (.map (asking "compres" (.list []))) = .invalid i is ∧
      (make .key "Unknown configuration key 'ingest.compres'" none
        (some "Did you mean 'compress'?")).Explains i (asking "compres" (.list []))) ∧
    ∃ i is, Settings.check (.map (asking "compress" (.list [.text "foo"]))) = .invalid i is ∧
      (unknownGroup (.text "foo")).Explains i (asking "compress" (.list [.text "foo"])) := by
  have hname : Settings.ofEntries (asking "compres" (.list [])) none = .error (.settings
      (make .key "Unknown configuration key 'ingest.compres'" none (some "Did you mean 'compress'?"))
      (some .validation)) := rfl
  have hgroup : Settings.ofEntries (asking "compress" (.list [.text "foo"])) none
      = .error (.settings (unknownGroup (.text "foo")) (some .validation)) := rfl
  exact ⟨explains_of_ofEntries hname, explains_of_ofEntries hgroup⟩

/-- A group that there is not is not shown if the groups are written as a set. -/
theorem not_forall_shown :
    ¬ ∀ (es : Entries) (file : Option String) (e : SettingsError) (cause : Option SettingsCause)
      (i : Issue) (is : List Issue) (part : Value),
      Settings.ofEntries es file = .error (.settings e cause) →
      Settings.check (.map es) = .invalid i is →
      (Value.map es).partAt? i.place = some part →
      ∀ opening ∈ opening? i.cause,
        e.message = opening ++ " for '" ++ dotted i.place ++ "': got " ++ part.describe := by
  intro h
  have hmessage := h (asking "compress" (.set [.text "foo"])) none (unknownGroup .null)
    (some .validation)
    ⟨.choice (MetricGroup.all.map MetricGroup.name),
      [.name "collection", .name "metrics", .index 0]⟩
    [] (.text "foo") rfl rfl rfl "Invalid value" rfl
  exact absurd hmessage (by decide)

end SettingsError

end MetricsAgent
