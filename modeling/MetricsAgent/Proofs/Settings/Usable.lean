import Mathlib.Data.List.TakeWhile
import Mathlib.Data.Rat.Cast.Order
import MetricsAgent.Command.Job
import MetricsAgent.Proofs.Settings.Precedence
import MetricsAgent.Proofs.Validation.Accepted

/-!
# Usable settings

Settings that were loaded can be worked with: there is a key for the endpoint and a URL of a known
database, numbers are in their ranges, and neither the choice of a collector nor the settings of the
delivery made from them can fail (`Settings.usable_of_load`).

Two of the fields have a default that would not pass its own test: a key and a URL that are not
given are empty.  That these defaults are never used rests on the layers.  The lowest layer has a
placeholder in both places, so the fields are read whenever their sections are mappings
(`Settings.isSome_of_default`), and a section that is no mapping is refused.
-/

namespace MetricsAgent

/-! ## What is guaranteed -/

/-- What delivery is told by the settings. -/
def IngestSettings.deliveryValue (s : IngestSettings) : Value :=
  .record [("endpoint", .text s.endpoint), ("api_key", .text s.apiKey),
    ("timeout", .ofNumber s.timeout), ("max_retries", .int s.retries),
    ("compress", .bool s.compress)]

/-- An endpoint with an address and a key that is not blank, from which the settings of the delivery
can be made. -/
structure IngestSettings.Usable (s : IngestSettings) : Prop where
  apiKey : ∃ c ∈ s.apiKey.toList, CharClass.isBlank c = false
  endpoint : "http://".toList <+: s.endpoint.toList ∨ "https://".toList <+: s.endpoint.toList
  retries : 0 ≤ s.retries ∧ s.retries ≤ 10
  delivery : DeliverySettings.check s.deliveryValue = .valid s.delivery

/-- A pool that can hold its minimum. -/
structure PoolSettings.Usable (p : PoolSettings) : Prop where
  least : 0 ≤ p.minConnections
  ordered : p.minConnections ≤ p.maxConnections
  most : 1 ≤ p.maxConnections

/-- A database that is known by the scheme of its URL.  A collector that is named has a module and a
class. -/
structure DatabaseSettings.Usable (d : DatabaseSettings) : Prop where
  url : ∃ e : Engine, Engine.ofUrl? d.url = some e ∧
    ∃ scheme ∈ e.schemes, scheme.toList <+: d.url.toList
  engine : ∃ e, d.resolvedEngine? = some e
  collector : ∀ path ∈ d.collector, ∃ module cls,
    module ≠ [] ∧ cls ≠ [] ∧ ':' ∉ module ∧ path.toList = module ++ ':' :: cls
  pool : d.pool.Usable

/-- An interval that is not too short, and metrics by their current names. -/
structure CollectionSettings.Usable (c : CollectionSettings) : Prop where
  interval : 10 ≤ c.interval
  metrics : ∀ g ∈ c.metrics, MetricGroup.ofName? g.name = some g ∧
    g.name ∉ MetricGroup.formerNames.map (·.1)

/-- Settings that the agent can work with. -/
structure Settings.Usable (s : Settings) : Prop where
  ingest : s.ingest.Usable
  database : s.database.Usable
  collection : s.collection.Usable
  engineName : ∀ (T : Type) [Seconds T] (w : World T), ∃ e ∈ Engine.all,
    (Catalogue.engineName s).run w = (.ok e.name, w)

/-! ## Bounds -/

lemma Number.int_le_int_iff (m n : Int) : (Number.int m).le (.int n) = true ↔ m ≤ n := by
  simp [le, lt, numEq, toRat?, le_iff_lt_or_eq]

lemma Bound.violatedBy_ofInt_atLeast (m n : Int) :
    (Bound.ofInt .atLeast m).violatedBy (.int n) = false ↔ m ≤ n := by
  simp [Bound.violatedBy, Bound.ofInt, Number.int_le_int_iff]

lemma Bound.violatedBy_ofInt_atMost (m n : Int) :
    (Bound.ofInt .atMost m).violatedBy (.int n) = false ↔ n ≤ m := by
  simp [Bound.violatedBy, Bound.ofInt, Number.int_le_int_iff]

lemma Bound.violatedBy_ofFloat_atLeast {x : Number} {q : ℚ} (hx : x.toRat? = some q) :
    (Bound.ofFloat .atLeast 0).violatedBy x = false ↔ 0 ≤ q := by
  have hlimit : (Bound.ofFloat .atLeast 0).limit.toRat? = some 0 := by decide +kernel
  show (!(Bound.ofFloat .atLeast 0).limit.le x) = false ↔ _
  rw [Bool.not_eq_false', le_iff_lt_or_eq]
  simp [Number.le, Number.lt, Number.numEq, hx, hlimit]

open Read

/-! ## Sections -/

namespace PoolSettings

lemma usable_default : PoolSettings.default.Usable :=
  ⟨by decide, by decide, by decide⟩

lemma usable_of_check : Ensures check Usable := by
  intro v p h
  obtain ⟨q, hq, htest⟩ := Checked.eq_of_andThen_eq_valid h
  have hordered : q.minConnections ≤ q.maxConnections ∧ q = p := by
    split at htest
    · next hnone =>
      cases htest
      exact ⟨by simpa using hnone, rfl⟩
    · cases htest
  obtain ⟨hordered, rfl⟩ := hordered
  obtain ⟨es, -, hread⟩ := eq_of_closedRecord_eq_valid hq
  revert hordered
  refine Checked.seq_elim hread fun _ _ h _ => ?_
  refine Checked.seq_elim h fun _ _ h hmost => ?_
  refine Checked.map_elim h fun _ hleast => ?_
  intro hordered
  have hleast := ensures_optional (ensures_boundedInteger _) (by decide) hleast
  have hmost := ensures_optional (ensures_boundedInteger _) (by decide) hmost
  simp only [List.forall_mem_singleton, Bound.violatedBy_ofInt_atLeast] at hleast hmost
  exact ⟨hleast, hordered, hmost⟩

end PoolSettings

namespace IngestSettings

lemma hasInk_of_apiKeyFault? {s : String} (h : apiKeyFault? s = none) :
    ∃ c ∈ s.toList, CharClass.isBlank c = false := by
  unfold apiKeyFault? at h
  split at h
  · next hink => simpa [CharClass.hasInk] using hink
  · cases h

lemma prefix_of_endpointFault? {s : String} (h : endpointFault? s = none) :
    "http://".toList <+: s.toList ∨ "https://".toList <+: s.toList := by
  unfold endpointFault? at h
  split at h
  · next hprefix => simpa using hprefix
  · cases h

/-- A time that was read, or that is the default, is read again as what it is. -/
lemma boundedNumber_timeout {t : Number}
    (h : t = .int 30 ∨ (∃ x, t = .float x) ∧ (Bound.ofFloat .above 0).violatedBy t = false) :
    boundedNumber [.ofFloat .above 0] (.ofNumber t) = .valid (.float t.toBinary64) := by
  have hread : number (.ofNumber t) = .valid t.toBinary64 ∧
      (Bound.ofFloat .above 0).violatedBy (.float t.toBinary64) = false := by
    rcases h with rfl | ⟨⟨x, rfl⟩, hbound⟩
    · have hfinite : (Binary64.ofInt 30).isFinite = true := by decide +kernel
      refine ⟨?_, by decide +kernel⟩
      simp [Value.ofNumber, number, asText?, Number.toBinary64, hfinite]
    · exact ⟨rfl, hbound⟩
  unfold boundedNumber
  rw [hread.1]
  exact within_of_forall (List.forall_mem_singleton.mpr hread.2)

lemma boundedInteger_retries {n : Int} (h : 0 ≤ n) :
    boundedInteger [.ofInt .atLeast 0] (.int n) = .valid n := by
  have hwithin : within [.ofInt .atLeast 0] (.int n) = .valid (.int n) :=
    within_of_forall (List.forall_mem_singleton.mpr ((Bound.violatedBy_ofInt_atLeast 0 n).mpr h))
  show (within [.ofInt .atLeast 0] (.int n)).map (fun _ => n) = .valid n
  rw [hwithin]
  rfl

/-- The settings of the delivery can be made from those of the endpoint. -/
lemma check_deliveryValue {s : IngestSettings} (hretries : 0 ≤ s.retries)
    (htimeout : s.timeout = .int 30 ∨
      (∃ x, s.timeout = .float x) ∧ (Bound.ofFloat .above 0).violatedBy s.timeout = false) :
    DeliverySettings.check s.deliveryValue = .valid s.delivery := by
  have htext (t : String) : text (.text t) = .valid t := rfl
  have hboolean (b : Bool) : boolean (.bool b) = .valid b := rfl
  rw [deliveryValue, Value.record]
  simp [DeliverySettings.check, openRecord, DeliverySettings.readFields, required_eq, optional_eq,
    optional_eq_default, Entries.field?, Entries.get?_cons, Scalar.sameKey, Scalar.keyForm, htext,
    hboolean, boundedNumber_timeout htimeout, boundedInteger_retries hretries, delivery]

/-- A section whose key is given. -/
lemma usable_of_check {v : Value} {s : IngestSettings} (h : check v = .valid s)
    (hkey : ∀ es, v = .map es → (Entries.field? es "api_key").isSome) : s.Usable := by
  obtain ⟨es, rfl, hread⟩ := eq_of_closedRecord_eq_valid h
  have hfind : (Field.find? ⟨"api_key", none⟩ es).isSome := by
    rw [find?_of_wire, Option.isSome_map]
    exact hkey es rfl
  refine Checked.seq_elim hread fun _ _ h _ => ?_
  refine Checked.seq_elim h fun _ retries h hretries => ?_
  refine Checked.seq_elim h fun _ timeout h htimeout => ?_
  refine Checked.seq_elim h fun _ endpoint h hendpoint => ?_
  refine Checked.map_elim h fun apiKey hapiKey => ?_
  have hkey := ensures_supplied (ensures_refine text apiKeyFault?) hfind hapiKey
  have haddress := ensures_required (ensures_refine text endpointFault?) hendpoint
  have hbounds := ensures_optional (ensures_boundedInteger _) (by decide) hretries
  simp only [List.forall_mem_cons, Bound.violatedBy_ofInt_atLeast, Bound.violatedBy_ofInt_atMost]
    at hbounds
  obtain ⟨hmost, hleast, -⟩ := hbounds
  have hread : timeout = .int 30 ∨
      (∃ x, timeout = .float x) ∧ (Bound.ofFloat .above 0).violatedBy timeout = false := by
    rcases optional_cases htimeout with ⟨_, v, -, hv⟩ | ⟨-, hdefault⟩
    · obtain ⟨hfloat, hbounds⟩ := ensures_boundedNumber _ v timeout hv
      exact .inr ⟨hfloat, hbounds _ (by simp)⟩
    · exact .inl hdefault
  constructor
  · exact hasInk_of_apiKeyFault? hkey
  · exact prefix_of_endpointFault? haddress
  · exact ⟨hleast, hmost⟩
  · exact check_deliveryValue hleast hread

end IngestSettings

namespace DatabaseSettings

lemma exists_of_urlFault? {s : String} (h : urlFault? s = none) :
    ∃ e, Engine.ofUrl? s = some e := by
  unfold urlFault? at h
  split at h
  · cases h
  · split at h
    · next e he => exact ⟨e, he⟩
    · cases h

/-- A URL that belongs to a database begins as its URLs do. -/
lemma exists_scheme_of_ofUrl? {url : String} {e : Engine} (h : Engine.ofUrl? url = some e) :
    ∃ scheme ∈ e.schemes, scheme.toList <+: url.toList := by
  have hany := List.find?_some h
  simpa using hany

lemma exists_parts_of_collectorFault? {s : String} (h : collectorFault? s = none) :
    ∃ module cls, module ≠ [] ∧ cls ≠ [] ∧ ':' ∉ module ∧ s.toList = module ++ ':' :: cls := by
  unfold collectorFault? CharClass.partition at h
  dsimp only at h
  split at h
  · cases h
  · next hparts =>
    let module := s.toList.takeWhile (· != ':')
    let rest := s.toList.dropWhile (· != ':')
    have hsplit : s.toList = module ++ rest := List.takeWhile_append_dropWhile.symm
    obtain ⟨hmodule, hcls⟩ : module ≠ [] ∧ rest.drop 1 ≠ [] := by simpa [module] using hparts
    cases hrest : rest with
    | nil => simp [hrest] at hcls
    | cons c cls =>
      have hcolon : c = ':' := by
        have hhead := List.head?_dropWhile_not (· != ':') s.toList
        simpa [rest, hrest] using hhead
      refine ⟨module, cls, hmodule, by simpa [hrest] using hcls, ?_, by rw [hsplit, hrest, hcolon]⟩
      intro hmem
      simpa using List.mem_takeWhile_imp hmem

/-- A section whose URL is given. -/
lemma usable_of_check {v : Value} {d : DatabaseSettings} (h : check v = .valid d)
    (hurl : ∀ es, v = .map es → (Entries.field? es "url").isSome) : d.Usable := by
  obtain ⟨es, rfl, hread⟩ := eq_of_closedRecord_eq_valid h
  have hfind : (Field.find? ⟨"url", none⟩ es).isSome := by
    rw [find?_of_wire, Option.isSome_map]
    exact hurl es rfl
  refine Checked.seq_elim hread fun _ pool h hpool => ?_
  refine Checked.seq_elim h fun _ collector h hcollector => ?_
  refine Checked.seq_elim h fun _ _ h _ => ?_
  refine Checked.seq_elim h fun _ engine h _ => ?_
  refine Checked.map_elim h fun url hurl => ?_
  have hscheme := ensures_supplied (ensures_refine text urlFault?) hfind hurl
  have hpath := ensures_optional (ensures_nullable (ensures_refine text collectorFault?))
    (by simp) hcollector
  obtain ⟨e, he⟩ := exists_of_urlFault? hscheme
  constructor
  · exact ⟨e, he, exists_scheme_of_ofUrl? he⟩
  · show ∃ e, engine.or (Engine.ofUrl? url) = some e
    rw [he]
    cases engine with
    | none => exact ⟨e, rfl⟩
    | some e' => exact ⟨e', rfl⟩
  · exact fun path hmem => exists_parts_of_collectorFault? (hpath path hmem)
  · exact ensures_optional PoolSettings.usable_of_check PoolSettings.usable_default hpool

end DatabaseSettings

namespace CollectionSettings

lemma interval_of_readInterval : Ensures readInterval fun n => 10 ≤ n := by
  have hbounded : Ensures (boundedInteger [.ofInt .atLeast shortestInterval]) fun n => 10 ≤ n := by
    intro v n h
    have hbounds := ensures_boundedInteger _ v n h
    simpa [Bound.violatedBy_ofInt_atLeast, shortestInterval] using hbounds
  intro v n h
  unfold readInterval at h
  split at h
  · split at h
    · exact hbounded _ n h
    · cases h
  · exact hbounded _ n h

lemma current_name (g : MetricGroup) :
    MetricGroup.ofName? g.name = some g ∧ g.name ∉ MetricGroup.formerNames.map (·.1) := by
  cases g <;> decide

lemma usable_default : CollectionSettings.default.Usable :=
  ⟨by decide, fun g _ => current_name g⟩

lemma usable_of_check : Ensures check Usable := by
  intro v c h
  obtain ⟨es, rfl, hread⟩ := eq_of_closedRecord_eq_valid h
  refine Checked.seq_elim hread fun _ metrics h _ => ?_
  refine Checked.seq_elim h fun _ _ h _ => ?_
  refine Checked.map_elim h fun interval hinterval => ?_
  constructor
  · exact ensures_optional interval_of_readInterval (by decide) hinterval
  · exact fun g _ => current_name g

end CollectionSettings

/-! ## Loaded settings -/

namespace Settings

variable {h : Host} {named : Option String} {es overrides : Entries}

/-- What the defaults have in a section is there after merging, as long as the section is a mapping
still: what goes over the defaults could only take it away together with the section.  The command
line has to leave the section alone. -/
lemma isSome_of_default (hes : Supplied h named es) (hoverrides : overrides.Distinct)
    {name key : String} (hdefault : ((Value.map defaults).at? [.text name, .text key]).isSome)
    (hfree : overrides.get? (.text name) = none) {inner : Entries}
    (hsection : (settled h es overrides).field? name = some (.map inner)) :
    (inner.field? key).isSome := by
  have hlayers := layered_settings hes hoverrides
  rw [settled, Entries.field?, Environment.get?_expandEntries, Option.map_eq_some_iff] at hsection
  obtain ⟨v, hv, hexpand⟩ := hsection
  obtain ⟨before, rfl, rfl⟩ := Environment.exists_of_expand_eq_map hexpand
  rw [Entries.field?, Environment.get?_expandEntries, Option.isSome_map]
  by_contra hmissing
  have hat : (Value.map (Entries.mergeAll [defaults, es, overrides])).at? [.text name]
      = some (.map before) := by
    rw [Value.at?_map_cons, hv, Option.bind_some, Value.at?_nil]
  have hlost : (Value.map (Entries.mergeAll [defaults, es, overrides])).at? [.text name, .text key]
      = none := by
    rw [Value.at?_map_cons, hv, Option.bind_some, Value.at?_map_cons,
      Option.not_isSome_iff_eq_none.mp hmissing, Option.bind_none]
  have hundecided (p : List Scalar) : ¬ (Value.map overrides).Decides (.text name :: p) :=
    Value.not_decides_of_get?_eq_none hfree
  obtain ⟨mid, top, rest, q, hafter, hstart, hne, -, hblocked⟩ :=
    hlayers.lost (show _ = [] ++ defaults :: [es, overrides] from rfl) hdefault hlost
  obtain ⟨x, hx, hleaf⟩ := Value.isLeafAt_of_blocks ⟨q, hstart, hne, hblocked⟩
  -- What takes the section away is the settings file, and what it puts there stays.
  have htop : top = es := by
    have hmem : top ∈ [es, overrides] := hafter ▸ List.mem_append_right mid List.mem_cons_self
    rcases List.mem_pair.mp hmem with rfl | rfl
    · rfl
    · exact absurd (.inl (by rw [hx]; rfl)) (hundecided [])
  subst htop
  have hprevails := hlayers.prevails (show _ = [defaults] ++ top :: [overrides] from rfl)
    (List.forall_mem_singleton.mpr (hundecided []))
  cases (hprevails.leaf x hx hleaf).symm.trans hat
  exact hleaf ⟨before, rfl⟩

lemma distinct_overrides (interval : Option Int) : (Command.overrides interval).Distinct := by
  cases interval with
  | none => trivial
  | some n =>
    simp [Command.overrides, Entries.Distinct, Value.Distinct, Entries.keyForms, Entries.keys]

lemma get?_overrides (interval : Option Int) {name : String} (hname : "collection" ≠ name) :
    (Command.overrides interval).get? (.text name) = none := by
  cases interval with
  | none => rfl
  | some n => simp [Command.overrides, Entries.get?_cons, Scalar.sameKey, Scalar.keyForm, hname]

/-- Settings that were loaded were checked after the layers were put together. -/
lemma exists_check_of_load {l : Loaded} (hload : load h named overrides = .ok l) :
    ∃ es, Supplied h named es ∧
      Settings.check (.map (settled h es overrides)) = .valid l.settings := by
  rcases supplied_or_failed h named overrides with ⟨es, hes⟩ | ⟨f, hunread⟩ | hleft | ⟨f, hf, -⟩
  · obtain ⟨file, heq⟩ := load_of_supplied overrides hes
    obtain ⟨s, hs, hl⟩ := exists_of_bind_eq_ok (heq.symm.trans hload)
    cases hl
    refine ⟨es, hes, ?_⟩
    by_cases hnamed : (settled h es overrides).Named
    · rw [ofEntries_of_named hnamed] at hs
      split at hs
      · next hcheck =>
        cases hs
        exact hcheck
      · split at hs <;> cases hs
    · cases (ofEntries_of_not_named hnamed).symm.trans hs
  · cases (load_of_unread overrides hunread).symm.trans hload
  · obtain ⟨o, ho⟩ := exists_load_of_leavesOut overrides hleft
    cases ho.symm.trans hload
  · cases hf.symm.trans hload

/-- Settings that pass the check can be worked with, if nothing but an interval is given on the
command line. -/
lemma usable_of_supplied (hes : Supplied h named es) {interval : Option Int} {s : Settings}
    (hcheck : Settings.check (.map (settled h es (Command.overrides interval))) = .valid s) :
    s.Usable := by
  obtain ⟨_, hmap, hread⟩ := eq_of_closedRecord_eq_valid hcheck
  cases hmap
  have hsupplied {name key : String} (hname : "collection" ≠ name)
      (hdefault : ((Value.map defaults).at? [.text name, .text key]).isSome) {x : String × Value}
      (hfind : Field.find? ⟨name, none⟩ (settled h es (Command.overrides interval)) = some x) :
      ∀ inner, x.2 = .map inner → (Entries.field? inner key).isSome := by
    obtain ⟨wire, v⟩ := x
    rintro inner rfl
    rw [find?_of_wire, Option.map_eq_some_iff] at hfind
    obtain ⟨v, hsection, hv⟩ := hfind
    cases hv
    exact isSome_of_default hes (distinct_overrides interval) hdefault
      (get?_overrides interval hname) hsection
  refine Checked.seq_elim hread fun _ _ h _ => ?_
  refine Checked.seq_elim h fun _ _ h _ => ?_
  refine Checked.seq_elim h fun _ collection h hcollection => ?_
  refine Checked.seq_elim h fun _ database h hdatabase => ?_
  refine Checked.map_elim h fun ingest hingest => ?_
  obtain ⟨_, v, hfind, hv⟩ := exists_of_required hingest
  obtain ⟨_, w, hfind', hw⟩ := exists_of_required hdatabase
  have husable : database.Usable :=
    DatabaseSettings.usable_of_check hw (hsupplied (by decide) (by decide) hfind')
  constructor
  · exact IngestSettings.usable_of_check hv (hsupplied (by decide) (by decide) hfind)
  · exact husable
  · exact ensures_optional CollectionSettings.usable_of_check CollectionSettings.usable_default
      hcollection
  · intro T _ w
    obtain ⟨e, he⟩ := husable.engine
    refine ⟨e, e.mem_all, ?_⟩
    simp only [Catalogue.engineName, he]
    rfl

/-- Settings that were loaded can be worked with, whatever the environment, the settings file and
the interval on the command line. -/
theorem usable_of_load (h : Host) (named : Option String) (interval : Option Int) (l : Loaded)
    (hload : load h named (Command.overrides interval) = .ok l) : l.settings.Usable := by
  obtain ⟨es, hes, hcheck⟩ := exists_check_of_load hload
  exact usable_of_supplied hes hcheck

/-- A machine without a settings file, where the environment says what is needed. -/
def watchedHost : Host :=
  ⟨⟨[("HOME", "/root"), ("DBPULSE_API_KEY", "k"), ("DATABASE_URL", "mysql://db/app")]⟩,
    ⟨[], [], []⟩, systemPath⟩

theorem usable_of_load_watchedHost :
    ∃ l, load watchedHost none (Command.overrides (some 30)) = .ok l ∧
      l.settings.collection.interval = 30 ∧ l.settings.Usable := by
  have hinterval : (load watchedHost none (Command.overrides (some 30))).toOption.map
      (fun l => l.settings.collection.interval) = some 30 := by decide +kernel
  cases hload : load watchedHost none (Command.overrides (some 30)) with
  | error f =>
    rw [hload] at hinterval
    cases hinterval
  | ok l =>
    rw [hload] at hinterval
    exact ⟨l, rfl, Option.some.inj hinterval, usable_of_load watchedHost none (some 30) l hload⟩

end Settings

end MetricsAgent
