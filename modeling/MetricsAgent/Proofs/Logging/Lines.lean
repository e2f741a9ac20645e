import MetricsAgent.Proofs.Json.Values
import MetricsAgent.Proofs.Logging.Forms

/-!
# Lines that can be trusted

When the line of a record is JSON on one line that tells the truth about the record
(`LogRecord.trustworthy_iff`).  The entries of a line stand under different texts: over what every line
has goes what is attached and shown, and over both the story of a fault (`LogRecord.Shows`,
`LogRecord.field?_entries_iff`).  What is attached may therefore stand in the place of the time, the
level or the logger, or where a story would be looked for although there is no fault; and it is written
as it is, so that JSON may have no form for it.  These are the only harms (`LogRecord.Harmless`).
-/

namespace MetricsAgent

/-! ## Mappings of names -/

namespace Entries

/-- A mapping whose keys are different texts. -/
structure Labelled (es : Entries) : Prop where
  text : ∀ k ∈ es.keys, ∃ name, k = .text name
  nodup : es.keyForms.Nodup

variable {es : Entries} {name : String} {v : Value}

lemma mem_keyForms_of_mem {e : Scalar × Value} (he : e ∈ es) : e.1.keyForm ∈ es.keyForms :=
  List.mem_map_of_mem (List.mem_map_of_mem he)

lemma Labelled.tail {e : Scalar × Value} (h : Labelled (e :: es)) : es.Labelled :=
  ⟨fun k hk => h.text k (List.mem_cons_of_mem _ hk), (List.nodup_cons.mp h.nodup).2⟩

lemma keyForms_put (es : Entries) (k : Scalar) (v : Value) :
    (es.put k v).keyForms
      = if k.keyForm ∈ es.keyForms then es.keyForms else es.keyForms ++ [k.keyForm] := by
  rw [keyForms, keys_put]
  split
  · rfl
  · rw [List.map_append]
    rfl

lemma Labelled.put (h : es.Labelled) (name : String) (v : Value) :
    (es.put (.text name) v).Labelled := by
  constructor
  · rw [keys_put]
    split
    · exact h.text
    · exact List.forall_mem_append.mpr ⟨h.text, List.forall_mem_singleton.mpr ⟨name, rfl⟩⟩
  · rw [keyForms_put]
    split
    · exact h.nodup
    · next hnew => exact List.nodup_append.mpr ⟨h.nodup, List.nodup_singleton _, by
        rintro a ha b hb rfl
        exact hnew (List.mem_singleton.mp hb ▸ ha)⟩

/-- What stands under a name. -/
lemma Labelled.field?_eq (h : es.Labelled) (he : (Scalar.text name, v) ∈ es) :
    es.field? name = some v := by
  induction es with
  | nil => cases he
  | cons e es ih =>
    obtain ⟨k, w⟩ := e
    rw [field?, get?_cons]
    rcases List.mem_cons.mp he with heq | hmem
    · cases heq
      rw [if_pos (Scalar.sameKey_refl _)]
    · have hne : ¬k.sameKey (.text name) = true := by
        rw [Scalar.sameKey_iff]
        intro hsame
        exact (List.nodup_cons.mp h.nodup).1 (hsame ▸ mem_keyForms_of_mem hmem)
      rw [if_neg hne]
      exact ih h.tail hmem

lemma exists_mem_of_field? (h : es.field? name = some v) : ∃ e ∈ es, e.2 = v := by
  obtain ⟨e, he, rfl⟩ := Option.map_eq_some_iff.mp h
  exact ⟨e, List.mem_of_find?_eq_some he, rfl⟩

/-- A condition on the values of a mapping, name by name. -/
lemma Labelled.forall_mem_iff (h : es.Labelled) {P : Value → Prop} :
    (∀ e ∈ es, P e.2) ↔ ∀ name v, es.field? name = some v → P v := by
  constructor
  · intro hall name v hv
    obtain ⟨e, he, rfl⟩ := exists_mem_of_field? hv
    exact hall e he
  · intro hall e he
    obtain ⟨name, hname⟩ := h.text e.1 (List.mem_map_of_mem he)
    refine hall name e.2 (h.field?_eq ?_)
    rwa [← hname]

end Entries

/-! ## Members of a mapping of names -/

section Members

variable {es : Entries} {ms : List (String × Json)}

lemma loggedMembers_cons {name : String} {v : Value}
    (h : loggedMembers ((.text name, v) :: es) = .ok ms) :
    ∃ j ms', ms = (name, j) :: ms' ∧ v.logged = .ok j ∧ loggedMembers es = .ok ms' := by
  obtain ⟨_, hname, h⟩ := exists_of_bind_eq_ok h
  obtain ⟨j, hj, h⟩ := exists_of_bind_eq_ok h
  obtain ⟨ms', hms', h⟩ := exists_of_bind_eq_ok h
  cases hname
  cases h
  exact ⟨j, ms', rfl, hj, hms'⟩

lemma keyForms_of_logged (hes : ∀ k ∈ es.keys, ∃ name, k = .text name)
    (h : loggedMembers es = .ok ms) : (ms.map (·.1)).map KeyForm.text = es.keyForms := by
  induction es generalizing ms with
  | nil =>
    cases h
    rfl
  | cons e es ih =>
    obtain ⟨k, v⟩ := e
    obtain ⟨⟨name, rfl⟩, hrest⟩ := List.forall_mem_cons.mp hes
    obtain ⟨j, ms', rfl, -, hms'⟩ := loggedMembers_cons h
    rw [Entries.keyForms_cons, ← ih hrest hms']
    rfl

lemma named_of_logged (hes : es.Labelled) (h : loggedMembers es = .ok ms) : Named ms := by
  have hnodup := hes.nodup
  rw [← keyForms_of_logged hes.text h] at hnodup
  exact hnodup.of_map _

/-- Under each name stands what is written of the value of this name. -/
lemma member?_of_logged (hes : ∀ k ∈ es.keys, ∃ name, k = .text name)
    (h : loggedMembers es = .ok ms) (name : String) :
    Option.Rel (fun v j => v.logged = .ok j) (es.field? name)
      (Json.member? (.object ms) name) := by
  induction es generalizing ms with
  | nil =>
    cases h
    exact .none
  | cons e es ih =>
    obtain ⟨k, v⟩ := e
    obtain ⟨⟨name', rfl⟩, hrest⟩ := List.forall_mem_cons.mp hes
    obtain ⟨j, ms', rfl, hj, hms'⟩ := loggedMembers_cons h
    have hmembers := ih hrest hms'
    rw [Json.member?] at hmembers ⊢
    rw [Entries.field?, Entries.get?_cons, List.find?_cons]
    by_cases hname : name' = name
    · subst hname
      rw [if_pos (Scalar.sameKey_refl _), beq_self_eq_true]
      exact .some hj
    · have hne : ¬(Scalar.text name').sameKey (.text name) = true := by
        rw [Scalar.sameKey_iff]
        exact fun hsame => hname (KeyForm.text.inj hsame)
      rw [if_neg hne, beq_eq_false_iff_ne.mpr hname]
      exact hmembers

end Members

/-! ## The entries of a line -/

namespace LogRecord

variable {r : LogRecord} {time : DateTime} {text name : String} {v : Value}

section Entries

variable {es : Entries} {attached : List (String × Value)}

lemma labelled_attach (hes : es.Labelled) : (attach es attached).Labelled := by
  induction attached generalizing es with
  | nil => exact hes
  | cons a attached ih => exact ih (hes.put a.1 a.2)

lemma field?_attach_of_notMem (es : Entries) (h : ∀ a ∈ attached, a.1 ≠ name) :
    (attach es attached).field? name = es.field? name := by
  induction attached generalizing es with
  | nil => rfl
  | cons a attached ih =>
    obtain ⟨ha, hattached⟩ := List.forall_mem_cons.mp h
    refine (ih _ hattached).trans ?_
    rw [Entries.field?_put, if_neg ha]

lemma field?_attach_of_mem (es : Entries) (hattached : Named attached)
    (h : (name, v) ∈ attached) : (attach es attached).field? name = some v := by
  induction attached generalizing es with
  | nil => cases h
  | cons a attached ih =>
    obtain ⟨hnew, hnamed⟩ := List.nodup_cons.mp hattached
    rcases List.mem_cons.mp h with rfl | hmem
    · have hnone : ∀ a ∈ attached, a.1 ≠ name := fun a ha hname =>
        hnew (List.mem_map.mpr ⟨a, ha, hname⟩)
      refine (field?_attach_of_notMem _ hnone).trans ?_
      rw [Entries.field?_put, if_pos rfl]
    · exact ih _ hnamed hmem

/-- What is attached goes before what is there. -/
lemma field?_attach_iff (es : Entries) (hattached : Named attached) :
    (attach es attached).field? name = some v ↔
      (name, v) ∈ attached ∨ es.field? name = some v ∧ ∀ a ∈ attached, a.1 ≠ name := by
  by_cases hmem : ∃ a ∈ attached, a.1 = name
  · obtain ⟨⟨_, w⟩, ha, rfl⟩ := hmem
    rw [field?_attach_of_mem es hattached ha]
    constructor
    · rintro ⟨⟩
      exact .inl ha
    · rintro (hv | ⟨-, hfree⟩)
      · rw [← field?_attach_of_mem es hattached ha, field?_attach_of_mem es hattached hv]
      · exact absurd rfl (hfree _ ha)
  · have hfree : ∀ a ∈ attached, a.1 ≠ name := fun a ha hname => hmem ⟨a, ha, hname⟩
    rw [field?_attach_of_notMem es hfree]
    constructor
    · exact fun hv => .inr ⟨hv, hfree⟩
    · rintro (hv | ⟨hv, -⟩)
      · exact absurd rfl (hfree _ hv)
      · exact hv

/-- The story of a fault goes before what is there under its name. -/
lemma field?_tell_iff (es : Entries) (story : Option String) :
    (tell es story).field? name = some v ↔
      (name = "exception" ∧ ∃ s, story = some s ∧ v = .text s) ∨
        es.field? name = some v ∧ (name = "exception" → story = none) := by
  cases story with
  | none => simp [tell]
  | some s =>
    rw [tell, Entries.field?_put]
    by_cases hname : "exception" = name
    · simp [hname, eq_comm]
    · simp [hname, Ne.symm hname]

end Entries

lemma labelled_own (r : LogRecord) (time : DateTime) (text : String) :
    (r.own time text).Labelled := by
  constructor
  · simp [own, Entries.keys]
  · simp [own, Entries.keyForms, Entries.keys, Scalar.keyForm]

lemma labelled_entries (r : LogRecord) (time : DateTime) (text : String) :
    (r.entries time text).Labelled := by
  have hattach : (attach (r.own time text) r.shown).Labelled :=
    labelled_attach (r.labelled_own time text)
  unfold entries tell
  split
  · exact hattach.put _ _
  · exact hattach

/-- What stands under a name in a line: the story of a fault, else what is attached under the name,
else what every line has. -/
inductive Shows (r : LogRecord) (time : DateTime) (text : String) : String → Value → Prop
  | story {s : String} (h : r.story? = some s) : Shows r time text "exception" (.text s)
  | attached {name : String} {v : Value} (h : (name, v) ∈ r.shown)
    (hname : name = "exception" → r.story? = none) : Shows r time text name v
  | own {name : String} {v : Value} (h : (r.own time text).field? name = some v)
    (hfree : ∀ a ∈ r.shown, a.1 ≠ name) : Shows r time text name v

lemma named_shown (h : Named r.attached) : Named r.shown :=
  h.sublist ((List.filter_sublist).map _)

lemma ne_exception_of_own (h : (r.own time text).field? name = some v) : name ≠ "exception" := by
  rintro rfl
  cases h

lemma field?_entries_iff (h : Named r.attached) :
    (r.entries time text).field? name = some v ↔ r.Shows time text name v := by
  rw [entries, field?_tell_iff, field?_attach_iff _ (named_shown h)]
  constructor
  · rintro (⟨rfl, s, hs, rfl⟩ | ⟨hv | ⟨hv, hfree⟩, hname⟩)
    · exact .story hs
    · exact .attached hv hname
    · exact .own hv hfree
  · rintro (hs | ⟨hv, hname⟩ | ⟨hv, hfree⟩)
    · exact .inl ⟨rfl, _, hs, rfl⟩
    · exact .inr ⟨.inl hv, hname⟩
    · exact .inr ⟨.inr ⟨hv, hfree⟩, fun h => absurd h (ne_exception_of_own hv)⟩

/-! ## Trust -/

/-- A record that can be made: what is attached has different names, none of them that of a part. -/
structure Admitted (r : LogRecord) : Prop where
  named : Named r.attached
  free : ∀ a ∈ r.attached, a.1 ∉ parts

/-- A record that carries a fault, or tells that there is none. -/
def CarriesFault (r : LogRecord) : Prop :=
  r.fault.isSome = true ∨ r.tellsNone = true

/-- The members of a line tell the truth about the record: each name stands once, what every line has
is that of the record, and there is a story of a fault exactly if the record carries one. -/
structure Tells (r : LogRecord) (ms : List (String × Json)) : Prop where
  named : Named ms
  timestamp : ∃ time, timeOfRecord r.created = .ok time ∧
    Json.member? (.object ms) "timestamp" = some (.string time.isoText)
  level : Json.member? (.object ms) "level" = some (.string (levelName r.level))
  logger : Json.member? (.object ms) "logger" = some (.string r.logger)
  message : ∃ text, r.text = .ok text ∧
    Json.member? (.object ms) "message" = some (.string text)
  exception : (Json.member? (.object ms) "exception").isSome = true ↔ r.CarriesFault

/-- The record has a line; there are no control characters in it, and it is JSON that tells the truth
about the record. -/
def Trustworthy (r : LogRecord) : Prop :=
  ∃ s, r.line = .ok s ∧ Json.Printable s.toList ∧
    ∃ ms, Json.Text (.object ms) s ∧ r.Tells ms

/-- What may be attached and shown under a name without harm: in the place of what every line has, only
what is written the same; under the name of the story, whatever a story replaces; elsewhere, what JSON
can hold. -/
structure Harmless (r : LogRecord) (time : DateTime) (text name : String) (v : Value) : Prop where
  own : ∀ t, (r.own time text).field? name = some (.text t) → v.logged = .ok (.string t)
  exception : name = "exception" → r.CarriesFault
  form : name ≠ "exception" → v.HasForm

lemma isSome_story? (r : LogRecord) : r.story?.isSome = true ↔ r.CarriesFault := by
  unfold story? CarriesFault
  cases r.fault <;> cases r.tellsNone <;> simp

lemma document_eq (h : r.Admitted) (htime : timeOfRecord r.created = .ok time)
    (htext : r.text = .ok text) :
    r.document = (loggedMembers (r.entries time text)).map .object := by
  have hfree : (r.attached.find? fun a => parts.contains a.1) = none := by
    simpa using h.free
  rw [document, members, hfree, htime, htext]
  rfl

lemma exists_of_document {j : Json} (h : r.document = .ok j) :
    ∃ time text, timeOfRecord r.created = .ok time ∧ r.text = .ok text := by
  obtain ⟨es, hes, -⟩ := exists_of_bind_eq_ok h
  unfold members at hes
  split at hes
  · cases hes
  · obtain ⟨time, htime, hes⟩ := exists_of_bind_eq_ok hes
    obtain ⟨text, htext, -⟩ := exists_of_bind_eq_ok hes
    exact ⟨time, text, htime, htext⟩

/-! ## What every line has -/

lemma own_cases {t : String} (h : (r.own time text).field? name = some (.text t)) :
    (name = "timestamp" ∧ t = time.isoText) ∨ (name = "level" ∧ t = levelName r.level) ∨
      (name = "logger" ∧ t = r.logger) ∨ (name = "message" ∧ t = text) := by
  have hinj {a b : String} (h : some (Value.text a) = some (.text b)) : b = a :=
    (Scalar.text.inj (Value.scalar.inj (Option.some.inj h))).symm
  simp only [own, Entries.field?, Entries.get?_cons, Entries.get?_nil, Scalar.sameKey_iff,
    Scalar.keyForm, KeyForm.text.injEq] at h
  split_ifs at h with htimestamp hlevel hlogger hmessage
  · exact .inl ⟨htimestamp.symm, hinj h⟩
  · exact .inr (.inl ⟨hlevel.symm, hinj h⟩)
  · exact .inr (.inr (.inl ⟨hlogger.symm, hinj h⟩))
  · exact .inr (.inr (.inr ⟨hmessage.symm, hinj h⟩))

/-- A line that tells the truth has what every line has. -/
lemma Tells.own {ms : List (String × Json)} (h : r.Tells ms)
    (htime : timeOfRecord r.created = .ok time) (htext : r.text = .ok text) {t : String}
    (hown : (r.own time text).field? name = some (.text t)) :
    Json.member? (.object ms) name = some (.string t) := by
  rcases own_cases hown with ⟨rfl, rfl⟩ | ⟨rfl, rfl⟩ | ⟨rfl, rfl⟩ | ⟨rfl, rfl⟩
  · obtain ⟨time', htime', hmember⟩ := h.timestamp
    cases htime.symm.trans htime'
    exact hmember
  · exact h.level
  · exact h.logger
  · obtain ⟨text', htext', hmember⟩ := h.message
    cases htext.symm.trans htext'
    exact hmember

/-! ## Trust and harm -/

lemma Shows.carriesFault (h : r.Shows time text name v)
    (hharmless : ∀ a ∈ r.shown, r.Harmless time text a.1 a.2) (hname : name = "exception") :
    r.CarriesFault := by
  cases h with
  | story hs => exact (isSome_story? r).mp (by rw [hs]; rfl)
  | attached hmem => exact (hharmless _ hmem).exception hname
  | own hown => exact absurd hname (ne_exception_of_own hown)

section Entries

variable {ms : List (String × Json)} (hr : r.Admitted)
  (hms : loggedMembers (r.entries time text) = .ok ms)

include hr hms

lemma exists_member (h : r.Shows time text name v) :
    ∃ j, v.logged = .ok j ∧ Json.member? (.object ms) name = some j := by
  have hrel := member?_of_logged (r.labelled_entries time text).text hms name
  rw [(field?_entries_iff hr.named).mpr h] at hrel
  cases hmember : Json.member? (.object ms) name with
  | none =>
    rw [hmember] at hrel
    cases hrel
  | some j =>
    rw [hmember] at hrel
    cases hrel with
    | some hj => exact ⟨j, hj, rfl⟩

lemma exists_shows (h : (Json.member? (.object ms) name).isSome = true) :
    ∃ v, r.Shows time text name v := by
  have hrel := member?_of_logged (r.labelled_entries time text).text hms name
  cases hfield : (r.entries time text).field? name with
  | none =>
    rw [hfield] at hrel
    cases hmember : Json.member? (.object ms) name with
    | none => simp [hmember] at h
    | some j =>
      rw [hmember] at hrel
      cases hrel
  | some v => exact ⟨v, (field?_entries_iff hr.named).mp hfield⟩

/-- What a line that tells the truth has attached is harmless. -/
lemma harmless_of_tells (htime : timeOfRecord r.created = .ok time) (htext : r.text = .ok text)
    (hfinite : (Json.object ms).Finite) (h : r.Tells ms) :
    ∀ a ∈ r.shown, r.Harmless time text a.1 a.2 := by
  rintro ⟨name, v⟩ hmem
  refine ⟨fun t hown => ?_, ?_, fun hname => ?_⟩
  · obtain ⟨j, hj, hmember⟩ := exists_member hr hms
      (.attached hmem fun h => absurd h (ne_exception_of_own hown))
    cases hmember.symm.trans (h.own htime htext hown)
    exact hj
  · rintro rfl
    by_contra hnot
    have hnone : r.story? = none := by
      rwa [← isSome_story?, Option.not_isSome_iff_eq_none] at hnot
    obtain ⟨j, -, hmember⟩ := exists_member hr hms (.attached hmem fun _ => hnone)
    exact hnot (h.exception.mp (by rw [hmember]; rfl))
  · have hforms := (Value.of_loggedMembers _ ms hms).2.2 (Json.all_object.mp hfinite)
    have hshows : r.Shows time text name v := .attached hmem fun h => absurd h hname
    exact (r.labelled_entries time text).forall_mem_iff.mp hforms name v
      ((field?_entries_iff hr.named).mpr hshows)

/-- What every line has is there if what is attached is harmless. -/
lemma member?_own (h : ∀ a ∈ r.shown, r.Harmless time text a.1 a.2) {t : String}
    (hown : (r.own time text).field? name = some (.text t)) :
    Json.member? (.object ms) name = some (.string t) := by
  by_cases hmem : ∃ a ∈ r.shown, a.1 = name
  · obtain ⟨⟨_, v⟩, ha, rfl⟩ := hmem
    obtain ⟨j, hj, hmember⟩ := exists_member hr hms
      (.attached ha fun h => absurd h (ne_exception_of_own hown))
    cases hj.symm.trans ((h _ ha).own t hown)
    exact hmember
  · have hfree : ∀ a ∈ r.shown, a.1 ≠ name := fun a ha hname => hmem ⟨a, ha, hname⟩
    obtain ⟨j, hj, hmember⟩ := exists_member hr hms (.own hown hfree)
    cases hj
    exact hmember

/-- A line tells the truth if what is attached is harmless. -/
lemma tells_of_harmless (htime : timeOfRecord r.created = .ok time) (htext : r.text = .ok text)
    (h : ∀ a ∈ r.shown, r.Harmless time text a.1 a.2) : r.Tells ms where
  named := named_of_logged (r.labelled_entries time text) hms
  timestamp := ⟨time, htime, member?_own hr hms h rfl⟩
  level := member?_own hr hms h rfl
  logger := member?_own hr hms h rfl
  message := ⟨text, htext, member?_own hr hms h rfl⟩
  exception := by
    constructor
    · intro hsome
      obtain ⟨v, hv⟩ := exists_shows hr hms hsome
      exact hv.carriesFault h rfl
    · intro hcarries
      obtain ⟨s, hs⟩ := Option.isSome_iff_exists.mp ((isSome_story? r).mpr hcarries)
      obtain ⟨j, -, hmember⟩ := exists_member hr hms (.story hs)
      rw [hmember]
      rfl

end Entries

lemma exists_text_of_own (h : (r.own time text).field? name = some v) : ∃ t, v = .text t := by
  obtain ⟨e, he, rfl⟩ := Entries.exists_mem_of_field? h
  simp only [own, List.mem_cons, List.not_mem_nil, or_false] at he
  rcases he with rfl | rfl | rfl | rfl <;> exact ⟨_, rfl⟩

/-- What is shown beside what is harmless has a form in JSON. -/
lemma Shows.hasForm (h : r.Shows time text name v)
    (hharmless : ∀ a ∈ r.shown, r.Harmless time text a.1 a.2) : v.HasForm := by
  cases h with
  | story => exact .scalar trivial
  | own hown =>
    obtain ⟨t, rfl⟩ := exists_text_of_own hown
    exact .scalar trivial
  | attached hmem hstory =>
    refine (hharmless _ hmem).form fun hname => ?_
    have hcarries := (isSome_story? r).mpr ((hharmless _ hmem).exception hname)
    rw [hstory hname] at hcarries
    cases hcarries

/-- The entries of a line are written if what is attached is harmless. -/
lemma exists_logged_of_harmless (hr : r.Admitted)
    (h : ∀ a ∈ r.shown, r.Harmless time text a.1 a.2) :
    ∃ ms, loggedMembers (r.entries time text) = .ok ms ∧ ∀ m ∈ ms, m.2.Finite := by
  have hlabelled := r.labelled_entries time text
  refine Value.loggedMembers_of_hasForm _ (fun e he => ?_) (hlabelled.forall_mem_iff.mpr ?_)
  · obtain ⟨name, hname⟩ := hlabelled.text e.1 (List.mem_map_of_mem he)
    rw [hname]
    trivial
  · exact fun name v hv => ((field?_entries_iff hr.named).mp hv).hasForm h

lemma Trustworthy.harmless (h : r.Trustworthy) (hr : r.Admitted) (htext : r.text = .ok text) :
    ∃ time, timeOfRecord r.created = .ok time ∧
      ∀ a ∈ r.shown, r.Harmless time text a.1 a.2 := by
  obtain ⟨s, hline, -, ms', hjson, htells⟩ := h
  obtain ⟨j, hj, hprint⟩ := exists_of_bind_eq_ok hline
  obtain ⟨time, -, htime, -⟩ := exists_of_document hj
  rw [document_eq hr htime htext] at hj
  obtain ⟨ms, hms, rfl⟩ := eq_of_map_eq_ok hj
  obtain ⟨heq, hfinite⟩ :=
    (Json.text_iff_of_print Json.regular_spaced (eq_of_mapError_eq_ok hprint)).mp hjson
  cases heq
  exact ⟨time, htime, harmless_of_tells hr hms htime htext hfinite htells⟩

/-- A record whose message can be formatted has a line that can be trusted exactly if its time is one
of the calendar and everything that is attached and shown is harmless. -/
theorem trustworthy_iff (hr : r.Admitted) (htext : r.text = .ok text) :
    r.Trustworthy ↔ ∃ time, timeOfRecord r.created = .ok time ∧
      ∀ a ∈ r.shown, r.Harmless time text a.1 a.2 := by
  refine ⟨fun h => h.harmless hr htext, ?_⟩
  rintro ⟨time, htime, hharmless⟩
  obtain ⟨ms, hms, hfinite⟩ := exists_logged_of_harmless hr hharmless
  have hdocument : (Json.object ms).Finite := Json.all_object.mpr hfinite
  have hshort : (Json.object ms).Short :=
    Json.all_object.mpr (Value.of_loggedMembers _ ms hms).2.1
  obtain ⟨s, hs⟩ : ∃ s, Json.print Json.spaced (.object ms) = .ok s :=
    Json.exists_print hdocument hshort
  have hline : r.line = .ok s := by
    rw [line, document_eq hr htime htext, hms]
    show (Json.print Json.spaced (.object ms)).mapError LogFault.print = .ok s
    rw [hs]
    rfl
  exact ⟨s, hline, Json.printable_of_print Json.flat_spaced hs, ms,
    Json.text_of_print Json.regular_spaced hdocument hs,
    tells_of_harmless hr hms htime htext hharmless⟩

/-- A record with something attached. -/
def noted (attached : List (String × Value)) : LogRecord where
  level := 20
  logger := "dbpulse.test"
  created := .float (Binary64.ofInt 1700000000)
  message := .text "m"
  arguments := []
  fault := none
  attached := attached

/-- A level that is attached does no harm where it is the level of the record. -/
theorem trustworthy_iff_noted :
    (noted [("level", .text "INFO"), ("rows", .list [.int 3])]).Admitted ∧
      (noted [("level", .text "INFO"), ("rows", .list [.int 3])]).text = .ok "m" ∧
      (noted [("level", .text "INFO"), ("rows", .list [.int 3])]).Trustworthy := by
  have hr : (noted [("level", .text "INFO"), ("rows", .list [.int 3])]).Admitted :=
    ⟨by simp [Named, noted], by simp [noted, parts]⟩
  have htime : (timeOfRecord (.float (Binary64.ofInt 1700000000))).toOption.isSome = true := by
    decide +kernel
  obtain ⟨time, htime⟩ : ∃ time, timeOfRecord (.float (Binary64.ofInt 1700000000)) = .ok time := by
    cases h : timeOfRecord (.float (Binary64.ofInt 1700000000)) with
    | ok time => exact ⟨time, rfl⟩
    | error f => simp [h, Except.toOption] at htime
  refine ⟨hr, rfl, (trustworthy_iff hr rfl).mpr ⟨time, htime, fun a ha => ?_⟩⟩
  have hmem : a ∈ [("level", Value.text "INFO"), ("rows", .list [.int 3])] :=
    List.mem_of_mem_filter ha
  have hthree : Json.IsShort 3 :=
    lt_trans (show 3 < tenTo 1 by decide) (tenTo_lt_tenTo (by decide))
  simp only [List.mem_cons, List.not_mem_nil, or_false] at hmem
  rcases hmem with rfl | rfl
  · refine ⟨fun t ht => ?_, nofun, fun _ => .scalar trivial⟩
    rcases own_cases ht with ⟨h, -⟩ | ⟨-, rfl⟩ | ⟨h, -⟩ | ⟨h, -⟩
    · exact absurd h (by decide)
    · rfl
    · exact absurd h (by decide)
    · exact absurd h (by decide)
  · refine ⟨fun t ht => ?_, nofun, fun _ => .list (List.forall_mem_singleton.mpr (.scalar hthree))⟩
    rcases own_cases ht with ⟨h, -⟩ | ⟨h, -⟩ | ⟨h, -⟩ | ⟨h, -⟩ <;> exact absurd h (by decide)

/-- What is attached under the name of the level takes its place. -/
theorem not_forall_trustworthy :
    ¬∀ (r : LogRecord) (text : String), r.Admitted → r.text = .ok text → r.Trustworthy := by
  intro hall
  have hr : (noted [("level", .text "x")]).Admitted :=
    ⟨by simp [Named, noted], by simp [noted, parts]⟩
  obtain ⟨time, -, hharmless⟩ := (hall _ "m" hr rfl).harmless hr rfl
  have hshown : ("level", Value.text "x") ∈ (noted [("level", .text "x")]).shown :=
    List.mem_filter.mpr ⟨List.mem_singleton_self _, by decide +kernel⟩
  have hlogged := (hharmless _ hshown).own "INFO" rfl
  exact absurd (Json.string.inj (Except.ok.inj hlogged)) (by decide)

end LogRecord

end MetricsAgent
