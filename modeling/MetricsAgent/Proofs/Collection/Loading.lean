import MetricsAgent.Collection.Selection
import MetricsAgent.Proofs.Run.Scripts
import MetricsAgent.Proofs.Settings.Usable
import MetricsAgent.Run.Seconds

/-!
# Loading the collector

The collector is meant to be created or to be refused with a fault of loading, whatever the modules
that are installed raise.  `Catalogue.Selection` says what becomes of choosing its class, and
the lemmas on `Catalogue.create` what creating it comes to then.

A class that is registered for the engine and one that is named by its path are not loaded alike.
Whatever loading a registration raises is reported.  Of what a module raises that is named by a
path, only the faults of an import are, and of what looking for the class in it raises, only that
there is none; any other fault escapes as it is (`Catalogue.Escapes`).  That is all that goes wrong
with settings that were loaded, as long as the engine is known (`Catalogue.create_reports_iff`).
-/

namespace MetricsAgent

open Script

/-- A fault of loading a collector. -/
def Fault.IsLoading (f : Fault) : Prop :=
  ∃ message subject reason cause, f = .loading message subject reason cause

namespace Catalogue

variable {T : Type} {c : Catalogue T} {s : Settings} {f : Fault} {k : CollectorClass T}

/-! ## Faults -/

lemma isLoading_unusable (message subject : String) : (unusable message subject).IsLoading :=
  ⟨message, some subject, none, none, rfl⟩

lemma isLoading_unusableBecause (message subject : String) (f : Fault) :
    (unusableBecause message subject f).IsLoading :=
  ⟨message, some subject, some f, some f, rfl⟩

/-- No fault is its own cause. -/
lemma ne_unusableBecause (message subject : String) (f : Fault) :
    f ≠ unusableBecause message subject f := by
  intro h
  have hsize := congrArg sizeOf h
  simp only [unusableBecause, Fault.loading.sizeOf_spec, Option.some.sizeOf_spec] at hsize
  omega

/-- What is no class of collectors is refused with a fault of loading. -/
lemma isLoading_of_asClass {h : Holder T} {subject : String}
    (herror : asClass h subject = .error f) : f.IsLoading := by
  unfold asClass at herror
  split at herror
  · cases herror
  · cases herror
  · cases herror
    exact isLoading_unusable _ _
  · cases herror
    exact isLoading_unusable _ _

/-! ## The class that is chosen -/

/-- The path of the collector that the settings name. -/
def namedPath? (s : Settings) : Option String :=
  s.database.collector.filter (!·.isEmpty)

/-- A path is made up of the name of a module and a name in it. -/
structure Parts (path name member : String) : Prop where
  split : CharClass.partition ':' path = (name, member)
  nonempty : (name.isEmpty || member.isEmpty) = false

/-- What is raised while the class of the collector is loaded: by the module that the settings name,
by looking for the class in it, or by what is registered for the engine. -/
inductive Raised (c : Catalogue T) (s : Settings) : Fault → Prop
  | module {path name member : String} {f : Fault} (hpath : namedPath? s = some path)
      (hparts : Parts path name member) (hload : c.loadModule name = .error f) : Raised c s f
  | member {path name member : String} {members : Members T} {f : Fault}
      (hpath : namedPath? s = some path) (hparts : Parts path name member)
      (hload : c.loadModule name = .ok members)
      (hget : (Holder.module name members).get member = .error f) : Raised c s f
  | registration {e : Engine} {p : EntryPoint} {others : List EntryPoint} {f : Fault}
      (hpath : namedPath? s = none) (hengine : s.database.resolvedEngine? = some e)
      (hfound : c.entryPoints.filter (·.name == e.name) = p :: others)
      (hload : c.loadEntryPoint p.value = .error f) : Raised c s f

/-- An ordinary fault that the module named by the settings raises, other than one of an import, or
that looking for the class in it raises, other than that there is none. -/
inductive Escapes (c : Catalogue T) (s : Settings) (f : Fault) : Prop
  | module {path name member : String} (hpath : namedPath? s = some path)
      (hparts : Parts path name member) (hload : c.loadModule name = .error f)
      (hordinary : f.isOrdinary = true) (himport : f.isImport = false) : Escapes c s f
  | member {path name member : String} {members : Members T} (hpath : namedPath? s = some path)
      (hparts : Parts path name member) (hload : c.loadModule name = .ok members)
      (hget : (Holder.module name members).get member = .error f)
      (hordinary : f.isOrdinary = true) (hattribute : f.isAttribute = false) : Escapes c s f

lemma Escapes.raises (h : Escapes c s f) : Raised c s f := by
  cases h with
  | module hpath hparts hload => exact .module hpath hparts hload
  | member hpath hparts hload hget => exact .member hpath hparts hload hget

lemma Escapes.ordinary (h : Escapes c s f) : f.isOrdinary = true := by
  cases h with
  | module _ _ _ hordinary => exact hordinary
  | member _ _ _ _ hordinary => exact hordinary

/-- What becomes of choosing the class of the collector. -/
inductive Selection (c : Catalogue T) (s : Settings) : Except Fault (CollectorClass T) → Prop
  | named {path : String} {r : Except Fault (CollectorClass T)} (hpath : namedPath? s = some path)
      (hload : c.loadClass path = r) : Selection c s r
  | unknown (hpath : namedPath? s = none) (hengine : s.database.resolvedEngine? = none) :
      Selection c s (.error (.foreign "ValueError" (some Engine.unknownUrlMessage) none))
  | unregistered {e : Engine} (hpath : namedPath? s = none)
      (hengine : s.database.resolvedEngine? = some e)
      (hfound : c.entryPoints.filter (·.name == e.name) = []) :
      Selection c s (.error (unusable ("No collector installed for database type " ++ quote e.name
        ++ " (" ++ c.installedText ++ ")") e.name))
  | failed {e : Engine} {p : EntryPoint} {others : List EntryPoint} {f : Fault}
      (hpath : namedPath? s = none) (hengine : s.database.resolvedEngine? = some e)
      (hfound : c.entryPoints.filter (·.name == e.name) = p :: others)
      (hload : c.loadEntryPoint p.value = .error f) (hordinary : f.isOrdinary = true) :
      Selection c s (.error
        (unusableBecause ("Failed to load entry point " ++ quote p.value) e.name f))
  | ended {e : Engine} {p : EntryPoint} {others : List EntryPoint} {f : Fault}
      (hpath : namedPath? s = none) (hengine : s.database.resolvedEngine? = some e)
      (hfound : c.entryPoints.filter (·.name == e.name) = p :: others)
      (hload : c.loadEntryPoint p.value = .error f) (hordinary : f.isOrdinary = false) :
      Selection c s (.error f)
  | registered {e : Engine} {p : EntryPoint} {others : List EntryPoint} {h : Holder T}
      {r : Except Fault (CollectorClass T)} (hpath : namedPath? s = none)
      (hengine : s.database.resolvedEngine? = some e)
      (hfound : c.entryPoints.filter (·.name == e.name) = p :: others)
      (hload : c.loadEntryPoint p.value = .ok h) (hclass : asClass h p.value = r) : Selection c s r

lemma exists_selection (c : Catalogue T) (s : Settings) : ∃ r, Selection c s r := by
  cases hpath : namedPath? s with
  | some path => exact ⟨_, .named hpath rfl⟩
  | none =>
    cases hengine : s.database.resolvedEngine? with
    | none => exact ⟨_, .unknown hpath hengine⟩
    | some e =>
      cases hfound : c.entryPoints.filter (·.name == e.name) with
      | nil => exact ⟨_, .unregistered hpath hengine hfound⟩
      | cons p others =>
        cases hload : c.loadEntryPoint p.value with
        | ok h => exact ⟨_, .registered hpath hengine hfound hload rfl⟩
        | error f =>
          by_cases hordinary : f.isOrdinary = true
          · exact ⟨_, .failed hpath hengine hfound hload hordinary⟩
          · exact ⟨_, .ended hpath hengine hfound hload (by simpa using hordinary)⟩

/-! ## By name -/

lemma loadClass_of_blank {path : String}
    (hblank : ((CharClass.partition ':' path).1.isEmpty ||
      (CharClass.partition ':' path).2.isEmpty) = true) :
    c.loadClass path = .error (unusable "Expected 'package.module:ClassName'" path) := by
  unfold loadClass
  exact if_pos hblank

lemma loadClass_of_parts {path name member : String} (hparts : Parts path name member) :
    c.loadClass path = match c.loadModule name with
      | .error f => .error (if f.isImport then
          unusableBecause ("Could not import module " ++ quote name) path f else f)
      | .ok members =>
        match (Holder.module name members).get member with
        | .error f => .error (if f.isAttribute then unusableBecause
            ("Module " ++ quote name ++ " has no attribute " ++ quote member) path f else f)
        | .ok h => asClass h path := by
  unfold loadClass
  rw [hparts.split]
  dsimp only
  rw [hparts.nonempty]
  cases c.loadModule name with
  | error f => cases himport : f.isImport <;> simp [himport] <;> rfl
  | ok members =>
    simp only [Bool.false_eq_true, ↓reduceIte]
    cases (Holder.module name members).get member with
    | error f => cases hattribute : f.isAttribute <;> simp [hattribute] <;> rfl
    | ok h => rfl

lemma loadClass_of_module {path name member : String} (hparts : Parts path name member)
    (hload : c.loadModule name = .error f) :
    c.loadClass path = .error (if f.isImport then
      unusableBecause ("Could not import module " ++ quote name) path f else f) := by
  rw [loadClass_of_parts hparts, hload]

lemma loadClass_of_member {path name member : String} {members : Members T}
    (hparts : Parts path name member) (hload : c.loadModule name = .ok members)
    (hget : (Holder.module name members).get member = .error f) :
    c.loadClass path = .error (if f.isAttribute then unusableBecause
      ("Module " ++ quote name ++ " has no attribute " ++ quote member) path f else f) := by
  rw [loadClass_of_parts hparts, hload]
  dsimp only
  rw [hget]

/-- A class that is named is not loaded because of a fault of loading, because of one that ends the
program, or because of one that escapes. -/
lemma loadClass_fault_cases {path : String} (hpath : namedPath? s = some path)
    (h : c.loadClass path = .error f) : f.IsLoading ∨ f.isOrdinary = false ∨ Escapes c s f := by
  cases hordinary : f.isOrdinary with
  | false => exact .inr (.inl rfl)
  | true =>
    refine Or.imp_right .inr ?_
    cases hsplit : CharClass.partition ':' path with
    | mk name member =>
      by_cases hblank : (name.isEmpty || member.isEmpty) = true
      · rw [loadClass_of_blank (by rw [hsplit]; exact hblank)] at h
        cases h
        exact .inl (isLoading_unusable _ _)
      have hparts : Parts path name member := ⟨hsplit, by simpa using hblank⟩
      cases hload : c.loadModule name with
      | error g =>
        rw [loadClass_of_module hparts hload, Except.error.injEq] at h
        cases himport : g.isImport with
        | true =>
          rw [himport, if_pos rfl] at h
          exact .inl (h ▸ isLoading_unusableBecause _ _ _)
        | false =>
          rw [himport, if_neg Bool.false_ne_true] at h
          subst h
          exact .inr (.module hpath hparts hload hordinary himport)
      | ok members =>
        cases hget : (Holder.module name members).get member with
        | error g =>
          rw [loadClass_of_member hparts hload hget, Except.error.injEq] at h
          cases hattribute : g.isAttribute with
          | true =>
            rw [hattribute, if_pos rfl] at h
            exact .inl (h ▸ isLoading_unusableBecause _ _ _)
          | false =>
            rw [hattribute, if_neg Bool.false_ne_true] at h
            subst h
            exact .inr (.member hpath hparts hload hget hordinary hattribute)
        | ok holder =>
          rw [loadClass_of_parts hparts, hload] at h
          dsimp only at h
          rw [hget] at h
          exact .inl (isLoading_of_asClass h)

/-! ## By either route -/

/-- The faults of choosing a class: a fault of loading, one that ends the program, one that escapes,
or that of an engine that is not known. -/
lemma Selection.fault_cases (h : Selection c s (.error f)) :
    f.IsLoading ∨ f.isOrdinary = false ∨ Escapes c s f ∨
      (namedPath? s = none ∧ s.database.resolvedEngine? = none) := by
  cases h with
  | named hpath hload =>
    rcases loadClass_fault_cases hpath hload with hloading | hordinary | hescapes
    · exact .inl hloading
    · exact .inr (.inl hordinary)
    · exact .inr (.inr (.inl hescapes))
  | unknown hpath hengine => exact .inr (.inr (.inr ⟨hpath, hengine⟩))
  | unregistered => exact .inl (isLoading_unusable _ _)
  | failed => exact .inl (isLoading_unusableBecause _ _ _)
  | ended hpath hengine hfound hload hordinary => exact .inr (.inl hordinary)
  | registered hpath hengine hfound hload hclass => exact .inl (isLoading_of_asClass hclass)

/-- An ordinary fault that is raised is the cause of a fault of loading, unless it escapes. -/
lemma Raised.selection (h : Raised c s f) (hordinary : f.isOrdinary = true) :
    (∃ message subject, Selection c s (.error (unusableBecause message subject f))) ∨
      Escapes c s f := by
  cases h with
  | module hpath hparts hload =>
    cases himport : f.isImport with
    | true =>
      have hclass := loadClass_of_module hparts hload
      rw [himport] at hclass
      exact .inl ⟨_, _, .named hpath hclass⟩
    | false => exact .inr (.module hpath hparts hload hordinary himport)
  | member hpath hparts hload hget =>
    cases hattribute : f.isAttribute with
    | true =>
      have hclass := loadClass_of_member hparts hload hget
      rw [hattribute] at hclass
      exact .inl ⟨_, _, .named hpath hclass⟩
    | false => exact .inr (.member hpath hparts hload hget hordinary hattribute)
  | registration hpath hengine hfound hload =>
    exact .inl ⟨_, _, .failed hpath hengine hfound hload hordinary⟩

/-- A fault that escapes is what choosing the class ends with. -/
lemma Escapes.selection (h : Escapes c s f) : Selection c s (.error f) := by
  cases h with
  | module hpath hparts hload _ himport =>
    refine .named hpath ?_
    rw [loadClass_of_module hparts hload, himport]
    rfl
  | member hpath hparts hload hget _ hattribute =>
    refine .named hpath ?_
    rw [loadClass_of_member hparts hload hget, hattribute]
    rfl

/-! ## Creation -/

section Creation

variable [Seconds T]

/-- Choosing the class of the collector. -/
def choose (c : Catalogue T) (s : Settings) : Script T (CollectorClass T) :=
  match namedPath? s with
  | some path =>
    match c.loadClass path with
    | .ok k => succeed k
    | .error f => fail f
  | none => do c.findClass (← engineName s)

/-- Creating a collector of a class, and configuring it. -/
def make (k : CollectorClass T) (s : Settings) : Script T (Collector T) :=
  Script.recover (do
      let collector ← instantiate k
      collector.configure (collectorConfig s)
      return collector)
    fun f =>
      if f.isOrdinary then fail (unusableBecause ("Failed to initialize " ++ k.name) k.name f)
      else fail f

omit [Seconds T] in
lemma create_eq (c : Catalogue T) (s : Settings) :
    c.create s = (do
      let k ← c.choose s
      let collector ← make k s
      log .info .registry ("Using collector " ++ k.name ++ " for " ++ (← engineName s))
      return collector) := by
  unfold create choose
  rw [← namedPath?]
  cases namedPath? s with
  | some path =>
    dsimp only
    cases c.loadClass path with
    | ok k => rfl
    | error f => rfl
  | none =>
    unfold engineName
    cases s.database.resolvedEngine? with
    | none => rfl
    | some e => rfl

/-- What is said in the log on the way to a registration is all that comes before loading it. -/
lemma run_findClass_cons {engine : String} {p : EntryPoint} {others : List EntryPoint}
    (hfound : c.entryPoints.filter (·.name == engine) = p :: others) (w : World T) :
    ∃ u, (c.findClass engine).run w = (match c.loadEntryPoint p.value with
      | .error f =>
        if f.isOrdinary then
          throw (unusableBecause ("Failed to load entry point " ++ quote p.value) engine f)
        else throw f
      | .ok h =>
        match asClass h p.value with
        | .ok k => return k
        | .error f => throw f : Script T (CollectorClass T)).run u := by
  unfold findClass
  rw [run_bind_ok (run_log _ _ _ _), hfound]
  dsimp only
  split
  · exact ⟨_, (run_bind_ok (run_log _ _ _ _)).trans (run_bind_ok (run_log _ _ _ _))⟩
  · exact ⟨_, run_bind_ok (run_log _ _ _ _)⟩

lemma run_choose_of_engine {e : Engine} (hpath : namedPath? s = none)
    (hengine : s.database.resolvedEngine? = some e) (w : World T) :
    (c.choose s).run w = (c.findClass e.name).run w := by
  unfold choose engineName
  rw [hpath, hengine]
  rfl

/-- Choosing the class has the result of the selection. -/
lemma run_choose {r : Except Fault (CollectorClass T)} (h : Selection c s r) (w : World T) :
    ∃ u, (c.choose s).run w = (r, u) := by
  cases h with
  | named hpath hload =>
    unfold choose
    rw [hpath]
    dsimp only
    rw [hload]
    cases r with
    | ok k => exact ⟨w, rfl⟩
    | error f => exact ⟨w, rfl⟩
  | unknown hpath hengine =>
    unfold choose engineName
    rw [hpath, hengine]
    exact ⟨w, rfl⟩
  | unregistered hpath hengine hfound =>
    rw [run_choose_of_engine hpath hengine, findClass, run_bind_ok (run_log _ _ _ _), hfound]
    exact ⟨_, run_throw _ _⟩
  | failed hpath hengine hfound hload hordinary =>
    obtain ⟨u, hrun⟩ := run_findClass_cons hfound w
    refine ⟨u, ?_⟩
    rw [run_choose_of_engine hpath hengine, hrun, hload]
    dsimp only
    rw [if_pos hordinary, run_throw]
  | ended hpath hengine hfound hload hordinary =>
    obtain ⟨u, hrun⟩ := run_findClass_cons hfound w
    refine ⟨u, ?_⟩
    rw [run_choose_of_engine hpath hengine, hrun, hload]
    dsimp only
    rw [if_neg (by simp [hordinary]), run_throw]
  | registered hpath hengine hfound hload hclass =>
    obtain ⟨u, hrun⟩ := run_findClass_cons hfound w
    refine ⟨u, ?_⟩
    rw [run_choose_of_engine hpath hengine, hrun, hload]
    dsimp only
    rw [hclass]
    cases r with
    | ok k => exact run_pure k u
    | error f => exact run_throw f u

/-- What keeps a collector of a class from being created and configured. -/
def makeFault? : CollectorClass T → Option Fault
  | .incomplete n => some (missingMembers n)
  | .complete c => c.creationFault.or c.configurationFault

/-- A collector that was created is configured next. -/
lemma run_configured {c : Collector T} (hcreation : c.creationFault = none) (s : Settings)
    (w : World T) :
    ∃ u, u.collector.initialized = true ∧ u.collector.config = collectorConfig s ∧
      (do
        let collector ← instantiate (.complete c)
        collector.configure (collectorConfig s)
        return collector : Script T (Collector T)).run w
          = (Collector.failWith c.configurationFault >>= fun _ => return c).run u := by
  refine ⟨{ w.record (.configure (collectorConfig s)) with
    collector := { w.collector with initialized := true, config := collectorConfig s } },
    rfl, rfl, ?_⟩
  rw [instantiate, hcreation]
  rfl

/-- A collector that is not created is refused with a fault of loading, unless what is raised ends
the program. -/
lemma run_make_of_fault (hfault : makeFault? k = some f) (s : Settings) (w : World T) :
    ∃ u, (make k s).run w = (.error (if f.isOrdinary then
      unusableBecause ("Failed to initialize " ++ k.name) k.name f else f), u) := by
  have hraised : ∃ u, (do
      let collector ← instantiate k
      collector.configure (collectorConfig s)
      return collector : Script T (Collector T)).run w = (.error f, u) := by
    cases k with
    | incomplete n =>
      cases hfault
      exact ⟨w, rfl⟩
    | complete c =>
      cases hcreation : c.creationFault with
      | some g =>
        rw [makeFault?, hcreation] at hfault
        cases hfault
        refine ⟨w, ?_⟩
        rw [instantiate, hcreation]
        rfl
      | none =>
        rw [makeFault?, hcreation] at hfault
        obtain ⟨u, -, -, hrun⟩ := run_configured hcreation s w
        rw [hrun, show c.configurationFault = some f from hfault]
        exact ⟨u, rfl⟩
  obtain ⟨u, hrun⟩ := hraised
  refine ⟨u, ?_⟩
  rw [make, run_recover_error hrun]
  split <;> rfl

/-- A collector that is created has been configured. -/
lemma run_make_of_complete {c : Collector T} (hfault : makeFault? (.complete c) = none)
    (s : Settings) (w : World T) :
    ∃ u, (make (.complete c) s).run w = (.ok c, u) ∧ u.collector.initialized = true ∧
      u.collector.config = collectorConfig s := by
  obtain ⟨hcreation, hconfiguration⟩ := Option.or_eq_none_iff.mp hfault
  obtain ⟨u, hinitialized, hconfig, hrun⟩ := run_configured hcreation s w
  rw [hconfiguration] at hrun
  exact ⟨u, run_recover_ok hrun, hinitialized, hconfig⟩

/-- A fault of choosing the class is what creating the collector ends with. -/
lemma run_create_of_error (h : Selection c s (.error f)) (w : World T) :
    ∃ u, (c.create s).run w = (.error f, u) := by
  obtain ⟨u, hrun⟩ := run_choose h w
  exact ⟨u, by rw [create_eq, run_bind_error hrun]⟩

/-- A fault of creating or configuring the collector is reported as one of loading it. -/
lemma run_create_of_fault (h : Selection c s (.ok k)) (hfault : makeFault? k = some f)
    (w : World T) :
    ∃ u, (c.create s).run w = (.error (if f.isOrdinary then
      unusableBecause ("Failed to initialize " ++ k.name) k.name f else f), u) := by
  obtain ⟨u, hrun⟩ := run_choose h w
  obtain ⟨v, hmake⟩ := run_make_of_fault hfault s u
  exact ⟨v, by rw [create_eq, run_bind_ok hrun, run_bind_error hmake]⟩

/-- Nothing else keeps a collector from being created, as long as the engine is known. -/
lemma run_create_of_complete {k : Collector T} {e : Engine}
    (h : Selection c s (.ok (.complete k))) (hfault : makeFault? (.complete k) = none)
    (hengine : s.database.resolvedEngine? = some e) (w : World T) :
    ∃ u, (c.create s).run w = (.ok k, u) ∧ u.collector.initialized = true ∧
      u.collector.config = collectorConfig s := by
  obtain ⟨u, hrun⟩ := run_choose h w
  obtain ⟨v, hmake, hinitialized, hconfig⟩ := run_make_of_complete hfault s u
  have hname : (engineName s : Script T String).run v = (.ok e.name, v) := by
    unfold engineName
    rw [hengine]
    rfl
  refine ⟨v.logLine .info .registry
    ("Using collector " ++ (CollectorClass.complete k).name ++ " for " ++ e.name), ?_,
    hinitialized, hconfig⟩
  rw [create_eq, run_bind_ok hrun, run_bind_ok hmake, run_bind_ok hname,
    run_bind_ok (run_log _ _ _ _), run_pure]

/-- A collector cannot be told as created for an engine that is not known. -/
lemma run_create_of_unknown {k : Collector T} (h : Selection c s (.ok (.complete k)))
    (hfault : makeFault? (.complete k) = none) (hengine : s.database.resolvedEngine? = none)
    (w : World T) : ∃ u, (c.create s).run w
      = (.error (.foreign "ValueError" (some Engine.unknownUrlMessage) none), u) := by
  obtain ⟨u, hrun⟩ := run_choose h w
  obtain ⟨v, hmake, -, -⟩ := run_make_of_complete hfault s u
  have hname : (engineName s : Script T String).run v
      = (.error (.foreign "ValueError" (some Engine.unknownUrlMessage) none), v) := by
    unfold engineName
    rw [hengine]
    rfl
  exact ⟨v, by rw [create_eq, run_bind_ok hrun, run_bind_ok hmake, run_bind_error hname]⟩

/-- The collector that was selected is created and has its settings, or there is a fault of loading
it unless something ends the program.  Whatever else is raised while its class is loaded is the
cause of that fault. -/
structure Reports (c : Catalogue T) (s : Settings) (w : World T) : Prop where
  outcome : (∃ k u, Selection c s (.ok (.complete k)) ∧ (c.create s).run w = (.ok k, u) ∧
      u.collector.initialized = true ∧ u.collector.config = collectorConfig s) ∨
    ∃ f u, (c.create s).run w = (.error f, u) ∧ (f.IsLoading ∨ f.isOrdinary = false)
  cause {f : Fault} : Raised c s f → f.isOrdinary = true → ∃ message subject u,
    (c.create s).run w = (.error (unusableBecause message subject f), u)

/-- A fault that escapes is not the cause of a fault of loading. -/
lemma not_reports_of_escapes (h : Escapes c s f) (w : World T) : ¬ c.Reports s w := by
  intro hreports
  obtain ⟨message, subject, u, hrun⟩ := hreports.cause h.raises h.ordinary
  obtain ⟨v, hescaped⟩ := run_create_of_error h.selection w
  rw [hescaped, Prod.mk.injEq, Except.error.injEq] at hrun
  exact ne_unusableBecause message subject f hrun.1

/-- The name of the engine is asked for: to find what is registered for it, or to say which collector
was created. -/
inductive NeedsEngine (c : Catalogue T) (s : Settings) : Prop
  | choosing (hpath : namedPath? s = none) : NeedsEngine c s
  | created {k : Collector T} (h : Selection c s (.ok (.complete k)))
      (hfault : makeFault? (.complete k) = none) : NeedsEngine c s

/-- Where the name of an engine is needed that is not known, that is neither reported nor an end of the
program. -/
lemma not_reports_of_needsEngine (hengine : s.database.resolvedEngine? = none)
    (h : NeedsEngine c s) (w : World T) : ¬ c.Reports s w := by
  intro hreports
  have hunknown : ∃ u, (c.create s).run w
      = (.error (.foreign "ValueError" (some Engine.unknownUrlMessage) none), u) := by
    cases h with
    | choosing hpath => exact run_create_of_error (.unknown hpath hengine) w
    | created hselection hfault => exact run_create_of_unknown hselection hfault hengine w
  obtain ⟨u, hrun⟩ := hunknown
  rcases hreports.outcome with ⟨k, v, -, hok, -⟩ | ⟨f, v, herror, hf⟩
  · cases hrun.symm.trans hok
  · cases hrun.symm.trans herror
    rcases hf with ⟨_, _, _, _, hloading⟩ | hordinary
    · cases hloading
    · cases hordinary

/-- Where the engine is known if its name is needed, a fault that escapes is the only way not to
report. -/
lemma reports_of_forall_not_escapes
    (hengine : s.database.resolvedEngine? = none → ¬ NeedsEngine c s)
    (hnone : ∀ f, ¬ Escapes c s f) (w : World T) : c.Reports s w := by
  constructor
  · obtain ⟨r, hselection⟩ := exists_selection c s
    cases r with
    | error f =>
      obtain ⟨u, hrun⟩ := run_create_of_error hselection w
      refine .inr ⟨f, u, hrun, ?_⟩
      rcases hselection.fault_cases with hloading | hordinary | hescapes | ⟨hpath, hunknown⟩
      · exact .inl hloading
      · exact .inr hordinary
      · exact absurd hescapes (hnone f)
      · exact absurd (.choosing hpath) (hengine hunknown)
    | ok k =>
      cases hfault : makeFault? k with
      | some f =>
        obtain ⟨u, hrun⟩ := run_create_of_fault hselection hfault w
        refine .inr ⟨_, u, hrun, ?_⟩
        by_cases hordinary : f.isOrdinary = true
        · rw [if_pos hordinary]
          exact .inl (isLoading_unusableBecause _ _ _)
        · rw [if_neg hordinary]
          exact .inr (by simpa using hordinary)
      | none =>
        cases k with
        | incomplete n => cases hfault
        | complete k =>
          cases hknown : s.database.resolvedEngine? with
          | none => exact absurd (.created hselection hfault) (hengine hknown)
          | some e =>
            obtain ⟨u, hrun, hready⟩ := run_create_of_complete hselection hfault hknown w
            exact .inl ⟨k, u, hselection, hrun, hready⟩
  · intro f hraised hordinary
    rcases hraised.selection hordinary with ⟨message, subject, hselection⟩ | hescapes
    · obtain ⟨u, hrun⟩ := run_create_of_error hselection w
      exact ⟨message, subject, u, hrun⟩
    · exact absurd hescapes (hnone f)

/-- With settings that were loaded, the collector is created or reported as it should be exactly if
its module raises nothing but faults of an import, looking for the class in it nothing but that there
is none, and the engine is known if its name is needed.  It is known with what the command line can
set. -/
theorem create_reports_iff (c : Catalogue T) (h : Settings.Host) (named : Option String)
    (overrides : Entries) (l : Settings.Loaded) (hload : Settings.load h named overrides = .ok l)
    (w : World T) :
    (c.Reports l.settings w ↔ (∀ f, ¬ Escapes c l.settings f) ∧
      (l.settings.database.resolvedEngine? = none → ¬ NeedsEngine c l.settings)) ∧
      ∀ interval, overrides = Command.overrides interval →
        l.settings.database.resolvedEngine? ≠ none := by
  refine ⟨⟨fun hreports => ⟨fun f hescapes => not_reports_of_escapes hescapes w hreports,
    fun hengine hneeds => not_reports_of_needsEngine hengine hneeds w hreports⟩,
    fun ⟨hnone, hengine⟩ => reports_of_forall_not_escapes hengine hnone w⟩, ?_⟩
  rintro interval rfl
  obtain ⟨es, hes, hcheck⟩ := Settings.exists_check_of_load hload
  obtain ⟨e, hengine⟩ := (Settings.usable_of_supplied hes hcheck).database.engine
  exact hengine ▸ Option.some_ne_none e

end Creation

/-! ## A module that cannot be loaded -/

/-- A machine where the settings file names a collector. -/
def namingHost : Settings.Host :=
  ⟨⟨[("DBPULSE_API_KEY", "k"), ("DATABASE_URL", "mysql://db/app")]⟩,
    ⟨[(["c.yaml"], "database: \x7bcollector: \"m:C\"\x7d".toUTF8.toList)], [], []⟩,
    Settings.systemPath⟩

/-- A module that raises a fault is all that is installed. -/
def brokenModule (f : Fault) : Catalogue ℚ :=
  ⟨[("m", .error f)], []⟩

lemma load_namingHost :
    ∃ l, Settings.load namingHost (some "c.yaml") (Command.overrides none) = .ok l ∧
      namedPath? l.settings = some "m:C" := by
  have hpath : (Settings.load namingHost (some "c.yaml") (Command.overrides none)).toOption.map
      (fun l => namedPath? l.settings) = some (some "m:C") := by decide +kernel
  cases hload : Settings.load namingHost (some "c.yaml") (Command.overrides none) with
  | error f =>
    rw [hload] at hpath
    cases hpath
  | ok l =>
    rw [hload] at hpath
    exact ⟨l, rfl, Option.some.inj hpath⟩

/-- The one module that is installed. -/
lemma loadModule_only (m : Except Fault (Members T)) :
    (⟨[("m", m)], []⟩ : Catalogue T).loadModule "m" = m := by
  have hfull : "m".startsWith "." = false := by decide +kernel
  have hchain : nameChain "m" = ["m"] := by decide +kernel
  unfold loadModule
  rw [hfull, hchain]
  cases m <;> rfl

/-- The one class that is installed. -/
lemma loadClass_only (k : Collector T) :
    (⟨[("m", .ok [("C", .collector k [])])], []⟩ : Catalogue T).loadClass "m:C"
      = .ok (.complete k) := by
  have hparts : Parts "m:C" "m" "C" := ⟨by decide, by decide⟩
  rw [loadClass_of_parts hparts, loadModule_only]
  rfl

/-- A module that cannot be found is reported. -/
theorem create_reports_iff_namingHost :
    ∃ l, Settings.load namingHost (some "c.yaml") (Command.overrides none) = .ok l ∧
      (brokenModule (notFound (quote "driver"))).Reports l.settings (World.start 0) := by
  obtain ⟨l, hload, hpath⟩ := load_namingHost
  obtain ⟨hreports, hengine⟩ := create_reports_iff (brokenModule (notFound (quote "driver")))
    namingHost (some "c.yaml") (Command.overrides none) l hload (World.start 0)
  refine ⟨l, hload, hreports.mpr ⟨?_, fun hunknown => absurd hunknown (hengine none rfl)⟩⟩
  have hmodule {path name member : String} (hpath' : namedPath? l.settings = some path)
      (hparts : Parts path name member) : (brokenModule (notFound (quote "driver"))).loadModule name
        = .error (notFound (quote "driver")) := by
    cases hpath.symm.trans hpath'
    cases (show CharClass.partition ':' "m:C" = ("m", "C") by decide).symm.trans hparts.split
    exact loadModule_only _
  rintro f (⟨hpath', hparts, hload', -, himport⟩ | ⟨hpath', hparts, hload', -⟩)
  · cases (hmodule hpath' hparts).symm.trans hload'
    cases himport
  · cases (hmodule hpath' hparts).symm.trans hload'

/-- What a module raises while it is imported may be neither a fault of loading nor an end of the
program. -/
theorem not_forall_create_reports : ¬ ∀ (c : Catalogue ℚ) (h : Settings.Host)
    (named : Option String) (interval : Option Int) (l : Settings.Loaded),
    Settings.load h named (Command.overrides interval) = .ok l → ∀ w,
      (∃ k u, (c.create l.settings).run w = (.ok k, u)) ∨
        ∃ f u, (c.create l.settings).run w = (.error f, u) ∧
          (f.IsLoading ∨ f.isOrdinary = false) := by
  intro hall
  obtain ⟨l, hload, hpath⟩ := load_namingHost
  have hparts : Parts "m:C" "m" "C" := ⟨by decide, by decide⟩
  have hescapes : Escapes (brokenModule (.foreign "RuntimeError" (some "boom") none)) l.settings
      (.foreign "RuntimeError" (some "boom") none) :=
    .module hpath hparts (loadModule_only _) rfl rfl
  obtain ⟨v, hescaped⟩ := run_create_of_error hescapes.selection (World.start 0)
  rcases hall _ _ _ _ l hload (World.start 0) with ⟨k, u, hrun⟩ | ⟨f, u, hrun, hf⟩
  · cases hescaped.symm.trans hrun
  · cases hescaped.symm.trans hrun
    rcases hf with ⟨message, subject, reason, cause, hloading⟩ | hordinary
    · cases hloading
    · cases hordinary

end Catalogue

end MetricsAgent
