import MetricsAgent.Collection.Catalogue
import MetricsAgent.Settings.Reader

/-!
# Selection of the collector

The settings either name a class of collectors or leave its choice to what is registered for the
engine.  Whatever goes wrong on the way is one kind of fault, with the fault behind it as its cause.
-/

namespace MetricsAgent

open Script

/-- A class of collectors: complete, or lacking what every collector has to do. -/
inductive CollectorClass (T : Type)
  | complete (c : Collector T)
  | incomplete (className : String)

def CollectorClass.name {T : Type} : CollectorClass T → String
  | .complete c => c.className
  | .incomplete n => n

namespace Catalogue

variable {T : Type}

/-- A collector that cannot be used. -/
def unusable (message subject : String) : Fault :=
  .loading message (some subject) none none

/-- A collector that cannot be used because of another fault. -/
def unusableBecause (message subject : String) (f : Fault) : Fault :=
  .loading message (some subject) (some f) (some f)

/-- The class of collectors that something is. -/
def asClass (h : Holder T) (subject : String) : Except Fault (CollectorClass T) :=
  match h with
  | .member (.collector c _) => .ok (.complete c)
  | .member (.incomplete n _) => .ok (.incomplete n)
  | .member (.otherClass n _) => .error (unusable (n ++ " does not inherit from Collector") subject)
  | _ => .error (unusable (quote subject ++ " does not resolve to a class") subject)

/-! ## By name -/

/-- Loads the class that a module and a name in it, joined by a colon, stand for. -/
def loadClass (c : Catalogue T) (path : String) : Except Fault (CollectorClass T) := do
  let (name, member) := CharClass.partition ':' path
  if name.isEmpty || member.isEmpty then
    throw (unusable "Expected 'package.module:ClassName'" path)
  match c.loadModule name with
  | .error f =>
    if f.isImport then
      throw (unusableBecause ("Could not import module " ++ quote name) path f)
    else throw f
  | .ok members =>
    match (Holder.module name members).get member with
    | .error f =>
      if f.isAttribute then
        throw (unusableBecause
          ("Module " ++ quote name ++ " has no attribute " ++ quote member) path f)
      else throw f
    | .ok h => asClass h path

/-! ## By engine -/

/-- The group of the registrations. -/
def group : String := "dbpulse.collectors"

/-- The different texts of a list, in order of their characters. -/
def sortedNames (names : List String) : List String :=
  names.eraseDups.mergeSort fun a b => !(b < a)

/-- What is installed, in words. -/
def installedText (c : Catalogue T) : String :=
  match sortedNames (c.entryPoints.map (·.name)) with
  | [] => "none installed"
  | names => "installed: " ++ ", ".intercalate names

variable [Seconds T]

/-- Finds the class that is registered for an engine; the first registration counts. -/
def findClass (c : Catalogue T) (engine : String) : Script T (CollectorClass T) := do
  log .debug .registry ("Scanning entry point group: " ++ group)
  match c.entryPoints.filter (·.name == engine) with
  | [] =>
    throw (unusable ("No collector installed for database type " ++ quote engine ++ " ("
      ++ c.installedText ++ ")") engine)
  | e :: others =>
    if !others.isEmpty then
      log .warning .registry
        ("Multiple collectors registered for " ++ quote engine ++ ", using " ++ e.value)
    log .debug .registry ("Loading entry point: " ++ e.name ++ " from " ++ e.value)
    match c.loadEntryPoint e.value with
    | .error f =>
      if f.isOrdinary then
        throw (unusableBecause ("Failed to load entry point " ++ quote e.value) engine f)
      else throw f
    | .ok h =>
      match asClass h e.value with
      | .ok k => return k
      | .error f => throw f

/-! ## Creation -/

/-- What a class has to define. -/
def missingMembers (className : String) : Fault :=
  .foreign "TypeError" (some ("Can't instantiate abstract class " ++ className
    ++ " with abstract methods collect, provider, test_connection, version")) none

/-- Creates a collector of a class. -/
def instantiate (k : CollectorClass T) : Script T (Collector T) :=
  match k with
  | .incomplete n => fail (missingMembers n)
  | .complete c =>
    match c.creationFault with
    | some f => fail f
    | none => succeed c

/-- The settings that a collector is given. -/
def collectorConfig (s : Settings) : Value :=
  .record (s.database.toEntries
    ++ [("metrics", .list (s.collection.metrics.map fun g => .text g.name))])

/-- The name of the engine that the settings stand for. -/
def engineName (s : Settings) : Script T String :=
  match s.database.resolvedEngine? with
  | some e => succeed e.name
  | none => fail (.foreign "ValueError" (some Engine.unknownUrlMessage) none)

/-- Creates the collector that the settings ask for and configures it. -/
def create (c : Catalogue T) (s : Settings) : Script T (Collector T) := do
  let k ← match s.database.collector.filter (!·.isEmpty) with
    | some path =>
      match c.loadClass path with
      | .ok k => succeed k
      | .error f => fail f
    | none => do c.findClass (← engineName s)
  let made : Script T (Collector T) := do
    let collector ← instantiate k
    collector.configure (collectorConfig s)
    return collector
  let collector ← made.recover fun f =>
    if f.isOrdinary then fail (unusableBecause ("Failed to initialize " ++ k.name) k.name f)
    else fail f
  log .info .registry ("Using collector " ++ k.name ++ " for " ++ (← engineName s))
  return collector

end Catalogue

end MetricsAgent
