import MetricsAgent.Collection.Collector
import MetricsAgent.Text.Word

/-!
# Installed collectors

Collectors come from modules that are installed beside the agent.  A module is found by its dotted
name and holds members under names; packages register the collectors of an engine as entry points,
whose text names a module and possibly a member of it.
-/

namespace MetricsAgent

/-! ## Modules -/

/-- What a module or a class holds under a name; to look for it may raise a fault. -/
inductive Member (T : Type)
  | collector (c : Collector T) (members : List (String × Member T))
  | incomplete (className : String) (members : List (String × Member T))
  | otherClass (className : String) (members : List (String × Member T))
  | value (v : Value)
  | raising (f : Fault)

instance {T : Type} : Inhabited (Member T) := ⟨.value .null⟩

/-- The members of a module by their names. -/
abbrev Members (T : Type) := List (String × Member T)

/-- A registration of a collector for an engine. -/
structure EntryPoint where
  name : String
  value : String
  deriving DecidableEq

/-- What is installed beside the agent: modules, of which some cannot be loaded, and registrations. -/
structure Catalogue (T : Type) where
  modules : List (String × Except Fault (Members T))
  entryPoints : List EntryPoint

namespace Catalogue

variable {T : Type}

/-- A module that is not there. -/
def notFound (detail : String) : Fault :=
  .foreign "ModuleNotFoundError" (some ("No module named " ++ detail)) none

/-- A name between quotation marks. -/
def quote (name : String) : String :=
  "'" ++ name ++ "'"

/-- A dotted name and the names of the packages around it, the innermost first. -/
def nameChain (name : String) : List String :=
  let parts := (name.toList.splitOn '.').map String.ofList
  (List.range parts.length).reverse.map fun k => ".".intercalate (parts.take (k + 1))

/-- Loads the first of a chain of modules.  A module that is not listed is looked for in the next,
and those that are listed are no packages. -/
def loadChain (c : Catalogue T) : List String → Except Fault (Members T)
  | [] => .error (notFound (quote ""))
  | name :: outer =>
    match c.modules.lookup name with
    | some m => m
    | none =>
      match outer with
      | [] => .error (notFound (quote name))
      | package :: _ =>
        match c.loadChain outer with
        | .error f => .error f
        | .ok _ => .error (notFound (quote name ++ "; " ++ quote package ++ " is not a package"))

/-- Loads a module by its name, which has to be a full one. -/
def loadModule (c : Catalogue T) (name : String) : Except Fault (Members T) :=
  if name.startsWith "." then
    .error (.foreign "TypeError" (some ("the 'package' argument is required to perform a relative "
      ++ "import for " ++ quote name)) none)
  else c.loadChain (nameChain name)

/-! ## Members -/

/-- Something that has members: a module or a member of something. -/
inductive Holder (T : Type)
  | module (name : String) (members : Members T)
  | member (m : Member T)

/-- A member that does not exist. -/
def noMember (holder name : String) : Fault :=
  .foreign "AttributeError" (some (holder ++ " has no attribute " ++ quote name)) none

/-- What every collector has: none of it is a class. -/
def collectorMembers : List String :=
  ["name", "provider", "version", "stats", "last_collection", "consecutive_failures", "initialize",
    "collect", "test_connection", "close", "tracked_collect", "reset_stats"]

/-- What has been found under a name. -/
def Holder.ofMember : Member T → Except Fault (Holder T)
  | .raising f => .error f
  | m => .ok (.member m)

/-- A member of a class. -/
def classMember (className : String) (members : Members T) (own : List String) (name : String) :
    Except Fault (Holder T) :=
  match members.lookup name with
  | some m => Holder.ofMember m
  | none =>
    if own.contains name then .ok (.member (.value .null))
    else .error (noMember ("type object " ++ quote className) name)

/-- The member of a holder with a name. -/
def Holder.get (h : Holder T) (name : String) : Except Fault (Holder T) :=
  match h with
  | .module m members =>
    match members.lookup name with
    | some x => Holder.ofMember x
    | none => .error (noMember ("module " ++ quote m) name)
  | .member (.collector c members) => classMember c.className members collectorMembers name
  | .member (.incomplete n members) => classMember n members collectorMembers name
  | .member (.otherClass n members) => classMember n members [] name
  | .member (.value v) => .error (noMember (quote v.kindName ++ " object") name)
  | .member (.raising f) => .error f

/-- Follows names from a holder. -/
def Holder.follow (h : Holder T) (names : List String) : Except Fault (Holder T) :=
  names.foldlM Holder.get h

/-! ## Entry points -/

/-- Characters of dotted names. -/
def isNameChar (c : Char) : Bool :=
  CharClass.isWord c || c == '.'

/-- Whether a text is nothing but blanks, or extras in brackets on one line before blanks. -/
def isExtras (cs : List Char) : Bool :=
  match (cs.reverse.dropWhile CharClass.isBlank).reverse with
  | [] => true
  | '[' :: rest => rest.getLast? == some ']' && !rest.contains '\n'
  | _ => false

/-- A dotted name, the blanks after it, and the rest. -/
def readName (cs : List Char) : String × List Char :=
  (String.ofList (cs.takeWhile isNameChar),
    (cs.dropWhile isNameChar).dropWhile CharClass.isBlank)

/-- Reads the text of an entry point: a module, possibly a colon and a member, possibly extras. -/
def EntryPoint.read (text : String) : Option (String × List String) :=
  let (name, rest) := readName text.toList
  if name.isEmpty then none
  else
    match rest with
    | ':' :: rest =>
      let (path, rest) := readName (rest.dropWhile CharClass.isBlank)
      if !path.isEmpty && isExtras rest then
        some (name, ((path.toList.splitOn '.').map String.ofList).filter (!·.isEmpty))
      else none
    | rest => if isExtras rest then some (name, []) else none

/-- Loads what an entry point names. -/
def loadEntryPoint (c : Catalogue T) (value : String) : Except Fault (Holder T) :=
  match EntryPoint.read value with
  | none => .error (.foreign "AttributeError" (some "'NoneType' object has no attribute 'group'") none)
  | some (name, path) => do
    let members ← c.loadModule name
    (Holder.module name members).follow path

end Catalogue

end MetricsAgent
