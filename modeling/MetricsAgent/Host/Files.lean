import MetricsAgent.Host.Environment
import MetricsAgent.Text.Utf8

/-!
# Files

A path in normal form, and a tree of files and directories in which it can be looked up.  The tree
grows from the directory that the process works in.  Beside it single files are known by their paths,
and that the directories above exist.
-/

namespace MetricsAgent

/-! ## Paths -/

/-- A path: how many slashes it begins with, and the names on the way. -/
structure FilePath where
  root : Nat
  parts : List String
  deriving DecidableEq, Repr

namespace FilePath

/-- A path from its text: empty names and single points are left out; exactly two leading slashes
are kept. -/
def ofText (s : String) : FilePath :=
  let slashes := (s.toList.takeWhile (· == '/')).length
  ⟨if slashes = 2 then 2 else min slashes 1,
    ((s.toList.splitOn '/').map String.ofList).filter fun p => p ≠ "" ∧ p ≠ "."⟩

def text (p : FilePath) : String :=
  if p.root = 0 && p.parts.isEmpty then "."
  else String.ofList (List.replicate p.root '/') ++ "/".intercalate p.parts

/-- A path continued by further names. -/
def join (p : FilePath) (names : List String) : FilePath :=
  ⟨p.root, p.parts ++ names⟩

end FilePath

/-- The home directory; nothing if it is not known. -/
def Environment.home? (env : Environment) : Option FilePath :=
  match env.get? "HOME" with
  | none => none
  | some h =>
    let h := String.ofList ((h.toList.reverse.dropWhile (· == '/')).reverse)
    if h.isEmpty then some (.ofText "/")
    else if h.toList.head? == some '~' then none
    else some (.ofText h)

/-- A path whose first name is a tilde begins in the home directory; the homes of others are not
known. -/
def FilePath.expandHome? (env : Environment) (p : FilePath) : Option FilePath :=
  match p.root, p.parts with
  | 0, first :: rest =>
    if first == "~" then env.home?.map (·.join rest)
    else if first.toList.head? == some '~' then none
    else some p
  | _, _ => some p

/-! ## The tree -/

/-- Files with their contents and directories by the names that lead to them, and single files beside
the tree by their paths. -/
structure FileTree where
  files : List (List String × List UInt8)
  directories : List (List String)
  beside : List (FilePath × List UInt8)

/-- What a path leads to. -/
inductive FileTree.Entry
  | file (bytes : List UInt8)
  | directory
  | missing
  | nameTooLong
  deriving DecidableEq, Repr

namespace FileTree

/-- A directory is there if it was made or lies on the way to something that is there. -/
def isDirectory (t : FileTree) (names : List String) : Bool :=
  names.isEmpty || t.directories.any (names.isPrefixOf ·)
    || t.files.any fun (f, _) => names.isPrefixOf f && f.length ≠ names.length

/-- What is at a place below the working directory. -/
def at? (t : FileTree) (names : List String) : Entry :=
  match t.files.find? (·.1 == names) with
  | some (_, bytes) => .file bytes
  | none => if t.isDirectory names then .directory else .missing

/-- Walks along names from a place below the working directory; two points lead upwards. -/
def walk (t : FileTree) (place : List String) : List String → Entry
  | [] => t.at? place
  | name :: rest =>
    match t.at? place with
    | .directory =>
      if 255 < name.utf8ByteSize then .nameTooLong
      else if name == ".." then
        match place with
        | [] => if rest.all (· == "..") then .directory else .missing
        | _ => t.walk place.dropLast rest
      else t.walk (place ++ [name]) rest
    | _ => .missing

/-- What a path leads to of which nothing is known beside the tree. -/
def follow (t : FileTree) (p : FilePath) : Entry :=
  if p.text.toList.contains '\x00' then .missing
  else if 4096 ≤ p.text.utf8ByteSize then .nameTooLong
  else if p.root = 0 then t.walk [] p.parts
  else if p.parts.all (· == "..") then .directory
  else if p.parts.any (255 < ·.utf8ByteSize) then .nameTooLong
  else .missing

/-- What a path leads to. -/
def lookUp (t : FileTree) (p : FilePath) : Entry :=
  match t.beside.find? (·.1 == p) with
  | some (_, bytes) => .file bytes
  | none => t.follow p

end FileTree

end MetricsAgent
