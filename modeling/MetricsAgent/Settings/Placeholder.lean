import MetricsAgent.Host.Environment
import MetricsAgent.Text.CharClass
import MetricsAgent.Value

/-!
# Placeholders

A text may hold placeholders for variables of the environment, with or without a text to use when the
variable is not set.  A text is cut into placeholders and other characters in one pass from the left;
what a placeholder is replaced by is not looked at again.
-/

namespace MetricsAgent

open CharClass

/-- A placeholder: the name of a variable, and what to use when it is not set. -/
structure Placeholder where
  name : List Char
  fallback : Option (List Char)
  deriving DecidableEq, Repr

namespace Placeholder

/-- A character that a name may begin with. -/
def isNameStart (c : Char) : Bool :=
  isAsciiLetter c || c == '_'

/-- A character of a name. -/
def isNameChar (c : Char) : Bool :=
  isNameStart c || isAsciiDigit c

/-- A placeholder as it is written. -/
def chars (p : Placeholder) : List Char :=
  '$' :: '\x7b' :: p.name
    ++ (match p.fallback with
      | some d => ':' :: '-' :: d
      | none => [])
    ++ ['\x7d']

/-- What follows a name: the end of the placeholder, or a fallback and the end. -/
def tail? (name : List Char) (cs : List Char) : Option (Placeholder × List Char) :=
  match cs with
  | '\x7d' :: rest => some (⟨name, none⟩, rest)
  | ':' :: '-' :: rest =>
    match rest.dropWhile (· != '\x7d') with
    | _ :: after => some (⟨name, some (rest.takeWhile (· != '\x7d'))⟩, after)
    | [] => none
  | _ => none

/-- A placeholder at the start of a text, and the text behind it. -/
def atStart? (cs : List Char) : Option (Placeholder × List Char) :=
  match cs with
  | '$' :: '\x7b' :: c :: rest =>
    if isNameStart c then tail? (c :: rest.takeWhile isNameChar) (rest.dropWhile isNameChar) else none
  | _ => none

theorem length_tail? {name cs rest : List Char} {p : Placeholder} (h : tail? name cs = some (p, rest)) :
    rest.length < cs.length := by
  unfold tail? at h
  split at h
  · simp only [Option.some.injEq, Prod.mk.injEq] at h
    simp [← h.2]
  · next tail =>
    split at h
    · next after eq =>
      simp only [Option.some.injEq, Prod.mk.injEq] at h
      have hle := (List.dropWhile_sublist (l := tail) (· != '\x7d')).length_le
      rw [eq] at hle
      simp only [List.length_cons] at hle ⊢
      rw [← h.2]
      omega
    · simp at h
  · simp at h

theorem length_atStart? {cs rest : List Char} {p : Placeholder} (h : atStart? cs = some (p, rest)) :
    rest.length < cs.length := by
  unfold atStart? at h
  split at h
  · next c tail =>
    split at h
    · have hlt := length_tail? h
      have hle := (List.dropWhile_sublist (l := tail) isNameChar).length_le
      simp only [List.length_cons]
      omega
    · simp at h
  · simp at h

end Placeholder

/-- A part of a text: a character that stands for itself, or a placeholder. -/
inductive Piece
  | char (c : Char)
  | placeholder (p : Placeholder)
  deriving DecidableEq, Repr

namespace Piece

/-- The parts of a text, from the left. -/
def ofChars (cs : List Char) : List Piece :=
  match cs with
  | [] => []
  | c :: tail =>
    match _h : Placeholder.atStart? (c :: tail) with
    | some (p, rest) => .placeholder p :: ofChars rest
    | none => .char c :: ofChars tail
termination_by cs.length
decreasing_by
  · exact Placeholder.length_atStart? ‹_›
  · simp

/-- What a part is replaced by: a placeholder by its variable, else by its fallback, else by
itself. -/
def expand (env : Environment) : Piece → List Char
  | .char c => [c]
  | .placeholder p =>
    match env.get? (String.ofList p.name) with
    | some v => v.toList
    | none => p.fallback.getD p.chars

end Piece

namespace Environment

/-- A text with its placeholders replaced. -/
def expandText (env : Environment) (s : String) : String :=
  String.ofList ((Piece.ofChars s.toList).flatMap (Piece.expand env))

mutual

/-- A value with the placeholders in its texts replaced, in sequences and mappings too; keys stay as
they are. -/
def expand (env : Environment) : Value → Value
  | .text s => .text (env.expandText s)
  | .list xs => .list (expandItems env xs)
  | .map es => .map (expandEntries env es)
  | v => v

def expandItems (env : Environment) : List Value → List Value
  | [] => []
  | x :: xs => expand env x :: expandItems env xs

def expandEntries (env : Environment) : List (Scalar × Value) → List (Scalar × Value)
  | [] => []
  | (k, v) :: rest => (k, expand env v) :: expandEntries env rest

end

end Environment

end MetricsAgent
