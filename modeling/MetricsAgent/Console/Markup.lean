import MetricsAgent.Console.Pictogram
import MetricsAgent.Console.Style
import MetricsAgent.Number.Decimal

/-!
# Markup of the console

Tags in brackets switch styles on and off in a text for the console.  A backslash before a tag takes
its meaning away, and two stand for one.  The console has no colours, so that what is left of a
text is what stands between its tags; a tag that switches off what was not switched on is an error.
-/

namespace MetricsAgent.Markup

/-! ## Tags -/

/-- Whether a character can begin a tag. -/
def beginsTag (c : Char) : Bool :=
  ('a' ≤ c && c ≤ 'z') || c == '#' || c == '/' || c == '@'

/-- The tag that a text behind an opening bracket begins with, and the rest. -/
def tag? (cs : List Char) : Option (List Char × List Char) :=
  match cs with
  | [] => none
  | c :: _ =>
    if beginsTag c then
      let body := cs.takeWhile fun c => c != '[' && c != ']'
      match cs.drop body.length with
      | ']' :: rest => some (body, rest)
      | _ => none
    else none

/-! ## Pieces -/

/-- A piece of a text: plain, or a tag with its position. -/
inductive Piece
  | plain (cs : List Char)
  | tag (position : Nat) (body : List Char)
  deriving DecidableEq

/-- A plain piece, unless it is empty. -/
def plainPiece (cs : List Char) : List Piece :=
  if cs.isEmpty then [] else [.plain cs]

/-- Divides a text into pieces; `held` is the plain text before, and `position` counts all before. -/
def pieces : Nat → Nat → List Char → List Char → List Piece
  | 0, _, held, _ => plainPiece held.reverse
  | fuel + 1, position, held, cs =>
    match cs with
    | [] => plainPiece held.reverse
    | c :: rest =>
      let slashes := cs.takeWhile (· == '\\')
      let half := slashes.length / 2
      match cs.drop slashes.length with
      | '[' :: inner =>
        match tag? inner with
        | some (body, after) =>
          let length := slashes.length + body.length + 2
          let kept := plainPiece (List.replicate half '\\')
          let this := if slashes.length % 2 = 1 then Piece.plain ('[' :: body ++ [']'])
            else .tag (position + 2 * half) body
          plainPiece held.reverse ++ kept ++ this :: pieces fuel (position + length) [] after
        | none =>
          pieces fuel (position + slashes.length + 1) ('[' :: (slashes ++ held)) inner
      | other =>
        if slashes.isEmpty then pieces fuel (position + 1) (c :: held) rest
        else pieces fuel (position + slashes.length) (slashes ++ held) other

/-! ## Escaping -/

/-- The escaped form of a text from a place on. -/
def escapeFrom : Nat → List Char → List Char
  | 0, cs => cs
  | fuel + 1, cs =>
    match cs with
    | [] => []
    | c :: rest =>
      let slashes := cs.takeWhile (· == '\\')
      match cs.drop slashes.length with
      | '[' :: inner =>
        match tag? inner with
        | some (body, after) =>
          slashes ++ slashes ++ '\\' :: '[' :: body ++ ']' :: escapeFrom fuel after
        | none => slashes ++ '[' :: escapeFrom fuel inner
      | other =>
        if slashes.isEmpty then c :: escapeFrom fuel rest else slashes ++ escapeFrom fuel other

/-- Doubles a single backslash at the end. -/
def guardEnd (cs : List Char) : List Char :=
  match cs.reverse with
  | '\\' :: '\\' :: _ => cs
  | '\\' :: _ => cs ++ ['\\']
  | _ => cs

/-- A text in which nothing is a tag. -/
def escape (s : String) : String :=
  String.ofList (guardEnd (escapeFrom s.length s.toList))

/-! ## Rendering -/

/-- Why a text cannot be shown. -/
inductive MarkupFault
  | unmatched (tag : String) (position : Nat)
  | nothingOpen (position : Nat)
  deriving DecidableEq

/-- The wording of a fault. -/
def MarkupFault.message : MarkupFault → String
  | .unmatched tag position =>
    "closing tag '[" ++ tag ++ "]' at position " ++ decimalText position
      ++ " doesn't match any open tag"
  | .nothingOpen position =>
    "closing tag '[/]' at position " ++ decimalText position ++ " has nothing to close"

/-- The name of a tag: what stands before an equals sign. -/
def tagName (body : List Char) : List Char :=
  body.takeWhile (· != '=')

/-- Removes the first occurrence of a name; nothing if there is none. -/
def closeNamed? (name : String) : List String → Option (List String)
  | [] => none
  | s :: rest => if s == name then some rest else (closeNamed? name rest).map (s :: ·)

/-- The open styles after a tag, the innermost first. -/
def follow (opened : List String) (position : Nat) (body : List Char) :
    Except MarkupFault (List String) :=
  match tagName body with
  | '/' :: name =>
    let name := CharClass.trimBlank (String.ofList name)
    if name.isEmpty then
      match opened with
      | [] => .error (.nothingOpen position)
      | _ :: rest => .ok rest
    else
      match closeNamed? (ConsoleStyle.normal name) opened with
      | some rest => .ok rest
      | none => .error (.unmatched (String.ofList body) position)
  | name => .ok (ConsoleStyle.normal (String.ofList name) :: opened)

/-- A bracket that a backslash stands before loses it. -/
def unescape : List Char → List Char
  | [] => []
  | '\\' :: '[' :: rest => '[' :: unescape rest
  | c :: rest => c :: unescape rest

/-- The text that pieces leave. -/
def renderPieces (opened : List String) : List Piece → Except MarkupFault (List Char)
  | [] => .ok []
  | .plain cs :: rest => do
    return Pictogram.replace (unescape cs) ++ (← renderPieces opened rest)
  | .tag position body :: rest => do
    renderPieces (← follow opened position body) rest

/-- The characters that the console leaves out. -/
def isControl (c : Char) : Bool :=
  let n := c.toNat
  n == 7 || n == 8 || n == 11 || n == 12 || n == 13

/-- Fills each line up to the next multiple of eight where it has a tab. -/
def expandTabs : Nat → List Char → List Char
  | _, [] => []
  | column, c :: cs =>
    if c == '\t' then List.replicate (8 - column % 8) ' ' ++ expandTabs 0 cs
    else if c == '\n' then c :: expandTabs 0 cs
    else c :: expandTabs (column + 1) cs

/-- What the console shows of a text. -/
def render (s : String) : Except MarkupFault String := do
  let cs := s.toList
  let shown ← if cs.contains '[' then renderPieces [] (pieces cs.length 0 [] cs)
    else .ok (Pictogram.replace cs)
  return String.ofList (expandTabs 0 (shown.filter (!isControl ·)))

end MetricsAgent.Markup
