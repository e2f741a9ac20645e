/-!
# Positions in a text

A cursor walks over a text and knows where it stands: how many characters it has passed, on which
line it is and in which column.  A line ends at a line feed, at a carriage return with or without a
line feed, and at the next-line, line-separator and paragraph-separator characters; a byte-order
mark takes no column.
-/

namespace MetricsAgent.Yaml

/-- A place in a text; all three numbers count from zero. -/
structure Mark where
  index : Nat
  line : Nat
  column : Nat
  deriving DecidableEq, Repr, Inhabited

/-! ## Characters -/

/-- A character that ends a line. -/
def isBreak (c : Char) : Bool :=
  c == '\r' || c == '\n' || c == '\x85' || c == '\u2028' || c == '\u2029'

/-- The end of the text, written as the null character. -/
def isEnd (c : Char) : Bool :=
  c == '\x00'

/-- A line break or the end of the text. -/
def isBreakOrEnd (c : Char) : Bool :=
  isEnd c || isBreak c

/-- A space, a line break or the end of the text. -/
def isSpaceOrEnd (c : Char) : Bool :=
  c == ' ' || isBreakOrEnd c

/-- A space, a tab, a line break or the end of the text. -/
def isBlankOrEnd (c : Char) : Bool :=
  c == '\t' || isSpaceOrEnd c

/-! ## The cursor -/

/-- What remains of a text, and the place reached. -/
structure Cursor where
  rest : List Char
  mark : Mark
  deriving Inhabited

namespace Cursor

/-- The beginning of a text. -/
def start (text : List Char) : Cursor :=
  ⟨text, ⟨0, 0, 0⟩⟩

/-- The character `n` places ahead; the null character beyond the end. -/
def peek (c : Cursor) (n : Nat) : Char :=
  (c.rest.drop n).headD '\x00'

/-- The character at the cursor. -/
def head (c : Cursor) : Char :=
  c.rest.headD '\x00'

/-- Whether the text goes on with the given characters. -/
def startsWith (c : Cursor) (cs : List Char) : Bool :=
  cs.isPrefixOf c.rest

/-- The place after a character that is followed by `next`. -/
def Mark.after (m : Mark) (ch next : Char) : Mark :=
  if ch == '\n' || ch == '\x85' || ch == '\u2028' || ch == '\u2029' || (ch == '\r' && next != '\n') then
    ⟨m.index + 1, m.line + 1, 0⟩
  else if ch == '\uFEFF' then ⟨m.index + 1, m.line, m.column⟩
  else ⟨m.index + 1, m.line, m.column + 1⟩

/-- Passes one character. -/
def next (c : Cursor) : Cursor :=
  match c.rest with
  | [] => c
  | ch :: rest => ⟨rest, Mark.after c.mark ch (rest.headD '\x00')⟩

/-- Passes `n` characters. -/
def skip (c : Cursor) : Nat → Cursor
  | 0 => c
  | n + 1 => c.next.skip n

/-- The characters ahead that satisfy a test; the test sees the end of the text as the null
character, so one that accepts it must not be used. -/
def ahead (c : Cursor) (p : Char → Bool) : List Char :=
  c.rest.takeWhile p

/-- Passes the characters ahead that satisfy a test. -/
def skipWhile (c : Cursor) (p : Char → Bool) : Cursor :=
  c.skip (c.ahead p).length

/-- Takes the characters ahead that satisfy a test. -/
def takeWhile (c : Cursor) (p : Char → Bool) : List Char × Cursor :=
  (c.ahead p, c.skipWhile p)

/-- Passes a line break, if there is one; it reads as a line feed, the two separators as
themselves. -/
def lineBreak (c : Cursor) : Option Char × Cursor :=
  let ch := c.head
  if ch == '\r' || ch == '\n' || ch == '\x85' then
    (some '\n', if c.startsWith ['\r', '\n'] then c.skip 2 else c.next)
  else if ch == '\u2028' || ch == '\u2029' then (some ch, c.next)
  else (none, c)

/-- Whether a document separator stands at the cursor. -/
def atSeparator (c : Cursor) : Bool :=
  (c.startsWith ['-', '-', '-'] || c.startsWith ['.', '.', '.']) && isBlankOrEnd (c.peek 3)

end Cursor

/-- The place reached after passing a whole text from its beginning. -/
def Mark.end (text : List Char) : Mark :=
  ((Cursor.start text).skip text.length).mark

end MetricsAgent.Yaml
