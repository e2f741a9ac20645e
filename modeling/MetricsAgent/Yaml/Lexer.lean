import MetricsAgent.Yaml.Token
import MetricsAgent.Text.Utf8

/-!
# Reading tokens

The scanners of single tokens.  Each takes a cursor at the beginning of the token and gives the
token with the cursor behind it, or a problem.  The lexer proper, which keeps track of indentation
and of what may be a key, is in `Yaml.TokenStream`.
-/

namespace MetricsAgent.Yaml.Lexer

open CharClass

/-- The outcome of a scanner. -/
abbrev Scan (α : Type) := Except Error α

/-- A problem in the course of an activity. -/
def fail {α : Type} (activity : String) (since : Mark) (problem : String) (c : Cursor) : Scan α :=
  .error (.problem (.during .token activity since problem c.mark))

/-- `found` words and a character in quotation marks. -/
def butFound (expected : String) (ch : Char) : String :=
  expected ++ ", but found " ++ Quoted.text (String.singleton ch)

/-- Characters of anchor names, tag handles and directive names. -/
def isWordChar (c : Char) : Bool :=
  isAsciiDigit c || isAsciiLetter c || c == '-' || c == '_'

/-! ## Space between tokens -/

/-- Passes a comment up to the end of its line. -/
def skipComment (c : Cursor) : Cursor :=
  if c.head == '#' then c.skipWhile (!isBreakOrEnd ·) else c

/-- Passes spaces, comments and line breaks; tells whether a line break was passed. -/
def skipToToken : Nat → Cursor → Bool → Cursor × Bool
  | 0, c, crossed => (c, crossed)
  | fuel + 1, c, crossed =>
    let c := skipComment (c.skipWhile (· == ' '))
    match c.lineBreak with
    | (some _, c) => skipToToken fuel c true
    | (none, c) => (c, crossed)

/-- The rest of a line that may hold only a comment. -/
def ignoredLine (activity : String) (since : Mark) (c : Cursor) : Scan Cursor :=
  let c := skipComment (c.skipWhile (· == ' '))
  if isBreakOrEnd c.head then .ok c.lineBreak.2
  else fail activity since (butFound "expected a comment or a line break" c.head) c

/-! ## Tags -/

/-- A tag handle: an exclamation mark, or a word between two. -/
def tagHandle (what : String) (since : Mark) (c : Cursor) : Scan (String × Cursor) :=
  if c.head != '!' then
    fail ("while scanning a " ++ what) since (butFound "expected '!'" c.head) c
  else if c.peek 1 == ' ' then .ok ("!", c.next)
  else
    let word := (c.rest.drop 1).takeWhile isWordChar
    let close := c.peek (word.length + 1)
    if close == '!' then
      .ok (String.ofList ('!' :: word ++ ['!']), c.skip (word.length + 2))
    else
      let c := c.skip (word.length + 1)
      fail ("while scanning a " ++ what) since (butFound "expected '!'" close) c

/-- Characters of a tag. -/
def isUriChar (c : Char) : Bool :=
  isAsciiDigit c || isAsciiLetter c || "-;/?:@&=+$,_.!~*'()[]%".toList.contains c

/-- The bytes written as a run of percent escapes. -/
def uriEscapes (what : String) (since : Mark) : Nat → Cursor → Scan (List UInt8 × Cursor)
  | 0, c => .ok ([], c)
  | fuel + 1, c =>
    if c.head == '%' then
      let c := c.next
      match (List.range 2).find? fun k => !isHexDigit (c.peek k) with
      | some k =>
        fail ("while scanning a " ++ what) since
          (butFound "expected URI escape sequence of 2 hexadecimal numbers" (c.peek k)) c
      | none => do
        let b := UInt8.ofNat (16 * hexValue (c.peek 0) + hexValue (c.peek 1))
        let (bs, c) ← uriEscapes what since fuel (c.skip 2)
        return (b :: bs, c)
    else .ok ([], c)

/-- The characters of a tag, escapes decoded. -/
def uriParts (what : String) (since : Mark) : Nat → Cursor → Scan (List Char × Cursor)
  | 0, c => .ok ([], c)
  | fuel + 1, c =>
    let (run, c) := c.takeWhile fun ch => isUriChar ch && ch != '%'
    if c.head == '%' then do
      let mark := c.mark
      let (bytes, c) ← uriEscapes what since c.rest.length c
      match Utf8.decode bytes with
      | .ok s =>
        let (more, c) ← uriParts what since fuel c
        return (run ++ s.toList ++ more, c)
      | .error m =>
        .error (.problem (.during .token ("while scanning a " ++ what) since
          (m.message bytes) mark))
    else .ok (run, c)

/-- A tag after its handle; it has at least one character. -/
def tagUri (what : String) (since : Mark) (c : Cursor) : Scan (String × Cursor) :=
  if isUriChar c.head then do
    let (cs, c) ← uriParts what since (c.rest.length + 1) c
    return (String.ofList cs, c)
  else fail ("while parsing a " ++ what) since (butFound "expected URI" c.head) c

/-- A tag: verbatim between angle brackets, a lone exclamation mark, or a handle and a suffix. -/
def tag (c : Cursor) : Scan (Token × Cursor) := do
  let first := c.mark
  let ch := c.peek 1
  let ((handle, suffix), c) ← (
    if ch == '<' then do
      let (suffix, c) ← tagUri "tag" first (c.skip 2)
      if c.head == '>' then return ((none, suffix), c.next)
      else fail "while parsing a tag" first (butFound "expected '>'" c.head) c
    else if isBlankOrEnd ch then return ((none, "!"), c.next)
    else do
      let line := (c.rest.drop 1).takeWhile (!isSpaceOrEnd ·)
      let (handle, c) ← if line.contains '!' then tagHandle "tag" first c else .ok ("!", c.next)
      let (suffix, c) ← tagUri "tag" first c
      return ((some handle, suffix), c) : Scan ((Option String × String) × Cursor))
  if isSpaceOrEnd c.head then return (⟨.tag handle suffix, first, c.mark⟩, c)
  else fail "while scanning a tag" first (butFound "expected ' '" c.head) c

/-! ## Directives -/

/-- A number in a version directive. -/
def versionNumber (since : Mark) (c : Cursor) : Scan (Nat × Cursor) :=
  let (digits, after) := c.takeWhile isAsciiDigit
  if digits.isEmpty then
    fail "while scanning a directive" since (butFound "expected a digit" c.head) c
  else if 4300 < digits.length then .error (.scalar (.integerSize digits.length))
  else .ok (digitsValue digits, after)

/-- The two numbers of a version directive. -/
def version (since : Mark) (c : Cursor) : Scan (Directive × Cursor) := do
  let activity := "while scanning a directive"
  let (major, c) ← versionNumber since (c.skipWhile (· == ' '))
  if c.head != '.' then fail activity since (butFound "expected a digit or '.'" c.head) c
  else
    let (minor, c) ← versionNumber since c.next
    if isSpaceOrEnd c.head then return (.version major minor, c)
    else fail activity since (butFound "expected a digit or ' '" c.head) c

/-- The handle of a tag directive and what it stands for. -/
def tagDirective (since : Mark) (c : Cursor) : Scan (Directive × Cursor) := do
  let activity := "while scanning a directive"
  let (handle, c) ← tagHandle "directive" since (c.skipWhile (· == ' '))
  if c.head != ' ' then fail activity since (butFound "expected ' '" c.head) c
  else
    let (stem, c) ← tagUri "directive" since (c.skipWhile (· == ' '))
    if isSpaceOrEnd c.head then return (.tagHandle handle stem, c)
    else fail activity since (butFound "expected ' '" c.head) c

/-- A directive line. -/
def directive (c : Cursor) : Scan (Token × Cursor) := do
  let activity := "while scanning a directive"
  let first := c.mark
  let (name, c) := c.next.takeWhile isWordChar
  let expected := "expected alphabetic or numeric character"
  if name.isEmpty then fail activity first (butFound expected c.head) c
  else if !isSpaceOrEnd c.head then fail activity first (butFound expected c.head) c
  else
    let name := String.ofList name
    let (d, c) ←
      if name == "YAML" then version first c
      else if name == "TAG" then tagDirective first c
      else .ok (.unknown name, c)
    let last := c.mark
    let c := match d with
      | .unknown _ => c.skipWhile (!isBreakOrEnd ·)
      | _ => c
    let c ← ignoredLine activity first c
    return (⟨.directive d, first, last⟩, c)

/-! ## Anchors and aliases -/

/-- The name after an ampersand or an asterisk. -/
def anchor (c : Cursor) : Scan (Token × Cursor) :=
  let first := c.mark
  let isAlias := c.head == '*'
  let activity := "while scanning an " ++ (if isAlias then "alias" else "anchor")
  let expected := "expected alphabetic or numeric character"
  let (name, after) := c.next.takeWhile isWordChar
  if name.isEmpty then fail activity first (butFound expected after.head) after
  else if isBlankOrEnd after.head || "?:,]\x7d%@\x60".toList.contains after.head then
    let s := String.ofList name
    .ok (⟨if isAlias then .alias s else .anchor s, first, after.mark⟩, after)
  else fail activity first (butFound expected after.head) after

/-! ## Block scalars -/

/-- What happens to the line breaks at the end of a block scalar. -/
inductive Chomping
  | clip
  | strip
  | keep
  deriving DecidableEq

/-- A chomping sign, if there is one. -/
def chompingSign (c : Cursor) : Option Chomping × Cursor :=
  if c.head == '+' then (some .keep, c.next)
  else if c.head == '-' then (some .strip, c.next)
  else (none, c)

/-- An indentation digit, if there is one; zero is refused. -/
def indentationDigit (since : Mark) (c : Cursor) : Scan (Option Nat × Cursor) :=
  if isAsciiDigit c.head then
    if c.head == '0' then
      fail "while scanning a block scalar" since
        "expected indentation indicator in the range 1-9, but found 0" c
    else .ok (some (c.head.toNat - 48), c.next)
  else .ok (none, c)

/-- The indicators after the sign that opens a block scalar, in either order. -/
def blockIndicators (since : Mark) (c : Cursor) : Scan ((Chomping × Option Nat) × Cursor) := do
  let (before, c) := chompingSign c
  let (increment, c) ← indentationDigit since c
  let (chomping, c) := match before with
    | some _ => (before, c)
    | none => if increment.isSome then chompingSign c else (none, c)
  if isSpaceOrEnd c.head then return ((chomping.getD .clip, increment), c)
  else
    fail "while scanning a block scalar" since
      (butFound "expected chomping or indentation indicators" c.head) c

/-- The leading empty lines of a block scalar: their breaks, the widest indentation, and the place
behind the last break. -/
def blockLead : Nat → Cursor → Nat → Mark → List Char × Nat × Mark × Cursor
  | 0, c, widest, last => ([], widest, last, c)
  | fuel + 1, c, widest, last =>
    if c.head == ' ' then
      let c := c.next
      blockLead fuel c (max widest c.mark.column) last
    else
      match c.lineBreak with
      | (some b, c) =>
        let (bs, widest, last, c) := blockLead fuel c widest c.mark
        (b :: bs, widest, last, c)
      | (none, c) => ([], widest, last, c)

/-- Passes spaces up to a column. -/
def skipIndent (indent : Nat) : Nat → Cursor → Cursor
  | 0, c => c
  | fuel + 1, c =>
    if c.mark.column < indent && c.head == ' ' then skipIndent indent fuel c.next else c

/-- The empty lines at an indentation: their breaks and the place behind the last one. -/
def blockBreaks (indent : Nat) : Nat → Cursor → Mark → List Char × Mark × Cursor
  | 0, c, last => ([], last, c)
  | fuel + 1, c, last =>
    let c := skipIndent indent c.rest.length c
    match c.lineBreak with
    | (some b, c) =>
      let (bs, last, c) := blockBreaks indent fuel c c.mark
      (b :: bs, last, c)
    | (none, c) => ([], last, c)

/-- The lines of a block scalar: its text, the break behind its last line and the empty lines after
it.  Folding turns a single break between two lines into a space, unless one of them begins with a
blank. -/
def blockLines (folded : Bool) (indent : Nat) :
    Nat → Cursor → List Char → Option Char → Mark → List Char × Option Char × List Char × Mark × Cursor
  | 0, c, breaks, lineBreak, last => ([], lineBreak, breaks, last, c)
  | fuel + 1, c, breaks, lineBreak, last =>
    if c.mark.column == indent && !isEnd c.head then
      let leadingInk := c.head != ' ' && c.head != '\t'
      let (line, c) := c.takeWhile (!isBreakOrEnd ·)
      let (b, c) := c.lineBreak
      let (more, last, c) := blockBreaks indent (c.rest.length + 1) c c.mark
      if c.mark.column == indent && !isEnd c.head then
        let joint :=
          if folded && b == some '\n' && leadingInk && c.head != ' ' && c.head != '\t' then
            (if more.isEmpty then [' '] else [])
          else b.toList
        let (tail, result) := blockLines folded indent fuel c more b last
        (breaks ++ line ++ joint ++ tail, result)
      else (breaks ++ line, b, more, last, c)
    else ([], lineBreak, breaks, last, c)

/-- A block scalar inside a collection whose indentation is given. -/
def blockScalar (folded : Bool) (parentIndent : Int) (c : Cursor) : Scan (Token × Cursor) := do
  let first := c.mark
  let ((chomping, increment), c) ← blockIndicators first c.next
  let c ← ignoredLine "while scanning a block scalar" first c
  let least : Nat := max 1 (parentIndent + 1).toNat
  let (indent, breaks, last, c) := match increment with
    | none =>
      let (breaks, widest, last, c) := blockLead (c.rest.length + 1) c 0 c.mark
      (max least widest, breaks, last, c)
    | some n =>
      let indent := least + n - 1
      let (breaks, last, c) := blockBreaks indent (c.rest.length + 1) c c.mark
      (indent, breaks, last, c)
  let (text, lineBreak, breaks, last, c) :=
    blockLines folded indent (c.rest.length + 1) c breaks none last
  let tail := match chomping with
    | .strip => []
    | .clip => lineBreak.toList
    | .keep => lineBreak.toList ++ breaks
  return (⟨.scalar (String.ofList (text ++ tail)) (if folded then .folded else .literal), first, last⟩, c)

/-! ## Quoted scalars -/

/-- The character of a one-letter escape. -/
def escapeLetter? : Char → Option Char
  | '0' => some '\x00'
  | 'a' => some '\x07'
  | 'b' => some '\x08'
  | 't' => some '\t'
  | '\t' => some '\t'
  | 'n' => some '\n'
  | 'v' => some '\x0b'
  | 'f' => some '\x0c'
  | 'r' => some '\r'
  | 'e' => some '\x1b'
  | ' ' => some ' '
  | '"' => some '"'
  | '\\' => some '\\'
  | '/' => some '/'
  | 'N' => some '\x85'
  | '_' => some '\xa0'
  | 'L' => some '\u2028'
  | 'P' => some '\u2029'
  | _ => none

/-- The number of hexadecimal digits that an escape letter announces. -/
def escapeWidth? : Char → Option Nat
  | 'x' => some 2
  | 'u' => some 4
  | 'U' => some 8
  | _ => none

/-- The character with a number, if there is one; the numbers of surrogates are left out. -/
def characterOf (code : Nat) : Scan Char :=
  if h : code.isValidChar then .ok (.ofNatAux code h)
  else if code < 0x110000 then .error (.leftOut .loneSurrogate)
  else if code < 0x80000000 then .error (.scalar .characterRange)
  else .error (.scalar .characterSize)

/-- The empty lines inside a quoted scalar; a document separator must not stand there. -/
def quotedBreaks (since : Mark) : Nat → Cursor → Scan (List Char × Cursor)
  | 0, c => .ok ([], c)
  | fuel + 1, c =>
    if c.atSeparator then
      fail "while scanning a quoted scalar" since "found unexpected document separator" c
    else
      let c := c.skipWhile fun ch => ch == ' ' || ch == '\t'
      match c.lineBreak with
      | (some b, c) => do
        let (bs, c) ← quotedBreaks since fuel c
        return (b :: bs, c)
      | (none, c) => .ok ([], c)

/-- Characters that a quoted scalar takes as they are, whichever its mark. -/
def isQuotedChar (c : Char) : Bool :=
  !(c == '\'' || c == '"' || c == '\\' || isBlankOrEnd c)

/-- The part of a quoted scalar up to the next blank or the closing mark. -/
def quotedInk (double : Bool) (since : Mark) : Nat → Cursor → Scan (List Char × Cursor)
  | 0, c => .ok ([], c)
  | fuel + 1, c => do
    let activity := "while scanning a double-quoted scalar"
    let (run, c) := c.takeWhile isQuotedChar
    let ch := c.head
    if !double && ch == '\'' && c.peek 1 == '\'' then
      let (more, c) ← quotedInk double since fuel (c.skip 2)
      return (run ++ '\'' :: more, c)
    else if (double && ch == '\'') || (!double && (ch == '"' || ch == '\\')) then
      let (more, c) ← quotedInk double since fuel c.next
      return (run ++ ch :: more, c)
    else if double && ch == '\\' then
      let c := c.next
      let e := c.head
      match escapeLetter? e, escapeWidth? e with
      | some x, _ =>
        let (more, c) ← quotedInk double since fuel c.next
        return (run ++ x :: more, c)
      | none, some width =>
        let c := c.next
        match (List.range width).find? fun k => !isHexDigit (c.peek k) with
        | some k =>
          fail activity since (butFound ("expected escape sequence of " ++ decimalText width
            ++ " hexadecimal numbers") (c.peek k)) c
        | none =>
          let x ← characterOf ((c.rest.take width).foldl (fun n d => 16 * n + hexValue d) 0)
          let (more, c) ← quotedInk double since fuel (c.skip width)
          return (run ++ x :: more, c)
      | none, none =>
        if isBreak e then
          let (bs, c) ← quotedBreaks since (c.rest.length + 1) c.lineBreak.2
          let (more, c) ← quotedInk double since fuel c
          return (run ++ bs ++ more, c)
        else
          fail activity since
            ("found unknown escape character " ++ Quoted.text (String.singleton e)) c
    else return (run, c)

/-- The blanks inside a quoted scalar: kept on a line, folded around a line break. -/
def quotedBlanks (since : Mark) (c : Cursor) : Scan (List Char × Cursor) :=
  let (blanks, c) := c.takeWhile fun ch => ch == ' ' || ch == '\t'
  if isEnd c.head then
    fail "while scanning a quoted scalar" since "found unexpected end of stream" c
  else
    match c.lineBreak with
    | (some b, c) => do
      let (bs, c) ← quotedBreaks since (c.rest.length + 1) c
      let joint := if b != '\n' then [b] else if bs.isEmpty then [' '] else []
      return (joint ++ bs, c)
    | (none, c) => .ok (blanks, c)

/-- A quoted scalar after its first part. -/
def quotedRest (double : Bool) (since : Mark) : Nat → Cursor → Scan (List Char × Cursor)
  | 0, c => .ok ([], c)
  | fuel + 1, c =>
    if c.head == (if double then '"' else '\'') then .ok ([], c.next)
    else do
      let (blanks, c) ← quotedBlanks since c
      let (ink, c) ← quotedInk double since (c.rest.length + 1) c
      let (more, c) ← quotedRest double since fuel c
      return (blanks ++ ink ++ more, c)

/-- A scalar in quotation marks. -/
def quotedScalar (double : Bool) (c : Cursor) : Scan (Token × Cursor) := do
  let first := c.mark
  let (ink, c) ← quotedInk double first (c.rest.length + 1) c.next
  let (more, c) ← quotedRest double first (c.rest.length + 1) c
  return (⟨.scalar (String.ofList (ink ++ more)) (if double then .double else .single), first, c.mark⟩, c)

/-! ## Plain scalars -/

/-- Characters that end a plain scalar inside a flow collection. -/
def isFlowPunctuation (c : Char) : Bool :=
  c == ',' || c == '[' || c == ']' || c == '\x7b' || c == '\x7d'

/-- Whether a plain scalar ends before `ch`, which is followed by `next`. -/
def endsPlain (inFlow : Bool) (ch next : Char) : Bool :=
  isBlankOrEnd ch
    || (ch == ':' && (isBlankOrEnd next || (inFlow && isFlowPunctuation next)))
    || (inFlow && (isFlowPunctuation ch || ch == '?'))

/-- The longest part of a plain scalar at the start of a text. -/
def plainRun (inFlow : Bool) : List Char → List Char
  | [] => []
  | ch :: rest => if endsPlain inFlow ch (rest.headD '\x00') then [] else ch :: plainRun inFlow rest

/-- The empty lines between two parts of a plain scalar; nothing if a document separator follows. -/
def plainBreaks : Nat → Cursor → Option (List Char) × Cursor
  | 0, c => (some [], c)
  | fuel + 1, c =>
    if c.head == ' ' then plainBreaks fuel c.next
    else
      match c.lineBreak with
      | (some b, c) =>
        if c.atSeparator then (none, c)
        else
          let (bs, c) := plainBreaks fuel c
          (bs.map (b :: ·), c)
      | (none, c) => (some [], c)

/-- The space after a part of a plain scalar, folded; tells whether a line break was passed. -/
def plainSpaces (c : Cursor) : List Char × Bool × Cursor :=
  let (blanks, c) := c.takeWhile (· == ' ')
  match c.lineBreak with
  | (some b, c) =>
    if c.atSeparator then ([], true, c)
    else
      match plainBreaks (c.rest.length + 1) c with
      | (none, c) => ([], true, c)
      | (some bs, c) =>
        ((if b != '\n' then [b] else if bs.isEmpty then [' '] else []) ++ bs, true, c)
  | (none, c) => (blanks, false, c)

/-- A plain scalar, part by part: its text, the place behind its last character, and whether the
cursor has come to a new line. -/
def plainParts (inFlow : Bool) (indent : Int) :
    Nat → Cursor → List Char → Mark → Bool → List Char × Mark × Bool × Cursor
  | 0, c, _, last, crossed => ([], last, crossed, c)
  | fuel + 1, c, spaces, last, crossed =>
    if c.head == '#' then ([], last, crossed, c)
    else
      match plainRun inFlow c.rest with
      | [] => ([], last, crossed, c)
      | run =>
        let c := c.skip run.length
        let last := c.mark
        let (gap, crossed, c) := plainSpaces c
        if gap.isEmpty || c.head == '#' || (!inFlow && (c.mark.column : Int) < indent) then
          (spaces ++ run, last, crossed, c)
        else
          let (more, rest) := plainParts inFlow indent fuel c gap last crossed
          (spaces ++ run ++ more, rest)

/-- A scalar without marks, inside a collection whose indentation is given; tells whether the cursor
has come to a new line. -/
def plainScalar (inFlow : Bool) (parentIndent : Int) (c : Cursor) : Token × Bool × Cursor :=
  let (text, last, crossed, after) :=
    plainParts inFlow (parentIndent + 1) (c.rest.length + 1) c [] c.mark false
  (⟨.scalar (String.ofList text) .plain, c.mark, last⟩, crossed, after)

end MetricsAgent.Yaml.Lexer
