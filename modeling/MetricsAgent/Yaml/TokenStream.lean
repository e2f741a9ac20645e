import MetricsAgent.Yaml.Lexer

/-!
# The tokens of a document

Indentation opens and closes block collections, and a scalar turns out to be a key only when a colon
follows it, so the reader keeps a stack of indentations and remembers, for each level of flow
collections, the last token that may be a key.  A token is settled once nothing can be put before
it any more; when reading fails, only settled tokens count.
-/

namespace MetricsAgent.Yaml

open Lexer

/-- A token that may turn out to be a key: its number and place.  It has to be one if it stands at
the indentation of the block it is in. -/
structure KeyCandidate where
  number : Nat
  required : Bool
  mark : Mark

/-- What the reader knows between two tokens. -/
structure TokenReader where
  cursor : Cursor
  tokens : Array Token
  flowLevel : Int
  indent : Int
  indents : List Int
  keyAllowed : Bool
  candidates : List (Int × KeyCandidate)
  finished : Bool

namespace TokenReader

/-- The reader at the beginning of a text. -/
def start (text : List Char) : TokenReader :=
  let c := Cursor.start text
  ⟨c, #[⟨.streamStart, c.mark, c.mark⟩], 0, -1, [], true, [], false⟩

def inFlow (r : TokenReader) : Bool :=
  r.flowLevel != 0

def column (r : TokenReader) : Int :=
  r.cursor.mark.column

/-- Adds a token. -/
def push (r : TokenReader) (t : Token) : TokenReader :=
  { r with tokens := r.tokens.push t }

/-- Adds a token of no extent at the cursor. -/
def pushHere (r : TokenReader) (k : Token.Kind) : TokenReader :=
  r.push ⟨k, r.cursor.mark, r.cursor.mark⟩

/-- Adds a token that covers the next `n` characters, and passes them. -/
def pushOver (r : TokenReader) (k : Token.Kind) (n : Nat) : TokenReader :=
  let after := r.cursor.skip n
  { r.push ⟨k, r.cursor.mark, after.mark⟩ with cursor := after }

/-- Puts a token before the one with a number. -/
def insertAt (r : TokenReader) (n : Nat) (t : Token) : TokenReader :=
  { r with tokens := (r.tokens.toList.take n ++ t :: r.tokens.toList.drop n).toArray }

/-- How many tokens are settled. -/
def settled (r : TokenReader) : Nat :=
  r.candidates.foldl (fun n (_, k) => min n k.number) r.tokens.size

/-! ## Keys -/

/-- Refuses a document in which a required key is not followed by a colon. -/
def missingColon {α : Type} (r : TokenReader) (k : KeyCandidate) : Scan α :=
  fail "while scanning a simple key" k.mark "could not find expected ':'" r.cursor

/-- A key has to be on one line and within 1024 characters: drops the candidates that no longer can
be keys. -/
def dropStale (r : TokenReader) : Scan TokenReader :=
  let here := r.cursor.mark
  let stale := fun (k : KeyCandidate) => k.mark.line != here.line || 1024 < here.index - k.mark.index
  match r.candidates.find? fun (_, k) => stale k && k.required with
  | some (_, k) => r.missingColon k
  | none => .ok { r with candidates := r.candidates.filter fun (_, k) => !stale k }

/-- Drops the candidate of the current level. -/
def dropCandidate (r : TokenReader) : Scan TokenReader :=
  match r.candidates.find? fun (l, _) => l == r.flowLevel with
  | some (_, k) =>
    if k.required then r.missingColon k
    else .ok { r with candidates := r.candidates.filter fun (l, _) => l != r.flowLevel }
  | none => .ok r

/-- Remembers the next token as a candidate, where a key may stand. -/
def noteCandidate (r : TokenReader) : Scan TokenReader :=
  if r.keyAllowed then do
    let required := !r.inFlow && r.indent == r.column
    let r ← r.dropCandidate
    let k : KeyCandidate := ⟨r.tokens.size, required, r.cursor.mark⟩
    return { r with candidates := r.candidates ++ [(r.flowLevel, k)] }
  else return r

/-! ## Indentation -/

/-- Closes the block collections that are indented more than a column. -/
def unwindSteps (column : Int) : List Int → TokenReader → TokenReader
  | [], r => r
  | outer :: indents, r =>
    if column < r.indent then
      unwindSteps column indents { r.pushHere .blockEnd with indent := outer, indents := indents }
    else r

def unwind (r : TokenReader) (column : Int) : TokenReader :=
  if r.inFlow then r else unwindSteps column r.indents r

/-- Opens a block collection at a column, if it is indented more than the enclosing one. -/
def indentTo (r : TokenReader) (column : Int) : Option TokenReader :=
  if r.indent < column then some { r with indent := column, indents := r.indent :: r.indents }
  else none

/-! ## Tokens -/

/-- The end of the text closes everything. -/
def readEnd (r : TokenReader) : Scan TokenReader := do
  let r := r.unwind (-1)
  let r ← r.dropCandidate
  return { r.pushHere .streamEnd with keyAllowed := false, candidates := [], finished := true }

/-- A directive line. -/
def readDirective (r : TokenReader) : Scan TokenReader := do
  let r := r.unwind (-1)
  let r ← r.dropCandidate
  let (t, c) ← directive r.cursor
  return { r.push t with keyAllowed := false, cursor := c }

/-- The beginning or the end of a document. -/
def readDocumentMark (r : TokenReader) (k : Token.Kind) : Scan TokenReader := do
  let r := r.unwind (-1)
  let r ← r.dropCandidate
  return { r with keyAllowed := false }.pushOver k 3

/-- A bracket that opens a flow collection, which may be a key itself. -/
def readFlowStart (r : TokenReader) (k : Token.Kind) : Scan TokenReader := do
  let r ← r.noteCandidate
  return { r with flowLevel := r.flowLevel + 1, keyAllowed := true }.pushOver k 1

/-- A bracket that closes a flow collection. -/
def readFlowEnd (r : TokenReader) (k : Token.Kind) : Scan TokenReader := do
  let r ← r.dropCandidate
  return { r with flowLevel := r.flowLevel - 1, keyAllowed := false }.pushOver k 1

/-- A comma between the entries of a flow collection. -/
def readFlowEntry (r : TokenReader) : Scan TokenReader := do
  let r ← r.dropCandidate
  return { r with keyAllowed := true }.pushOver .flowEntry 1

/-- Refuses what may not stand at the cursor. -/
def refuse {α : Type} (r : TokenReader) (problem : String) : Scan α :=
  .error (.problem (.plain .token problem r.cursor.mark))

/-- Opens a block collection at the cursor, if there is none at this indentation. -/
def openBlock (r : TokenReader) (k : Token.Kind) : TokenReader :=
  match r.indentTo r.column with
  | some r => r.pushHere k
  | none => r

/-- A hyphen before an entry of a block sequence. -/
def readBlockEntry (r : TokenReader) : Scan TokenReader := do
  let r ←
    if r.inFlow then .ok r
    else if !r.keyAllowed then r.refuse "sequence entries are not allowed here"
    else .ok (r.openBlock .blockSequenceStart)
  let r ← { r with keyAllowed := true }.dropCandidate
  return r.pushOver .blockEntry 1

/-- A question mark before a key. -/
def readKey (r : TokenReader) : Scan TokenReader := do
  let r ←
    if r.inFlow then .ok r
    else if !r.keyAllowed then r.refuse "mapping keys are not allowed here"
    else .ok (r.openBlock .blockMappingStart)
  let r ← { r with keyAllowed := !r.inFlow }.dropCandidate
  return r.pushOver .key 1

/-- A colon before a value; it makes a key of the candidate of this level. -/
def readValue (r : TokenReader) : Scan TokenReader := do
  match r.candidates.find? fun (l, _) => l == r.flowLevel with
  | some (_, k) =>
    let r := { r with candidates := r.candidates.filter fun (l, _) => l != r.flowLevel }
    let r := r.insertAt k.number ⟨.key, k.mark, k.mark⟩
    let r :=
      if r.inFlow then r
      else
        match r.indentTo k.mark.column with
        | some r => r.insertAt k.number ⟨.blockMappingStart, k.mark, k.mark⟩
        | none => r
    return { r with keyAllowed := false }.pushOver .value 1
  | none =>
    let r ←
      if r.inFlow then .ok r
      else if !r.keyAllowed then r.refuse "mapping values are not allowed here"
      else .ok (r.openBlock .blockMappingStart)
    let r ← { r with keyAllowed := !r.inFlow }.dropCandidate
    return r.pushOver .value 1

/-- A token that may be a key, read by a scanner. -/
def readWith (r : TokenReader) (scan : Cursor → Scan (Token × Cursor)) : Scan TokenReader := do
  let r ← r.noteCandidate
  let (t, c) ← scan r.cursor
  return { r.push t with keyAllowed := false, cursor := c }

/-- A block scalar. -/
def readBlockScalar (r : TokenReader) (folded : Bool) : Scan TokenReader := do
  let r ← { r with keyAllowed := true }.dropCandidate
  let (t, c) ← blockScalar folded r.indent r.cursor
  return { r.push t with cursor := c }

/-- A plain scalar; behind it a key may stand if it ended on another line. -/
def readPlain (r : TokenReader) : Scan TokenReader := do
  let r ← r.noteCandidate
  let (t, crossed, c) := plainScalar r.inFlow r.indent r.cursor
  return { r.push t with keyAllowed := crossed, cursor := c }

/-- Whether a plain scalar may begin at a cursor. -/
def beginsPlain (inFlow : Bool) (c : Cursor) : Bool :=
  let ch := c.head
  !(isBlankOrEnd ch || "-?:,[]\x7b\x7d#&*!|>'\"%@\x60".toList.contains ch)
    || (!isBlankOrEnd (c.peek 1) && (ch == '-' || (!inFlow && (ch == '?' || ch == ':'))))

/-- Passes the space before the next token; on a new line of a block a key may stand. -/
def skipSpace (r : TokenReader) : TokenReader :=
  let c := r.cursor
  let c := if c.mark.index == 0 && c.head == '\uFEFF' then c.next else c
  let (c, crossed) := skipToToken (c.rest.length + 1) c false
  { r with cursor := c, keyAllowed := r.keyAllowed || (crossed && !r.inFlow) }

/-- Reads one more token, and the block ends before it. -/
def readToken (r : TokenReader) : Scan TokenReader := do
  let r := r.skipSpace
  let r ← r.dropStale
  let r := r.unwind r.column
  let c := r.cursor
  let ch := c.head
  let atLineStart := c.mark.column == 0
  let blankNext := isBlankOrEnd (c.peek 1)
  if isEnd ch then r.readEnd
  else if ch == '%' && atLineStart then r.readDirective
  else if atLineStart && c.startsWith ['-', '-', '-'] && isBlankOrEnd (c.peek 3) then
    r.readDocumentMark .documentStart
  else if atLineStart && c.startsWith ['.', '.', '.'] && isBlankOrEnd (c.peek 3) then
    r.readDocumentMark .documentEnd
  else if ch == '[' then r.readFlowStart .flowSequenceStart
  else if ch == '\x7b' then r.readFlowStart .flowMappingStart
  else if ch == ']' then r.readFlowEnd .flowSequenceEnd
  else if ch == '\x7d' then r.readFlowEnd .flowMappingEnd
  else if ch == ',' then r.readFlowEntry
  else if ch == '-' && blankNext then r.readBlockEntry
  else if ch == '?' && (r.inFlow || blankNext) then r.readKey
  else if ch == ':' && (r.inFlow || blankNext) then r.readValue
  else if ch == '*' || ch == '&' then r.readWith anchor
  else if ch == '!' then r.readWith tag
  else if ch == '|' && !r.inFlow then r.readBlockScalar false
  else if ch == '>' && !r.inFlow then r.readBlockScalar true
  else if ch == '\'' then r.readWith (quotedScalar false)
  else if ch == '"' then r.readWith (quotedScalar true)
  else if beginsPlain r.inFlow c then r.readPlain
  else
    .error (.problem ⟨.token, some ("while scanning for the next token", none),
      "found character " ++ Quoted.text (String.singleton ch) ++ " that cannot start any token",
      c.mark⟩)

end TokenReader

/-- The settled tokens of a document, and the error that ended reading, if one did. -/
structure TokenStream where
  tokens : List Token
  failure : Option Error

/-- Reads tokens until the text ends or an error arises; each token takes at least one character. -/
def TokenReader.readAll : Nat → TokenReader → TokenStream
  | 0, r => ⟨r.tokens.toList, none⟩
  | fuel + 1, r =>
    if r.finished then ⟨r.tokens.toList, none⟩
    else
      match r.readToken.bind TokenReader.dropStale with
      | .ok r' => readAll fuel r'
      | .error e => ⟨r.tokens.toList.take r.settled, some e⟩

/-- Whether a character may occur in a document at all. -/
def isAllowed (c : Char) : Bool :=
  let n := c.toNat
  n == 9 || n == 10 || n == 13 || (0x20 ≤ n && n ≤ 0x7E) || n == 0x85
    || (0xA0 ≤ n && n ≤ 0xFFFD) || 0x10000 ≤ n

/-- The tokens of a text. -/
def TokenStream.ofText (text : List Char) : TokenStream :=
  match text.findIdx? (!isAllowed ·) with
  | some i => ⟨[], some (.unreadable (text[i]?.getD ' ').toNat i)⟩
  | none => (TokenReader.start text).readAll (text.length + 2)

end MetricsAgent.Yaml
