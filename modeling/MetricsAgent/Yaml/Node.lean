import MetricsAgent.Yaml.TokenStream
import MetricsAgent.Yaml.Resolve

/-!
# Nodes

The tree of a document: scalars, sequences and mappings, each with its type and place, aliases
replaced by what they stand for.  The grammar is read by recursive descent over the tokens.
-/

namespace MetricsAgent.Yaml

/-- A node of a document. -/
inductive Node
  | scalar (tag : String) (text : String) (mark : Mark)
  | sequence (tag : String) (items : List Node) (mark : Mark)
  | mapping (tag : String) (entries : List (Node × Node)) (mark : Mark)

namespace Node

instance : Inhabited Node := ⟨.scalar (coreTag "null") "" default⟩

def tag : Node → String
  | .scalar t _ _ => t
  | .sequence t _ _ => t
  | .mapping t _ _ => t

def mark : Node → Mark
  | .scalar _ _ m => m
  | .sequence _ _ m => m
  | .mapping _ _ m => m

/-- The name of a kind of node in messages. -/
def kindName : Node → String
  | .scalar .. => "scalar"
  | .sequence .. => "sequence"
  | .mapping .. => "mapping"

end Node

mutual

/-- Whether a node is an equals sign that stands for a type of its own, or holds one. -/
def Node.holdsEqualsSign : Node → Bool
  | .scalar t _ _ => t == coreTag "value"
  | .sequence t items _ => t == coreTag "value" || anyItemHoldsEqualsSign items
  | .mapping t es _ => t == coreTag "value" || anyEntryHoldsEqualsSign es

def anyItemHoldsEqualsSign : List Node → Bool
  | [] => false
  | n :: rest => n.holdsEqualsSign || anyItemHoldsEqualsSign rest

def anyEntryHoldsEqualsSign : List (Node × Node) → Bool
  | [] => false
  | (k, v) :: rest => k.holdsEqualsSign || v.holdsEqualsSign || anyEntryHoldsEqualsSign rest

end

/-! ## The reader -/

/-- The tokens that remain, the error behind the last one, the nodes that have a name, and what the
tag handles stand for. -/
structure NodeReader where
  tokens : List Token
  failure : Option Error
  anchors : List (String × Mark × Option Node)
  handles : List (String × String)

/-- Reading with a reader as state. -/
abbrev Build := StateT NodeReader (Except Error)

namespace Build

/-- The handles that every document has. -/
def standardHandles : List (String × String) :=
  [("!", "!"), ("!!", coreTag "")]

/-- The next token, left in place. -/
def peek : Build Token := do
  let r ← get
  match r.tokens, r.failure with
  | t :: _, _ => return t
  | [], some e => throw e
  | [], none => return default

/-- Takes the next token. -/
def take : Build Token := do
  let t ← peek
  modify fun r => { r with tokens := r.tokens.tail }
  return t

/-- Whether the next token is one of some kinds. -/
def nextIs (p : Token.Kind → Bool) : Build Bool := do
  return p (← peek).kind

/-- Fails because a part of an activity is not what is expected. -/
def fail {α : Type} (activity : String) (since : Mark) (problem : String) (at_ : Mark) : Build α :=
  throw (.problem (.during .event activity since problem at_))

/-- Fails without an activity. -/
def failPlain {α : Type} (problem : String) (at_ : Mark) : Build α :=
  throw (.problem (.plain .event problem at_))

/-- Words for a token that is not expected. -/
def butFound (expected verb : String) (t : Token) : String :=
  expected ++ ", but " ++ verb ++ " " ++ Quoted.text t.kind.name

/-- The node for what is left out. -/
def emptyNode (m : Mark) : Node :=
  .scalar (implicitTag "") "" m

/-- Gives a node a name before its parts are read; a name is given once. -/
def announce (anchor : Option String) (m : Mark) : Build Unit := do
  match anchor with
  | none => return ()
  | some name =>
    match (← get).anchors.find? (·.1 == name) with
    | some (_, first, _) =>
      throw (.problem (.during .node
        ("found duplicate anchor " ++ Quoted.text name ++ "; first occurrence") first
        "second occurrence" m))
    | none => modify fun r => { r with anchors := r.anchors ++ [(name, m, none)] }

/-- Completes a named node. -/
def complete (anchor : Option String) (n : Node) : Build Node := do
  match anchor with
  | none => return n
  | some name =>
    modify fun r => { r with
      anchors := r.anchors.map fun (a, m, x) => if a == name then (a, m, some n) else (a, m, x) }
    return n

/-- The node that an alias stands for; inside the node itself it is left out. -/
def resolveAlias (name : String) (m : Mark) : Build Node := do
  match (← get).anchors.find? (·.1 == name) with
  | some (_, _, some n) =>
    if n.holdsEqualsSign then throw (.leftOut .sharedEqualsSign) else return n
  | some (_, _, none) => throw (.leftOut .partOfItself)
  | none => throw (.problem (.plain .node ("found undefined alias " ++ Quoted.text name) m))

/-- A tag with its handle replaced. -/
def fullTag (since : Mark) (handle : Option String) (suffix : String) (m : Mark) : Build String := do
  match handle with
  | none => return suffix
  | some h =>
    match (← get).handles.find? (·.1 == h) with
    | some (_, stem) => return stem ++ suffix
    | none =>
      fail "while parsing a node" since ("found undefined tag handle " ++ Quoted.text h) m

/-- The anchor and the tag before a node, in either order, with the place of the first. -/
def properties : Build (Option String × Option String × Option Mark) := do
  let first ← peek
  let anchor? : Build (Option String) := do
    match (← peek).kind with
    | .anchor a => let _ ← take; return some a
    | _ => return none
  let tag? : Build (Option (Option String × String × Mark)) := do
    match ← peek with
    | ⟨.tag h s, m, _⟩ => let _ ← take; return some (h, s, m)
    | _ => return none
  let (anchor, tag) ← (do
    match ← anchor? with
    | some a => return (some a, ← tag?)
    | none =>
      match ← tag? with
      | some t => return (← anchor?, some t)
      | none => return (none, none) : Build (Option String × Option (Option String × String × Mark)))
  let tag ← match tag with
    | some (h, s, m) => some <$> fullTag first.first h s m
    | none => pure none
  return (anchor, tag, if anchor.isSome || tag.isSome then some first.first else none)

/-- The type of a collection: the given one, or the usual one for its kind. -/
def collectionTag (tag : Option String) (usual : String) : String :=
  match tag with
  | some t => if t == "!" then coreTag usual else t
  | none => coreTag usual

mutual

/-- A node; in a block it may be a block collection, and the value of a key may be a sequence that
is not indented. -/
def node (block indentless : Bool) : Nat → Build Node
  | 0 => failPlain "document too deep" default
  | fuel + 1 => do
    let t ← peek
    match t.kind with
    | .alias name =>
      let _ ← take
      resolveAlias name t.first
    | _ =>
      let (anchor, tag, start) ← properties
      let t ← peek
      let start' := start.getD t.first
      match t.kind with
      | .scalar text style =>
        let _ ← take
        announce anchor start'
        let resolved := match tag with
          | none => if style == .plain then implicitTag text else coreTag "str"
          | some g => if g == "!" then implicitTag text else g
        complete anchor (.scalar resolved text start')
      | .flowSequenceStart =>
        let _ ← take
        announce anchor start'
        complete anchor (.sequence (collectionTag tag "seq") (← flowItems t.first true fuel) start')
      | .flowMappingStart =>
        let _ ← take
        announce anchor start'
        complete anchor (.mapping (collectionTag tag "map") (← flowEntries t.first true fuel) start')
      | k =>
        if k == .blockEntry && indentless then
          announce anchor start'
          complete anchor (.sequence (collectionTag tag "seq") (← indentlessItems fuel) start')
        else if k == .blockSequenceStart && block then
          let _ ← take
          announce anchor start'
          complete anchor (.sequence (collectionTag tag "seq") (← blockItems t.first fuel) start')
        else if k == .blockMappingStart && block then
          let _ ← take
          announce anchor start'
          complete anchor (.mapping (collectionTag tag "map") (← blockEntries t.first fuel) start')
        else if start.isSome then
          announce anchor start'
          let resolved := match tag with
            | none => implicitTag ""
            | some g => if g == "!" then implicitTag "" else g
          complete anchor (.scalar resolved "" start')
        else
          fail ("while parsing a " ++ (if block then "block" else "flow") ++ " node") start'
            (butFound "expected the node content" "found" t) t.first

/-- The entries of a block sequence, up to its end. -/
def blockItems (since : Mark) : Nat → Build (List Node)
  | 0 => failPlain "document too deep" default
  | fuel + 1 => do
    let t ← take
    match t.kind with
    | .blockEntry =>
      let item ←
        if ← nextIs fun k => k == .blockEntry || k == .blockEnd then pure (emptyNode t.last)
        else node true false fuel
      return item :: (← blockItems since fuel)
    | .blockEnd => return []
    | _ =>
      fail "while parsing a block collection" since (butFound "expected <block end>" "found" t) t.first

/-- The entries of a sequence that is not indented. -/
def indentlessItems : Nat → Build (List Node)
  | 0 => failPlain "document too deep" default
  | fuel + 1 => do
    let t ← peek
    if t.kind == .blockEntry then
      let _ ← take
      let item ←
        if ← nextIs fun k => k == .blockEntry || k == .key || k == .value || k == .blockEnd then
          pure (emptyNode t.last)
        else node true false fuel
      return item :: (← indentlessItems fuel)
    else return []

/-- The entries of a block mapping, up to its end. -/
def blockEntries (since : Mark) : Nat → Build (List (Node × Node))
  | 0 => failPlain "document too deep" default
  | fuel + 1 => do
    let absent := fun (k : Token.Kind) => k == .key || k == .value || k == .blockEnd
    let t ← take
    match t.kind with
    | .key =>
      let key ← if ← nextIs absent then pure (emptyNode t.last) else node true true fuel
      let v ← peek
      let value ←
        if v.kind == .value then do
          let _ ← take
          if ← nextIs absent then pure (emptyNode v.last) else node true true fuel
        else pure (emptyNode v.first)
      return (key, value) :: (← blockEntries since fuel)
    | .blockEnd => return []
    | _ =>
      fail "while parsing a block mapping" since (butFound "expected <block end>" "found" t) t.first

/-- The items of a flow sequence, up to its end; an item may be a mapping of one entry. -/
def flowItems (since : Mark) (atStart : Bool) : Nat → Build (List Node)
  | 0 => failPlain "document too deep" default
  | fuel + 1 => do
    if ← nextIs (· == Token.Kind.flowSequenceEnd) then
      let _ ← take
      return []
    else
      if !atStart then
        let t ← peek
        if t.kind == .flowEntry then
          let _ ← take
        else
          fail "while parsing a flow sequence" since (butFound "expected ',' or ']'" "got" t) t.first
      let t ← peek
      if t.kind == .key then
        let _ ← take
        let absent := fun (k : Token.Kind) => k == .flowEntry || k == .flowSequenceEnd
        let key ←
          if ← nextIs fun k => k == .value || absent k then pure (emptyNode t.last)
          else node false false fuel
        let v ← peek
        let value ←
          if v.kind == .value then do
            let _ ← take
            if ← nextIs absent then pure (emptyNode v.last) else node false false fuel
          else pure (emptyNode v.first)
        let _ ← peek
        return .mapping (coreTag "map") [(key, value)] t.first :: (← flowItems since false fuel)
      else if t.kind == .flowSequenceEnd then
        let _ ← take
        return []
      else
        let item ← node false false fuel
        return item :: (← flowItems since false fuel)

/-- The entries of a flow mapping, up to its end; an entry may lack its value. -/
def flowEntries (since : Mark) (atStart : Bool) : Nat → Build (List (Node × Node))
  | 0 => failPlain "document too deep" default
  | fuel + 1 => do
    if ← nextIs (· == Token.Kind.flowMappingEnd) then
      let _ ← take
      return []
    else
      if !atStart then
        let t ← peek
        if t.kind == .flowEntry then
          let _ ← take
        else
          fail "while parsing a flow mapping" since (butFound "expected ',' or '\x7d'" "got" t) t.first
      let t ← peek
      if t.kind == .key then
        let _ ← take
        let absent := fun (k : Token.Kind) => k == .flowEntry || k == .flowMappingEnd
        let key ←
          if ← nextIs fun k => k == .value || absent k then pure (emptyNode t.last)
          else node false false fuel
        let v ← peek
        let value ←
          if v.kind == .value then do
            let _ ← take
            if ← nextIs absent then pure (emptyNode v.last) else node false false fuel
          else pure (emptyNode v.first)
        return (key, value) :: (← flowEntries since false fuel)
      else if t.kind == .flowMappingEnd then
        let _ ← take
        return []
      else
        let key ← node false false fuel
        let v ← peek
        return (key, emptyNode v.first) :: (← flowEntries since false fuel)

end

/-! ## Documents -/

/-- The directives before a document: one version at most, each handle once. -/
def directives : Nat → Bool → Build Unit
  | 0, _ => failPlain "document too deep" default
  | fuel + 1, versionSeen => do
    let t ← peek
    match t.kind with
    | .directive d =>
      let _ ← take
      match d with
      | .version major _ =>
        if versionSeen then failPlain "found duplicate YAML directive" t.first
        else if major != 1 then
          failPlain "found incompatible YAML document (version 1.* is required)" t.first
        else directives fuel true
      | .tagHandle h stem =>
        if (← get).handles.any (·.1 == h) then
          failPlain ("duplicate tag handle " ++ Quoted.text h) t.first
        else
          modify fun r => { r with handles := r.handles ++ [(h, stem)] }
          directives fuel versionSeen
      | .unknown _ => directives fuel versionSeen
    | _ => return ()

def isDocumentStart (k : Token.Kind) : Bool :=
  match k with
  | .directive _ => true
  | .documentStart => true
  | .streamEnd => true
  | _ => false

/-- Passes document ends, directives and a document start; nothing if the stream ends before one.
Gives the place where the document begins. -/
def explicitStart (fuel : Nat) : Build (Option Mark) := do
  let r ← get
  set { r with tokens := r.tokens.dropWhile fun t => t.kind == Token.Kind.documentEnd }
  let t ← peek
  if t.kind == .streamEnd then return none
  else
    modify fun r => { r with handles := [] }
    directives fuel false
    modify fun r => { r with
      handles := r.handles ++ standardHandles.filter fun (h, _) => !r.handles.any (·.1 == h) }
    let s ← peek
    if s.kind == .documentStart then
      let _ ← take
      return some t.first
    else failPlain (butFound "expected '<document start>'" "found" s) s.first

/-- The node of an explicit document. -/
def content (fuel : Nat) : Build Node := do
  let t ← peek
  if isDocumentStart t.kind || t.kind == .documentEnd then return emptyNode t.first
  else node true false fuel

/-- The only document of a stream, if it has one. -/
def document (fuel : Nat) : Build (Option Node) := do
  let _ ← take
  let root? ← (do
    if ← nextIs isDocumentStart then
      match ← explicitStart fuel with
      | none => return none
      | some _ => some <$> content fuel
    else
      modify fun r => { r with handles := standardHandles }
      some <$> node true false fuel : Build (Option Node))
  match root? with
  | none => return none
  | some root =>
    if ← nextIs (· == Token.Kind.documentEnd) then
      let _ ← take
    match ← explicitStart fuel with
    | none => return some root
    | some m =>
      throw (.problem (.during .node "expected a single document in the stream" root.mark
        "but found another document" m))

end Build

/-- The root of the document that a text writes; an empty stream has none. -/
def Node.ofText (text : List Char) : Except Error (Option Node) :=
  let s := TokenStream.ofText text
  ((Build.document (4 * s.tokens.length + 16)).run ⟨s.tokens, s.failure, [], []⟩).map (·.1)

end MetricsAgent.Yaml
