import CloudEmulation.Yaml.Token
/-!
The tree of a YAML document. Where nothing is written there is an empty plain scalar, and an alias
is the node it refers to, unless it is a part of that node.
-/

namespace CloudEmulation.Yaml

inductive Node where
  | scalar (tag : Option String) (plain : Bool) (text : String)
  | sequence (tag : Option String) (items : List Node)
  | mapping (tag : Option String) (pairs : List (Node × Node))
  /-- An alias within the collection that it refers to. -/
  | cycle
  deriving Repr, Inhabited

/-- An anchor; its node is known once it has been read. -/
structure Anchor where
  id : Nat
  name : String
  node : Option Node
  deriving Repr

structure Reader where
  tokens : List Token
  /-- Anchors, the last one first. -/
  anchors : List Anchor
  /-- What the handles of tags that directives introduce stand for. -/
  handles : List (String × String)
  deriving Repr

def standardHandles : List (String × String) := [("!", "!"), ("!!", "tag:yaml.org,2002:")]

/-- A part of a document, or nothing where the tokens have not the form of one. -/
abbrev Reading := StateT Reader Option

namespace Reader

def peek : Reading (Option Token) := do return (← get).tokens.head?

def advance : Reading Unit := modify fun r => { r with tokens := r.tokens.tail }

/-- Moves past a token if it stands here. -/
def accept (t : Token) : Reading Bool := do
  if (← peek) = some t then
    advance
    return true
  else return false

def expect (t : Token) : Reading Unit := do
  if !(← accept t) then failure

/-- Whether the next token is one of some tokens. -/
def nextIn (ts : List Token) : Reading Bool := do return (← peek).any ts.contains

def empty : Node := .scalar none true ""

/-- The full text of a tag. -/
def resolve (handle suffix : String) : Reading String := do
  if handle = "" then return suffix
  match ((← get).handles ++ standardHandles).lookup handle with
  | some beginning => return beginning ++ suffix
  | none => failure

/-- Makes an anchor known before its node is. -/
def declare (name : String) : Reading Nat := do
  let id := (← get).anchors.length
  modify fun r => { r with anchors := ⟨id, name, none⟩ :: r.anchors }
  return id

def define (id : Nat) (n : Node) : Reading Unit :=
  modify fun r => { r with
    anchors := r.anchors.map fun a => if a.id = id then { a with node := some n } else a }

def refer (name : String) : Reading Node := do
  match (← get).anchors.find? (·.name = name) with
  | some a => return a.node.getD .cycle
  | none => failure

/-- What may stand before a node. -/
structure Properties where
  anchor : Option String
  tag : Option String

def anchor? : Reading (Option String) := do
  match ← peek with
  | some (.anchor name) =>
    advance
    return some name
  | _ => return none

def tag? : Reading (Option String) := do
  match ← peek with
  | some (.tag handle suffix) =>
    advance
    return some (← resolve handle suffix)
  | _ => return none

/-- An anchor and a tag, in either order. -/
def properties : Reading Properties := do
  match ← anchor? with
  | some a => return ⟨some a, ← tag?⟩
  | none =>
    match ← tag? with
    | some t => return ⟨← anchor?, some t⟩
    | none => return ⟨none, none⟩

mutual

/-- A node. Block collections stand only where `block` allows them, and a sequence that is not
indented only where `inMapping` does. -/
def node (block inMapping : Bool) : Nat → Reading Node
  | 0 => failure
  | fuel + 1 => do
    if let some (.alias name) ← peek then
      advance
      return ← refer name
    let p ← properties
    let id ← p.anchor.mapM declare
    let n ← content block inMapping p fuel
    if let some id := id then define id n
    return n

def content (block inMapping : Bool) (p : Properties) : Nat → Reading Node
  | 0 => failure
  | fuel + 1 => do
    match ← peek with
    | some (.scalar plain text) =>
      advance
      return .scalar p.tag plain text
    | some .flowSequence =>
      advance
      return .sequence p.tag (← flowItems true fuel)
    | some .flowMapping =>
      advance
      return .mapping p.tag (← flowPairs true fuel)
    | some .entry =>
      if inMapping then return .sequence p.tag (← looseItems fuel)
      else nothing p
    | some .blockSequence =>
      if block then
        advance
        return .sequence p.tag (← blockItems fuel)
      else nothing p
    | some .blockMapping =>
      if block then
        advance
        return .mapping p.tag (← blockPairs fuel)
      else nothing p
    | _ => nothing p

/-- Properties may stand alone. -/
def nothing (p : Properties) : Reading Node := do
  if p.anchor.isNone && p.tag.isNone then failure
  return .scalar p.tag true ""

/-- A node, or nothing before one of some tokens. -/
def nodeBefore (stops : List Token) (block inMapping : Bool) : Nat → Reading Node
  | 0 => failure
  | fuel + 1 => do
    if ← nextIn stops then return empty
    node block inMapping fuel

def blockItems : Nat → Reading (List Node)
  | 0 => failure
  | fuel + 1 => do
    if ← accept .entry then
      let n ← nodeBefore [.entry, .blockEnd] true false fuel
      return n :: (← blockItems fuel)
    else
      expect .blockEnd
      return []

/-- The items of a sequence that is not indented. -/
def looseItems : Nat → Reading (List Node)
  | 0 => failure
  | fuel + 1 => do
    if ← accept .entry then
      let n ← nodeBefore [.entry, .key, .value, .blockEnd] true false fuel
      return n :: (← looseItems fuel)
    else return []

def blockPairs : Nat → Reading (List (Node × Node))
  | 0 => failure
  | fuel + 1 => do
    if ← accept .key then
      let k ← nodeBefore [.key, .value, .blockEnd] true true fuel
      let v ← if ← accept .value then nodeBefore [.key, .value, .blockEnd] true true fuel
        else pure empty
      return (k, v) :: (← blockPairs fuel)
    else
      expect .blockEnd
      return []

/-- The value of a pair, which may be left out. -/
def flowValue (stops : List Token) : Nat → Reading Node
  | 0 => failure
  | fuel + 1 => do
    if ← accept .value then nodeBefore stops false false fuel else return empty

/-- The items of a sequence in brackets; a pair among them is a mapping of its own. -/
def flowItems (first : Bool) : Nat → Reading (List Node)
  | 0 => failure
  | fuel + 1 => do
    if ← accept .flowSequenceEnd then return []
    if !first then
      expect .separator
      if ← accept .flowSequenceEnd then return []
    let n ← if ← accept .key then do
        let k ← nodeBefore [.value, .separator, .flowSequenceEnd] false false fuel
        let v ← flowValue [.separator, .flowSequenceEnd] fuel
        pure (Node.mapping none [(k, v)])
      else node false false fuel
    return n :: (← flowItems false fuel)

/-- The pairs of a mapping in braces; a key may stand alone. -/
def flowPairs (first : Bool) : Nat → Reading (List (Node × Node))
  | 0 => failure
  | fuel + 1 => do
    if ← accept .flowMappingEnd then return []
    if !first then
      expect .separator
      if ← accept .flowMappingEnd then return []
    let p ← if ← accept .key then do
        let k ← nodeBefore [.value, .separator, .flowMappingEnd] false false fuel
        let v ← flowValue [.separator, .flowMappingEnd] fuel
        pure (k, v)
      else do
        let k ← node false false fuel
        pure (k, empty)
    return p :: (← flowPairs false fuel)

end

/-- Reads directives; whether there were any. -/
def directives : Nat → Bool → Reading Bool
  | 0, _ => failure
  | fuel + 1, versioned => do
    match ← peek with
    | some (.version major minor) =>
      if versioned || major ≠ 1 || (minor ≠ 1 && minor ≠ 2) then failure
      advance
      let _ ← directives fuel true
      return true
    | some (.tagPrefix handle beginning) =>
      if (← get).handles.any (·.1 = handle) then failure
      advance
      modify fun r => { r with handles := (handle, beginning) :: r.handles }
      let _ ← directives fuel versioned
      return true
    | _ => return false

/-- Moves past marks that end a document. -/
def skipEnds : Nat → Reading Unit
  | 0 => failure
  | fuel + 1 => do
    if ← accept .documentEnd then skipEnds fuel

/-- The one document of a text. -/
def document (fuel : Nat) : Reading (Option Node) := do
  if (← peek).isNone then return none
  let directed ← directives fuel false
  let marked ← accept .documentStart
  if directed && !marked then failure
  let n ←
    if marked && ((← peek).isNone || (← nextIn [.documentStart, .documentEnd])) then pure empty
    else node true false fuel
  skipEnds fuel
  if (← peek).isSome then failure
  return some n

end Reader

/-- The document that a text holds, if it is empty or holds one document. -/
def Node.parse (text : String) : Option (Option Node) := do
  let tokens ← Token.scan text.toList
  let fuel := 4 * tokens.length + 8
  let (n, _) ← (Reader.document fuel).run ⟨tokens, [], []⟩
  return n

end CloudEmulation.Yaml
