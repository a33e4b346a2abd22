import CloudEmulation.Number.Numeral
import CloudEmulation.Yaml.Scalar
/-!
Tokens of a YAML text. Marks are tokens, and so are the beginnings and ends of blocks, which the
text only shows by indentation.

Whether a scalar is a key is not known before a colon follows. Such a scalar is remembered as a
candidate, and its key token is put before it afterwards.
-/

namespace CloudEmulation.Yaml

inductive Token where
  | version (major minor : Nat)
  | tagPrefix (handle pre : String)
  | documentStart
  | documentEnd
  | blockSequence
  | blockMapping
  | blockEnd
  | flowSequence
  | flowSequenceEnd
  | flowMapping
  | flowMappingEnd
  | entry
  | separator
  | key
  | value
  | alias (name : String)
  | anchor (name : String)
  | tag (handle suffix : String)
  | scalar (plain : Bool) (text : String)
  deriving DecidableEq, Repr

/-- A token that may turn out to be a key: its place among the tokens and in the text. -/
structure Candidate where
  possible : Bool
  required : Bool
  place : Nat
  cursor : Cursor
  deriving Repr

structure Lexer where
  cursor : Cursor
  tokens : List Token
  /-- The column of the innermost block. -/
  indent : Option Nat
  /-- The columns of the blocks around it. -/
  outer : List (Option Nat)
  keyAllowed : Bool
  /-- The candidate of the innermost collection. -/
  candidate : Candidate
  /-- The candidates of the collections around it, one for each flow collection. -/
  outerCandidates : List Candidate
  deriving Repr

namespace Lexer

def noCandidate (c : Cursor) : Candidate := ⟨false, false, 0, c⟩

def start (text : List Char) : Lexer :=
  let c := Cursor.start text
  ⟨c, [], none, [], true, noCandidate c, []⟩

def inFlow (l : Lexer) : Bool := !l.outerCandidates.isEmpty

def push (l : Lexer) (t : Token) : Lexer := { l with tokens := l.tokens ++ [t] }

def skip (l : Lexer) (n : Nat) : Lexer := { l with cursor := l.cursor.skip n }

def insertAt (l : Lexer) (place : Nat) (t : Token) : Lexer :=
  { l with tokens := l.tokens.take place ++ t :: l.tokens.drop place }

/-- The least column of what belongs to the innermost block. -/
def inner (l : Lexer) : Nat := l.indent.elim 0 (· + 1)

/-! Blocks. -/

/-- Begins a block at a column, if it is deeper than the innermost one. -/
def openBlock (l : Lexer) (column place : Nat) (t : Token) : Lexer :=
  if l.inFlow || column < l.inner then l
  else { l.insertAt place t with indent := some column, outer := l.indent :: l.outer }

/-- Ends the blocks that are deeper than a column. -/
def closeBlocks (limit : Option Nat) (indent : Option Nat) :
    List (Option Nat) → Nat × Option Nat × List (Option Nat)
  | [] => (0, indent, [])
  | o :: outer =>
    if indent.any fun i => limit.all (· < i) then
      let (n, indent, outer) := closeBlocks limit o outer
      (n + 1, indent, outer)
    else (0, indent, o :: outer)

def close (l : Lexer) (limit : Option Nat) : Lexer :=
  if l.inFlow then l
  else
    let (n, indent, outer) := closeBlocks limit l.indent l.outer
    { l with tokens := l.tokens ++ List.replicate n .blockEnd, indent, outer }

/-! Candidates for keys. -/

/-- Gives up a candidate; one that must be a key cannot be given up. -/
def Candidate.drop? (k : Candidate) : Option Candidate :=
  if k.possible && k.required then none else some { k with possible := false }

/-- A key stands on one line and is not longer than 1024 characters. -/
def Candidate.refresh? (c : Cursor) (k : Candidate) : Option Candidate :=
  if k.possible && (k.cursor.line < c.line || k.cursor.index + 1024 < c.index) then
    Candidate.drop? k
  else some k

def refresh? (l : Lexer) : Option Lexer := do
  let candidate ← Candidate.refresh? l.cursor l.candidate
  let outerCandidates ← l.outerCandidates.mapM (Candidate.refresh? l.cursor)
  return { l with candidate, outerCandidates }

def dropCandidate? (l : Lexer) : Option Lexer := do
  return { l with candidate := ← Candidate.drop? l.candidate }

/-- Remembers that the next token may be a key. -/
def saveCandidate? (l : Lexer) : Option Lexer :=
  if !l.keyAllowed then some l
  else do
    let l ← l.dropCandidate?
    let required := !l.inFlow && l.indent = some l.cursor.column
    return { l with candidate := ⟨true, required, l.tokens.length, l.cursor⟩ }

/-! Reading one token each. -/

/-- A mark of `n` characters that ends all blocks. -/
def documentMark (l : Lexer) (t : Token) : Option Lexer := do
  let l ← (l.close none).dropCandidate?
  return ({ l with keyAllowed := false }.skip 3).push t

def flowStart (l : Lexer) (t : Token) : Option Lexer := do
  let l ← l.saveCandidate?
  let l := { l with
    candidate := noCandidate l.cursor
    outerCandidates := l.candidate :: l.outerCandidates
    keyAllowed := true }
  return (l.skip 1).push t

def flowEnd (l : Lexer) (t : Token) : Option Lexer := do
  let l ← l.dropCandidate?
  let l := match l.outerCandidates with
    | k :: r => { l with candidate := k, outerCandidates := r }
    | [] => l
  return ({ l with keyAllowed := false }.skip 1).push t

def flowSeparator (l : Lexer) : Option Lexer := do
  let l ← l.dropCandidate?
  return ({ l with keyAllowed := true }.skip 1).push .separator

def blockEntry (l : Lexer) : Option Lexer := do
  if !l.inFlow && !l.keyAllowed then none
  let l := l.openBlock l.cursor.column l.tokens.length .blockSequence
  let l ← l.dropCandidate?
  return ({ l with keyAllowed := true }.skip 1).push .entry

def explicitKey (l : Lexer) : Option Lexer := do
  if !l.inFlow && !l.keyAllowed then none
  let l := l.openBlock l.cursor.column l.tokens.length .blockMapping
  let l ← l.dropCandidate?
  return ({ l with keyAllowed := !l.inFlow }.skip 1).push .key

def mappingValue (l : Lexer) : Option Lexer := do
  let k := l.candidate
  if k.possible then
    let l := (l.insertAt k.place .key).openBlock k.cursor.column k.place .blockMapping
    let l := { l with candidate := { k with possible := false }, keyAllowed := false }
    return (l.skip 1).push .value
  else
    if !l.inFlow && !l.keyAllowed then none
    let l := l.openBlock l.cursor.column l.tokens.length .blockMapping
    return ({ l with keyAllowed := !l.inFlow }.skip 1).push .value

def nameEnds (c : Cursor) : Bool := c.endsWord || c.peek?.any ("?:,]\x7d%@`".toList.contains ·)

/-- The name of an anchor, or of what refers to one. -/
def anchorName (l : Lexer) (make : String → Token) : Option Lexer := do
  let l ← l.saveCandidate?
  let (name, c) := (l.cursor.skip 1).takeWhile isWordChar
  if name.isEmpty || !nameEnds c then none
  return { l with cursor := c, keyAllowed := false }.push (make (String.ofList name))

def isTagChar (c : Char) : Bool := isWordChar c || ";/?:@&=+$.!~*'()%".toList.contains c

/-- The text of a tag; its escapes stand for bytes of characters. -/
def tagText (chars : List Char) : Option String :=
  (Utf8.decode? (Percent.decode chars)).map String.ofList

def tagParts (c : Cursor) : Option (String × String × Cursor) :=
  match c.rest with
  | '!' :: '<' :: _ => do
    let (uri, c) := (c.skip 2).takeWhile fun d => isTagChar d || ",[]".toList.contains d
    if uri.isEmpty || c.peek? ≠ some '>' then none
    return ("", ← tagText uri, c.skip 1)
  | _ => do
    let (name, c) := (c.skip 1).takeWhile isWordChar
    if c.peek? = some '!' then
      let (suffix, c) := (c.skip 1).takeWhile isTagChar
      if suffix.isEmpty then none
      return ("!" ++ String.ofList name ++ "!", ← tagText suffix, c)
    else
      let (more, c) := c.takeWhile isTagChar
      let suffix ← tagText (name ++ more)
      return if suffix = "" then ("", "!", c) else ("!", suffix, c)

def tag (l : Lexer) : Option Lexer := do
  let l ← l.saveCandidate?
  let (handle, suffix, c) ← tagParts l.cursor
  if !(c.endsWord || l.inFlow && c.peek? = some ',') then none
  return { l with cursor := c, keyAllowed := false }.push (.tag handle suffix)

def blockScalar (l : Lexer) (folded : Bool) : Option Lexer := do
  let l ← l.dropCandidate?
  let (text, c) ← block? folded l.indent l.cursor
  return { l with cursor := c, keyAllowed := true }.push (.scalar false (String.ofList text))

def quotedScalar (l : Lexer) (quote : Char) : Option Lexer := do
  let l ← l.saveCandidate?
  let (text, c) ← quoted? quote l.cursor
  return { l with cursor := c, keyAllowed := false }.push (.scalar false (String.ofList text))

/-- After a plain scalar a key may only follow on a new line. -/
def plainScalar (l : Lexer) : Option Lexer := do
  let l ← l.saveCandidate?
  let (text, broken, c) ← plain? l.inFlow l.inner l.cursor
  return { l with cursor := c, keyAllowed := broken }.push (.scalar true (String.ofList text))

/-! Directives. -/

def number? (c : Cursor) : Option (Nat × Cursor) :=
  let (digits, c) := c.takeWhile Char.isDigit
  if digits.isEmpty || 9 < digits.length then none else some (Numeral.digitsValue 0 digits, c)

def version? (c : Cursor) : Option (Token × Cursor) := do
  let (major, c) ← number? c
  if c.peek? ≠ some '.' then none
  let (minor, c) ← number? (c.skip 1)
  return (.version major minor, c)

def tagHandle? (c : Cursor) : Option (String × Cursor) := do
  if c.peek? ≠ some '!' then none
  let (name, c) := (c.skip 1).takeWhile isWordChar
  if c.peek? = some '!' then return ("!" ++ String.ofList name ++ "!", c.skip 1)
  else if name.isEmpty then return ("!", c)
  else none

def tagPrefix? (c : Cursor) : Option (Token × Cursor) := do
  let (handle, c) ← tagHandle? c
  if !c.peek?.any isSpace then none
  let (uri, c) := (c.skipWhile isSpace).takeWhile fun d => isTagChar d || ",[]".toList.contains d
  if uri.isEmpty || !c.endsWord then none
  return (.tagPrefix handle (← tagText uri), c)

def directive (l : Lexer) : Option Lexer := do
  let l ← (l.close none).dropCandidate?
  let (name, c) := (l.cursor.skip 1).takeWhile isWordChar
  if !c.peek?.any isSpace then none
  let c := c.skipWhile isSpace
  let (t, c) ← match String.ofList name with
    | "YAML" => version? c
    | "TAG" => tagPrefix? c
    | _ => none
  return { l with cursor := ← c.endLine?, keyAllowed := false }.push t

/-! The whole text. -/

/-- Moves to the next token. Tabs are blanks only where no key may begin. -/
def skipBlanks : Nat → Lexer → Lexer
  | 0, l => l
  | fuel + 1, l =>
    let tabs := l.inFlow || !l.keyAllowed
    let c := l.cursor.skipWhile fun d => d = ' ' || (tabs && d = '\t')
    let c := if c.peek? = some '#' then c.skipWhile fun _ => true else c
    if c.atBreak then
      skipBlanks fuel { l with cursor := c.skipBreak, keyAllowed := l.keyAllowed || !l.inFlow }
    else { l with cursor := c }

/-- Characters that cannot begin a plain scalar, unless more of a word follows some of them. -/
def marks : List Char := "-?:,[]\x7b\x7d#&*!|>'\"%@`".toList

def beginsPlain (inFlow : Bool) : List Char → Bool
  | [] => false
  | c :: r =>
    !(isSpace c || isBreak c || marks.contains c) || (c = '-' && !r.head?.any isSpace) ||
      (!inFlow && (c = '?' || c = ':') && !endsWord r)

def next? (l : Lexer) : Option Lexer :=
  let c := l.cursor
  let plain := if beginsPlain l.inFlow c.rest then l.plainScalar else none
  match c.rest with
  | [] => none
  | d :: r =>
    if c.column = 0 && d = '%' then l.directive
    else if c.atDocumentMark then
      l.documentMark (if d = '-' then .documentStart else .documentEnd)
    else match d with
      | '[' => l.flowStart .flowSequence
      | '\x7b' => l.flowStart .flowMapping
      | ']' => l.flowEnd .flowSequenceEnd
      | '\x7d' => l.flowEnd .flowMappingEnd
      | ',' => l.flowSeparator
      | '-' => if endsWord r then l.blockEntry else plain
      | '?' => if l.inFlow || endsWord r then l.explicitKey else plain
      | ':' => if l.inFlow || endsWord r then l.mappingValue else plain
      | '*' => l.anchorName .alias
      | '&' => l.anchorName .anchor
      | '!' => l.tag
      | '|' => if l.inFlow then none else l.blockScalar false
      | '>' => if l.inFlow then none else l.blockScalar true
      | '\'' => l.quotedScalar '\''
      | '"' => l.quotedScalar '"'
      | _ => plain

/-- The text is at its end: all blocks end. -/
def finish (l : Lexer) : Option Lexer := (l.close none).dropCandidate?

def run : Nat → Lexer → Option Lexer
  | 0, _ => none
  | fuel + 1, l => do
    let l ← (skipBlanks (l.cursor.rest.length + 1) l).refresh?
    if l.cursor.rest.isEmpty then finish l
    else run fuel (← (l.close (some l.cursor.column)).next?)

end Lexer

/-- All tokens of a text that consists of allowed characters. -/
def Token.scan (text : List Char) : Option (List Token) := do
  let text := if text.head? = some (Char.ofNat 0xFEFF) then text.tail else text
  if !text.all isAllowed then none
  let l ← Lexer.run (text.length + 1) (.start text)
  return l.tokens

end CloudEmulation.Yaml
