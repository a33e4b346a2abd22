/-!
Where the reading of a YAML text stands: what is left of it, and at which line and column.
-/

namespace CloudEmulation.Yaml

def isSpace (c : Char) : Bool := c = ' ' || c = '\t'

def nextLine : Char := Char.ofNat 0x85

def isSeparator (c : Char) : Bool := c.toNat = 0x2028 || c.toNat = 0x2029

def isBreak (c : Char) : Bool := c = '\n' || c = '\r' || c = nextLine || isSeparator c

def isWordChar (c : Char) : Bool := c.isAlphanum || c = '_' || c = '-'

/-- Whether a YAML text may contain a character. -/
def isAllowed (c : Char) : Bool :=
  let n := c.toNat
  c = '\t' || c = '\n' || c = '\r' || (32 ≤ n && n < 127) || n = 0x85 || (0xA0 ≤ n && n ≤ 0xFFFD) ||
    0x10000 ≤ n

/-- Whether a text begins with a blank or a line break, or is empty. -/
def endsWord : List Char → Bool
  | [] => true
  | c :: _ => isSpace c || isBreak c

structure Cursor where
  rest : List Char
  line : Nat
  column : Nat
  index : Nat
  deriving Repr

namespace Cursor

def start (text : List Char) : Cursor := ⟨text, 0, 0, 0⟩

def peek? (c : Cursor) : Option Char := c.rest.head?

/-- Moves on by some characters of one line. -/
def skip (c : Cursor) (n : Nat) : Cursor :=
  ⟨c.rest.drop n, c.line, c.column + n, c.index + n⟩

/-- The characters of the line as long as they satisfy a condition. -/
def takeWhile (c : Cursor) (p : Char → Bool) : List Char × Cursor :=
  let taken := c.rest.takeWhile fun d => p d && !isBreak d
  (taken, c.skip taken.length)

def skipWhile (c : Cursor) (p : Char → Bool) : Cursor := (c.takeWhile p).2

/-- Moves past a line break. All breaks read as a line feed, save for the two separators. -/
def lineBreak (c : Cursor) : List Char × Cursor :=
  match c.rest with
  | '\r' :: '\n' :: r => (['\n'], ⟨r, c.line + 1, 0, c.index + 2⟩)
  | d :: r =>
    if isBreak d then ([if isSeparator d then d else '\n'], ⟨r, c.line + 1, 0, c.index + 1⟩)
    else ([], c)
  | [] => ([], c)

def skipBreak (c : Cursor) : Cursor := c.lineBreak.2

def atBreak (c : Cursor) : Bool := c.peek?.any isBreak

def endsWord (c : Cursor) : Bool := Yaml.endsWord c.rest

/-- Whether a mark that begins or ends a document stands here. -/
def atDocumentMark (c : Cursor) : Bool :=
  c.column = 0 && match c.rest with
    | '-' :: '-' :: '-' :: r => Yaml.endsWord r
    | '.' :: '.' :: '.' :: r => Yaml.endsWord r
    | _ => false

/-- Moves past blanks, a comment and the line break after them, if nothing else stands there. -/
def endLine? (c : Cursor) : Option Cursor :=
  let c := c.skipWhile isSpace
  let c := if c.peek? = some '#' then c.skipWhile fun _ => true else c
  if c.rest.isEmpty then some c else if c.atBreak then some c.skipBreak else none

end Cursor

end CloudEmulation.Yaml
