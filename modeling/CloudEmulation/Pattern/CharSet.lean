import CloudEmulation.Text.Alphanumeric
import CloudEmulation.Text.Blank
import CloudEmulation.Text.Category
import CloudEmulation.Text.Fold
import CloudEmulation.Text.Property
/-!
Sets of characters, as they are written in patterns.
-/

namespace CloudEmulation

inductive CharSet where
  | none
  | range (low high : Nat)
  | table (t : CodePoints)
  /-- A general category by its code, or a group of categories by its first letter. -/
  | category (code : String)
  | alphabetic
  | blank
  | union (a b : CharSet)
  | inter (a b : CharSet)
  | diff (a b : CharSet)
  | symmDiff (a b : CharSet)
  | compl (a : CharSet)
  /-- With every character, those that differ from it in case only. -/
  | folded (a : CharSet)
  /-- The same for the letters of ASCII. -/
  | foldedAscii (a : CharSet)
  deriving Repr

namespace CharSet

def inCategory (code : String) (c : Char) : Bool :=
  let own := (Text.Category.of c).code
  if code = "LC" then own ∈ ["Lu", "Ll", "Lt"]
  else if code.length = 1 then own.toList.take 1 = code.toList
  else own = code

def swapCase (c : Char) : Char := if c.isLower then c.toUpper else c.toLower

def contains : CharSet → Char → Bool
  | .none, _ => false
  | .range low high, c => low ≤ c.toNat && c.toNat ≤ high
  | .table t, c => t.contains c
  | .category code, c => inCategory code c
  | .alphabetic, c => Text.isAlphabetic c
  | .blank, c => Text.isBlank c
  | .union a b, c => a.contains c || b.contains c
  | .inter a b, c => a.contains c && b.contains c
  | .diff a b, c => a.contains c && !b.contains c
  | .symmDiff a b, c => a.contains c != b.contains c
  | .compl a, c => !a.contains c
  | .folded a, c => (Text.caseOrbit c).any a.contains
  | .foldedAscii a, c => a.contains c || a.contains (swapCase c)

def char (c : Char) : CharSet := .range c.toNat c.toNat

def any : CharSet := .range 0 0x10FFFF

def ofList (items : List CharSet) : CharSet := items.foldl .union .none

/-- The runs that a set is written with, a measure of its size. -/
def runs : CharSet → Nat
  | .none => 0
  | .range .. => 1
  | .table t => t.runs.size
  | .category _ => 100
  | .alphabetic => 730
  | .blank => 10
  | .union a b => a.runs + b.runs
  | .inter a b => min a.runs b.runs
  | .diff a _ => a.runs
  | .symmDiff a b => a.runs + b.runs
  | .compl a => a.runs + 1
  | .folded a => 2 * a.runs
  | .foldedAscii a => 2 * a.runs

def asciiDigit : CharSet := .range 48 57

def asciiUpper : CharSet := .range 65 90

def asciiLower : CharSet := .range 97 122

def asciiAlpha : CharSet := .union asciiUpper asciiLower

def asciiWord : CharSet := ofList [asciiAlpha, asciiDigit, char '_']

def asciiBlank : CharSet := .union (.range 9 13) (char ' ')

def digit : CharSet := .category "Nd"

/-- Letters, marks, digits, connectors and joiners. -/
def word : CharSet :=
  ofList [.alphabetic, .category "M", digit, .category "Pc", .table Text.Property.joinControl]

/-- The named classes of ASCII. -/
def ascii? (name : String) : Option CharSet :=
  match name with
  | "alnum" => some (.union asciiAlpha asciiDigit)
  | "alpha" => some asciiAlpha
  | "ascii" => some (.range 0 127)
  | "blank" => some (.union (char '\t') (char ' '))
  | "cntrl" => some (.union (.range 0 31) (.range 127 127))
  | "digit" => some asciiDigit
  | "graph" => some (.range 33 126)
  | "lower" => some asciiLower
  | "print" => some (.range 32 126)
  | "punct" => some (ofList [.range 33 47, .range 58 64, .range 91 96, .range 123 126])
  | "space" => some asciiBlank
  | "upper" => some asciiUpper
  | "word" => some asciiWord
  | "xdigit" => some (ofList [asciiDigit, .range 65 70, .range 97 102])
  | _ => Option.none

end CharSet

end CloudEmulation
