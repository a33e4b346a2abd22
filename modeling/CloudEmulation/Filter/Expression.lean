import CloudEmulation.Pattern.Syntax
/-!
Filter expressions: conditions on the members of a resource, joined by logical connectives.
-/

namespace CloudEmulation

/-- The names that lead from a resource to a value within it. -/
abbrev FilterKey := List String

inductive Comparison where
  /-- The value contains some words. -/
  | has
  | equal
  | unequal
  | less
  | atMost
  | greater
  | atLeast
  deriving DecidableEq, Repr

inductive Filter where
  | compare (key : FilterKey) (op : Comparison) (value : String)
  | anyOf (key : FilterKey) (op : Comparison) (values : List String)
  /-- The value matches a pattern from its first character on, or does not. -/
  | search (key : FilterKey) (wanted : Bool) (pattern : Pattern)
  | defined (key : FilterKey)
  | not (f : Filter)
  | and (a b : Filter)
  | or (a b : Filter)
  deriving Repr

namespace Filter

inductive ReadError where
  | unexpectedEnd
  | unexpected (found : Char) (position : Nat)
  | expectedKey (position : Nat)
  | ambiguous
  | invalidPattern (pattern : String)
  deriving DecidableEq, Repr

/-- Stands for what is wrong with a pattern. -/
def patternDetail : String := "<regex error>"

def ReadError.message : ReadError → String
  | .unexpectedEnd => "unexpected end of filter expression"
  | .unexpected c p => "unexpected '" ++ String.singleton c ++ "' at position " ++ toString p
  | .expectedKey p => "expected a key at position " ++ toString p
  | .ambiguous => "ambiguous mix of AND and OR; add parentheses"
  | .invalidPattern p => "invalid pattern '" ++ p ++ "': " ++ patternDetail

end Filter

end CloudEmulation
