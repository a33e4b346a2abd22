import CloudEmulation.Pattern.CharSet
/-!
Patterns: regular expressions over characters, with conditions on positions.
-/

namespace CloudEmulation

/-- A condition on a position between two characters. -/
inductive Look where
  | start
  | finish
  | lineStart (carriage : Bool)
  | lineEnd (carriage : Bool)
  | boundary (word : CharSet)
  | notBoundary (word : CharSet)
  | wordStart (word : CharSet)
  | wordEnd (word : CharSet)
  | beforeWord (word : CharSet)
  | afterWord (word : CharSet)
  deriving Repr

inductive Pattern where
  | empty
  | char (set : CharSet)
  | look (l : Look)
  | seq (a b : Pattern)
  | alt (a b : Pattern)
  /-- At least `least` times, and at most `most` times if there is a bound. -/
  | times (p : Pattern) (least : Nat) (most : Option Nat)
  deriving Repr

namespace Pattern

/-- A measure of the automaton that a pattern stands for, in bytes. -/
def weight : Pattern → Nat
  | .empty => 32
  | .char set => 32 + 64 * (set.runs - 1)
  | .look _ => 32
  | .seq a b => a.weight + b.weight
  | .alt a b => 40 + a.weight + b.weight
  | .times p least most =>
    match most with
    | none => 40 + p.weight * max least 1
    | some m => p.weight * least + (p.weight + 40) * (m - least)

/-- Patterns beyond this weight are refused. -/
def weightLimit : Nat := 10485760

end Pattern

end CloudEmulation
