import CloudEmulation.Pattern.Syntax
/-!
Matching: from the positions where a part of a pattern may begin to those where it may end.
-/

namespace CloudEmulation

namespace Look

def at? (text : Array Char) (i : Nat) (p : Char → Bool) : Bool := text[i]?.any p

def before? (text : Array Char) (i : Nat) (p : Char → Bool) : Bool := i ≠ 0 && at? text (i - 1) p

/-- Whether the condition holds between the characters before and after a position. -/
def holds (text : Array Char) (i : Nat) : Look → Bool
  | .start => i = 0
  | .finish => i = text.size
  | .lineStart carriage =>
    i = 0 || before? text i (· = '\n') ||
      (carriage && before? text i (· = '\r') && !at? text i (· = '\n'))
  | .lineEnd carriage =>
    i = text.size ||
      (if carriage then
        at? text i (· = '\r') || (at? text i (· = '\n') && !before? text i (· = '\r'))
      else at? text i (· = '\n'))
  | .boundary w => before? text i w.contains != at? text i w.contains
  | .notBoundary w => before? text i w.contains == at? text i w.contains
  | .wordStart w => !before? text i w.contains && at? text i w.contains
  | .wordEnd w => before? text i w.contains && !at? text i w.contains
  | .beforeWord w => !before? text i w.contains
  | .afterWord w => !at? text i w.contains

end Look

namespace Pattern

/-- The positions of two sets. -/
def merge (a b : List Nat) : List Nat := a ++ b.filter (!a.contains ·)

def iterate (f : List Nat → List Nat) : Nat → List Nat → List Nat
  | 0, s => s
  | n + 1, s => if s.isEmpty then [] else iterate f n (f s)

/-- What up to `n` further rounds add. -/
def spread (f : List Nat → List Nat) : Nat → List Nat → List Nat
  | 0, s => s
  | n + 1, s =>
    let t := merge s (f s)
    if t.length = s.length then s else spread f n t

/-- Where a match that begins at one of some positions may end. -/
def ends (text : Array Char) : Pattern → List Nat → List Nat
  | .empty, s => s
  | .char set, s => (s.filter fun i => Look.at? text i set.contains).map (· + 1)
  | .look l, s => s.filter fun i => l.holds text i
  | .seq a b, s => ends text b (ends text a s)
  | .alt a b, s => merge (ends text a s) (ends text b s)
  | .times p least most, s =>
    let rounds := match most with
      | none => text.size + 1
      | some m => min (m - least) (text.size + 1)
    spread (ends text p) rounds (iterate (ends text p) least s)

/-- Whether the pattern matches somewhere in a text. -/
def isMatch (p : Pattern) (text : String) : Bool :=
  let cs := text.toList.toArray
  !(ends cs p (List.range (cs.size + 1))).isEmpty

/-- Whether the pattern matches from the first character on. -/
def matchesStart (p : Pattern) (text : String) : Bool :=
  !(ends text.toList.toArray p [0]).isEmpty

end Pattern

end CloudEmulation
