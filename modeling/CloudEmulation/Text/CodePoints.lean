/-!
Sets of code points and maps between them, read from a compact text: `41-5A` is a run, `100-12E/2`
every second code point of a run, and `41-5A+20` or `1E9E~1DBF` moves a run up or down.
-/

namespace CloudEmulation

/-- The code points `low`, `low + step`, … up to `high`. -/
structure Run where
  low : Nat
  high : Nat
  step : Nat
  deriving DecidableEq, Repr

namespace Run

def contains (r : Run) (n : Nat) : Bool :=
  r.low ≤ n && n ≤ r.high && (n - r.low) % r.step = 0

def hexDigit (c : Char) : Nat :=
  if c ≤ '9' then c.toNat - '0'.toNat else c.toNat - 'A'.toNat + 10

def hexValue (s : List Char) : Nat := s.foldl (fun n c => 16 * n + hexDigit c) 0

def cut (mark : Char) (s : List Char) : List Char × List Char :=
  (s.takeWhile (· ≠ mark), (s.dropWhile (· ≠ mark)).drop 1)

def ofText (s : List Char) : Run :=
  let (bounds, step) := cut '/' s
  let (low, high) := cut '-' bounds
  let step := if step.isEmpty then 1 else hexValue step
  ⟨hexValue low, if high.isEmpty then hexValue low else hexValue high, step⟩

end Run

/-- The entries of a table's text, which stand between spaces and line ends. -/
def Run.entries (s : String) : List (List Char) :=
  (s.toList.splitOnP fun c => c = ' ' || c = '\n').filter (· ≠ [])

structure CodePoints where
  runs : Array Run
  deriving Repr

namespace CodePoints

def ofText (s : String) : CodePoints := ⟨((Run.entries s).map Run.ofText).toArray⟩

def contains (p : CodePoints) (c : Char) : Bool := p.runs.any (·.contains c.toNat)

end CodePoints

/-- A run of code points that all move by one distance. -/
structure Shift where
  run : Run
  up : Bool
  distance : Nat
  deriving DecidableEq, Repr

namespace Shift

def ofText (s : List Char) : Shift :=
  let up := s.contains '+'
  let (run, distance) := Run.cut (if up then '+' else '~') s
  ⟨Run.ofText run, up, Run.hexValue distance⟩

def apply (s : Shift) (n : Nat) : Nat := if s.up then n + s.distance else n - s.distance

def unapply (s : Shift) (n : Nat) : Nat := if s.up then n - s.distance else n + s.distance

end Shift

structure CodePointMap where
  shifts : Array Shift
  deriving Repr

namespace CodePointMap

def ofText (s : String) : CodePointMap := ⟨((Run.entries s).map Shift.ofText).toArray⟩

/-- A code point outside every run stays. -/
def apply (m : CodePointMap) (c : Char) : Char :=
  match m.shifts.find? (·.run.contains c.toNat) with
  | some s => Char.ofNat (s.apply c.toNat)
  | none => c

/-- The code points that move onto `c`. -/
def preimages (m : CodePointMap) (c : Char) : List Char :=
  m.shifts.toList.filterMap fun s =>
    let n := s.unapply c.toNat
    if s.run.contains n && s.apply n = c.toNat then some (Char.ofNat n) else none

end CodePointMap

end CloudEmulation
