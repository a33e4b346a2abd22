/-!
Identifiers drawn from a seeded generator of 64-bit words.
-/

namespace CloudEmulation

structure Generator where
  state : UInt64
  deriving DecidableEq, Repr

namespace Generator

def ofSeed (seed : Nat) : Generator := ⟨UInt64.ofNat seed⟩

/-- Adds a constant to the state, multiplies it by a scrambled copy of itself and folds the two
halves of the product. -/
def word64 (g : Generator) : UInt64 × Generator :=
  let s := g.state + 0x2d358dccaa6c78a5
  let product := s.toNat * (s ^^^ 0x8bb84b93962eacc9).toNat
  (UInt64.ofNat product ^^^ UInt64.ofNat (product / 0x10000000000000000), ⟨s⟩)

def word32 (g : Generator) : Nat × Generator :=
  let (w, g) := g.word64
  (w.toNat % 0x100000000, g)

def word64Nat (g : Generator) : Nat × Generator :=
  let (w, g) := g.word64
  (w.toNat, g)

/-- Draws again while the low half of `r * n` is one of the few that would favour some results. -/
def redraw (draw : Generator → Nat × Generator) (size n : Nat) :
    Nat → Nat → Generator → Nat × Generator
  | 0, r, g => (r, g)
  | tries + 1, r, g =>
    if r * n % size < (size - n) % n then
      let (r, g) := draw g
      redraw draw size n tries r g
    else (r, g)

/-- A number below `n`, from words below `size`. -/
def below (draw : Generator → Nat × Generator) (size n : Nat) (g : Generator) : Nat × Generator :=
  let (r, g) := draw g
  let (r, g) := if r * n % size < n then redraw draw size n 100 r g else (r, g)
  (r * n / size, g)

def digit (low : Nat) (g : Generator) : Char × Generator :=
  let (n, g) := below word32 0x100000000 (10 - low) g
  (Char.ofNat (48 + low + n), g)

def letter (g : Generator) : Char × Generator :=
  let (n, g) := below word64Nat 0x10000000000000000 26 g
  (Char.ofNat (97 + n), g)

/-- Draws one character after another. -/
def chars (draw : Nat → Generator → Char × Generator) (i : Nat) :
    Nat → Generator → List Char × Generator
  | 0, g => ([], g)
  | count + 1, g =>
    let (c, g) := draw i g
    let (r, g) := chars draw (i + 1) count g
    (c :: r, g)

/-- Decimal digits, the first of them not zero. -/
def digits (count : Nat) (g : Generator) : String × Generator :=
  let (cs, g) := chars (fun i => digit (if i = 0 then 1 else 0)) 0 count g
  (String.ofList cs, g)

def lowercase (count : Nat) (g : Generator) : String × Generator :=
  let (cs, g) := chars (fun _ => letter) 0 count g
  (String.ofList cs, g)

/-- The bytes of a word, the lowest first. -/
def bytes (w : UInt64) : List Nat := (List.range 8).map fun i => w.toNat / Nat.pow 256 i % 256

def hexByte (n : Nat) : List Char :=
  let d := fun (k : Nat) => if k < 10 then Char.ofNat (48 + k) else Char.ofNat (87 + k)
  [d (n / 16), d (n % 16)]

/-- Version 4 and the standard variant replace the top bits of bytes 6 and 8. -/
def marked (bs : List Nat) : List Nat :=
  bs.mapIdx fun i b => if i = 6 then 0x40 + b % 16 else if i = 8 then 0x80 + b % 64 else b

def uuidBytes (g : Generator) : List Nat × Generator :=
  let (a, g) := g.word64
  let (b, g) := g.word64
  (marked (bytes a ++ bytes b), g)

/-- A random UUID in groups joined by hyphens. -/
def uuid (g : Generator) : String × Generator :=
  let (bs, g) := g.uuidBytes
  let hex := fun (l : List Nat) => String.ofList (l.flatMap hexByte)
  (hex (bs.take 4) ++ "-" ++ hex ((bs.drop 4).take 2) ++ "-" ++ hex ((bs.drop 6).take 2) ++ "-" ++
    hex ((bs.drop 8).take 2) ++ "-" ++ hex (bs.drop 10), g)

/-- A random UUID in capitals without hyphens. -/
def plainUuid (g : Generator) : String × Generator :=
  let (bs, g) := g.uuidBytes
  (String.ofList ((bs.flatMap hexByte).map Char.toUpper), g)

end Generator

end CloudEmulation
