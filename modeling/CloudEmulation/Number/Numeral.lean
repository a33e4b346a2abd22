import CloudEmulation.Number.Double
/-!
Numerals: how naturals and doubles are read from text.
-/

namespace CloudEmulation.Numeral

def isDigit (c : Char) : Bool := '0' ≤ c && c ≤ '9'

/-- The value of decimal digits, continuing from `n`. -/
def digitsValue (n : Nat) (ds : List Char) : Nat :=
  ds.foldl (fun n c => 10 * n + (c.toNat - '0'.toNat)) n

def span (p : Char → Bool) (s : List Char) : List Char × List Char :=
  (s.takeWhile p, s.dropWhile p)

/-- A non-empty run of digits, after one optional plus sign. -/
def natural? (s : List Char) : Option Nat :=
  let ds := match s with
    | '+' :: r => r
    | _ => s
  if ds ≠ [] ∧ ds.all isDigit then some (digitsValue 0 ds) else none

/-- A natural number of at most `limit`. -/
def bounded? (limit : Nat) (s : String) : Option Nat :=
  (natural? s.toList).filter (· ≤ limit)

/-- The greatest numbers of 64, 32 and 16 bits. -/
def word64Limit : Nat := 0xFFFFFFFFFFFFFFFF

def word32Limit : Nat := 0xFFFFFFFF

def word16Limit : Nat := 0xFFFF

def word64? : String → Option Nat := bounded? word64Limit

def word32? : String → Option Nat := bounded? word32Limit

def sign : List Char → Bool × List Char
  | '-' :: r => (true, r)
  | '+' :: r => (false, r)
  | s => (false, s)

def lowerAscii (s : List Char) : List Char := s.map Char.toLower

/-- A signed exponent after its mark, up to the end of the text. -/
def exponent? : List Char → Option Int
  | [] => some 0
  | c :: r =>
    if c = 'e' ∨ c = 'E' then
      let (negative, ds) := sign r
      if ds ≠ [] ∧ ds.all isDigit then
        let n := Int.ofNat (digitsValue 0 ds)
        some (if negative then -n else n)
      else none
    else none

/-- Digits with an optional point among, before or after them, and an optional exponent. -/
def decimal? (negative : Bool) (s : List Char) : Option Double :=
  let (whole, r) := span isDigit s
  let (fraction, r) := match r with
    | '.' :: r => span isDigit r
    | _ => ([], r)
  if whole = [] ∧ fraction = [] then none
  else (exponent? r).map fun e =>
    Double.ofDecimal negative (digitsValue 0 (whole ++ fraction)) (e - Int.ofNat fraction.length)

/-- The double that a text stands for: a decimal, or the name of an infinity or of no number. -/
def double? (s : String) : Option Double :=
  let (negative, r) := sign s.toList
  match String.ofList (lowerAscii r) with
  | "inf" | "infinity" => some (Double.infinity negative)
  | "nan" => some Double.nan
  | _ => decimal? negative r

end CloudEmulation.Numeral
