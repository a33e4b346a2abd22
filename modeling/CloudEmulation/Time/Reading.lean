import CloudEmulation.Time.Timestamp
import CloudEmulation.Number.Numeral
import CloudEmulation.Text.Blank
/-!
Reading a point in time from RFC 3339 text. Blanks may stand before each number and separator, and
`T` may be a blank.
-/

namespace CloudEmulation

inductive TimeError where
  | tooShort
  | invalid
  | outOfRange
  | tooLong
  deriving DecidableEq, Repr

def TimeError.message : TimeError → String
  | .tooShort => "premature end of input"
  | .invalid => "input contains invalid characters"
  | .outOfRange => "input is out of range"
  | .tooLong => "trailing input"

namespace Timestamp.Read

open Text

abbrev Reading := Except TimeError

def numberLimit : Nat := 0x7FFFFFFFFFFFFFFF

/-- At least one digit and at most `width` of them. -/
def digits (width : Nat) (s : List Char) : Reading (Nat × List Char) :=
  match s with
  | [] => .error .tooShort
  | c :: _ =>
    if !Numeral.isDigit c then .error .invalid
    else
      let ds := (s.take width).takeWhile Numeral.isDigit
      let n := Numeral.digitsValue 0 ds
      if numberLimit < n then .error .outOfRange else .ok (n, s.drop ds.length)

/-- A number of two digits within bounds, after blanks. -/
def field (low high : Nat) (s : List Char) : Reading (Nat × List Char) := do
  let (n, r) ← digits 2 (trimStart s)
  if low ≤ n ∧ n ≤ high then return (n, r) else .error .outOfRange

def yearLimit : Nat := 0x80000000

def year (s : List Char) : Reading (Int × List Char) := do
  let s := trimStart s
  let (n, r) ← match s with
    | '-' :: r => do
      let (n, r) ← digits r.length r
      pure (-Int.ofNat n, r)
    | '+' :: r => do
      let (n, r) ← digits r.length r
      pure (Int.ofNat n, r)
    | s => do
      let (n, r) ← digits 4 s
      pure (Int.ofNat n, r)
  if -yearLimit ≤ n ∧ n < yearLimit then return (n, r) else .error .outOfRange

def literal (c : Char) (s : List Char) : Reading (List Char) :=
  match trimStart s with
  | [] => .error .tooShort
  | x :: r => if x = c then .ok r else .error .invalid

/-- Up to nine digits of a fraction count; further ones are dropped. -/
def fraction (s : List Char) : Reading (Nat × List Char) :=
  match s with
  | '.' :: r => do
    let (n, rest) ← digits 9 r
    return (n * Nat.pow 10 (9 - (r.length - rest.length)), rest.dropWhile Numeral.isDigit)
  | s => .ok (0, s)

def separator (s : List Char) : Reading (List Char) :=
  match s with
  | [] => .error .tooShort
  | c :: r => if c = 't' ∨ c = 'T' ∨ c = ' ' then .ok r else .error .invalid

/-- Two characters that must be digits. -/
def pair (s : List Char) : Reading (Nat × Nat × List Char) :=
  match s with
  | a :: b :: r =>
    if Numeral.isDigit a ∧ Numeral.isDigit b then .ok (a.toNat - 48, b.toNat - 48, r)
    else .error .invalid
  | _ => .error .tooShort

def isMinus (c : Char) : Bool := c = '-' || c = Char.ofNat 0x2212

/-- The distance from universal time in seconds: `Z`, `UTC`, or hours and minutes. -/
def offset (s : List Char) : Reading (Int × List Char) := do
  let s := trimStart s
  if (s.take 3).map Char.toUpper = ['U', 'T', 'C'] then return (0, s.drop 3)
  match s with
  | [] => .error .tooShort
  | c :: r =>
    if c = 'Z' ∨ c = 'z' then return (0, r)
    else if c = '+' ∨ isMinus c then
      let (h1, h2, r) ← pair r
      let r := r.dropWhile fun x => x = ':' || isBlank x
      let (m1, m2, r) ← pair r
      if 6 ≤ m1 then .error .outOfRange
      else
        let n : Int := (h1 * 10 + h2) * 3600 + (m1 * 10 + m2) * 60
        return (if c = '+' then n else -n, r)
    else .error .invalid

def minYear : Int := -262143

def maxYear : Int := 262142

def timestamp (s : List Char) : Reading Timestamp := do
  let (y, s) ← year s
  let s ← literal '-' s
  let (mo, s) ← field 1 12 s
  let s ← literal '-' s
  let (d, s) ← field 1 31 s
  let s ← separator s
  let (h, s) ← field 0 23 s
  let s ← literal ':' s
  let (mi, s) ← field 0 59 s
  let s ← literal ':' s
  let (sec, s) ← field 0 60 s
  let (nanos, s) ← fraction s
  let (east, s) ← offset s
  if trimStart s ≠ [] then .error .tooLong
  let date : Date := ⟨y, mo, d⟩
  if 86400 ≤ east.natAbs ∨ !date.isValid ∨ y < minYear ∨ maxYear < y then .error .outOfRange
  let leap := sec / 60
  let clock : Int := h * 3600 + mi * 60 + (sec - leap)
  return ⟨date.toDays * 86400 + clock - east, nanos + leap * 1000000000⟩

end Timestamp.Read

/-- The point in time that a text names. -/
def Timestamp.parse (text : String) : Except TimeError Timestamp :=
  Timestamp.Read.timestamp text.toList

end CloudEmulation
