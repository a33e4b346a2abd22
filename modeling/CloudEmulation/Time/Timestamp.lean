/-!
Points in time and the civil calendar: days since 1970 and dates of the Gregorian calendar
determine each other.
-/

namespace CloudEmulation

/-- Seconds since 1970 and a fraction of the second in nanoseconds; a fraction of a second or more
belongs to a leap second. -/
structure Timestamp where
  seconds : Int
  nanos : Nat
  deriving DecidableEq, Repr, Inhabited

structure Date where
  year : Int
  month : Nat
  day : Nat
  deriving DecidableEq, Repr

namespace Date

def isLeap (year : Int) : Bool := year % 4 = 0 && (year % 100 ≠ 0 || year % 400 = 0)

def daysInMonth (year : Int) (month : Nat) : Nat :=
  match month with
  | 2 => if isLeap year then 29 else 28
  | 4 | 6 | 9 | 11 => 30
  | _ => 31

def isValid (d : Date) : Bool :=
  1 ≤ d.month && d.month ≤ 12 && 1 ≤ d.day && d.day ≤ daysInMonth d.year d.month

/-- Days before the month in a year that begins in March. -/
def daysBefore (fromMarch : Nat) : Nat := (153 * fromMarch + 2) / 5

/-- Days since the first of January 1970. -/
def toDays (d : Date) : Int :=
  let y := if d.month ≤ 2 then d.year - 1 else d.year
  let fromMarch := (d.month + 9) % 12
  let ofYear := daysBefore fromMarch + d.day - 1
  y * 365 + y.fdiv 4 - y.fdiv 100 + y.fdiv 400 + ofYear - 719468

def ofDays (days : Int) : Date :=
  let z := days + 719468
  let era := z.fdiv 146097
  let ofEra := (z - era * 146097).toNat
  let yearOfEra := (ofEra - ofEra / 1460 + ofEra / 36524 - ofEra / 146096) / 365
  let ofYear := ofEra - (365 * yearOfEra + yearOfEra / 4 - yearOfEra / 100)
  let fromMarch := (5 * ofYear + 2) / 153
  let month := if fromMarch < 10 then fromMarch + 3 else fromMarch - 9
  let year := era * 400 + yearOfEra
  ⟨if month ≤ 2 then year + 1 else year, month, ofYear - daysBefore fromMarch + 1⟩

end Date

namespace Timestamp

def padded (width n : Nat) : String :=
  let ds := Nat.toDigits 10 n
  String.ofList (List.replicate (width - ds.length) '0' ++ ds)

def date (t : Timestamp) : Date := Date.ofDays (t.seconds.fdiv 86400)

def secondOfDay (t : Timestamp) : Nat := (t.seconds.fmod 86400).toNat

def hour (t : Timestamp) : Nat := t.secondOfDay / 3600

def minute (t : Timestamp) : Nat := t.secondOfDay / 60 % 60

def second (t : Timestamp) : Nat := t.secondOfDay % 60 + t.nanos / 1000000000

def fraction (t : Timestamp) : Nat := t.nanos % 1000000000

/-- Four digits; a year beyond them shows its sign. -/
def yearText (year : Int) : String :=
  if 0 ≤ year ∧ year ≤ 9999 then padded 4 year.toNat
  else (if year < 0 then "-" else "+") ++ padded 4 year.natAbs

def withFraction (t : Timestamp) (fraction : String) : String :=
  let d := t.date
  yearText d.year ++ "-" ++ padded 2 d.month ++ "-" ++ padded 2 d.day ++ "T" ++
    padded 2 t.hour ++ ":" ++ padded 2 t.minute ++ ":" ++ padded 2 t.second ++ fraction ++ "Z"

/-- RFC 3339 text with milliseconds. -/
def millisText (t : Timestamp) : String :=
  t.withFraction ("." ++ padded 3 (t.fraction / 1000000))

/-- RFC 3339 text with no, three, six or nine digits of the fraction, as few as are exact. -/
def text (t : Timestamp) : String :=
  let f := t.fraction
  t.withFraction <|
    if f = 0 then ""
    else if f % 1000000 = 0 then "." ++ padded 3 (f / 1000000)
    else if f % 1000 = 0 then "." ++ padded 6 (f / 1000)
    else "." ++ padded 9 f

/-- The digits of the date and of the time to the minute. -/
def minuteStamp (t : Timestamp) : String :=
  let d := t.date
  yearText d.year ++ padded 2 d.month ++ padded 2 d.day ++ padded 2 t.hour ++ padded 2 t.minute

/-- The order of points in time. -/
def compare (a b : Timestamp) : Ordering :=
  (Ord.compare a.seconds b.seconds).then (Ord.compare a.nanos b.nanos)

end Timestamp

end CloudEmulation
