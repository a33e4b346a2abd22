/-!
Punycode (RFC 3492): a label of any characters written with letters, digits and hyphens.
-/

namespace CloudEmulation.Url.Punycode

def digit (d : Nat) : Char := if d < 26 then Char.ofNat (97 + d) else Char.ofNat (22 + d)

def threshold (k bias : Nat) : Nat :=
  if k ≤ bias then 1 else if bias + 26 ≤ k then 26 else k - bias

def reduce : Nat → Nat → Nat → Nat × Nat
  | 0, delta, k => (delta, k)
  | fuel + 1, delta, k => if 455 < delta then reduce fuel (delta / 35) (k + 36) else (delta, k)

/-- How digits weigh after a character was written. -/
def adapt (delta count : Nat) (first : Bool) : Nat :=
  let d := if first then delta / 700 else delta / 2
  let (d, k) := reduce 64 (d + d / count) 0
  k + 36 * d / (d + 38)

theorem threshold_pos (k bias : Nat) : 0 < threshold k bias := by
  unfold threshold
  split
  · exact Nat.one_pos
  · split <;> omega

/-- The digits of a number, the lowest first; a digit below the threshold ends it. -/
def weighted (bias q k : Nat) : List Char :=
  let t := threshold k bias
  if q < t then [digit q]
  else digit (t + (q - t) % (36 - t)) :: weighted bias ((q - t) / (36 - t)) (k + 36)
termination_by q
decreasing_by
  have ht := threshold_pos k bias
  exact Nat.lt_of_le_of_lt (Nat.div_le_self _ _) (by omega)

structure State where
  delta : Nat
  bias : Nat
  handled : Nat
  out : List Char

/-- Writes each occurrence of the code point `n`. -/
def pass (n basic : Nat) (s : State) (c : Nat) : State :=
  if c < n then { s with delta := s.delta + 1 }
  else if c = n then
    { delta := 0
      bias := adapt s.delta (s.handled + 1) (s.handled = basic)
      handled := s.handled + 1
      out := s.out ++ weighted s.bias s.delta 36 }
  else s

def passes (codes : List Nat) (basic : Nat) : Nat → Nat → State → State
  | 0, _, s => s
  | fuel + 1, n, s =>
    match (codes.filter (n ≤ ·)).min? with
    | none => s
    | some m =>
      let s := { s with delta := s.delta + (m - n) * (s.handled + 1) }
      let s := codes.foldl (pass m basic) s
      passes codes basic fuel (m + 1) { s with delta := s.delta + 1 }

def encode (label : List Char) : List Char :=
  let basic := label.filter (·.toNat < 128)
  let start := if basic = [] then [] else basic ++ ['-']
  let codes := label.map Char.toNat
  (passes codes basic.length (label.length + 1) 128 ⟨0, 72, basic.length, start⟩).out

def value? (c : Char) : Option Nat :=
  if 'a' ≤ c && c ≤ 'z' then some (c.toNat - 97)
  else if '0' ≤ c && c ≤ '9' then some (c.toNat - 22) else none

/-- The number that the first digits stand for, and what follows them. -/
def number? (bias : Nat) : Nat → Nat → List Char → Option (Nat × List Char)
  | _, _, [] => none
  | k, weight, c :: r => do
    let d ← value? c
    let t := threshold k bias
    if d < t then return (d * weight, r)
    else
      let (n, r) ← number? bias (k + 36) (weight * (36 - t)) r
      return (d * weight + n, r)

/-- What has been read: the next character to insert has at least this code, and if it has no
greater one it stands at this place or after it. -/
structure Decoded where
  code : Nat
  place : Nat
  bias : Nat
  text : List Char

/-- Inserts the character that a number leads to. -/
def insertBy (n : Nat) (s : Decoded) : Option Decoded :=
  let count := s.text.length + 1
  let code := s.code + (s.place + n) / count
  let place := (s.place + n) % count
  if code.isValidChar then
    some {
      code
      place := place + 1
      bias := adapt n count (s.place = 0)
      text := s.text.take place ++ Char.ofNat code :: s.text.drop place }
  else none

def insertAll : Nat → Decoded → List Char → Option (List Char)
  | _, s, [] => some s.text
  | 0, _, _ => none
  | fuel + 1, s, digits => do
    let (n, rest) ← number? s.bias 36 1 digits
    insertAll fuel (← insertBy n s) rest

/-- The label that was written, if there is one. -/
def decode? (s : List Char) : Option (List Char) :=
  let digits := (s.reverse.takeWhile (· ≠ '-')).reverse
  let basic := s.take (s.length - digits.length - 1)
  if basic.all (·.toNat < 128) then
    insertAll digits.length ⟨128, 0, 72, basic⟩ digits
  else none

end CloudEmulation.Url.Punycode
