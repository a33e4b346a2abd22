import CloudEmulation.Number.Numeral
/-!
IPv4 addresses as numbers, and their dotted text.
-/

namespace CloudEmulation

structure Address where
  number : Nat
  deriving DecidableEq, Repr, Inhabited

namespace Address

def text (a : Address) : String :=
  let n := a.number
  toString (n / 0x1000000) ++ "." ++ toString (n / 0x10000 % 0x100) ++ "." ++
    toString (n / 0x100 % 0x100) ++ "." ++ toString (n % 0x100)

/-- A byte in decimal, without leading zeros. -/
def byte? (s : List Char) : Option Nat :=
  if s.isEmpty || 3 < s.length || !s.all Numeral.isDigit then none
  else if 1 < s.length && s.head? = some '0' then none
  else some (Numeral.digitsValue 0 s) |>.filter (· < 256)

/-- The address of four bytes between points. -/
def ofChars? (s : List Char) : Option Address :=
  match (s.splitOnP (· = '.')).mapM byte? with
  | some [a, b, c, d] => some ⟨a * 0x1000000 + b * 0x10000 + c * 0x100 + d⟩
  | _ => none

def ofText? (s : String) : Option Address := ofChars? s.toList

end Address

end CloudEmulation
