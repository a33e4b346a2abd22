import CloudEmulation.Text.Utf8
/-!
Percent-coding: a byte is written as `%` and two hexadecimal digits. Reading leaves a `%` that no
two digits follow as it stands.
-/

namespace CloudEmulation.Percent

open Utf8 (Bytes)

def hexDigit (n : Nat) : Char := if n < 10 then Char.ofNat (48 + n) else Char.ofNat (55 + n)

def hexValue? (c : Nat) : Option Nat :=
  if 48 ≤ c ∧ c ≤ 57 then some (c - 48)
  else if 65 ≤ c ∧ c ≤ 70 then some (c - 55)
  else if 97 ≤ c ∧ c ≤ 102 then some (c - 87)
  else none

def encodeByte (b : UInt8) : List Char :=
  ['%', hexDigit (b.toNat / 16), hexDigit (b.toNat % 16)]

/-- Writes the bytes of a text; those that `keep` admits stand for themselves. -/
def encode (keep : Char → Bool) (s : List Char) : List Char :=
  s.flatMap fun c =>
    if c.toNat < 128 ∧ keep c then [c] else (String.utf8EncodeChar c).flatMap encodeByte

def decodeBytes : Bytes → Bytes
  | 37 :: h :: l :: r =>
    match hexValue? h.toNat, hexValue? l.toNat with
    | some h', some l' => UInt8.ofNat (16 * h' + l') :: decodeBytes r
    | _, _ => 37 :: decodeBytes (h :: l :: r)
  | b :: r => b :: decodeBytes r
  | [] => []

def decode (s : List Char) : Bytes := decodeBytes (Utf8.encode s)

end CloudEmulation.Percent
