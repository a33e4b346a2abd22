/-!
UTF-8: the bytes of a text and the text of bytes. Where bytes are malformed, each longest start of
a character that breaks off counts as one.
-/

namespace CloudEmulation.Utf8

abbrev Bytes := List UInt8

def encode (s : List Char) : Bytes := s.flatMap String.utf8EncodeChar

/-- The number of bytes of a text. -/
def size : List Char → Nat
  | [] => 0
  | c :: r => c.utf8Size + size r

/-- What a first byte announces: how many bytes follow, the bounds of the next one, and the bits it
contributes. -/
structure Lead where
  following : Nat
  low : Nat
  high : Nat
  bits : Nat

def lead? (b : Nat) : Option Lead :=
  if b < 0x80 then some ⟨0, 0, 0, b⟩
  else if b < 0xC2 then none
  else if b < 0xE0 then some ⟨1, 0x80, 0xBF, b - 0xC0⟩
  else if b = 0xE0 then some ⟨2, 0xA0, 0xBF, 0⟩
  else if b = 0xED then some ⟨2, 0x80, 0x9F, 13⟩
  else if b < 0xF0 then some ⟨2, 0x80, 0xBF, b - 0xE0⟩
  else if b = 0xF0 then some ⟨3, 0x90, 0xBF, 0⟩
  else if b < 0xF4 then some ⟨3, 0x80, 0xBF, b - 0xF0⟩
  else if b = 0xF4 then some ⟨3, 0x80, 0x8F, 4⟩
  else none

/-- Reads `n` further bytes, the first of them within bounds of its own. -/
def followers : Nat → Nat → Nat → Nat → Bytes → Option Nat × Bytes
  | 0, _, _, bits, r => (some bits, r)
  | _ + 1, _, _, _, [] => (none, [])
  | n + 1, low, high, bits, b :: r =>
    if low ≤ b.toNat ∧ b.toNat ≤ high then followers n 0x80 0xBF (bits * 64 + b.toNat % 64) r
    else (none, b :: r)

theorem followers_length (n low high bits : Nat) (s : Bytes) :
    (followers n low high bits s).2.length ≤ s.length := by
  induction s generalizing n low high bits with
  | nil => cases n <;> simp [followers]
  | cons b r ih =>
    cases n with
    | zero => simp [followers]
    | succ n =>
      rw [followers]
      split
      · exact Nat.le_succ_of_le (ih _ _ _ _)
      · simp

/-- The first character, or nothing where it is malformed, and what follows. -/
def front (b : UInt8) (r : Bytes) : Option Char × Bytes :=
  match lead? b.toNat with
  | none => (none, r)
  | some l =>
    let (n, r) := followers l.following l.low l.high l.bits r
    (n.map Char.ofNat, r)

theorem front_length (b : UInt8) (r : Bytes) : (front b r).2.length ≤ r.length := by
  unfold front
  split
  · simp
  · exact followers_length ..

/-- The characters of some bytes, with a gap for each malformed one. -/
def decodeEach : Bytes → List (Option Char)
  | [] => []
  | b :: r => (front b r).1 :: decodeEach (front b r).2
termination_by s => s.length
decreasing_by exact Nat.lt_succ_of_le (front_length b r)

def replacement : Char := Char.ofNat 0xFFFD

/-- Malformed parts are replaced. -/
def decodeLossy (s : Bytes) : List Char := (decodeEach s).map (·.getD replacement)

/-- Malformed parts are refused. -/
def decode? (s : Bytes) : Option (List Char) := (decodeEach s).mapM id

end CloudEmulation.Utf8
