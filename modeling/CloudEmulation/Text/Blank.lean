import CloudEmulation.Text.CodePoints
/-!
White space of every script.
-/

namespace CloudEmulation.Text

/-- White space beyond ASCII. -/
def blanks : CodePoints := .ofText "
  85 A0 1680 2000-200A 2028-2029 202F 205F 3000"

/-- The Unicode property White_Space. -/
def isBlank (c : Char) : Bool :=
  if c.toNat < 128 then c = ' ' || (9 ≤ c.toNat && c.toNat ≤ 13) else blanks.contains c

theorem isBlank_of_isWhitespace {c : Char} (h : c.isWhitespace) : isBlank c := by
  simp only [Char.isWhitespace, Bool.or_eq_true, decide_eq_true_eq] at h
  rcases h with ((rfl | rfl) | rfl) | rfl <;> rfl

def trimStart (s : List Char) : List Char := s.dropWhile isBlank

def trimEnd (s : List Char) : List Char := (s.reverse.dropWhile isBlank).reverse

def trim (s : List Char) : List Char := trimEnd (trimStart s)

end CloudEmulation.Text
