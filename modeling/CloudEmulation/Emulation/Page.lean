import CloudEmulation.Fault
/-!
Pages of a list. The token of a page is the number of items before it.
-/

namespace CloudEmulation

structure Page (α : Type) where
  items : List α
  next : Option String
  deriving Repr

namespace Page

/-- The number of items that a token skips, of `size` items. -/
def offset (size : Nat) (token : Option String) : Except Fault Nat :=
  match token with
  | none => .ok 0
  | some t =>
    if t = "" then .ok 0
    else match (Numeral.word64? t).filter (· ≤ size) with
      | some n => .ok n
      | none => .error (.invalidArgument (.pageToken t))

/-- At most `limit` items from an offset on; a token continues where items remain. -/
def slice (items : List α) (limit : Option Nat) (offset : Nat) : Page α :=
  let rest := items.drop offset
  match limit with
  | some n => if n < rest.length then ⟨rest.take n, some (toString (offset + n))⟩ else ⟨rest, none⟩
  | none => ⟨rest, none⟩

def of (items : List α) (limit : Option Nat) (token : Option String) : Except Fault (Page α) :=
  (offset items.length token).map (slice items limit)

def map (f : α → β) (p : Page α) : Page β := ⟨p.items.map f, p.next⟩

end Page

end CloudEmulation
