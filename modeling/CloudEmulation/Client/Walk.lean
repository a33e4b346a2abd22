import CloudEmulation.Client.Transport
/-!
Walks over the pages of a list. A page is fetched only when more items are wanted than the pages
before it held.
-/

namespace CloudEmulation

/-- Where a walk stopped. -/
inductive Ending where
  /-- There is no further page. -/
  | complete
  /-- As many items were read as were wanted. -/
  | sated
  | failed (e : ClientError)
  /-- As many pages were fetched as the walk may fetch. -/
  | cut
  deriving DecidableEq, Repr

/-- What a walk has read, and where it stopped. -/
structure Walk (α : Type) where
  items : List α
  ending : Ending
  deriving Repr

namespace Walk

variable {m : Type → Type} [Monad m] {κ α : Type}

/-- The first `wanted` items, or all. -/
def atMost (wanted : Option Nat) (items : List α) : List α :=
  match wanted with
  | some n => items.take n
  | none => items

/-- Walks from a page on. At most `budget` pages are fetched and at most `wanted` items read. -/
def run (fetch : κ → Calling m (List α × Option κ)) (budget : Nat) (wanted : Option Nat)
    (page : κ) : m (Walk α) := do
  if wanted = some 0 then return ⟨[], .sated⟩
  match budget with
  | 0 => return ⟨[], .cut⟩
  | budget + 1 =>
    match ← (fetch page).run with
    | .error e => return ⟨[], .failed e⟩
    | .ok (items, next) =>
      let read := atMost wanted items
      let wanted := wanted.map (· - read.length)
      match next with
      | none => return ⟨read, if wanted = some 0 then .sated else .complete⟩
      | some next =>
        let rest ← run fetch budget wanted next
        return ⟨read ++ rest.items, rest.ending⟩

/-- The items of a walk that reached the last page. -/
def all (w : Walk α) : Option (Except ClientError (List α)) :=
  match w.ending with
  | .complete => some (.ok w.items)
  | .failed e => some (.error e)
  | .sated => none
  | .cut => none

end Walk

end CloudEmulation
