import CloudEmulation.Fault
/-!
Stores keep resources by scope in the order of their creation; within a scope each identity occurs
once.
-/

namespace CloudEmulation

/-- What a resource is addressed by within its scope. -/
class Identified (α : Type) where
  identity : α → String

export Identified (identity)

structure Store (α : Type) where
  entries : List (Scope × α)
  deriving Repr

namespace Store

variable {α : Type} [Identified α]

def empty : Store α := ⟨[]⟩

/-- The resources of a scope, oldest first. -/
def list (s : Store α) (scope : Scope) : List α :=
  s.entries.filterMap fun e => if e.1 = scope then some e.2 else none

def find? (s : Store α) (scope : Scope) (id : String) : Option α :=
  (s.list scope).find? (identity · = id)

def get (s : Store α) (scope : Scope) (id : String) : Except Fault α :=
  match s.find? scope id with
  | some a => .ok a
  | none => .error (.notFound id scope)

def has (s : Store α) (scope : Scope) (id : String) : Bool :=
  (s.list scope).any (identity · = id)

/-- Adds a resource at the end. -/
def append (s : Store α) (scope : Scope) (a : α) : Store α := ⟨s.entries ++ [(scope, a)]⟩

/-- Adds a resource and hands it back, unless its identity is taken in the scope. -/
def add (s : Store α) (scope : Scope) (a : α) : Except Fault α × Store α :=
  if s.has scope (identity a) then (.error (.duplicateIdentity (identity a) scope), s)
  else (.ok a, s.append scope a)

/-- The store with one resource more. -/
def create (s : Store α) (scope : Scope) (a : α) : Except Fault (Store α) :=
  match s.add scope a with
  | (.ok _, s) => .ok s
  | (.error f, _) => .error f

def size (s : Store α) : Nat := s.entries.length

def isEmpty (s : Store α) : Bool := s.size = 0

omit [Identified α] in
theorem list_append_self (s : Store α) (scope : Scope) (a : α) :
    (s.append scope a).list scope = s.list scope ++ [a] := by
  simp [append, list]

omit [Identified α] in
theorem list_append_other (s : Store α) {scope other : Scope} (a : α) (h : other ≠ scope) :
    (s.append scope a).list other = s.list other := by
  simp [append, list, Ne.symm h]

omit [Identified α] in
theorem size_append (s : Store α) (scope : Scope) (a : α) :
    (s.append scope a).size = s.size + 1 := by
  simp [append, size]

end Store

end CloudEmulation
