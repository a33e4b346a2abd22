import CloudEmulation.Instance
/-!
Orders of instances in a list.
-/

namespace CloudEmulation.Oracle

inductive SortOrder where
  | ascending
  | descending
  deriving DecidableEq, Repr

namespace SortOrder

def name : SortOrder → String
  | .ascending => "ASC"
  | .descending => "DESC"

def ofName? (s : String) : Option SortOrder :=
  if s = "ASC" then some .ascending else if s = "DESC" then some .descending else none

end SortOrder

inductive SortKey where
  | timeCreated
  | displayName
  deriving DecidableEq, Repr

namespace SortKey

def name : SortKey → String
  | .timeCreated => "TIMECREATED"
  | .displayName => "DISPLAYNAME"

def ofName? (s : String) : Option SortKey :=
  if s = "TIMECREATED" then some .timeCreated
  else if s = "DISPLAYNAME" then some .displayName else none

/-- The newest come first, names in their order. -/
def defaultOrder : SortKey → SortOrder
  | .timeCreated => .descending
  | .displayName => .ascending

def compare (k : SortKey) (a b : Instance) : Ordering :=
  match k with
  | .timeCreated => a.createdAt.compare b.createdAt
  | .displayName => Ord.compare a.name b.name

end SortKey

/-- Whether one instance may stand before another. -/
def mayPrecede (k : SortKey) (o : SortOrder) (a b : Instance) : Bool :=
  match o with
  | .ascending => k.compare a b ≠ .gt
  | .descending => k.compare b a ≠ .gt

/-- Sorted by a key; instances of equal key stay in the order they have. -/
def sorted (k : SortKey) (o : SortOrder) (l : List Instance) : List Instance :=
  l.mergeSort (mayPrecede k o)

end CloudEmulation.Oracle
