/-!
Dictionaries: values under names, each name once, in the order of the names.
-/

namespace CloudEmulation

abbrev Dictionary (α : Type) := List (String × α)

namespace Dictionary

variable {α β : Type}

def get? (m : Dictionary α) (name : String) : Option α := (m.find? (·.1 = name)).map (·.2)

/-- A value takes its place in the order of names, or replaces the one of its name. -/
def insert (m : Dictionary α) (name : String) (value : α) : Dictionary α :=
  match m with
  | [] => [(name, value)]
  | (n, v) :: r =>
    if name = n then (name, value) :: r
    else if name < n then (name, value) :: (n, v) :: r
    else (n, v) :: insert r name value

def erase (m : Dictionary α) (name : String) : Dictionary α := m.filter (·.1 ≠ name)

/-- The part whose names are not listed. -/
def without (m : Dictionary α) (names : List String) : Dictionary α :=
  m.filter fun p => !names.contains p.1

/-- Later values of a name replace earlier ones. -/
def ofList (pairs : List (String × α)) : Dictionary α :=
  pairs.foldl (fun m p => insert m p.1 p.2) []

def mapValues (f : α → β) (m : Dictionary α) : Dictionary β := m.map fun p => (p.1, f p.2)

theorem get?_insert_self (m : Dictionary α) (name : String) (v : α) :
    (m.insert name v).get? name = some v := by
  induction m with
  | nil => simp [insert, get?]
  | cons p r ih =>
    obtain ⟨n, w⟩ := p
    rw [insert]
    split
    · simp [get?]
    · split
      · simp [get?]
      · rename_i hn _
        simpa [get?, List.find?_cons, Ne.symm hn] using ih

theorem get?_insert_ne (m : Dictionary α) {name other : String} (v : α) (h : other ≠ name) :
    (m.insert name v).get? other = m.get? other := by
  induction m with
  | nil => simp [insert, get?, Ne.symm h]
  | cons p r ih =>
    obtain ⟨n, w⟩ := p
    rw [insert]
    split
    · rename_i hn
      subst hn
      simp [get?, Ne.symm h]
    · split
      · simp [get?, List.find?_cons, Ne.symm h]
      · by_cases hw : n = other
        · simp [get?, hw]
        · simpa [get?, List.find?_cons, hw] using ih

end Dictionary

end CloudEmulation
