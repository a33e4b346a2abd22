import CloudEmulation.Json.Reader
import CloudEmulation.Proofs.Json.Dictionaries
/-!
Values in which the members of every object stand in the order of their names, each name once. Every
text is read as such a value.
-/

namespace CloudEmulation.Json

/-- Whether the members of every object in a value stand in order. -/
inductive Ordered : Json → Prop
  | null : Ordered .null
  | bool (b : Bool) : Ordered (.bool b)
  | number (n : Number) : Ordered (.number n)
  | string (s : String) : Ordered (.string s)
  | array {items : List Json} : (∀ j ∈ items, Ordered j) → Ordered (.array items)
  | object {m : Members} : Dictionary.Sorted m → (∀ p ∈ m, Ordered p.2) → Ordered (.object m)

variable {m : Members} {js : List Json} {j : Json} {name : String}

attribute [simp] Ordered.null Ordered.bool Ordered.number Ordered.string

@[simp] theorem ordered_array : Ordered (.array js) ↔ ∀ j ∈ js, Ordered j := by
  refine ⟨fun h => ?_, .array⟩
  cases h with
  | array hj => exact hj

@[simp] theorem ordered_object :
    Ordered (.object m) ↔ Dictionary.Sorted m ∧ ∀ p ∈ m, Ordered p.2 := by
  refine ⟨fun h => ?_, fun h => .object h.1 h.2⟩
  cases h with
  | object hs hm => exact ⟨hs, hm⟩

theorem Ordered.sorted (h : Ordered (.object m)) : Dictionary.Sorted m := (ordered_object.mp h).1

theorem Ordered.of_get? (h : Ordered (.object m)) (hj : Dictionary.get? m name = some j) :
    j.Ordered :=
  (ordered_object.mp h).2 _ (Dictionary.mem_of_get? hj)

theorem Ordered.of_mem (h : Ordered (.array js)) (hj : j ∈ js) : j.Ordered :=
  ordered_array.mp h j hj

theorem Ordered.insert (h : Ordered (.object m)) (hj : j.Ordered) (name : String) :
    Ordered (.object (Dictionary.insert m name j)) := by
  obtain ⟨hs, hm⟩ := ordered_object.mp h
  refine .object (hs.insert name j) fun p hp => ?_
  rcases Dictionary.mem_insert hp with rfl | hp
  · exact hj
  · exact hm p hp

/-! Reading. -/

namespace Read

variable {fuel depth : Nat} {first : Bool} {s r rest : List Char} {v : Json} {done : Members}

theorem ordered_of_word {expected : List Char} (hj : j.Ordered)
    (h : word j expected s = .ok (v, rest)) : v.Ordered := by
  induction expected generalizing s with
  | nil =>
    cases h
    exact hj
  | cons w ws ih =>
    cases s with
    | nil => cases h
    | cons c r =>
      rw [word] at h
      split at h
      · exact ih h
      · cases h

/-! Numbers are read by one function after another, each of which ends in a number. -/

section

variable {negative : Bool} {n : Nat} {exponent : Int}

theorem ordered_of_finish (h : finish negative n exponent s = .ok (v, rest)) : v.Ordered := by
  unfold finish at h
  split at h
  · cases h
    exact .number _
  · cases h

theorem ordered_of_exponentPart (h : exponentPart negative n exponent s = .ok (v, rest)) :
    v.Ordered := by
  have hnumber (d : Double) : Ordered (.number (.double d)) := .number _
  grind [exponentPart, stop, ordered_of_finish]

theorem ordered_of_afterDigits (h : afterDigits negative n exponent s = .ok (v, rest)) :
    v.Ordered := by
  cases s with
  | nil => exact ordered_of_finish h
  | cons c r =>
    rw [afterDigits] at h
    split at h
    · exact ordered_of_exponentPart h
    · exact ordered_of_finish h

theorem ordered_of_fractionPart (h : fractionPart negative n exponent s = .ok (v, rest)) :
    v.Ordered := by
  cases s with
  | nil => cases h
  | cons c r =>
    simp only [fractionPart] at h
    split at h
    · cases h
    · exact ordered_of_afterDigits h

theorem ordered_of_whole (h : wholePart.whole negative n s = .ok (v, rest)) : v.Ordered := by
  have hnumber (x : Number) : Ordered (.number x) := .number x
  grind [wholePart.whole]

theorem ordered_of_wholePart (h : wholePart negative n s = .ok (v, rest)) : v.Ordered := by
  grind [wholePart, ordered_of_whole, ordered_of_fractionPart, ordered_of_afterDigits,
    ordered_of_exponentPart]

theorem ordered_of_number (h : number negative s = .ok (v, rest)) : v.Ordered := by
  unfold number at h
  grind [stop, stopAt, ordered_of_wholePart]

end

/-- What the readers of values, of items and of members hold to, whatever they have left to read. -/
structure Orders (fuel : Nat) : Prop where
  value : ∀ {depth s v rest}, value fuel depth s = .ok (v, rest) → v.Ordered
  items : ∀ {depth first s vs rest}, items fuel depth first s = .ok (vs, rest) →
    ∀ j ∈ vs, Ordered j
  members : ∀ {depth first done s m rest}, Ordered (.object done) →
    members fuel depth first done s = .ok (m, rest) → Ordered (.object m)

theorem Orders.value_succ (h : Orders fuel)
    (hx : Read.value (fuel + 1) depth s = .ok (v, rest)) : v.Ordered := by
  rw [Read.value] at hx
  have hstring (r : List Char) : (string r).map (fun p => (Json.string p.1, p.2)) =
      .ok (v, rest) → v.Ordered := by
    intro hx
    obtain ⟨p, -, hp⟩ := Except.map_eq_ok.mp hx
    cases hp
    exact .string _
  have harray (r : List Char) : (Read.items fuel (depth - 1) true r).map
      (fun p => (Json.array p.1, p.2)) = .ok (v, rest) → v.Ordered := by
    intro hx
    obtain ⟨p, hi, hp⟩ := Except.map_eq_ok.mp hx
    cases hp
    exact .array (h.items hi)
  have hobject (r : List Char) : (Read.members fuel (depth - 1) true [] r).map
      (fun p => (Json.object p.1, p.2)) = .ok (v, rest) → v.Ordered := by
    intro hx
    obtain ⟨p, hm, hp⟩ := Except.map_eq_ok.mp hx
    cases hp
    exact h.members (.object .nil nofun) hm
  have hnull := Ordered.null
  have hbool := Ordered.bool
  grind [ordered_of_word, ordered_of_number, stopAt]

/-- An item and those after it, once what stands before the item is read. -/
theorem Orders.item_next (h : Orders fuel) (hx : (Read.value fuel depth s >>= fun p =>
    Read.items fuel depth false p.2 >>= fun q => pure (p.1 :: q.1, q.2)) = .ok (js, rest)) :
    ∀ j ∈ js, Ordered j := by
  obtain ⟨⟨v, s₁⟩, hv, hx⟩ := Except.bind_eq_ok.mp hx
  obtain ⟨⟨js', s₂⟩, hjs, hx⟩ := Except.bind_eq_ok.mp hx
  cases hx
  exact List.forall_mem_cons.mpr ⟨h.value hv, h.items hjs⟩

theorem Orders.items_succ (h : Orders fuel)
    (hx : Read.items (fuel + 1) depth first s = .ok (js, rest)) : ∀ j ∈ js, Ordered j := by
  rw [Read.items] at hx
  split at hx
  · cases hx
  · split at hx
    · cases hx
      nofun
    · simp only at hx
      split at hx
      · exact h.item_next hx
      · split at hx
        · split at hx
          · cases hx
          · cases hx
          · exact h.item_next hx
        · cases hx

/-- A member and those after it, once the quote before its name is read. -/
theorem Orders.member_next (h : Orders fuel) (hd : Ordered (.object done))
    (hx : (do
      let (name, s) ← string s
      let s ← match skip s with
        | [] => stopAt .endOfObject []
        | ':' :: r => pure r
        | s => stopAt .expectedColon s
      let (v, s) ← Read.value fuel depth s
      Read.members fuel depth false (Dictionary.insert done name v) s) = .ok (m, rest)) :
    Ordered (.object m) := by
  obtain ⟨⟨name, s₁⟩, -, hx⟩ := Except.bind_eq_ok.mp hx
  simp only at hx
  split at hx
  · cases hx
  · obtain ⟨s₂, -, hx⟩ := Except.bind_eq_ok.mp hx
    obtain ⟨⟨v, s₃⟩, hv, hx⟩ := Except.bind_eq_ok.mp hx
    exact h.members (hd.insert (h.value hv) name) hx
  · cases hx

theorem Orders.members_succ (h : Orders fuel) (hd : Ordered (.object done))
    (hx : Read.members (fuel + 1) depth first done s = .ok (m, rest)) : Ordered (.object m) := by
  rw [Read.members] at hx
  split at hx
  · cases hx
  · split at hx
    · cases hx
      exact hd
    · simp only at hx
      split at hx
      · split at hx
        · exact h.member_next hd hx
        · cases hx
      · split at hx
        · split at hx
          · cases hx
          · exact h.member_next hd hx
          · cases hx
          · cases hx
        · cases hx

theorem orders (fuel : Nat) : Orders fuel := by
  induction fuel with
  | zero => exact ⟨nofun, nofun, nofun⟩
  | succ fuel ih => exact ⟨ih.value_succ, ih.items_succ, ih.members_succ⟩

end Read

theorem ordered_of_parse {text : String} (h : parse text = .ok j) : j.Ordered := by
  unfold parse Except.mapError at h
  split at h
  · cases h
  · rename_i v hv
    cases h
    obtain ⟨⟨v, rest⟩, hvalue, hx⟩ := Except.bind_eq_ok.mp hv
    simp only at hx
    split at hx
    · cases hx
      exact (Read.orders _).value hvalue
    · cases hx

end CloudEmulation.Json
