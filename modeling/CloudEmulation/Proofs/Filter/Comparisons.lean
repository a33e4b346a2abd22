import CloudEmulation.Proofs.Filter.Terms
/-!
How the comparisons of one key with one literal agree with each other.
-/

namespace CloudEmulation.Filter

open Text (isBlank Halts none_of_all)

/-- What stands after an operator: blanks, and a literal that makes no longer operator of it. -/
structure Operand where
  gap : String
  literal : Literal Read.endsBare
  blank : ∀ c ∈ gap.toList, isBlank c = true
  apart : ∀ op : Comparison, Halts op.extends (gap.toList ++ literal.text.toList)

def comparing (k : Key) (op : Comparison) (o : Operand) : String :=
  k.text ++ (op.sign ++ (o.gap ++ o.literal.text))

/-- Whether the comparison is read as a filter, and the resource matches it. -/
def Holds (k : Key) (op : Comparison) (o : Operand) (j : Json) : Prop :=
  ∃ a : Accepted, a.text = comparing k op o ∧ a.filter.accepts j = true

theorem parse_operand (k : Key) {op : Comparison} (o : Operand)
    (hstar : op = .has → ¬o.literal.IsStar) :
    parse (comparing k op o) = .ok (.compare k.names op o.literal.value) := by
  apply parse_of_term
  · rw [String.toList_append]
    exact Read.signed_sign op _
  · have h := Read.term_single k o.gap.toList o.blank (o.apart op) hstar (r := []) (by simp [Ended])
    simpa using h

theorem holds_operand (k : Key) {op : Comparison} (o : Operand)
    (hstar : op = .has → ¬o.literal.IsStar) (j : Json) :
    Holds k op o j ↔ (Filter.compare k.names op o.literal.value).accepts j = true := by
  have hparse := parse_operand k o hstar
  constructor
  · rintro ⟨a, htext, haccepts⟩
    have ha := a.parses
    rw [htext, hparse] at ha
    rwa [Except.ok.inj ha]
  · intro h
    exact ⟨⟨_, _, hparse⟩, rfl, h⟩

theorem parse_comparing (k : Key) {op : Comparison} (hop : op ≠ .has) (o : Operand) :
    parse (comparing k op o) = .ok (.compare k.names op o.literal.value) :=
  parse_operand k o fun h => absurd h hop

theorem holds_iff (k : Key) {op : Comparison} (hop : op ≠ .has) (o : Operand) (j : Json) :
    Holds k op o j ↔ (Filter.compare k.names op o.literal.value).accepts j = true :=
  holds_operand k o (fun h => absurd h hop) j

/-! Scalars. -/

def Scalar.json : Scalar → Json
  | .text s => .string s
  | .number n => .number n
  | .bool b => .bool b

theorem accepts_scalar {j : Json} {names : FilterKey} {v : Scalar}
    (h : lookup j names = some v.json) (op : Comparison) (s : String) :
    (Filter.compare names op s).accepts j = v.satisfies op s := by
  rw [accepts, h]
  cases v <;> simp [compares, Scalar.json, anyScalar]

/-- Whether equality tells apart what has one place in the order, or the other way round: names of
a truth value that differ in case only, different texts of one number, and what is no number. -/
def Scalar.Discordant : Scalar → String → Prop
  | .bool b, s => toString b ≠ s ∧ sameLetters (toString b).toList s.toList = true
  | .number n, s => ∃ x y, Numeral.double? n.text = some x ∧ Numeral.double? s = some y ∧
      (x.isNaN = true ∨ y.isNaN = true)
  | .text t, s => t ≠ s ∧ ∃ x y, Numeral.double? t = some x ∧ Numeral.double? s = some y ∧
      (Double.equal x y = true ∨ x.isNaN = true ∨ y.isNaN = true)

theorem compareOfLessAndEq_eq_iff (s t : String) : compareOfLessAndEq s t = .eq ↔ s = t := by
  unfold compareOfLessAndEq
  constructor
  · intro h
    split at h
    · cases h
    · split at h
      · assumption
      · cases h
  · rintro rfl
    simp

theorem order?_eq_none {x y : Double} :
    Double.order? x y = none ↔ x.isNaN = true ∨ y.isNaN = true := by
  unfold Double.order?
  cases x.isNaN <;> cases y.isNaN <;> simp

theorem order_numbers {t s : String} {x y : Double} (hx : Numeral.double? t = some x)
    (hy : Numeral.double? s = some y) :
    order t s = .eq ↔ Double.equal x y = true ∨ x.isNaN = true ∨ y.isNaN = true := by
  rw [← order?_eq_none]
  simp only [order, hx, hy, Double.equal, decide_eq_true_eq]
  cases Double.order? x y <;> simp

theorem equal_self (x : Double) : Double.equal x x = true ∨ x.isNaN = true ∨ x.isNaN = true := by
  rw [← order?_eq_none, Double.equal, Double.order?]
  cases x.isNaN <;> simp

theorem equal_not_nan {x y : Double} (h : Double.equal x y = true) :
    ¬(x.isNaN = true ∨ y.isNaN = true) := by
  rw [← order?_eq_none]
  intro hnone
  simp [Double.equal, hnone] at h

theorem order_texts {t s : String} (h : Numeral.double? t = none ∨ Numeral.double? s = none) :
    order t s = .eq ↔ t = s := by
  rw [← compareOfLessAndEq_eq_iff, order]
  split
  · rename_i hx hy
    obtain h | h := h
    · rw [h] at hx
      cases hx
    · rw [h] at hy
      cases hy
  · rfl

theorem numbers_or_not (t s : String) :
    (∃ x y, Numeral.double? t = some x ∧ Numeral.double? s = some y) ∨
      Numeral.double? t = none ∨ Numeral.double? s = none := by
  cases Numeral.double? t with
  | none => exact .inr (.inl rfl)
  | some x =>
    cases Numeral.double? s with
    | none => exact .inr (.inr rfl)
    | some y => exact .inl ⟨x, y, rfl, rfl⟩

theorem bool_not_number (b : Bool) : Numeral.double? (toString b) = none := by
  cases b <;> decide

theorem sameLetters_refl (s : List Char) : sameLetters s s = true := by simp [sameLetters]

theorem order_agrees_iff (v : Scalar) (s : String) :
    (order v.shown s = .eq ↔ v.equals s = true) ↔ ¬v.Discordant s := by
  cases v with
  | bool b =>
    have horder := order_texts (s := s) (.inl (bool_not_number b))
    by_cases hs : toString b = s
    · subst hs
      simp [Scalar.Discordant, Scalar.shown, Scalar.equals, horder, sameLetters_refl]
    · simp [Scalar.Discordant, Scalar.shown, Scalar.equals, horder, hs]
  | number n =>
    obtain ⟨x, y, hx, hy⟩ | hnone := numbers_or_not n.text s
    · have horder := order_numbers hx hy
      have hequal : Double.equal x y = true → ¬(x.isNaN = true ∨ y.isNaN = true) := equal_not_nan
      simp only [Scalar.Discordant, Scalar.shown, Scalar.equals, hx, hy, horder,
        Option.some.injEq, ↓existsAndEq, true_and]
      constructor
      · exact fun h hnan => hequal (h.mp (.inr hnan)) hnan
      · exact fun hnan => ⟨fun h => h.resolve_right hnan, .inl⟩
    · have horder := order_texts hnone
      obtain hnone | hnone := hnone <;>
        simp [Scalar.Discordant, Scalar.shown, Scalar.equals, horder, hnone]
  | text t =>
    obtain ⟨x, y, hx, hy⟩ | hnone := numbers_or_not t s
    · have horder := order_numbers hx hy
      have hsame : t = s → Double.equal x y = true ∨ x.isNaN = true ∨ y.isNaN = true := by
        rintro rfl
        obtain rfl := Option.some.inj (hx.symm.trans hy)
        exact equal_self x
      simp only [Scalar.Discordant, Scalar.shown, Scalar.equals, hx, hy, horder,
        Option.some.injEq, ↓existsAndEq, true_and, decide_eq_true_eq]
      constructor
      · exact fun h hdiffer => hdiffer.1 (h.mp hdiffer.2)
      · exact fun h => ⟨fun hplace => by_contra fun hne => h ⟨hne, hplace⟩, hsame⟩
    · have horder := order_texts hnone
      obtain hnone | hnone := hnone <;>
        simp [Scalar.Discordant, Scalar.shown, Scalar.equals, horder, hnone]

/-! Laws. -/

/-- The laws that tie equality to the order. -/
def Trichotomy (less equal greater atMost atLeast : Prop) : Prop :=
  (atMost ↔ less ∨ equal) ∧ (atLeast ↔ greater ∨ equal) ∧ ¬(less ∧ equal) ∧ ¬(equal ∧ greater)

theorem trichotomy_iff (o : Ordering) (e : Prop) :
    Trichotomy (o = .lt) e (o = .gt) (o ≠ .gt) (o ≠ .lt) ↔ (o = .eq ↔ e) := by
  unfold Trichotomy
  cases o <;> simp

theorem holds_scalar (k : Key) (op : Comparison) (hop : op ≠ .has) (o : Operand) {j : Json}
    {v : Scalar} (hv : lookup j k.names = some v.json) :
    Holds k op o j ↔ v.satisfies op o.literal.value = true := by
  rw [holds_iff k hop, accepts_scalar hv]

theorem comparisons_agree (k : Key) (o : Operand) (j : Json) (v : Scalar)
    (hv : lookup j k.names = some v.json) :
    (∀ op : Comparison, op ≠ .has → ∃ a : Accepted, a.text = comparing k op o) ∧
    (Holds k .unequal o j ↔ ¬Holds k .equal o j) ∧
    (Holds k .less o j ↔ ¬Holds k .atLeast o j) ∧
    (Holds k .greater o j ↔ ¬Holds k .atMost o j) ∧
    ¬(Holds k .less o j ∧ Holds k .greater o j) ∧
    (Trichotomy (Holds k .less o j) (Holds k .equal o j) (Holds k .greater o j)
      (Holds k .atMost o j) (Holds k .atLeast o j) ↔ ¬v.Discordant o.literal.value) := by
  have hless : Holds k .less o j ↔ order v.shown o.literal.value = .lt := by
    simp [holds_scalar k .less (by decide) o hv, Scalar.satisfies]
  have hatLeast : Holds k .atLeast o j ↔ order v.shown o.literal.value ≠ .lt := by
    simp [holds_scalar k .atLeast (by decide) o hv, Scalar.satisfies]
  have hgreater : Holds k .greater o j ↔ order v.shown o.literal.value = .gt := by
    simp [holds_scalar k .greater (by decide) o hv, Scalar.satisfies]
  have hatMost : Holds k .atMost o j ↔ order v.shown o.literal.value ≠ .gt := by
    simp [holds_scalar k .atMost (by decide) o hv, Scalar.satisfies]
  have hequal : Holds k .equal o j ↔ v.equals o.literal.value = true := by
    simp [holds_scalar k .equal (by decide) o hv, Scalar.satisfies]
  have hunequal : Holds k .unequal o j ↔ ¬v.equals o.literal.value = true := by
    simp [holds_scalar k .unequal (by decide) o hv, Scalar.satisfies]
  rw [hless, hatLeast, hgreater, hatMost, hequal, hunequal, trichotomy_iff, order_agrees_iff]
  refine ⟨?_, Iff.rfl, not_not.symm, not_not.symm, ?_, Iff.rfl⟩
  · exact fun op hop => ⟨⟨_, _, parse_comparing k hop o⟩, rfl⟩
  · rintro ⟨hlt, hgt⟩
    rw [hlt] at hgt
    cases hgt

def onKey : Key := .ofName "on" ⟨'o', ['n'], rfl, rfl, List.all_eq_true.mp rfl⟩

def trueOperand : Operand where
  gap := ""
  literal := .bare ⟨"true", by decide, by decide, none_of_all (by decide)⟩
  blank := by simp
  apart := by rintro (_ | _ | _ | _ | _ | _ | _) <;> decide

theorem comparisons_with_true :
    lookup (.object [("on", .bool true)]) onKey.names = some (Scalar.bool true).json ∧
    Trichotomy (Holds onKey .less trueOperand (.object [("on", .bool true)]))
      (Holds onKey .equal trueOperand (.object [("on", .bool true)]))
      (Holds onKey .greater trueOperand (.object [("on", .bool true)]))
      (Holds onKey .atMost trueOperand (.object [("on", .bool true)]))
      (Holds onKey .atLeast trueOperand (.object [("on", .bool true)])) := by
  have hvalue : lookup (.object [("on", .bool true)]) onKey.names = some (Scalar.bool true).json :=
    rfl
  refine ⟨hvalue, ?_⟩
  have h := comparisons_agree onKey trueOperand (.object [("on", .bool true)]) (.bool true) hvalue
  exact h.2.2.2.2.2.mpr fun hdiscordant => hdiscordant.1 rfl

theorem equality_beside_order :
    (∃ equal greater atMost : Accepted,
      equal.text = "on=TRUE" ∧ greater.text = "on>TRUE" ∧ atMost.text = "on<=TRUE" ∧
      equal.filter.accepts (.object [("on", .bool true)]) = true ∧
      greater.filter.accepts (.object [("on", .bool true)]) = true ∧
      atMost.filter.accepts (.object [("on", .bool true)]) = false) ∧
    (∃ less equal atMost : Accepted,
      less.text = "version<1" ∧ equal.text = "version=1" ∧ atMost.text = "version<=1" ∧
      less.filter.accepts (.object [("version", .string "1.0")]) = false ∧
      equal.filter.accepts (.object [("version", .string "1.0")]) = false ∧
      atMost.filter.accepts (.object [("version", .string "1.0")]) = true) ∧
    ∃ less equal atMost : Accepted,
      less.text = "count<nan" ∧ equal.text = "count=nan" ∧ atMost.text = "count<=nan" ∧
      less.filter.accepts (.object [("count", Json.ofNat 2)]) = false ∧
      equal.filter.accepts (.object [("count", Json.ofNat 2)]) = false ∧
      atMost.filter.accepts (.object [("count", Json.ofNat 2)]) = true := by
  refine ⟨⟨⟨"on=TRUE", _, rfl⟩, ⟨"on>TRUE", _, rfl⟩, ⟨"on<=TRUE", _, rfl⟩, rfl, rfl, rfl, ?_⟩,
    ⟨⟨"version<1", _, rfl⟩, ⟨"version=1", _, rfl⟩, ⟨"version<=1", _, rfl⟩, rfl, rfl, rfl, ?_⟩,
    ⟨"count<nan", _, rfl⟩, ⟨"count=nan", _, rfl⟩, ⟨"count<=nan", _, rfl⟩, rfl, rfl, rfl, ?_⟩
  all_goals decide +kernel

end CloudEmulation.Filter
