import CloudEmulation.Proofs.Json.Dictionaries
/-!
Objects that differ in one member: a record that is decoded from them differs in the field of that
name alone, and fails for the same reason.
-/

namespace CloudEmulation

namespace Dictionary

variable {α : Type} {m m' : Dictionary α} {name other : String} {names : List String} {f : α → α}

/-- Changes the values of a name. -/
def update (m : Dictionary α) (name : String) (f : α → α) : Dictionary α :=
  m.map fun p => if p.1 = name then (p.1, f p.2) else p

/-- Whether two dictionaries differ under one name at most. -/
structure SameBut (name : String) (m m' : Dictionary α) : Prop where
  get? : ∀ other, other ≠ name → m'.get? other = m.get? other
  without : ∀ names, name ∈ names → m'.without names = m.without names

theorem get?_update_self (m : Dictionary α) (name : String) (f : α → α) :
    (m.update name f).get? name = (m.get? name).map f := by
  induction m with
  | nil => rfl
  | cons p m ih =>
    rw [update] at ih
    rw [update, List.map_cons, get?_cons, get?_cons, ih]
    by_cases h : p.1 = name
    · simp [h]
    · simp [h]

theorem sameBut_update (m : Dictionary α) (name : String) (f : α → α) :
    SameBut name m (m.update name f) where
  get? other h := by
    induction m with
    | nil => rfl
    | cons p m ih =>
      rw [update] at ih
      rw [update, List.map_cons, get?_cons, get?_cons, ih]
      by_cases hp : p.1 = name
      · simp [hp, Ne.symm h]
      · simp [hp]
  without names h := by
    induction m with
    | nil => rfl
    | cons p m ih =>
      have ih : List.filter _ (List.map _ m) = List.filter _ m := ih
      rw [update, without, without, List.map_cons, List.filter_cons, List.filter_cons, ih]
      by_cases hp : p.1 = name
      · simp [hp, h]
      · simp [hp]

theorem erase_eq_without (m : Dictionary α) (name : String) : m.erase name = m.without [name] := by
  simp [erase, without]

theorem get?_erase_self (m : Dictionary α) (name : String) : (m.erase name).get? name = none := by
  rw [erase_eq_without, get?_without, if_pos List.mem_cons_self]

theorem sameBut_erase (m : Dictionary α) (name : String) : SameBut name m (m.erase name) where
  get? other h := by
    rw [erase_eq_without, get?_without, if_neg (by simpa using h)]
  without names h := by
    rw [without, erase, List.filter_filter]
    refine List.filter_congr ?_
    intro p _
    by_cases hp : p.1 = name
    · simp [hp, h]
    · simp [hp]

theorem SameBut.refl (name : String) (m : Dictionary α) : SameBut name m m :=
  ⟨fun _ _ => rfl, fun _ _ => rfl⟩

end Dictionary

/-- Changes the members of a name, in an object. -/
def Json.update (name : String) (f : Json → Json) : Json → Json
  | .object m => .object (Dictionary.update m name f)
  | j => j

theorem Json.asOption_of_ne_null {α : Type} (decode : Json → Decoding α) {j : Json}
    (h : j ≠ .null) : asOption decode j = (decode j).map some := by
  cases j with
  | null => exact absurd rfl h
  | _ => rfl

theorem Json.update_eq_null {name : String} {f : Json → Json} {j : Json} :
    Json.update name f j = .null ↔ j = .null := by
  cases j <;> simp [Json.update]

namespace Ranked

variable {α β γ δ : Type} {R : α → β → Prop} {S : γ → δ → Prop}

/-- Whether two parts have related values, or the same fault. -/
inductive Related (R : α → β → Prop) : Ranked α → Ranked β → Prop
  | ok {a b} : R a b → Related R (.ok a) (.ok b)
  | fault {rank e} : Related R (.fault rank e) (.fault rank e)

namespace Related

theorem of_eq {a b : Ranked α} (h : b = a) : Related (fun x y => y = x) a b := by
  subst h
  cases b with
  | ok x => exact .ok rfl
  | fault r e => exact .fault

/-- Related functions take related arguments to related values. -/
theorem ap {f : Ranked (α → γ)} {g : Ranked (β → δ)} {a : Ranked α} {b : Ranked β}
    (hf : Related (fun f g => ∀ x y, R x y → S (f x) (g y)) f g) (ha : Related R a b) :
    Related S (f <*> a) (g <*> b) := by
  cases hf with
  | ok hf =>
    cases ha with
    | ok ha => exact .ok (hf _ _ ha)
    | fault => exact .fault
  | @fault rank e =>
    cases ha with
    | ok ha => exact .fault
    | @fault rank' e' =>
      show Related S (if rank' < rank then _ else _) (if rank' < rank then _ else _)
      split
      · exact .fault
      · exact .fault

theorem map {f : α → γ} {g : β → δ} {a : Ranked α} {b : Ranked β}
    (hf : ∀ x y, R x y → S (f x) (g y)) (ha : Related R a b) :
    Related S (f <$> a) (g <$> b) := by
  cases ha with
  | ok ha => exact .ok (hf _ _ ha)
  | fault => exact .fault

theorem result {g : α → β} {a : Ranked α} {b : Ranked β} (h : Related (fun x y => y = g x) a b) :
    b.result = a.result.map g := by
  cases h with
  | ok h =>
    subst h
    rfl
  | fault => rfl

end Related

end Ranked

namespace Record

variable {α β : Type} {title name field : String} {fields : List String} {m m' : Json.Members}

theorem default_of_get? (h : m'.get? field = m.get? field) (decode : Json → Decoding α) (a : α) :
    Record.default ⟨title, fields, .members m'⟩ field decode a =
      Record.default ⟨title, fields, .members m⟩ field decode a := by
  unfold Record.default find?
  simp only [h]
  rfl

theorem required_of_get? (h : m'.get? field = m.get? field) (decode : Json → Decoding α) :
    required ⟨title, fields, .members m'⟩ field decode =
      required ⟨title, fields, .members m⟩ field decode := by
  unfold required find?
  simp only [h]
  rfl

/-- A field of another name is the same. -/
theorem default_congr (h : Dictionary.SameBut name m m') (hf : field ≠ name)
    (decode : Json → Decoding α) (a : α) :
    Record.default ⟨title, fields, .members m'⟩ field decode a =
      Record.default ⟨title, fields, .members m⟩ field decode a :=
  default_of_get? (h.get? field hf) decode a

theorem related_default (h : Dictionary.SameBut name m m') (hf : field ≠ name)
    (decode : Json → Decoding α) (a : α) :
    Ranked.Related (fun x y => y = x) (Record.default ⟨title, fields, .members m⟩ field decode a)
      (Record.default ⟨title, fields, .members m'⟩ field decode a) :=
  .of_eq (default_congr h hf decode a)

theorem related_extra (h : Dictionary.SameBut name m m') (hf : name ∈ fields) :
    Ranked.Related (fun x y => y = x) (.ok (extra ⟨title, fields, .members m⟩))
      (.ok (extra ⟨title, fields, .members m'⟩)) := by
  refine .ok ?_
  rw [extra, extra]
  simp only [h.without fields hf]

/-- A field is decoded to a changed value where decoding the changed member gives one. -/
theorem related_optional {f : Json → Json} {g : α → α} {decode : Json → Decoding α}
    (hd : ∀ j, decode (f j) = (decode j).map g) (hn : ∀ j, f j = .null ↔ j = .null) :
    Ranked.Related (fun x y => y = x.map g)
      (optional ⟨title, fields, .members m⟩ name decode)
      (optional ⟨title, fields, .members (m.update name f)⟩ name decode) := by
  have hfind : find? ⟨title, fields, .members (m.update name f)⟩ name =
      (m.get? name).map f := m.get?_update_self name f
  have hfind' : find? ⟨title, fields, .members m⟩ name = m.get? name := rfl
  unfold optional Record.default
  rw [hfind, hfind']
  cases m.get? name with
  | none => exact .ok rfl
  | some j =>
    have hoption : Json.asOption decode (f j) = (Json.asOption decode j).map (Option.map g) := by
      by_cases hj : j = .null
      · rw [(hn j).mpr hj, hj]
        rfl
      · rw [Json.asOption_of_ne_null decode (mt (hn j).mp hj),
          Json.asOption_of_ne_null decode hj, hd]
        cases decode j <;> rfl
    simp only [Option.map_some, present, hoption]
    cases Json.asOption decode j with
    | ok a => exact .ok rfl
    | error e => exact .fault

end Record

end CloudEmulation
