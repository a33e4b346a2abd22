import CloudEmulation.Proofs.Json.Order
import CloudEmulation.Proofs.Json.RoundTrip
/-!
What a record is read from: its fields are the members that an object gives, where null gives
nothing, and what it keeps beside them are the other members.
-/

namespace CloudEmulation

namespace Json

/-- The member of an object under a name, unless it is null. -/
def given? (j : Json) (name : String) : Option Json := notNull (j.member? name)

/-- Whether members are those of an object, but for the fields of a record. -/
structure SameBeside (fields : List String) (j : Json) (m : Members) : Prop where
  object : ∃ given, j = .object given
  sorted : Dictionary.Sorted m
  get? : ∀ name, name ∉ fields → Dictionary.get? m name = j.member? name

/-- Whether a member that is read as a record is shown as one. -/
inductive Nested (R : Json → Members → Prop) : Option Json → Option Json → Prop
  | absent : Nested R none none
  | present {j m} : R j m → Nested R (some j) (some (.object m))

variable {m : Members} {tags : Dictionary String}

theorem mapValues_of_asStringMap (hm : Dictionary.Sorted m)
    (h : asStringMap (.object m) = .ok tags) : tags.mapValues .string = m := by
  let read (p : String × Json) : Decoding (String × String) := do return (p.1, ← asString p.2)
  have hread : ∀ (m : Members) (pairs : Dictionary String), m.mapM read = .ok pairs →
      pairs.mapValues .string = m := by
    intro m
    induction m with
    | nil =>
      intro pairs h
      cases h
      rfl
    | cons p m ih =>
      intro pairs h
      rw [List.mapM_cons] at h
      obtain ⟨q, hq, h⟩ := Except.bind_eq_ok.mp h
      obtain ⟨rest, hrest, h⟩ := Except.bind_eq_ok.mp h
      obtain ⟨text, htext, hq⟩ := Except.bind_eq_ok.mp hq
      cases h
      cases hq
      rw [Dictionary.mapValues, List.map_cons, ← Dictionary.mapValues, ih rest hrest]
      obtain ⟨name, j⟩ := p
      cases j <;> cases htext
      rfl
  obtain ⟨pairs, hpairs, htags⟩ := Except.bind_eq_ok.mp h
  cases htags
  have hm' := hread m pairs hpairs
  have hsorted : Dictionary.Sorted pairs := by
    rw [← hm'] at hm
    unfold Dictionary.Sorted Dictionary.mapValues at hm
    rwa [List.pairwise_map] at hm
  rw [hsorted.ofList_eq, hm']

end Json

namespace Record

open Json (Members Field Beside recordMembers SameBeside)

variable {α : Type} {title field : String} {names : List String} {m : Members}
  {decode : Json → Decoding α} {fields : List Field}

/-- What a record is read from: an object, or the list of its fields. -/
theorem source_of_decode {build : Record → Ranked α} {j : Json} {a : α}
    (h : Record.decode title names build j = .ok a) :
    (∃ m, j = .object m ∧ build ⟨title, names, .members m⟩ = .ok a) ∨
      ∃ items, j = .array items ∧ build ⟨title, names, .items items⟩ = .ok a := by
  unfold Record.decode at h
  split at h
  · rename_i m
    exact .inl ⟨m, rfl, Ranked.result_eq_ok.mp h⟩
  · rename_i items
    obtain ⟨x, hx, h⟩ := Except.bind_eq_ok.mp h
    split at h
    · cases h
    · cases h
      exact .inr ⟨items, rfl, Ranked.result_eq_ok.mp hx⟩
  · cases h

theorem text?_eq_ok {r : Record} {a : Option String} (h : r.text? field = .ok a) :
    Json.notNull (r.find? field) = a.map .string := by
  obtain ⟨hnone, rfl⟩ | ⟨j, x, hj, -, -, hx, rfl⟩ := optional_eq_ok h
  · exact hnone
  · cases j <;> cases hx
    exact hj

/-- A field that is read as a record shows one that echoes the member. -/
theorem nested_of_optional {R : Json → Members → Prop} {encode : α → Json} {a : Option α}
    (ho : (Json.object m).Ordered)
    (hR : ∀ j x, j.Ordered → decode j = .ok x → ∃ y, encode x = .object y ∧ R j y)
    (h : optional ⟨title, names, .members m⟩ field decode = .ok a) :
    Json.Nested R ((Json.object m).given? field) (a.map encode) := by
  have hgiven : (Json.object m).given? field = Json.notNull (m.get? field) := rfl
  rw [hgiven]
  obtain ⟨hnone, rfl⟩ | ⟨j, x, hj, hfound, -, hx, rfl⟩ := optional_eq_ok h
  · rw [show Json.notNull (m.get? field) = none from hnone]
    exact .absent
  · obtain ⟨y, hy, hecho⟩ := hR j x (ho.of_get? hfound) hx
    rw [show Json.notNull (m.get? field) = some j from hj, Option.map_some, hy]
    exact .present hecho

/-- A map of texts is empty where the object gives none. -/
theorem stringMap_eq_ok {tags : Dictionary String} (ho : (Json.object m).Ordered)
    (h : Record.default ⟨title, names, .members m⟩ field Json.asStringMap [] = .ok tags) :
    (m.get? field = none ∧ tags = []) ∨
      m.get? field = some (.object (tags.mapValues .string)) := by
  obtain ⟨hnone, rfl⟩ | ⟨j, hj, hread⟩ := default_eq_ok h
  · exact .inl ⟨hnone, rfl⟩
  · cases j with
    | object t =>
      have hordered : Json.Ordered (.object t) := ho.of_get? hj
      rw [Json.mapValues_of_asStringMap hordered.sorted hread]
      exact .inr hj
    | _ => cases hread

theorem get?_extra (hm : m.Sorted) {name : String} (hn : name ∉ names) :
    Dictionary.get? (extra ⟨title, names, .members m⟩) name = m.get? name := by
  show Dictionary.get? (.ofList (m.without names)) name = _
  rw [(hm.without names).ofList_eq, Dictionary.get?_without, if_neg hn]

/-- A record that keeps further members shows those of the object that it was read from. -/
theorem sameBeside_record (hm : m.Sorted) (hfields : fields.map Field.name = names) :
    SameBeside names (.object m)
      (recordMembers fields (extra ⟨title, names, .members m⟩)) where
  object := ⟨m, rfl⟩
  sorted := Dictionary.sorted_ofList _
  get? name hn := by
    rw [get?_other (beside_extra title names m) hfields hn, get?_extra hm hn]
    rfl

/-! Fields that are shown as they were read. -/

variable (hn : names.Nodup) (hfields : fields.map Field.name = names)

include hn hfields

theorem shown_field {value : Option Json} (hf : ⟨field, value⟩ ∈ fields) :
    Dictionary.get? (recordMembers fields (extra ⟨title, names, .members m⟩)) field = value :=
  get?_field hn (beside_extra title names m) hfields hf

theorem shown_text? {a : Option String}
    (h : text? ⟨title, names, .members m⟩ field = .ok a) (hf : .text? field a ∈ fields) :
    Dictionary.get? (recordMembers fields (extra ⟨title, names, .members m⟩)) field =
      (Json.object m).given? field :=
  (shown_field hn hfields hf).trans (text?_eq_ok h).symm

/-- A map of texts is not shown where it is empty. -/
theorem shown_map? {tags : Dictionary String} (ho : (Json.object m).Ordered)
    (h : Record.default ⟨title, names, .members m⟩ field Json.asStringMap [] = .ok tags)
    (hf : .map? field tags ∈ fields) :
    let shown := Dictionary.get? (recordMembers fields (extra ⟨title, names, .members m⟩)) field
    ((Json.object m).member? field ≠ some (.object []) →
      shown = (Json.object m).member? field) ∧
      ((Json.object m).member? field = some (.object []) → shown = none) := by
  intro shown
  have hshown : shown = if tags.isEmpty then none else some (.object (tags.mapValues .string)) := by
    refine shown_field hn hfields ?_
    unfold Field.map? at hf
    split at hf
    · rename_i he
      rwa [if_pos he]
    · rename_i he
      rwa [if_neg he]
  rw [hshown]
  have hmember : (Json.object m).member? field = m.get? field := rfl
  rw [hmember]
  obtain ⟨hnone, rfl⟩ | htags := stringMap_eq_ok ho h
  · rw [hnone]
    exact ⟨fun _ => rfl, nofun⟩
  · rw [htags]
    cases tags with
    | nil => exact ⟨fun hne => absurd rfl hne, fun _ => rfl⟩
    | cons p tags => exact ⟨fun _ => rfl, nofun⟩

theorem shown_nested {R : Json → Members → Prop} {encode : α → Json} {a : Option α}
    (ho : (Json.object m).Ordered)
    (hR : ∀ j x, j.Ordered → decode j = .ok x → ∃ y, encode x = .object y ∧ R j y)
    (h : optional ⟨title, names, .members m⟩ field decode = .ok a)
    (hf : .of? field encode a ∈ fields) :
    Json.Nested R ((Json.object m).given? field)
      (Dictionary.get? (recordMembers fields (extra ⟨title, names, .members m⟩)) field) := by
  have hshown : Dictionary.get? (recordMembers fields (extra ⟨title, names, .members m⟩)) field =
    a.map encode := shown_field hn hfields hf
  rw [hshown]
  exact nested_of_optional ho hR h

end Record

end CloudEmulation
