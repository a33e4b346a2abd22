import CloudEmulation.Json.Decode
import CloudEmulation.Proofs.Text.Parts
import Mathlib.Data.List.Induction
import Mathlib.Data.List.Nodup
/-!
Members of objects: those that a record is encoded to, and those that it is decoded from.
-/

namespace CloudEmulation

namespace Dictionary

variable {α : Type}

theorem get?_insert (m : Dictionary α) (name other : String) (v : α) :
    (m.insert name v).get? other = if other = name then some v else m.get? other := by
  split
  · rename_i h
    rw [h, get?_insert_self]
  · rename_i h
    exact get?_insert_ne m v h

theorem mem_insert {m : Dictionary α} {name : String} {v : α} {p : String × α}
    (h : p ∈ m.insert name v) : p = (name, v) ∨ p ∈ m := by
  induction m with
  | nil => simpa [insert] using h
  | cons q m ih =>
    obtain ⟨n, w⟩ := q
    rw [insert] at h
    split at h
    · rcases List.mem_cons.mp h with h | h
      · exact .inl h
      · exact .inr (List.mem_cons_of_mem _ h)
    · split at h
      · rcases List.mem_cons.mp h with h | h
        · exact .inl h
        · exact .inr h
      · rcases List.mem_cons.mp h with h | h
        · exact .inr (h ▸ List.mem_cons_self)
        · rcases ih h with h | h
          · exact .inl h
          · exact .inr (List.mem_cons_of_mem _ h)

theorem ofList_concat (pairs : List (String × α)) (p : String × α) :
    ofList (pairs ++ [p]) = (ofList pairs).insert p.1 p.2 := by
  simp [ofList]

/-- Of several values of a name the last one counts. -/
theorem get?_ofList (pairs : List (String × α)) (name : String) :
    (ofList pairs).get? name = (pairs.reverse.find? (·.1 = name)).map (·.2) := by
  induction pairs using List.reverseRecOn with
  | nil => rfl
  | append_singleton pairs p ih =>
    rw [ofList_concat, get?_insert, ih, List.reverse_append, List.reverse_singleton,
      List.singleton_append, List.find?_cons]
    by_cases h : p.1 = name
    · simp [h]
    · simp [h, Ne.symm h]

theorem mem_ofList {pairs : List (String × α)} {p : String × α} (h : p ∈ ofList pairs) :
    p ∈ pairs := by
  induction pairs using List.reverseRecOn with
  | nil => exact h
  | append_singleton pairs q ih =>
    rw [ofList_concat] at h
    rcases mem_insert h with h | h
    · exact List.mem_append_right _ (List.mem_singleton.mpr h)
    · exact List.mem_append_left _ (ih h)

theorem mem_without {m : Dictionary α} {names : List String} {p : String × α} :
    p ∈ m.without names ↔ p ∈ m ∧ p.1 ∉ names := by
  simp [without, List.mem_filter]

end Dictionary

namespace Json

variable {fields : List Field} {names : List String} {extra : Members} {f : Field}

def items : Json → List Json
  | .array items => items
  | _ => []

def textMember? (j : Json) (name : String) : Option String := (j.member? name).bind string?

theorem textMember?_object {m : Members} {name value : String}
    (h : Dictionary.get? m name = some (.string value)) :
    (object m).textMember? name = some value := by
  simp [textMember?, member?, members?, h, string?]

/-- A field of a record is found under its name, whatever further members there are. -/
theorem member?_record (hn : names.Nodup) (he : ∀ p ∈ extra, p.1 ∉ names)
    (hfields : fields.map Field.name = names) (hf : f ∈ fields) :
    (record .ofFields fields extra).member? f.name = f.value := by
  subst hfields
  have hx : extra.reverse.find? (·.1 = f.name) = none := by
    rw [List.find?_eq_none]
    intro p hp hpf
    apply he p (List.mem_reverse.mp hp)
    exact List.mem_map.mpr ⟨f, hf, (of_decide_eq_true hpf).symm⟩
  have hm : ∀ p ∈ fields.filterMap Field.pair?, p.1 = f.name → f.value = some p.2 := by
    intro p hp hpf
    obtain ⟨g, hg, hgp⟩ := List.mem_filterMap.mp hp
    rw [Field.pair?, Option.map_eq_some_iff] at hgp
    obtain ⟨v, hv, rfl⟩ := hgp
    rw [← List.inj_on_of_nodup_map hn hg hf hpf, hv]
  rw [record, ofFields, member?, members?, Option.bind_some, Dictionary.get?_ofList,
    List.reverse_append, List.find?_append, hx, Option.none_or]
  cases hr : (fields.filterMap Field.pair?).reverse.find? (·.1 = f.name) with
  | some p =>
    have hp := List.mem_reverse.mp (List.mem_of_find?_eq_some hr)
    exact (hm p hp (by simpa using List.find?_some hr)).symm
  | none =>
    cases hv : f.value with
    | none => rfl
    | some v =>
      have hp : (f.name, v) ∈ fields.filterMap Field.pair? :=
        List.mem_filterMap.mpr ⟨f, hf, by simp [Field.pair?, hv]⟩
      have hr' := List.find?_eq_none.mp hr _ (List.mem_reverse.mpr hp)
      simp at hr'

theorem textMember?_optional {name : String} {value : Option String} (hn : names.Nodup)
    (he : ∀ p ∈ extra, p.1 ∉ names) (hfields : fields.map Field.name = names)
    (hf : .text? name value ∈ fields) :
    (record .ofFields fields extra).textMember? name = value := by
  have hm : (record .ofFields fields extra).member? name = value.map .string :=
    member?_record hn he hfields hf
  rw [textMember?, hm]
  cases value <;> rfl

theorem textMember?_record {name value : String} (hn : names.Nodup)
    (he : ∀ p ∈ extra, p.1 ∉ names) (hfields : fields.map Field.name = names)
    (hf : .text name value ∈ fields) :
    (record .ofFields fields extra).textMember? name = some value :=
  textMember?_optional hn he hfields hf

end Json

namespace Ranked

variable {α β : Type}

theorem ap_eq_ok {f : Ranked (α → β)} {a : Ranked α} {b : β} :
    (f <*> a) = .ok b ↔ ∃ g x, f = .ok g ∧ a = .ok x ∧ g x = b := seq_eq_ok

theorem map_eq_ok {f : α → β} {a : Ranked α} {b : β} :
    (f <$> a) = .ok b ↔ ∃ x, a = .ok x ∧ f x = b := by
  cases a with
  | ok x =>
    show Ranked.ok (f x) = .ok b ↔ _
    simp
  | fault r e =>
    show Ranked.fault r e = .ok b ↔ _
    simp

theorem result_eq_ok {a : Ranked α} {b : α} : a.result = .ok b ↔ a = .ok b := by
  cases a <;> simp [result]

end Ranked

namespace Record

variable {α : Type} {name field : String} {fields : List String} {m : Json.Members}

theorem decodeOpen_eq_ok {build : Record → Ranked α} {j : Json} {a : α}
    (h : decodeOpen name fields build j = .ok a) :
    ∃ m, j = .object m ∧ build ⟨name, fields, .members m⟩ = .ok a := by
  unfold decodeOpen at h
  split at h
  · exact ⟨_, rfl, Ranked.result_eq_ok.mp h⟩
  · cases h

theorem text_eq_ok {value : String} :
    text ⟨name, fields, .members m⟩ field = .ok value ↔ m.get? field = some (.string value) := by
  unfold text required find? present
  simp only
  cases Dictionary.get? m field with
  | none => simp [absent]
  | some j => cases j <;> simp [Json.asString, Json.mismatch]

theorem not_mem_extra {p : String × Json} (h : p ∈ extra ⟨name, fields, .members m⟩) :
    p.1 ∉ fields :=
  (Dictionary.mem_without.mp (Dictionary.mem_ofList h)).2

end Record

end CloudEmulation
