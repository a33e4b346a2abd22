import CloudEmulation.Proofs.Json.Changes
/-!
Records that are encoded and decoded again: every field and the further members are found as they
were.
-/

namespace CloudEmulation

namespace Json

/-- Whether members can stand beside the fields of a record: they have other names, and are in
order. -/
structure Beside (names : List String) (extra : Members) : Prop where
  sorted : Dictionary.Sorted extra
  apart : ∀ p ∈ extra, p.1 ∉ names

/-- A value, unless it is null. -/
def notNull : Option Json → Option Json
  | some .null => none
  | j => j

theorem notNull_of_ne {j : Json} (h : j ≠ .null) : notNull (some j) = some j := by
  cases j with
  | null => exact absurd rfl h
  | _ => rfl

theorem Beside.nil (names : List String) : Beside names [] := ⟨List.Pairwise.nil, nofun⟩

/-- The members of an encoded record. -/
def recordMembers (fields : List Field) (extra : Members) : Members :=
  .ofList (fields.filterMap Field.pair? ++ extra)

theorem member?_record_other {fields : List Field} {extra : Members} {names : List String}
    {name : String} (hfields : fields.map Field.name = names) (hn : name ∉ names)
    (he : ∀ p ∈ extra, p.1 ≠ name) : (record .ofFields fields extra).member? name = none := by
  refine Dictionary.get?_of_not_mem ?_
  intro p hp
  rcases List.mem_append.mp (Dictionary.mem_ofList hp) with hp | hp
  · obtain ⟨f, hmem, hv⟩ := List.mem_filterMap.mp hp
    obtain ⟨v, -, rfl⟩ := Option.map_eq_some_iff.mp hv
    rintro rfl
    exact hn (hfields ▸ List.mem_map_of_mem hmem)
  · exact he p hp

theorem asStringMap_mapValues {m : Dictionary String} (h : m.Sorted) :
    asStringMap (.object (m.mapValues .string)) = .ok m := by
  let read (p : String × Json) : Decoding (String × String) := do return (p.1, ← asString p.2)
  have hm : ∀ l : Dictionary String, (l.mapValues Json.string).mapM read = .ok l := by
    intro l
    induction l with
    | nil => rfl
    | cons p l ih =>
      rw [Dictionary.mapValues] at ih
      rw [Dictionary.mapValues, List.map_cons, List.mapM_cons, ih]
      rfl
  show ((m.mapValues Json.string).mapM read >>= fun l => pure (Dictionary.ofList l)) = _
  rw [hm]
  exact congrArg Except.ok h.ofList_eq

theorem asList_map {α : Type} {decode : Json → Decoding α} {encode : α → Json} {items : List α}
    (h : ∀ a ∈ items, decode (encode a) = .ok a) :
    asList decode (.array (items.map encode)) = .ok items := by
  refine Except.mapM_eq_ok.mpr ?_
  rw [List.map_map]
  exact List.map_congr_left h

theorem mem_of_asList {α : Type} {decode : Json → Decoding α} {j : Json} {items : List α}
    (h : asList decode j = .ok items) : ∀ a ∈ items, ∃ j, decode j = .ok a := by
  unfold asList at h
  split at h
  · rename_i found
    intro a ha
    have hmem : Except.ok a ∈ found.map decode := Except.mapM_eq_ok.mp h ▸ List.mem_map_of_mem ha
    obtain ⟨j, -, hj⟩ := List.mem_map.mp hmem
    exact ⟨j, hj⟩
  · cases h

theorem le_of_asNatural {kind : String} {limit n : Nat} {j : Json}
    (h : asNatural kind limit j = .ok n) : n ≤ limit := by
  unfold asNatural at h
  split at h
  · split at h
    · cases h
      omega
    · cases h
  · cases h

theorem asNatural_ofNat {limit n : Nat} (kind : String) (h : n ≤ limit) :
    asNatural kind limit (.ofNat n) = .ok n := by
  have hbound : (0 : Int) ≤ n ∧ (n : Int) ≤ limit := by omega
  simp [asNatural, ofNat, hbound]

theorem sorted_of_asStringMap {j : Json} {m : Dictionary String} (h : asStringMap j = .ok m) :
    m.Sorted := by
  unfold asStringMap at h
  split at h
  · obtain ⟨pairs, -, hm⟩ := Except.bind_eq_ok.mp h
    cases hm
    exact Dictionary.sorted_ofList pairs
  · cases h

end Json

namespace Ranked

variable {α β : Type} {f : Ranked (α → β)} {a : Ranked α} {x : α}

theorem ap_ok {g : α → β} (hf : f = .ok g) (ha : a = .ok x) : (f <*> a) = .ok (g x) := by
  subst hf ha
  rfl

theorem map_ok (g : α → β) (ha : a = .ok x) : (g <$> a) = .ok (g x) := by
  subst ha
  rfl

end Ranked

namespace Record

open Json (Field recordMembers Beside)

/-! What fields were read from. -/

section

variable {α : Type} {r : Record} {field : String} {decode : Json → Decoding α} {a b : α}

theorem decode_eq_ok {name : String} {fields : List String} {build : Record → Ranked α} {j : Json}
    (h : Record.decode name fields build j = .ok a) :
    ∃ source, build ⟨name, fields, source⟩ = .ok a := by
  unfold Record.decode at h
  split at h
  · exact ⟨_, Ranked.result_eq_ok.mp h⟩
  · obtain ⟨b, hb, hlength⟩ := Except.bind_eq_ok.mp h
    split at hlength
    · cases hlength
    · cases hlength
      exact ⟨_, Ranked.result_eq_ok.mp hb⟩
  · cases h

theorem required_eq_ok (h : r.required field decode = .ok a) : ∃ j, decode j = .ok a := by
  unfold required at h
  split at h
  · rename_i j _
    unfold present at h
    split at h
    · cases h
      exact ⟨j, ‹_›⟩
    · cases h
  · unfold absent at h
    split at h <;> cases h

theorem default_eq_ok (h : r.default field decode a = .ok b) :
    (r.find? field = none ∧ b = a) ∨ ∃ j, r.find? field = some j ∧ decode j = .ok b := by
  unfold Record.default at h
  cases hj : r.find? field with
  | none =>
    rw [hj] at h
    cases h
    exact .inl ⟨rfl, rfl⟩
  | some j =>
    simp only [hj, present] at h
    cases hd : decode j with
    | error e =>
      rw [hd] at h
      cases h
    | ok x =>
      rw [hd] at h
      cases h
      exact .inr ⟨j, rfl, hd⟩

theorem sorted_of_default {m : Dictionary String}
    (h : r.default field Json.asStringMap [] = .ok m) : m.Sorted := by
  rcases default_eq_ok h with ⟨-, rfl⟩ | ⟨j, -, hj⟩
  · exact List.Pairwise.nil
  · exact Json.sorted_of_asStringMap hj

theorem mem_of_default {items : List α} (h : r.default field (Json.asList decode) [] = .ok items) :
    ∀ a ∈ items, ∃ j, decode j = .ok a := by
  rcases default_eq_ok h with ⟨-, rfl⟩ | ⟨j, -, hj⟩
  · exact fun a ha => nomatch ha
  · exact Json.mem_of_asList hj

theorem optional_eq_ok {o : Option α} (h : r.optional field decode = .ok o) :
    (Json.notNull (r.find? field) = none ∧ o = none) ∨
      ∃ j x, Json.notNull (r.find? field) = some j ∧ r.find? field = some j ∧ j ≠ .null ∧
        decode j = .ok x ∧ o = some x := by
  obtain ⟨hnone, rfl⟩ | ⟨j, hj, hd⟩ := default_eq_ok h
  · rw [hnone]
    exact .inl ⟨rfl, rfl⟩
  · rw [hj]
    by_cases hnull : j = .null
    · subst hnull
      cases hd
      exact .inl ⟨rfl, rfl⟩
    · rw [Json.asOption_of_ne_null decode hnull] at hd
      obtain ⟨x, hx, rfl⟩ := Except.map_eq_ok.mp hd
      exact .inr ⟨j, x, Json.notNull_of_ne hnull, rfl, hnull, hx, rfl⟩

theorem optional_eq_some (h : r.optional field decode = .ok (some a)) :
    ∃ j, j ≠ .null ∧ decode j = .ok a := by
  obtain ⟨-, hn⟩ | ⟨j, x, -, -, hnull, hx, hj⟩ := optional_eq_ok h
  · cases hn
  · cases hj
    exact ⟨j, hnull, hx⟩

theorem decodeOpen_of_ok {title : String} {names : List String} {build : Record → Ranked α}
    {m : Json.Members} (h : build ⟨title, names, .members m⟩ = .ok a) :
    decodeOpen title names build (.object m) = .ok a :=
  Ranked.result_eq_ok.mpr h

theorem decode_of_ok {title : String} {names : List String} {build : Record → Ranked α}
    {m : Json.Members} (h : build ⟨title, names, .members m⟩ = .ok a) :
    Record.decode title names build (.object m) = .ok a :=
  Ranked.result_eq_ok.mpr h

end

/-! Fields of encoded records. -/

variable {α : Type} {title field : String} {names : List String} {fields : List Field}
  {extra : Json.Members} {m : Json.Members}

theorem beside_extra (title : String) (names : List String) (m : Json.Members) :
    Beside names (Record.extra ⟨title, names, .members m⟩) :=
  ⟨Dictionary.sorted_ofList _, fun _ => not_mem_extra⟩

/-- The further members of an encoded record are the ones that it was given. -/
theorem get?_other (he : Beside names extra) (hfields : fields.map Field.name = names)
    {name : String} (hn : name ∉ names) :
    (recordMembers fields extra).get? name = extra.get? name := by
  have hapart : ∀ p ∈ fields.filterMap Field.pair?, p.1 ∈ names := by
    intro p hp
    obtain ⟨f, hf, hv⟩ := List.mem_filterMap.mp hp
    obtain ⟨v, -, rfl⟩ := Option.map_eq_some_iff.mp hv
    exact hfields ▸ List.mem_map_of_mem hf
  have hnone : (fields.filterMap Field.pair?).reverse.find? (·.1 = name) = none := by
    rw [List.find?_eq_none]
    intro p hp hpn
    exact hn (of_decide_eq_true hpn ▸ hapart p (List.mem_reverse.mp hp))
  rw [recordMembers, Dictionary.get?_ofList, List.reverse_append, List.find?_append, hnone,
    Option.or_none, ← Dictionary.get?_ofList, he.sorted.ofList_eq]

theorem extra_record (he : Beside names extra) (hfields : fields.map Field.name = names) :
    Record.extra ⟨title, names, .members (recordMembers fields extra)⟩ = extra := by
  have hs : (recordMembers fields extra).Sorted := Dictionary.sorted_ofList _
  show Dictionary.ofList ((recordMembers fields extra).without names) = extra
  rw [(hs.without names).ofList_eq]
  refine (hs.without names).ext he.sorted ?_
  intro name
  rw [Dictionary.get?_without]
  split
  · rename_i hn
    refine (Dictionary.get?_of_not_mem ?_).symm
    rintro p hp rfl
    exact he.apart p hp hn
  · rename_i hn
    exact get?_other he hfields hn

variable (hn : names.Nodup) (he : Beside names extra) (hfields : fields.map Field.name = names)

include hn he hfields

theorem get?_field {value : Option Json} (hf : ⟨field, value⟩ ∈ fields) :
    (recordMembers fields extra).get? field = value :=
  Json.member?_record hn he.apart hfields hf

theorem find?_record {value : Option Json} (hf : ⟨field, value⟩ ∈ fields) :
    Record.find? ⟨title, names, .members (recordMembers fields extra)⟩ field = value :=
  get?_field hn he hfields hf

theorem required_record {decode : Json → Decoding α} {value : Json} {a : α}
    (hf : .of field value ∈ fields) (hd : decode value = .ok a) :
    required ⟨title, names, .members (recordMembers fields extra)⟩ field decode = .ok a := by
  have hfind : Record.find? ⟨title, names, .members (recordMembers fields extra)⟩ field =
    some value := find?_record hn he hfields hf
  unfold required
  rw [hfind]
  show present _ field decode value = _
  rw [present, hd]

theorem text_record {value : String} (hf : .text field value ∈ fields) :
    text ⟨title, names, .members (recordMembers fields extra)⟩ field = .ok value :=
  required_record hn he hfields hf rfl

theorem default_record {decode : Json → Decoding α} {value : Json} {a other : α}
    (hf : .of field value ∈ fields) (hd : decode value = .ok a) :
    Record.default ⟨title, names, .members (recordMembers fields extra)⟩ field decode other =
      .ok a := by
  have hfind : Record.find? ⟨title, names, .members (recordMembers fields extra)⟩ field =
    some value := find?_record hn he hfields hf
  unfold Record.default
  rw [hfind]
  show present _ field decode value = _
  rw [present, hd]

theorem textOr_record {value : String} (hf : .text field value ∈ fields) (other : String) :
    textOr ⟨title, names, .members (recordMembers fields extra)⟩ field other = .ok value :=
  default_record hn he hfields hf rfl

theorem optional_record (encode : α → Json) {decode : Json → Decoding α} {a : Option α}
    (hf : .of? field encode a ∈ fields)
    (hd : ∀ x, a = some x → Json.asOption decode (encode x) = .ok (some x)) :
    optional ⟨title, names, .members (recordMembers fields extra)⟩ field decode = .ok a := by
  have hfind : Record.find? ⟨title, names, .members (recordMembers fields extra)⟩ field =
    a.map encode := find?_record hn he hfields hf
  unfold optional Record.default
  rw [hfind]
  cases a with
  | none => rfl
  | some x =>
    show present _ field (Json.asOption decode) (encode x) = .ok (some x)
    rw [present, hd x rfl]

theorem text?_record {value : Option String} (hf : .text? field value ∈ fields) :
    text? ⟨title, names, .members (recordMembers fields extra)⟩ field = .ok value :=
  optional_record hn he hfields .string hf fun _ _ => rfl

theorem stringMap_record {m : Dictionary String} (hm : m.Sorted) (hf : .map? field m ∈ fields) :
    Record.default ⟨title, names, .members (recordMembers fields extra)⟩ field Json.asStringMap [] =
      .ok m := by
  have hmap : Field.map? field m = ⟨field, (Field.map? field m).value⟩ := by
    unfold Field.map?
    split <;> rfl
  rw [hmap] at hf
  have hfind : Record.find? ⟨title, names, .members (recordMembers fields extra)⟩ field =
    (Field.map? field m).value := find?_record hn he hfields hf
  unfold Record.default
  rw [hfind, Field.map?]
  cases m with
  | nil => rfl
  | cons p m =>
    show present _ field Json.asStringMap (.object (Dictionary.mapValues .string (p :: m))) = _
    rw [present, Json.asStringMap_mapValues hm]

theorem map_record {m : Dictionary String} (hm : m.Sorted) (hf : .map field m ∈ fields) :
    Record.default ⟨title, names, .members (recordMembers fields extra)⟩ field Json.asStringMap [] =
      .ok m :=
  default_record hn he hfields hf (Json.asStringMap_mapValues hm)

theorem list_record {encode : α → Json} {decode : Json → Decoding α} {items : List α}
    (hf : .list field encode items ∈ fields) (hd : ∀ a ∈ items, decode (encode a) = .ok a) :
    Record.default ⟨title, names, .members (recordMembers fields extra)⟩ field
      (Json.asList decode) [] = .ok items :=
  default_record hn he hfields hf (Json.asList_map hd)

end Record

namespace Json

/-- A record that keeps further members beside its fields. -/
structure Level where
  fields : List String
  further : Members

/-- Whether all that is decoded, if it can be read, is encoded to what decodes to it again, and none
of the records within it keeps a member with the name of a field. -/
structure Lossless {α : Type} (decode : Json → Decoding α) (encode : Assembly → α → Json)
    (levels : α → List Level) (readable : α → Prop) : Prop where
  decodes_again : ∀ v x, decode v = .ok x → readable x → decode (encode .ofFields x) = .ok x
  idempotent : ∀ v w, (decode v).map (encode .ofFields) = .ok w →
    (∀ x, decode v = .ok x → readable x) → (decode w).map (encode .ofFields) = .ok w
  apart : ∀ v x, decode v = .ok x → ∀ l ∈ levels x, ∀ p ∈ l.further, p.1 ∉ l.fields

theorem Lossless.of_canonical {α : Type} {decode : Json → Decoding α} {encode : Assembly → α → Json}
    {levels : α → List Level} {readable Canonical : α → Prop}
    (hcanonical : ∀ v x, decode v = .ok x → Canonical x)
    (hagain : ∀ x, Canonical x → readable x → decode (encode .ofFields x) = .ok x)
    (hapart : ∀ x, Canonical x → ∀ l ∈ levels x, Beside l.fields l.further) :
    Lossless decode encode levels readable where
  decodes_again v x h hx := hagain x (hcanonical v x h) hx
  idempotent v w h hread := by
    obtain ⟨x, hx, rfl⟩ := Except.map_eq_ok.mp h
    rw [hagain x (hcanonical v x hx) (hread x hx)]
    rfl
  apart v x h l hl := (hapart x (hcanonical v x h) l hl).apart

/-- Records without further members need not be looked into. -/
theorem Lossless.closed {α : Type} {decode : Json → Decoding α} {encode : Assembly → α → Json}
    {readable : α → Prop}
    (hagain : ∀ v x, decode v = .ok x → readable x → decode (encode .ofFields x) = .ok x) :
    Lossless decode encode (fun _ => []) readable where
  decodes_again := hagain
  idempotent v w h hread := by
    obtain ⟨x, hx, rfl⟩ := Except.map_eq_ok.mp h
    rw [hagain v x hx (hread x hx)]
    rfl
  apart _ _ _ _ hl := nomatch hl

end Json

end CloudEmulation
