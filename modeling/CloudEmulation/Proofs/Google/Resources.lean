import CloudEmulation.Google.Resource
import CloudEmulation.Proofs.Json.RoundTrip
/-!
Instances, operations and pages of lists, which are read back as they were written.
-/

namespace CloudEmulation.Google

open Json (Beside)

/-! Instances and their interfaces. -/

def NetworkInterface.Canonical (n : NetworkInterface) : Prop := Beside fields n.extra

structure ComputeInstance.Canonical (i : ComputeInstance) : Prop where
  interfaces : ∀ n ∈ i.networkInterfaces, n.Canonical
  extra : Beside fields i.extra

theorem NetworkInterface.canonical_of_decode {j : Json} {n : NetworkInterface}
    (h : decode j = .ok n) : n.Canonical := by
  obtain ⟨members, rfl, hb⟩ := Record.decodeOpen_eq_ok h
  simp only [Ranked.ap_eq_ok, Ranked.map_eq_ok] at hb
  obtain ⟨_, extra, ⟨_, _, ⟨_, -, rfl⟩, -, rfl⟩, hx, rfl⟩ := hb
  cases hx
  exact Record.beside_extra _ _ members

theorem ComputeInstance.canonical_of_decode {j : Json} {i : ComputeInstance}
    (h : decode j = .ok i) : i.Canonical := by
  obtain ⟨members, rfl, hb⟩ := Record.decodeOpen_eq_ok h
  simp only [Ranked.ap_eq_ok, Ranked.map_eq_ok] at hb
  obtain ⟨_, extra, ⟨_, _, ⟨_, _, ⟨_, interfaces, ⟨_, _, ⟨_, _, ⟨_, _, ⟨_, _, ⟨_, _, ⟨_, _, ⟨_, -,
    rfl⟩, -, rfl⟩, -, rfl⟩, -, rfl⟩, -, rfl⟩, -, rfl⟩, -, rfl⟩, hinterfaces, rfl⟩, -, rfl⟩, -, rfl⟩,
    hx, rfl⟩ := hb
  cases hx
  refine ⟨fun n hn => ?_, Record.beside_extra _ _ members⟩
  obtain ⟨j, hj⟩ := Record.required_eq_ok hinterfaces
  obtain ⟨j, hj⟩ := Json.mem_of_asList hj n hn
  exact NetworkInterface.canonical_of_decode hj

theorem NetworkInterface.decode_encode {n : NetworkInterface} (h : n.Canonical) :
    decode (n.encode .ofFields) = .ok n := by
  have hn : fields.Nodup := by decide
  exact Record.decodeOpen_of_ok <| Ranked.ap_ok (Ranked.ap_ok
    (Ranked.map_ok _ (Record.text_record hn h rfl (by simp)))
    (Record.text_record hn h rfl (by simp)))
    (congrArg Ranked.ok (Record.extra_record h rfl))

theorem ComputeInstance.decode_encode {i : ComputeInstance} (h : i.Canonical) :
    decode (i.encode .ofFields) = .ok i := by
  have hn : fields.Nodup := by decide
  have hany (j : Json) : Json.asAny j = .ok j := rfl
  have hinterfaces : Json.asList NetworkInterface.decode
      (.array (i.networkInterfaces.map (NetworkInterface.encode .ofFields))) =
        .ok i.networkInterfaces :=
    Json.asList_map fun n hmem => NetworkInterface.decode_encode (h.interfaces n hmem)
  exact Record.decodeOpen_of_ok <| Ranked.ap_ok (Ranked.ap_ok (Ranked.ap_ok (Ranked.ap_ok
    (Ranked.ap_ok (Ranked.ap_ok (Ranked.ap_ok (Ranked.ap_ok (Ranked.ap_ok (Ranked.ap_ok
      (Ranked.map_ok _ (Record.text_record hn h.extra rfl (by simp)))
      (Record.text_record hn h.extra rfl (by simp)))
      (Record.text_record hn h.extra rfl (by simp)))
      (Record.text_record hn h.extra rfl (by simp)))
      (Record.text_record hn h.extra rfl (by simp)))
      (Record.required_record hn h.extra rfl (by simp) (hany i.tags)))
      (Record.required_record hn h.extra rfl (by simp) (hany i.scheduling)))
      (Record.required_record hn h.extra rfl (by simp [Json.Field.list]) hinterfaces))
      (Record.text_record hn h.extra rfl (by simp)))
      (Record.text_record hn h.extra rfl (by simp)))
    (congrArg Ranked.ok (Record.extra_record h.extra rfl))

/-! Operations and pages. -/

theorem Operation.progress_of_decode {j : Json} {o : Operation} (h : decode j = .ok o) :
    o.progress ≤ Numeral.word32Limit := by
  obtain ⟨source, hb⟩ := Record.decode_eq_ok h
  simp only [Ranked.ap_eq_ok, Ranked.map_eq_ok] at hb
  obtain ⟨_, _, ⟨_, _, ⟨_, _, ⟨_, _, ⟨_, progress, ⟨_, _, ⟨_, _, ⟨_, _, ⟨_, _, ⟨_, _, ⟨_, _, ⟨_,
    _, ⟨_, -, rfl⟩, -, rfl⟩, -, rfl⟩, -, rfl⟩, -, rfl⟩, -, rfl⟩, -, rfl⟩, -, rfl⟩, hprogress,
    rfl⟩, -, rfl⟩, -, rfl⟩, -, rfl⟩, -, rfl⟩ := hb
  obtain ⟨j, hj⟩ := Record.required_eq_ok hprogress
  exact Json.le_of_asNatural (show Json.asNatural _ _ j = .ok progress from hj)

theorem Operation.decode_encode {o : Operation} (h : o.progress ≤ Numeral.word32Limit) :
    decode (o.encode .ofFields) = .ok o := by
  have hn : fields.Nodup := by decide
  have he : Beside fields [] := .nil _
  have hprogress : Json.asWord32 (.ofNat o.progress) = .ok o.progress := Json.asNatural_ofNat _ h
  exact Record.decode_of_ok <| Ranked.ap_ok (Ranked.ap_ok (Ranked.ap_ok (Ranked.ap_ok (Ranked.ap_ok
    (Ranked.ap_ok (Ranked.ap_ok (Ranked.ap_ok (Ranked.ap_ok (Ranked.ap_ok (Ranked.ap_ok (Ranked.ap_ok
      (Ranked.map_ok _ (Record.text_record hn he rfl (by simp)))
      (Record.text_record hn he rfl (by simp)))
      (Record.text_record hn he rfl (by simp)))
      (Record.text_record hn he rfl (by simp)))
      (Record.text_record hn he rfl (by simp)))
      (Record.text_record hn he rfl (by simp)))
      (Record.text_record hn he rfl (by simp)))
      (Record.text_record hn he rfl (by simp)))
      (Record.required_record hn he rfl (by simp) hprogress))
      (Record.text_record hn he rfl (by simp)))
      (Record.text_record hn he rfl (by simp)))
      (Record.text_record hn he rfl (by simp)))
      (Record.text_record hn he rfl (by simp))

theorem Listing.decoded_of_decode {α : Type} {item : Json → Decoding α} {j : Json} {l : Listing α}
    (h : decode item j = .ok l) : ∀ a ∈ l.items, ∃ j, item j = .ok a := by
  obtain ⟨source, hb⟩ := Record.decode_eq_ok h
  simp only [Ranked.ap_eq_ok, Ranked.map_eq_ok] at hb
  obtain ⟨_, _, ⟨items, hitems, rfl⟩, -, rfl⟩ := hb
  exact Record.mem_of_default hitems

theorem Listing.decode_encode {α : Type} {read : Json → Decoding α} {write : α → Json}
    {l : Listing α} (h : ∀ a ∈ l.items, read (write a) = .ok a) :
    decode read (l.encode .ofFields write) = .ok l := by
  have hn : fields.Nodup := by decide
  have he : Beside fields [] := .nil _
  have hitems : Record.default ⟨"ListResponse", fields, .members (Json.recordMembers
      [⟨"items", if l.items.isEmpty then none else some (.array (l.items.map write))⟩,
        .text? "nextPageToken" l.nextPageToken] [])⟩ "items" (Json.asList read) [] =
        .ok l.items := by
    have hfind : Record.find? ⟨"ListResponse", fields, .members (Json.recordMembers
        [⟨"items", if l.items.isEmpty then none else some (.array (l.items.map write))⟩,
          .text? "nextPageToken" l.nextPageToken] [])⟩ "items" =
          if l.items.isEmpty then none else some (.array (l.items.map write)) :=
      Record.find?_record hn he rfl (by simp)
    unfold Record.default
    rw [hfind]
    cases hl : l.items with
    | nil => rfl
    | cons a rest =>
      show Record.present _ "items" (Json.asList read) (.array ((a :: rest).map write)) = _
      rw [Record.present, Json.asList_map (hl ▸ h)]
  exact Record.decode_of_ok <| Ranked.ap_ok (Ranked.map_ok _ hitems)
    (Record.text?_record hn he rfl (by simp))

/-! The records within resources. -/

def NetworkInterface.levels (n : NetworkInterface) : List Json.Level := [⟨fields, n.extra⟩]

def ComputeInstance.levels (i : ComputeInstance) : List Json.Level :=
  ⟨fields, i.extra⟩ :: i.networkInterfaces.flatMap NetworkInterface.levels

theorem NetworkInterface.lossless : Json.Lossless decode encode levels fun _ => True :=
  .of_canonical (fun _ _ => canonical_of_decode) (fun _ h _ => decode_encode h)
    fun _ h _ hl => List.mem_singleton.mp hl ▸ h

theorem ComputeInstance.lossless : Json.Lossless decode encode levels fun _ => True := by
  refine .of_canonical (fun _ _ => canonical_of_decode) (fun _ h _ => decode_encode h) ?_
  intro i h l hl
  obtain hl | hl := List.mem_cons.mp hl
  · exact hl ▸ h.extra
  · obtain ⟨n, hn, hl⟩ := List.mem_flatMap.mp hl
    exact List.mem_singleton.mp hl ▸ h.interfaces n hn

theorem Operation.lossless : Json.Lossless decode encode (fun _ => []) fun _ => True :=
  .closed fun _ _ h _ => decode_encode (progress_of_decode h)

/-- A page is read back wherever its items are. -/
theorem Listing.lossless {α : Type} {read : Json → Decoding α} {write : Json.Assembly → α → Json}
    {levels : α → List Json.Level} {readable : α → Prop}
    (h : Json.Lossless read write levels readable) :
    Json.Lossless (decode read) (fun assemble => encode assemble (write assemble))
      (fun l => l.items.flatMap levels) fun l => ∀ a ∈ l.items, readable a := by
  have hagain : ∀ v l, decode read v = .ok l → (∀ a ∈ l.items, readable a) →
      decode read (l.encode .ofFields (write .ofFields)) = .ok l := by
    intro v l hl hread
    refine decode_encode fun a ha => ?_
    obtain ⟨j, hj⟩ := decoded_of_decode hl a ha
    exact h.decodes_again j a hj (hread a ha)
  refine ⟨hagain, ?_, ?_⟩
  · intro v w hv hread
    obtain ⟨l, hl, rfl⟩ := Except.map_eq_ok.mp hv
    rw [hagain v l hl (hread l hl)]
    rfl
  · intro v l hl k hk
    obtain ⟨a, ha, hk⟩ := List.mem_flatMap.mp hk
    obtain ⟨j, hj⟩ := decoded_of_decode hl a ha
    exact h.apart j a hj k hk

end CloudEmulation.Google
