import CloudEmulation.Oracle.Service
import CloudEmulation.Proofs.Json.RoundTrip
import CloudEmulation.Proofs.Time.Reading
/-!
Resources as they are described, which are read back as they were written if the time of their
creation can be read.
-/

namespace CloudEmulation

open Json (Beside)

/-- Whether a point in time is read from its text. -/
def Timestamp.Readable (t : Timestamp) : Prop := parse t.text = .ok t

theorem Json.asTimestamp_ofTimestamp {t : Timestamp} (h : t.Readable) :
    asTimestamp (ofTimestamp t) = .ok t := by
  rw [ofTimestamp, asTimestamp, show Timestamp.parse t.text = .ok t from h]

namespace Oracle

structure ComputeInstance.Canonical (i : ComputeInstance) : Prop where
  tags : i.freeformTags.Sorted
  created : i.timeCreated.Readable
  extra : Beside fields i.extra

theorem LaunchDetails.canonical_of_decode {j : Json} {d : LaunchDetails} (h : decode j = .ok d) :
    d.freeformTags.Sorted ∧ Beside fields d.extra := by
  obtain ⟨members, rfl, hb⟩ := Record.decodeOpen_eq_ok h
  simp only [Ranked.ap_eq_ok, Ranked.map_eq_ok] at hb
  obtain ⟨_, extra, ⟨_, tags, ⟨_, _, ⟨_, _, ⟨_, _, ⟨_, -, rfl⟩, -, rfl⟩, -, rfl⟩, -, rfl⟩, htags,
    rfl⟩, hx, rfl⟩ := hb
  cases hx
  exact ⟨Record.sorted_of_default htags, Record.beside_extra _ _ members⟩

theorem canonical_of_describe {c : Configuration} {i : Instance} {m : ComputeInstance}
    (h : describe c i = .ok m) (ht : i.createdAt.Valid) : m.Canonical := by
  unfold describe at h
  split at h
  · rename_i d hd
    cases h
    obtain ⟨htags, hextra⟩ := LaunchDetails.canonical_of_decode hd
    exact ⟨htags, ht.parse_text, hextra.sorted.without _, fun p hp => (Dictionary.mem_without.mp hp).2⟩
  · cases h

theorem ComputeInstance.decode_encode {i : ComputeInstance} (h : i.Canonical) :
    decode (i.encode .ofFields) = .ok i := by
  have hn : fields.Nodup := by decide
  exact Record.decodeOpen_of_ok <| Ranked.ap_ok (Ranked.ap_ok (Ranked.ap_ok (Ranked.ap_ok
    (Ranked.ap_ok (Ranked.ap_ok (Ranked.ap_ok (Ranked.ap_ok (Ranked.ap_ok
      (Ranked.map_ok _ (Record.text_record hn h.extra rfl (by simp)))
      (Record.text_record hn h.extra rfl (by simp)))
      (Record.textOr_record hn h.extra rfl (by simp) _))
      (Record.textOr_record hn h.extra rfl (by simp) _))
      (Record.text?_record hn h.extra rfl (by simp)))
      (Record.textOr_record hn h.extra rfl (by simp) _))
      (Record.map_record hn h.extra rfl h.tags (by simp)))
      (Record.text_record hn h.extra rfl (by simp)))
      (Record.required_record hn h.extra rfl (by simp) (Json.asTimestamp_ofTimestamp h.created)))
    (congrArg Ranked.ok (Record.extra_record h.extra rfl))

theorem ComputeInstance.canonical_of_decode {j : Json} {i : ComputeInstance}
    (h : decode j = .ok i) : i.freeformTags.Sorted ∧ Beside fields i.extra := by
  obtain ⟨members, rfl, hb⟩ := Record.decodeOpen_eq_ok h
  simp only [Ranked.ap_eq_ok, Ranked.map_eq_ok] at hb
  obtain ⟨_, extra, ⟨_, _, ⟨_, _, ⟨_, tags, ⟨_, _, ⟨_, _, ⟨_, _, ⟨_, _, ⟨_, _, ⟨_, -, rfl⟩, -, rfl⟩,
    -, rfl⟩, -, rfl⟩, -, rfl⟩, -, rfl⟩, htags, rfl⟩, -, rfl⟩, -, rfl⟩, hx, rfl⟩ := hb
  cases hx
  exact ⟨Record.sorted_of_default htags, Record.beside_extra _ _ members⟩

theorem LaunchDetails.decode_encode {d : LaunchDetails} (ht : d.freeformTags.Sorted)
    (he : Beside fields d.extra) : decode (d.encode .ofFields) = .ok d := by
  have hn : fields.Nodup := by decide
  have hfields : [Json.Field.text "compartmentId" d.compartmentId,
      .text? "availabilityDomain" d.availabilityDomain, .text? "displayName" d.displayName,
      .text? "shape" d.shape, .map? "freeformTags" d.freeformTags].map Json.Field.name = fields := by
    unfold Json.Field.map?
    split <;> rfl
  exact Record.decodeOpen_of_ok <| Ranked.ap_ok (Ranked.ap_ok (Ranked.ap_ok (Ranked.ap_ok
    (Ranked.ap_ok
      (Ranked.map_ok _ (Record.text_record hn he hfields (by simp)))
      (Record.text?_record hn he hfields (by simp)))
      (Record.text?_record hn he hfields (by simp)))
      (Record.text?_record hn he hfields (by simp)))
      (Record.stringMap_record hn he hfields ht (by simp)))
    (congrArg Ranked.ok (Record.extra_record he hfields))

theorem VnicAttachment.decode_encode {a : VnicAttachment} (h : a.timeCreated.Readable) :
    decode (a.encode .ofFields) = .ok a := by
  have hn : fields.Nodup := by decide
  have he : Beside fields [] := .nil _
  exact Record.decode_of_ok <| Ranked.ap_ok (Ranked.ap_ok (Ranked.ap_ok (Ranked.ap_ok (Ranked.ap_ok
    (Ranked.ap_ok
      (Ranked.map_ok _ (Record.text_record hn he rfl (by simp)))
      (Record.text_record hn he rfl (by simp)))
      (Record.text_record hn he rfl (by simp)))
      (Record.text_record hn he rfl (by simp)))
      (Record.textOr_record hn he rfl (by simp) _))
      (Record.text_record hn he rfl (by simp)))
      (Record.required_record hn he rfl (by simp) (Json.asTimestamp_ofTimestamp h))

theorem Vnic.decode_encode {v : Vnic} (h : v.timeCreated.Readable) :
    decode (v.encode .ofFields) = .ok v := by
  have hn : fields.Nodup := by decide
  have he : Beside fields [] := .nil _
  have hprimary : Json.asBool (.bool v.isPrimary) = .ok v.isPrimary := rfl
  exact Record.decode_of_ok <| Ranked.ap_ok (Ranked.ap_ok (Ranked.ap_ok (Ranked.ap_ok (Ranked.ap_ok
    (Ranked.ap_ok (Ranked.ap_ok
      (Ranked.map_ok _ (Record.text_record hn he rfl (by simp)))
      (Record.text_record hn he rfl (by simp)))
      (Record.textOr_record hn he rfl (by simp) _))
      (Record.textOr_record hn he rfl (by simp) _))
      (Record.text_record hn he rfl (by simp)))
      (Record.default_record hn he rfl (by simp) hprimary))
      (Record.text_record hn he rfl (by simp)))
      (Record.required_record hn he rfl (by simp) (Json.asTimestamp_ofTimestamp h))

/-! The records within resources. -/

def LaunchDetails.levels (d : LaunchDetails) : List Json.Level := [⟨fields, d.extra⟩]

def ComputeInstance.levels (i : ComputeInstance) : List Json.Level := [⟨fields, i.extra⟩]

theorem LaunchDetails.lossless : Json.Lossless decode encode levels fun _ => True :=
  .of_canonical (fun _ _ => canonical_of_decode) (fun _ h _ => decode_encode h.1 h.2)
    fun _ h _ hl => List.mem_singleton.mp hl ▸ h.2

theorem ComputeInstance.lossless :
    Json.Lossless decode encode levels fun i => i.timeCreated.Readable :=
  .of_canonical (fun _ _ => canonical_of_decode) (fun _ h ht => decode_encode ⟨h.1, ht, h.2⟩)
    fun _ h _ hl => List.mem_singleton.mp hl ▸ h.2

theorem VnicAttachment.lossless :
    Json.Lossless decode encode (fun _ => []) fun a => a.timeCreated.Readable :=
  .closed fun _ _ _ ht => decode_encode ht

theorem Vnic.lossless : Json.Lossless decode encode (fun _ => []) fun v => v.timeCreated.Readable :=
  .closed fun _ _ _ ht => decode_encode ht

end Oracle

end CloudEmulation
