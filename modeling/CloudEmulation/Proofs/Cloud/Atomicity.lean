import CloudEmulation.Proofs.Cloud.Addresses
/-!
Requests are all or nothing: one that fails or only reads changes nothing that can be seen later, and
one that creates adds one record at the end of one scope.
-/

namespace CloudEmulation

/-- Whether a request is routed to the creation of an instance. -/
def Provider.Creates (p : Provider) (r : Http.Request) : Prop :=
  ∃ params, p.Routed r .create p.machines params

namespace CloudState

/-- At most identifiers were drawn: no later call of the pool tells two states apart. -/
structure Unchanged (s s' : CloudState) : Prop where
  instances : s'.instances = s.instances
  locators : s'.locators = s.locators
  held : ∀ a, a ∈ s'.pool.held ↔ a ∈ s.pool.held
  answers : ∀ calls, s'.pool.answers calls = s.pool.answers calls

/-- A record and its addresses are new, and with an Oracle record the two locators that lead to it;
all others stay as they are. -/
structure Gained (s : CloudState) (scope : Scope) (i : Instance) (s' : CloudState) : Prop where
  here : s'.instances.list scope = s.instances.list scope ++ [i]
  elsewhere : ∀ other, other ≠ scope → s'.instances.list other = s.instances.list other
  locators : scope.provider ≠ .oracle → s'.locators = s.locators
  located : scope.provider = .oracle → ∃ nic, i.nics = [nic] ∧
    s'.locators.list Oracle.tenancy = s.locators.list Oracle.tenancy ++
      [⟨i.identity, scope, none⟩, ⟨nic.id, scope, some i.identity⟩] ∧
    ∀ other, other ≠ Oracle.tenancy → s'.locators.list other = s.locators.list other
  fresh : i.addresses.Nodup ∧ ∀ a ∈ i.addresses, a ∉ s.pool.held
  held : ∀ a, a ∈ s'.pool.held ↔ a ∈ s.pool.held ∨ a ∈ i.addresses

variable {c : Configuration} {s s' : CloudState} {scope : Scope} {i : Instance}

theorem Takes.unchanged (hp : s.pool.Valid) (h : s.Kept s') : s.Unchanged s' where
  instances := h.instances
  locators := h.locators
  held := by simpa using h.pool.held
  answers := AddressPool.answers_same h.pool.same hp h.pool.valid

theorem Added.gained (h : Added c s scope i s') : s.Gained scope i s' where
  here := by rw [h.instances, Store.list_append, if_pos rfl]
  elsewhere other ho := by
    rw [h.instances, Store.list_append, if_neg (Ne.symm ho), List.append_nil]
  locators hn := by
    have hl : scope.located i = [] := by
      cases scope with
      | oracle compartment => exact absurd rfl hn
      | _ => rfl
    have he := h.locators
    rw [hl, List.map_nil, List.append_nil] at he
    exact Store.eq_of_entries he
  located ho := by
    have hm := h.made
    cases hm with
    | google => cases ho
    | azure => cases ho
    | @oracle now body d id vnic attachment a hd =>
      refine ⟨⟨vnic, some attachment, "primary", a⟩, rfl, ?_, ?_⟩
      · rw [h.list_locators, if_pos rfl]
        rfl
      · intro other hother
        rw [h.list_locators, if_neg hother, List.append_nil]
  fresh := ⟨h.pool.nodup, fun a ha => (h.pool.free a ha).2⟩
  held := h.pool.held

end CloudState

namespace Cloud

variable {config : Configuration} {c : Cloud}

theorem respond_all_or_nothing (h : Reachable config c) (p : Provider) (now : Timestamp)
    (r : Http.Request) :
    (c.respond p now r).2.config = c.config ∧
    ((c.respond p now r).1.isSuccess = false ∨ r.method = "GET" →
      c.state.Unchanged (c.respond p now r).2.state) ∧
    ((c.respond p now r).1.isSuccess = true → p.Creates r →
      ∃ scope i, scope.provider = p ∧ c.state.Gained scope i (c.respond p now r).2.state) ∧
    ((c.respond p now r).1.isSuccess = true → r.method = "GET" ∨ p.Creates r) := by
  obtain ⟨rfl, hs, -⟩ := h.consistent
  have ho := Provider.outcome hs p now r
  refine ⟨rfl, ?_⟩
  generalize hx : ((p.emulator c.config).respond now r).run c.state = out at ho
  have h₁ : (c.respond p now r).1 = out.1 := congrArg Prod.fst hx
  have h₂ : (c.respond p now r).2.state = out.2 := congrArg Prod.snd hx
  rw [h₁, h₂]
  cases ho with
  | kept hor hn hk =>
    refine ⟨fun _ => hk.unchanged hs.pool, ?_, ?_⟩
    · rintro hsucc ⟨params, route, hr, hv, -⟩
      rcases hor with hf | hg
      · rw [hf] at hsucc
        cases hsucc
      · exact absurd hv ((Provider.get_iff hr).mp hg)
    · intro hsucc
      rcases hor with hf | hg
      · rw [hf] at hsucc
        cases hsucc
      · exact .inl hg
  | @added route params scope i hr hv hg hsucc hprov hn ha =>
    refine ⟨?_, fun _ _ => ⟨scope, i, hprov, ha.gained⟩, fun _ => .inr ?_⟩
    · rintro (hf | hget)
      · rw [hf] at hsucc
        cases hsucc
      · exact absurd hget hg
    · exact ⟨params, route, hr, hv, p.routes_create route (Provider.mem_routes hr).1 hv⟩

/-- Listing a zone in which a name was refused that is taken. -/
theorem respond_unchanged_of_listing :
    let body := Json.object [("name", .string "web")]
    let c := initial.after [(⟨0, 0⟩, .insert "shop" "eu" body), (⟨1, 0⟩, .insert "shop" "eu" body)]
    c.state.Unchanged (c.respond .google ⟨2, 0⟩ ⟨"GET", ⟨"https", none, .segments
      ["compute", "v1", "projects", "shop", "zones", "eu", "instances"], none, none⟩, [],
      none⟩).2.state :=
  (respond_all_or_nothing (reachable_initial _) .google ⟨2, 0⟩ _).2.1 (.inr rfl)

end Cloud

end CloudEmulation
