import CloudEmulation.Proofs.Cloud.Addresses
import CloudEmulation.Proofs.Google.Answers
import CloudEmulation.Proofs.Network.Hosts
/-!
Which lists of interfaces get their addresses. Interfaces are connected in the order in which they
are listed, so that one without an address of its own may get the address that a later one asks for.
-/

namespace CloudEmulation.Google

variable {p q : AddressPool} {requests rest before : List (Option Address)} {a b : Address}

/-- The addresses that interfaces ask for. -/
def asked (requests : List (Option Address)) : List Address := requests.filterMap id

/-- The free hosts below an address for which no interface listed before asks. -/
def lowerHosts (p : AddressPool) (before : List (Option Address)) (a : Address) : List Address :=
  p.freeHosts.filter fun b => b.number < a.number ∧ some b ∉ before

/-- Whether the next interface without an address of its own leaves one to a later interface: not
all hosts below it are gone. -/
def Spares (p : AddressPool) (before : List (Option Address)) (a : Address) : Prop :=
  before.count none < (lowerHosts p before a).length

/-- Whether all interfaces of a list get an address. -/
structure Connectable (p : AddressPool) (requests : List (Option Address)) : Prop where
  distinct : (asked requests).Nodup
  free : ∀ a ∈ asked requests, p.Free a
  enough : requests.length ≤ p.freeHosts.length
  spared : ∀ before rest, requests = before ++ none :: rest → ∀ a ∈ asked rest, Spares p before a

theorem mem_asked : a ∈ asked requests ↔ some a ∈ requests := by
  simp [asked]

theorem connectable_nil (p : AddressPool) : Connectable p [] where
  distinct := .nil
  free := nofun
  enough := Nat.zero_le _
  spared before rest h := by
    cases before <;> cases h

theorem free_asked_iff (h : p.Grown [a] q) :
    (∀ b ∈ asked rest, q.Free b) ↔ (∀ b ∈ asked rest, p.Free b) ∧ a ∉ asked rest := by
  constructor
  · intro k
    refine ⟨fun b hb => (h.free_iff.mp (k b hb)).1, fun hm => ?_⟩
    exact (h.free_iff.mp (k a hm)).2 (List.mem_singleton_self a)
  · rintro ⟨k, hnot⟩ b hb
    exact h.free_iff.mpr ⟨k b hb, fun he => hnot (List.mem_singleton.mp he ▸ hb)⟩

theorem enough_iff (h : p.Grown [a] q) (request : Option Address) :
    (request :: rest).length ≤ p.freeHosts.length ↔ rest.length ≤ q.freeHosts.length := by
  rw [h.length_freeHosts, List.length_cons, Nat.succ_le_succ_iff]

/-! An interface that gets the address it asks for. -/

theorem lowerHosts_some (h : p.Grown [a] q) (before : List (Option Address)) (b : Address) :
    lowerHosts p (some a :: before) b = lowerHosts q before b := by
  rw [lowerHosts, lowerHosts, h.freeHosts, List.filter_filter]
  refine List.filter_congr fun c _ => ?_
  simp only [List.mem_cons, Option.some.injEq, not_or, List.not_mem_nil, or_false]
  by_cases hc : c = a <;> simp [hc]

theorem spares_some (h : p.Grown [a] q) :
    Spares p (some a :: before) b ↔ Spares q before b := by
  rw [Spares, Spares, lowerHosts_some h, List.count_cons_of_ne (by simp)]

theorem connectable_some (h : p.Grown [a] q) :
    Connectable p (some a :: rest) ↔ Connectable q rest := by
  constructor
  · intro k
    obtain ⟨hnot, hdistinct⟩ := List.nodup_cons.mp k.distinct
    have hfree : ∀ b ∈ asked rest, p.Free b := fun b hb => k.free b (List.mem_cons_of_mem _ hb)
    refine ⟨hdistinct, (free_asked_iff h).mpr ⟨hfree, hnot⟩, (enough_iff h _).mp k.enough, ?_⟩
    rintro before rest rfl b hb
    exact (spares_some h).mp (k.spared (some a :: before) rest rfl b hb)
  · intro k
    obtain ⟨hfree, hnot⟩ := (free_asked_iff h).mp k.free
    refine ⟨List.nodup_cons.mpr ⟨hnot, k.distinct⟩, ?_, (enough_iff h _).mpr k.enough, ?_⟩
    · exact List.forall_mem_cons.mpr ⟨h.free a (List.mem_singleton_self a), hfree⟩
    · intro before rest' he b hb
      cases before with
      | nil => cases he
      | cons x before =>
        cases he
        exact (spares_some h).mpr (k.spared before rest' rfl b hb)

/-! An interface that gets the lowest free host. -/

theorem spares_nil (h : p.freeHosts = a :: q.freeHosts) (hlt : a.number < b.number) :
    Spares p [] b := by
  refine List.length_pos_of_mem (a := a) ?_
  rw [lowerHosts, List.mem_filter, h]
  simpa using hlt

theorem lt_of_spares_nil (hl : ∀ c, p.Free c → a.number ≤ c.number) (h : Spares p [] b) :
    a.number < b.number := by
  obtain ⟨c, hc⟩ := List.exists_mem_of_length_pos (Nat.zero_lt_of_lt h)
  obtain ⟨hfree, hlt⟩ := List.mem_filter.mp hc
  have hle := hl c (AddressPool.mem_freeHosts.mp hfree)
  have hlt := (of_decide_eq_true hlt).1
  omega

theorem spares_none (h : p.freeHosts = a :: q.freeHosts) (hlt : a.number < b.number)
    (hnot : some a ∉ before) : Spares p (none :: before) b ↔ Spares q before b := by
  have hlower : lowerHosts p (none :: before) b = a :: lowerHosts q before b := by
    rw [lowerHosts, lowerHosts, h, List.filter_cons_of_pos (by simp [hlt, hnot])]
    simp
  rw [Spares, Spares, hlower, List.count_cons_self, List.length_cons]
  omega

/-- Where all later interfaces ask for higher addresses, the lowest host is left to none of them. -/
theorem spared_none_iff (h : p.freeHosts = a :: q.freeHosts)
    (hlater : ∀ b ∈ asked rest, a.number < b.number) :
    (∀ before rest', none :: rest = before ++ none :: rest' →
        ∀ b ∈ asked rest', Spares p before b) ↔
      ∀ before rest', rest = before ++ none :: rest' → ∀ b ∈ asked rest', Spares q before b := by
  have hspares {before rest' : List (Option Address)} (he : rest = before ++ none :: rest')
      {b : Address} (hb : b ∈ asked rest') : Spares p (none :: before) b ↔ Spares q before b := by
    subst he
    have hmem : b ∈ asked (before ++ none :: rest') :=
      mem_asked.mpr (List.mem_append_right _ (List.mem_cons_of_mem _ (mem_asked.mp hb)))
    refine spares_none h (hlater b hmem) fun hm => ?_
    exact Nat.lt_irrefl _ (hlater a (mem_asked.mpr (List.mem_append_left _ hm)))
  constructor
  · intro k before rest' he b hb
    exact (hspares he hb).mp (k (none :: before) rest' (congrArg (none :: ·) he) b hb)
  · intro k before rest' he b hb
    cases before with
    | nil =>
      cases he
      exact spares_nil h (hlater b hb)
    | cons x before =>
      cases he
      exact (hspares rfl hb).mpr (k before rest' rfl b hb)

theorem lt_of_not_asked (hl : ∀ b, p.Free b → a.number ≤ b.number)
    (hfree : ∀ b ∈ asked rest, p.Free b) (hnot : a ∉ asked rest) :
    ∀ b ∈ asked rest, a.number < b.number := by
  intro b hb
  refine Nat.lt_of_le_of_ne (hl b (hfree b hb)) fun he => hnot ?_
  have hab : a = b := congrArg Address.mk he
  exact hab ▸ hb

theorem connectable_none (h : p.Grown [a] q) (hl : ∀ b, p.Free b → a.number ≤ b.number) :
    Connectable p (none :: rest) ↔ Connectable q rest := by
  have hhosts := h.freeHosts_lowest hl
  constructor
  · intro k
    have hlater : ∀ b ∈ asked rest, a.number < b.number := fun b hb =>
      lt_of_spares_nil hl (k.spared [] rest rfl b hb)
    have hnot : a ∉ asked rest := fun hm => Nat.lt_irrefl _ (hlater a hm)
    exact ⟨k.distinct, (free_asked_iff h).mpr ⟨k.free, hnot⟩, (enough_iff h _).mp k.enough,
      (spared_none_iff hhosts hlater).mp k.spared⟩
  · intro k
    obtain ⟨hfree, hnot⟩ := (free_asked_iff h).mp k.free
    have hlater := lt_of_not_asked hl hfree hnot
    exact ⟨k.distinct, hfree, (enough_iff h _).mpr k.enough,
      (spared_none_iff hhosts hlater).mpr k.spared⟩

/-! Connecting. -/

variable {s : CloudState} {nics : List Nic}

/-- An interface that gets its address leaves the question to the rest of the list. -/
theorem connect_ok_of_assigned {request : Option Address} {index : Nat} {x : Address}
    {s₁ s₂ : CloudState} {id : String} (h₁ : s.assign request = (.ok x, s₁))
    (h₂ : s₁.draw (·.digits 19) = (id, s₂)) :
    (∃ nics s', connect s index (request :: rest) = (.ok nics, s')) ↔
      ∃ nics s', connect s₂ (index + 1) rest = (.ok nics, s') := by
  constructor
  · rintro ⟨nics, s', hx⟩
    cases h₃ : connect s₂ (index + 1) rest with
    | mk r s₃ =>
      cases r with
      | ok nics => exact ⟨nics, s₃, rfl⟩
      | error f =>
        rw [connect_of_disconnected h₁ h₂ h₃] at hx
        cases hx
  · rintro ⟨nics, s₃, h₃⟩
    exact ⟨_, s₃, connect_of_connected h₁ h₂ h₃⟩

theorem connect_ne_ok_of_refused {request : Option Address} {index : Nat} {f : Fault}
    {s₁ : CloudState} (h₁ : s.assign request = (.error f, s₁)) :
    ¬∃ nics s', connect s index (request :: rest) = (.ok nics, s') := by
  rintro ⟨nics, s', hx⟩
  rw [connect_of_refused h₁] at hx
  cases hx

theorem connect_ok_iff (hp : s.pool.Valid) (index : Nat) :
    (∃ nics s', connect s index requests = (.ok nics, s')) ↔ Connectable s.pool requests := by
  induction requests generalizing s index with
  | nil => exact ⟨fun _ => connectable_nil _, fun _ => ⟨[], s, rfl⟩⟩
  | cons request rest ih =>
    have hnext {x : Address} {s₁ : CloudState} (h₁ : s.assign request = (.ok x, s₁))
        (hv : s₁.pool.Valid) : (∃ nics s', connect s index (request :: rest) = (.ok nics, s')) ↔
          Connectable s₁.pool rest := by
      rcases h₂ : s₁.draw (·.digits 19) with ⟨id, s₂⟩
      have hpool := CloudState.pool_draw h₂
      rw [connect_ok_of_assigned h₁ h₂, ih (hpool ▸ hv), hpool]
    cases request with
    | some a =>
      obtain ⟨q, hq, hfree, hg⟩ | ⟨reason, hq, hfree⟩ := AddressPool.reserve_cases hp a
      · have h₁ : s.assign (some a) = (.ok a, { s with pool := q }) := by
          simp only [CloudState.assign, CloudState.reserve, hq, Except.map]
        rw [hnext h₁ hg.valid, connectable_some hg]
      · have h₁ : s.assign (some a) = (.error (.invalidArgument reason), s) := by
          simp only [CloudState.assign, CloudState.reserve, hq, Except.map]
        refine iff_of_false (connect_ne_ok_of_refused h₁) fun k => hfree (k.free a ?_)
        exact List.mem_cons_self
    | none =>
      obtain ⟨a, q, hq, -, hl, hg⟩ | ⟨q, hq, hn, -⟩ := AddressPool.allocate_cases hp
      · have h₁ : s.assign none = (.ok a, { s with pool := q }) := by
          simp only [CloudState.assign, CloudState.allocate, hq]
        rw [hnext h₁ hg.valid, connectable_none hg hl]
      · have h₁ : s.assign none = (.error (.exhausted s.pool.cidr), { s with pool := q }) := by
          simp only [CloudState.assign, CloudState.allocate, hq]
        refine iff_of_false (connect_ne_ok_of_refused h₁) fun k => ?_
        have henough := k.enough
        rw [AddressPool.freeHosts_eq_nil.mpr hn] at henough
        cases henough

/-- Each interface has the address that it asks for. -/
theorem Connected.address {index i : Nat} (h : Connected index requests nics)
    (hi : requests[i]? = some (some a)) : (nics[i]?).map Nic.address = some a := by
  induction h generalizing i with
  | nil => cases hi
  | cons haddress _ _ _ ih =>
    cases i with
    | zero =>
      rw [List.getElem?_cons_zero, Option.some.injEq] at hi
      rw [List.getElem?_cons_zero, Option.map_some, haddress a hi]
    | succ i => exact ih hi

theorem Draft.create_ok_iff (hp : s.pool.Valid) {d : Draft}
    (hv : s.instances.has d.scope d.request.name = false) :
    (∃ i, (d.create s).1 = .ok i) ↔ Connectable s.pool d.addresses := by
  rw [← connect_ok_iff hp 0]
  simp only [create, CloudState.vacant_of_not_has hv]
  cases hx : connect s 0 d.addresses with
  | mk r s' =>
    cases r with
    | ok nics => exact iff_of_true ⟨_, rfl⟩ ⟨nics, s', rfl⟩
    | error f =>
      refine iff_of_false ?_ ?_
      · rintro ⟨i, h⟩
        cases h
      · rintro ⟨nics, s₁, h⟩
        cases h

theorem Draft.connected_create (hp : s.pool.Valid) {d : Draft} {i : Instance} {s' : CloudState}
    (h : d.create s = (.ok i, s')) : Connected 0 d.addresses i.nics := by
  cases hv : s.vacant d.scope d.request.name with
  | error f =>
    simp only [create, hv] at h
    cases h
  | ok u =>
    obtain ⟨nics, s₁, h₁, hc, -⟩ | ⟨f, s₁, h₁, -, -⟩ := connect_cases hp 0 d.addresses
    · simp only [create, hv, h₁] at h
      cases h
      exact hc
    · simp only [create, hv, h₁] at h
      cases h

theorem networkIP_describe {project : String} {i : Instance} {index : Nat}
    (h : (i.nics[index]?).map Nic.address = some a) :
    ((describe project i).networkInterfaces[index]?).map NetworkInterface.networkIP =
      some a.text := by
  obtain ⟨nic, hn, rfl⟩ := Option.map_eq_some_iff.mp h
  simp [describe, describeInterfaces, describeInterface, List.getElem?_mapIdx, hn]

theorem insert_of_draft {config : Configuration} {now : Timestamp} {project zone : String}
    {body : Json} {d : Draft} (hd : Draft.ofBody config now project zone body = .ok d) :
    ((insert config now project zone body).exec s).1 = (d.create s).1.map (describe project) := by
  unfold insert
  rw [hd, Handler.exec_bind_liftExcept_ok]
  cases hx : d.create s with
  | mk r s' =>
    cases r with
    | ok i =>
      rw [Handler.exec_bind_atomically_ok _ hx]
      rfl
    | error f =>
      rw [Handler.exec_bind_atomically_error _ hx]
      rfl

/-- Where the name is free, an insertion succeeds if the addresses asked for are free and differ,
there are hosts for all interfaces, and no interface before one that asks for an address gets it.
Then each interface has the address that it asks for. -/
theorem insert_succeeds_iff {config : Configuration} {c : Cloud}
    (h : Cloud.Reachable config c) (now : Timestamp) {project zone : String} {body : Json}
    {request : InsertRequest} {addresses : List (Option Address)}
    (hbody : InsertRequest.decode body = .ok request) (hname : request.name ≠ "")
    (haddresses : requestedAddresses request.extra = .ok addresses)
    (hnew : c.state.instances.has (.google project zone) request.name = false) :
    let result := ((insert c.config now project zone body).exec c.state).1
    ((∃ i, result = .ok i) ↔ Connectable c.state.pool addresses) ∧
    ((∀ before rest, addresses = before ++ none :: rest → asked rest = []) →
      ((∃ i, result = .ok i) ↔ (asked addresses).Nodup ∧
        (∀ a ∈ asked addresses, c.state.pool.Free a) ∧
        addresses.length ≤ c.state.pool.freeHosts.length)) ∧
    ∀ i, result = .ok i → ∀ (index : Nat) a, addresses[index]? = some (some a) →
      (i.networkInterfaces[index]?).map NetworkInterface.networkIP = some a.text := by
  intro result
  have hp := h.consistent.sound.pool
  let d : Draft := ⟨project, zone, request, addresses, c.config.initialStatus, now⟩
  have hd : Draft.ofBody c.config now project zone body = .ok d := by
    simp only [Draft.ofBody, hbody, if_neg hname, haddresses]
    rfl
  have hresult : result = (d.create c.state).1.map (describe project) := insert_of_draft hd
  have hsuccess : (∃ i, result = .ok i) ↔ Connectable c.state.pool addresses := by
    rw [← Draft.create_ok_iff (d := d) hp hnew, hresult]
    cases (d.create c.state).1 <;> simp [Except.map]
  refine ⟨hsuccess, fun hfirst => ?_, ?_⟩
  · rw [hsuccess]
    constructor
    · exact fun k => ⟨k.distinct, k.free, k.enough⟩
    · rintro ⟨hdistinct, hfree, henough⟩
      refine ⟨hdistinct, hfree, henough, fun before rest he a ha => ?_⟩
      rw [hfirst before rest he] at ha
      cases ha
  · intro i hi index a ha
    cases hx : d.create c.state with
    | mk r s' =>
      rw [hresult, hx] at hi
      cases r with
      | ok created =>
        cases hi
        exact networkIP_describe ((Draft.connected_create hp hx).address ha)
      | error f => cases hi

/-- Of three interfaces the one between gets the lowest host that is free when its turn comes. -/
theorem interfaces_of_insertion :
    let ops := [(⟨0, 0⟩, Operation.insert "shop" "eu" (.object [("name", .string "db")]))]
    let c := Cloud.initial.after ops
    let ask (text : String) : Json := .object [("networkIP", .string text)]
    let body := Json.object [("name", .string "web"), ("networkInterfaces",
      .array [ask "10.0.0.3", .object [], ask "10.0.0.9"])]
    let result := ((insert c.config ⟨1, 0⟩ "shop" "eu" body).exec c.state).1
    Connectable c.state.pool [some ⟨0x0A000003⟩, none, some ⟨0x0A000009⟩] ∧
    ∃ i, result = .ok i ∧
      (i.networkInterfaces[0]?).map NetworkInterface.networkIP = some "10.0.0.3" ∧
      (i.networkInterfaces[1]?).map NetworkInterface.networkIP = some "10.0.0.4" ∧
      (i.networkInterfaces[2]?).map NetworkInterface.networkIP = some "10.0.0.9" := by
  intro ops c ask body result
  let extra : Json.Members :=
    [("networkInterfaces", .array [ask "10.0.0.3", .object [], ask "10.0.0.9"])]
  have hbody : InsertRequest.decode body = .ok ⟨"web", extra⟩ := rfl
  have haddresses : requestedAddresses extra =
      .ok [some ⟨0x0A000003⟩, none, some ⟨0x0A000009⟩] := by decide +kernel
  have hnew : c.state.instances.has (.google "shop" "eu") "web" = false := by decide +kernel
  have hfound : result.toOption.map (fun i => (i.networkInterfaces[1]?).map (·.networkIP)) =
      some (some "10.0.0.4") := by decide +kernel
  obtain ⟨hsuccess, -, haddress⟩ := insert_succeeds_iff (Cloud.reachable_initial ops) ⟨1, 0⟩ hbody
    (by decide) haddresses hnew
  cases hresult : result with
  | error f =>
    rw [hresult] at hfound
    cases hfound
  | ok i =>
    rw [hresult] at hfound
    refine ⟨hsuccess.mp ⟨i, hresult⟩, i, rfl, ?_, Option.some.inj hfound, ?_⟩
    · rw [haddress i hresult 0 _ rfl]
      decide +kernel
    · rw [haddress i hresult 2 _ rfl]
      decide +kernel

/-- An interface that is listed first may get the address that the second asks for, so that the
order of the two decides. -/
theorem order_of_interfaces :
    let c := Cloud.initial
    let ask : Json := .object [("networkIP", .string "10.0.0.2")]
    let extra (entries : List Json) : Json.Members := [("networkInterfaces", .array entries)]
    let body (entries : List Json) : Json := .object (("name", .string "web") :: extra entries)
    let created (entries : List Json) : Bool :=
      ((insert c.config ⟨0, 0⟩ "shop" "eu" (body entries)).exec c.state).1.isOk
    Cloud.Reachable .standard c ∧
    InsertRequest.decode (body [.object [], ask]) = .ok ⟨"web", extra [.object [], ask]⟩ ∧
    requestedAddresses (extra [.object [], ask]) = .ok [none, some ⟨0x0A000002⟩] ∧
    c.state.instances.has (.google "shop" "eu") "web" = false ∧
    (asked [none, some ⟨0x0A000002⟩]).Nodup ∧
    (∀ a ∈ asked [none, some ⟨0x0A000002⟩], c.state.pool.Free a) ∧
    2 ≤ c.state.pool.freeHosts.length ∧
    created [.object [], ask] = false ∧ created [ask, .object []] = true := by
  intro c ask extra body created
  have hfree : c.state.pool.Free ⟨0x0A000002⟩ := by
    constructor <;> decide +kernel
  refine ⟨Cloud.reachable_initial [], rfl, by decide +kernel, by decide +kernel, by decide,
    fun a ha => ?_, by decide +kernel, by decide +kernel, by decide +kernel⟩
  rw [List.mem_singleton.mp ha]
  exact hfree

end CloudEmulation.Google
