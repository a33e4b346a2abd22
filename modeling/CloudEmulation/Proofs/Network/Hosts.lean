import CloudEmulation.Proofs.Network.Pool
/-!
The hosts of a pool's network in increasing order. Whatever was called before, a pool hands out the
lowest of those that nobody holds, and draining it hands out all of them.
-/

namespace CloudEmulation.AddressPool

variable {p q : AddressPool} {a : Address} {as : List Address} {n : Nat}

/-- The assignable hosts, in increasing order. -/
def hosts (p : AddressPool) : List Address :=
  (List.range' (p.network + 2) (p.broadcast - (p.network + 2))).map Address.mk

/-- The hosts that nobody holds, in increasing order. -/
def freeHosts (p : AddressPool) : List Address := p.hosts.filter (· ∉ p.held)

theorem mem_hosts : a ∈ p.hosts ↔ p.contains a = true := by
  rw [contains_iff, hosts, List.mem_map]
  constructor
  · rintro ⟨n, hn, rfl⟩
    rw [List.mem_range'_1] at hn
    show p.network + 1 < n ∧ n < p.broadcast
    omega
  · rintro ⟨hl, hu⟩
    refine ⟨a.number, ?_, rfl⟩
    rw [List.mem_range'_1]
    omega

theorem mem_freeHosts : a ∈ p.freeHosts ↔ p.Free a := by
  simp [freeHosts, mem_hosts, Free]

theorem increasing_hosts (p : AddressPool) : p.hosts.Pairwise fun a b => a.number < b.number := by
  rw [hosts, List.pairwise_map]
  exact List.pairwise_lt_range'

theorem increasing_freeHosts (p : AddressPool) :
    p.freeHosts.Pairwise fun a b => a.number < b.number :=
  p.increasing_hosts.filter _

theorem nodup_freeHosts (p : AddressPool) : p.freeHosts.Nodup := by
  refine p.increasing_freeHosts.imp fun {a b} hlt he => ?_
  rw [he] at hlt
  exact Nat.lt_irrefl _ hlt

theorem freeHosts_eq_nil : p.freeHosts = [] ↔ ∀ a, ¬p.Free a := by
  simp only [List.eq_nil_iff_forall_not_mem, mem_freeHosts]

namespace Grown

theorem freeHosts (h : p.Grown as q) : q.freeHosts = p.freeHosts.filter (· ∉ as) := by
  have hhosts : q.hosts = p.hosts := by rw [hosts, hosts, h.network, h.broadcast]
  rw [AddressPool.freeHosts, AddressPool.freeHosts, hhosts, List.filter_filter]
  refine List.filter_congr fun a _ => ?_
  simp only [h.held, not_or, Bool.decide_and, Bool.and_comm]

/-- Holding the lowest free host leaves the others. -/
theorem freeHosts_lowest (h : p.Grown [a] q) (hl : ∀ b, p.Free b → a.number ≤ b.number) :
    p.freeHosts = a :: q.freeHosts := by
  have ha : a ∈ p.freeHosts := mem_freeHosts.mpr (h.free a (List.mem_singleton_self a))
  have hn := p.nodup_freeHosts
  have hincreasing := p.increasing_freeHosts
  rw [h.freeHosts]
  cases hf : p.freeHosts with
  | nil =>
    rw [hf] at ha
    cases ha
  | cons b rest =>
    rw [hf] at ha hn hincreasing
    have hb : b.number ≥ a.number := hl b (mem_freeHosts.mp (hf ▸ List.mem_cons_self))
    have hab : a = b := by
      obtain rfl | hm := List.mem_cons.mp ha
      · rfl
      · have hlt := (List.pairwise_cons.mp hincreasing).1 a hm
        omega
    subst hab
    have hrest : rest.filter (· ∉ [a]) = rest := by
      rw [List.filter_eq_self]
      intro b hm
      have hne : b ≠ a := fun he => (List.nodup_cons.mp hn).1 (he ▸ hm)
      simpa using hne
    rw [List.filter_cons_of_neg (by simp), hrest]

/-- Holding any free host leaves one host fewer. -/
theorem length_freeHosts (h : p.Grown [a] q) :
    p.freeHosts.length = q.freeHosts.length + 1 := by
  have ha : a ∈ p.freeHosts := mem_freeHosts.mpr (h.free a (List.mem_singleton_self a))
  have herase : q.freeHosts = p.freeHosts.erase a := by
    rw [h.freeHosts, p.nodup_freeHosts.erase_eq_filter]
    refine List.filter_congr fun b _ => ?_
    by_cases hb : b = a <;> simp [hb]
  rw [herase, List.length_erase_of_mem ha]
  have hpos := List.length_pos_of_mem ha
  omega

end Grown

/-! Histories of calls. -/

/-- The pool after some calls. -/
def after (p : AddressPool) (calls : List PoolCall) : AddressPool :=
  calls.foldl (fun p call => (p.perform call).2) p

theorem reserve_next (a : Address) : (p.reserve a).2.next = p.next := by
  unfold reserve
  split
  · rfl
  · split <;> rfl

theorem release_next_le (a : Address) : (p.release a).next ≤ p.next := by
  unfold release
  split
  · exact Nat.min_le_left _ _
  · exact Nat.le_refl _

/-- What a pool becomes by calls: its cursor never passes the broadcast address. -/
structure Becomes (p q : AddressPool) : Prop where
  network : q.network = p.network
  broadcast : q.broadcast = p.broadcast
  cidr : q.cidr = p.cidr
  cursor : q.next ≤ p.broadcast
  valid : q.Valid

/-- A search for a free host ends at the broadcast address at the latest. -/
theorem allocate_next (h : p.next ≤ p.broadcast) :
    p.next ≤ p.allocate.2.next ∧ p.allocate.2.next ≤ p.broadcast := by
  unfold allocate
  cases hf : firstFree p.held p.next (p.broadcast - p.next) with
  | some a =>
    obtain ⟨hl, hu, -⟩ := firstFree_eq_some.mp hf
    simp only
    omega
  | none =>
    simp only
    omega

namespace Becomes

theorem perform (h : p.Becomes q) (call : PoolCall) : p.Becomes (q.perform call).2 := by
  have hv := valid_perform h.valid call
  have hn := h.network
  have hb := h.broadcast
  have hc := h.cidr
  have hx := h.cursor
  cases call with
  | allocate =>
    have hnext : q.allocate.2.next ≤ p.broadcast := hb ▸ (allocate_next (hb.symm ▸ hx)).2
    obtain ⟨a, r, hq, -, -, hg⟩ | ⟨r, hq, -, hg⟩ := allocate_cases h.valid
    · rw [hq] at hnext
      simp only [AddressPool.perform, hq] at hv ⊢
      exact ⟨hg.network.trans hn, hg.broadcast.trans hb, hg.cidr.trans hc, hnext, hv⟩
    · rw [hq] at hnext
      simp only [AddressPool.perform, hq] at hv ⊢
      exact ⟨hg.network.trans hn, hg.broadcast.trans hb, hg.cidr.trans hc, hnext, hv⟩
  | reserve a =>
    have hnext : (q.reserve a).2.next ≤ p.broadcast := (reserve_next a).symm ▸ hx
    obtain ⟨r, hq, -, hg⟩ | ⟨_, hq, -⟩ := reserve_cases h.valid a
    · rw [hq] at hnext
      simp only [AddressPool.perform, hq] at hv ⊢
      exact ⟨hg.network.trans hn, hg.broadcast.trans hb, hg.cidr.trans hc, hnext, hv⟩
    · simpa only [AddressPool.perform, hq] using h
  | release a =>
    exact ⟨(release_network a).trans hn, (release_broadcast a).trans hb, (release_cidr a).trans hc,
      Nat.le_trans (release_next_le a) hx, hv⟩

theorem after (h : p.Becomes q) (calls : List PoolCall) : p.Becomes (q.after calls) := by
  induction calls generalizing q with
  | nil => exact h
  | cons call calls ih => exact ih (h.perform call)

end Becomes

theorem becomes_of_parse {cidr : String} (h : parse cidr = .ok p) : p.Becomes p := by
  refine ⟨rfl, rfl, rfl, ?_, valid_of_parse h⟩
  have hroom := (bounds_of_parse h).1
  obtain ⟨_, _, -, -, -, rfl⟩ := parse_eq_ok h
  exact hroom

/-! What calls show. -/

theorem allocate_eq_ok (hp : p.Valid) :
    p.allocate.1 = .ok a ↔ p.Free a ∧ ∀ b, p.Free b → a.number ≤ b.number := by
  obtain ⟨b, q, hq, hf, hl, -⟩ | ⟨q, hq, hn, -⟩ := allocate_cases hp
  · rw [hq]
    constructor
    · rintro ⟨⟩
      exact ⟨hf, hl⟩
    · rintro ⟨hfa, hla⟩
      have hnumber : b.number = a.number := Nat.le_antisymm (hl a hfa) (hla b hf)
      cases a
      cases b
      exact congrArg Except.ok (congrArg Address.mk hnumber)
  · rw [hq]
    exact ⟨nofun, fun h => absurd h.1 (hn a)⟩

theorem allocate_eq_error (hp : p.Valid) {f : Fault} :
    p.allocate.1 = .error f ↔ f = .exhausted p.cidr ∧ ∀ a, p.contains a = true → a ∈ p.held := by
  obtain ⟨b, q, hq, hf, -, -⟩ | ⟨q, hq, hn, -⟩ := allocate_cases hp
  · rw [hq]
    exact ⟨nofun, fun h => absurd (h.2 b hf.1) hf.2⟩
  · rw [hq]
    have hall : ∀ a, p.contains a = true → a ∈ p.held := by
      intro a ha
      by_contra hm
      exact hn a ⟨ha, hm⟩
    constructor
    · rintro ⟨⟩
      exact ⟨rfl, hall⟩
    · rintro ⟨rfl, -⟩
      rfl

theorem reserve_eq_ok (hp : p.Valid) : (p.reserve a).1 = .ok () ↔ p.Free a := by
  obtain ⟨q, hq, hf, -⟩ | ⟨_, hq, hf⟩ := reserve_cases hp a
  · simp [hq, hf]
  · simp [hq, hf]

theorem mem_allocate (hp : p.Valid) (h : p.allocate.1 = .ok a) (b : Address) :
    b ∈ p.allocate.2.held ↔ b = a ∨ b ∈ p.held := by
  obtain ⟨a', q, hq, -, -, hg⟩ | ⟨q, hq, -, -⟩ := allocate_cases hp
  · rw [hq] at h ⊢
    cases h
    rw [hg.held, List.mem_singleton, or_comm]
  · rw [hq] at h
    cases h

theorem mem_reserve (hp : p.Valid) (h : p.Free a) (b : Address) :
    b ∈ (p.reserve a).2.held ↔ b = a ∨ b ∈ p.held := by
  obtain ⟨q, hq, -, hg⟩ | ⟨_, -, hf⟩ := reserve_cases hp a
  · rw [hq, hg.held, List.mem_singleton, or_comm]
  · exact absurd h hf

theorem release_of_not_held (h : a ∉ p.held) : p.release a = p := by
  unfold release
  rw [if_neg h]

/-- A call that fails goes unnoticed. -/
theorem answers_of_failed (hp : p.Valid) {call : PoolCall} {f : Fault}
    (h : (p.perform call).1 = .error f) (calls : List PoolCall) :
    (p.perform call).2.answers calls = p.answers calls := by
  refine answers_same ?_ hp (valid_perform hp call) calls
  cases call with
  | allocate =>
    obtain ⟨b, q, hq, -, -, -⟩ | ⟨q, hq, -, hg⟩ := allocate_cases hp
    · rw [perform, hq] at h
      cases h
    · rw [perform, hq]
      exact hg.same
  | reserve b =>
    obtain ⟨q, hq, -, -⟩ | ⟨_, hq, -⟩ := reserve_cases hp b
    · rw [perform, hq] at h
      cases h
    · rw [perform, hq]
      exact (Grown.refl hp).same
  | release b => cases h

theorem drain_eq (hp : p.Valid) (n : Nat) : (p.drain n).1 = p.freeHosts.take n ∧
    (p.drain n).2.1 = if n ≤ p.freeHosts.length then none else some (.exhausted p.cidr) := by
  induction n generalizing p with
  | zero => simp [drain]
  | succ n ih =>
    obtain ⟨a, q, hq, -, hl, hg⟩ | ⟨q, hq, hn, -⟩ := allocate_cases hp
    · obtain ⟨hitems, hfault⟩ := ih hg.valid
      rw [hg.cidr] at hfault
      simp only [drain, hq, hg.freeHosts_lowest hl, List.take_succ_cons, List.length_cons,
        Nat.add_le_add_iff_right]
      exact ⟨by rw [hitems], hfault⟩
    · simp [drain, hq, freeHosts_eq_nil.mpr hn]

/-- Whatever was called before, a pool hands out its lowest free host and holds what it is asked for
where that is free; it shows of its history only what is held, and drains in increasing order. -/
theorem lowest_free_first {cidr : String} (h : parse cidr = .ok p) (calls : List PoolCall) :
    let s := p.after calls
    (∀ a, s.contains a = true ↔ p.network + 1 < a.number ∧ a.number < p.broadcast) ∧
    (∀ a, s.allocate.1 = .ok a ↔ s.Free a ∧ ∀ b, s.Free b → a.number ≤ b.number) ∧
    (∀ f, s.allocate.1 = .error f ↔
      f = .exhausted cidr ∧ ∀ a, s.contains a = true → a ∈ s.held) ∧
    (∀ a, (s.reserve a).1 = .ok () ↔ s.Free a) ∧
    (∀ a, s.allocate.1 = .ok a → ∀ b, b ∈ s.allocate.2.held ↔ b = a ∨ b ∈ s.held) ∧
    (∀ a, s.Free a → ∀ b, b ∈ (s.reserve a).2.held ↔ b = a ∨ b ∈ s.held) ∧
    (∀ a b, b ∈ (s.release a).held ↔ b ∈ s.held ∧ b ≠ a) ∧
    (∀ a, a ∉ s.held → s.release a = s) ∧
    (∀ call f, (s.perform call).1 = .error f →
      ∀ more, (s.perform call).2.answers more = s.answers more) ∧
    (p.network + 2 ≤ s.next ∧ s.next ≤ s.allocate.2.next ∧ s.allocate.2.next ≤ p.broadcast ∧
      p.broadcast < 0x100000000) ∧
    s.freeHosts.Pairwise (fun a b => a.number < b.number) ∧
    (∀ a, a ∈ s.freeHosts ↔ s.Free a) ∧
    ∀ n, (s.drain n).1 = s.freeHosts.take n ∧
      (s.drain n).2.1 = if n ≤ s.freeHosts.length then none else some (.exhausted cidr) := by
  intro s
  obtain ⟨hnetwork, hbroadcast, hcidr, hcursor, hv⟩ := (becomes_of_parse h).after calls
  obtain ⟨_, _, -, -, -, htext⟩ := parse_eq_ok h
  have hcidr : s.cidr = cidr := hcidr.trans (htext ▸ rfl)
  obtain ⟨hnext, hlast⟩ : s.next ≤ s.allocate.2.next ∧ s.allocate.2.next ≤ s.broadcast :=
    allocate_next (hbroadcast.symm ▸ hcursor)
  -- The cursor is past no free host, hence the lowest free one is always found from it.
  refine ⟨fun a => ?_, fun a => allocate_eq_ok hv, fun f => hcidr ▸ allocate_eq_error hv,
    fun a => reserve_eq_ok hv, fun a => mem_allocate hv, fun a => mem_reserve hv, mem_release,
    fun a => release_of_not_held, fun call f => answers_of_failed hv,
    ⟨hnetwork ▸ hv.cursor, hnext, hbroadcast ▸ hlast, (bounds_of_parse h).2⟩,
    s.increasing_freeHosts, fun a => mem_freeHosts, fun n => hcidr ▸ drain_eq hv n⟩
  rw [contains_iff, hnetwork, hbroadcast]

/-- Of five hosts one is handed out, one is asked for, and one is given back before the others. -/
theorem drained_after_release :
    let host (n : Nat) : Address := ⟨0x0A010000 + n⟩
    let calls := [.allocate, .allocate, .reserve (host 5), .release (host 2)]
    ∃ p, parse "10.1.0.0/29" = .ok p ∧
      ((p.after calls).drain 9).1 = [host 2, host 4, host 6] ∧
      ((p.after calls).drain 9).2.1 = some (.exhausted "10.1.0.0/29") := by
  intro host calls
  have hparse : parse "10.1.0.0/29" = .ok (ofNetwork (host 0) 29 "10.1.0.0/29") := by
    decide +kernel
  refine ⟨_, hparse, ?_⟩
  obtain ⟨-, -, -, -, -, -, -, -, -, -, -, -, hdrain⟩ := lowest_free_first hparse calls
  obtain ⟨hitems, hfault⟩ := hdrain 9
  have hfree : ((ofNetwork (host 0) 29 "10.1.0.0/29").after calls).freeHosts =
      [host 2, host 4, host 6] := by decide
  rw [hfree] at hitems hfault
  exact ⟨hitems, hfault⟩

end CloudEmulation.AddressPool
