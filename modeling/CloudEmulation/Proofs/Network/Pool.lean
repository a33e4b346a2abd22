import CloudEmulation.Network.Pool
import CloudEmulation.Proofs.Network.Address
import Mathlib.Data.List.Nodup
/-!
What a pool of addresses shows of itself is which hosts are held: the lowest free one is handed out
next, wherever the cursor stands.
-/

namespace CloudEmulation.AddressPool

variable {p q r : AddressPool} {a : Address} {as bs : List Address}

/-- Only hosts are held, and the cursor is past no free one. -/
structure Valid (p : AddressPool) : Prop where
  cursor : p.network + 2 ≤ p.next
  below : ∀ n, p.network + 1 < n → n < p.next → n < p.broadcast → ⟨n⟩ ∈ p.held
  hosts : ∀ a ∈ p.held, p.contains a = true

def Free (p : AddressPool) (a : Address) : Prop := p.contains a = true ∧ a ∉ p.held

theorem contains_iff : p.contains a = true ↔ p.network + 1 < a.number ∧ a.number < p.broadcast := by
  simp [contains]

theorem Valid.next_le (hp : p.Valid) (ha : p.Free a) : p.next ≤ a.number := by
  obtain ⟨hl, hb⟩ := contains_iff.mp ha.1
  by_contra hn
  exact ha.2 (hp.below a.number hl (by omega) hb)

theorem firstFree_eq_some {held : List Address} {next count : Nat} :
    firstFree held next count = some a ↔
      next ≤ a.number ∧ a.number < next + count ∧ a ∉ held ∧
        ∀ n, next ≤ n → n < a.number → ⟨n⟩ ∈ held := by
  induction count generalizing next with
  | zero => simp [firstFree]; omega
  | succ count ih =>
    rw [firstFree]
    split
    · rename_i hm
      rw [ih]
      constructor
      · rintro ⟨hl, hu, hf, hb⟩
        refine ⟨by omega, by omega, hf, ?_⟩
        intro n hn hlt
        rcases Nat.eq_or_lt_of_le hn with rfl | h
        · exact hm
        · exact hb n h hlt
      · rintro ⟨hl, hu, hf, hb⟩
        have hne : next ≠ a.number := by
          rintro rfl
          exact hf hm
        exact ⟨by omega, by omega, hf, fun n hn hlt => hb n (by omega) hlt⟩
    · rename_i hm
      constructor
      · rintro ⟨⟩
        exact ⟨Nat.le_refl _, by simp, hm, fun n hn hlt => absurd hlt (by simpa using hn)⟩
      · rintro ⟨hl, hu, hf, hb⟩
        rcases Nat.eq_or_lt_of_le hl with h | h
        · rw [h]
        · exact absurd (hb next (Nat.le_refl _) h) hm

theorem firstFree_eq_none {held : List Address} {next count : Nat} :
    firstFree held next count = none ↔ ∀ n, next ≤ n → n < next + count → ⟨n⟩ ∈ held := by
  induction count generalizing next with
  | zero => simp [firstFree]; omega
  | succ count ih =>
    rw [firstFree]
    split
    · rename_i hm
      rw [ih]
      constructor
      · intro h n hn hlt
        rcases Nat.eq_or_lt_of_le hn with rfl | h'
        · exact hm
        · exact h n h' (by omega)
      · exact fun h n hn hlt => h n (by omega) (by omega)
    · rename_i hm
      simp only [reduceCtorEq, false_iff]
      exact fun h => hm (h next (Nat.le_refl _) (by omega))

/-- How a pool goes on from another one by holding some free addresses more. -/
structure Grown (p : AddressPool) (as : List Address) (q : AddressPool) : Prop where
  network : q.network = p.network
  broadcast : q.broadcast = p.broadcast
  cidr : q.cidr = p.cidr
  held : ∀ a, a ∈ q.held ↔ a ∈ p.held ∨ a ∈ as
  free : ∀ a ∈ as, p.Free a
  nodup : as.Nodup
  valid : q.Valid

namespace Grown

theorem contains_eq (h : p.Grown as q) (a : Address) : q.contains a = p.contains a := by
  simp [contains, h.network, h.broadcast]

theorem free_iff (h : p.Grown as q) : q.Free a ↔ p.Free a ∧ a ∉ as := by
  simp only [Free, h.contains_eq, h.held]
  tauto

theorem refl (hp : p.Valid) : p.Grown [] p :=
  ⟨rfl, rfl, rfl, by simp, by simp, .nil, hp⟩

theorem trans (h : p.Grown as q) (k : q.Grown bs r) : p.Grown (as ++ bs) r where
  network := k.network.trans h.network
  broadcast := k.broadcast.trans h.broadcast
  cidr := k.cidr.trans h.cidr
  held a := by rw [k.held, h.held, List.mem_append, or_assoc]
  free a ha := by
    rcases List.mem_append.mp ha with ha | ha
    · exact h.free a ha
    · exact (h.free_iff.mp (k.free a ha)).1
  nodup := List.nodup_append.mpr ⟨h.nodup, k.nodup, by
    rintro a ha _ hb rfl
    exact (h.free_iff.mp (k.free a hb)).2 ha⟩
  valid := k.valid

end Grown

/-- The cursor may go past the first free host where that is held from then on. -/
theorem valid_advanced (hp : p.Valid)
    (hf : firstFree p.held p.next (p.broadcast - p.next) = some a) (hc : p.contains a = true) :
    Valid { p with next := a.number + 1, held := a :: p.held } where
  cursor := by
    have hcursor := hp.cursor
    have hle := (firstFree_eq_some.mp hf).1
    simp only
    omega
  below n hn hlt hbr := by
    obtain ⟨-, -, -, hbetween⟩ := firstFree_eq_some.mp hf
    have hlt : n < a.number + 1 := hlt
    by_cases he : n = a.number
    · exact List.mem_cons.mpr (.inl (congrArg Address.mk he))
    · refine List.mem_cons_of_mem _ ?_
      by_cases hlow : n < p.next
      · exact hp.below n hn hlow hbr
      · exact hbetween n (by omega) (by omega)
  hosts := List.forall_mem_cons.mpr ⟨hc, hp.hosts⟩

theorem valid_exhausted (hp : p.Valid)
    (hf : firstFree p.held p.next (p.broadcast - p.next) = none) :
    Valid { p with next := max p.next p.broadcast } where
  cursor := by
    have hcursor := hp.cursor
    simp only
    omega
  below n hn _ hbr := by
    have hbr : n < p.broadcast := hbr
    by_cases hlow : n < p.next
    · exact hp.below n hn hlow hbr
    · exact firstFree_eq_none.mp hf n (by omega) (by omega)
  hosts := hp.hosts

/-- What an allocation can do: hand out the lowest free host, or find that there is none. -/
theorem allocate_cases (hp : p.Valid) :
    (∃ a q, p.allocate = (.ok a, q) ∧ p.Free a ∧ (∀ b, p.Free b → a.number ≤ b.number) ∧
      p.Grown [a] q) ∨
    (∃ q, p.allocate = (.error (.exhausted p.cidr), q) ∧ (∀ a, ¬ p.Free a) ∧ p.Grown [] q) := by
  unfold allocate
  cases hf : firstFree p.held p.next (p.broadcast - p.next) with
  | some a =>
    obtain ⟨hl, hu, hn, hb⟩ := firstFree_eq_some.mp hf
    have hcursor := hp.cursor
    have hfree : p.Free a := ⟨contains_iff.mpr ⟨by omega, by omega⟩, hn⟩
    refine .inl ⟨a, _, rfl, hfree, fun b hfb => ?_, ?_⟩
    · by_contra hlt
      exact hfb.2 (hb b.number (hp.next_le hfb) (by omega))
    · exact ⟨rfl, rfl, rfl, by simp [or_comm], by simpa using hfree, by simp,
        valid_advanced hp hf hfree.1⟩
  | none =>
    refine .inr ⟨_, rfl, fun a ha => ?_, rfl, rfl, rfl, by simp, by simp, .nil,
      valid_exhausted hp hf⟩
    have hlt := (contains_iff.mp ha.1).2
    exact ha.2 (firstFree_eq_none.mp hf a.number (hp.next_le ha) (by omega))

/-- What a reservation can do: hold the address if it is free, or leave the pool as it is. -/
theorem reserve_cases (hp : p.Valid) (a : Address) :
    (∃ q, p.reserve a = (.ok (), q) ∧ p.Free a ∧ p.Grown [a] q) ∨
    (∃ reason, p.reserve a = (.error (.invalidArgument reason), p) ∧ ¬ p.Free a) := by
  unfold reserve
  by_cases hc : p.contains a = true
  · by_cases hm : a ∈ p.held
    · exact .inr ⟨.inUse a, by simp [hc, hm], fun h => h.2 hm⟩
    · refine .inl ⟨{ p with held := a :: p.held }, by simp [hc, hm], ⟨hc, hm⟩, rfl, rfl, rfl,
        by simp [or_comm], by simpa using ⟨hc, hm⟩, by simp, hp.cursor, ?_, ?_⟩
      · exact fun n hn hlt hbr => List.mem_cons_of_mem _ (hp.below n hn hlt hbr)
      · intro b hb
        rcases List.mem_cons.mp hb with rfl | hb
        · exact hc
        · exact hp.hosts b hb
  · exact .inr ⟨.notAssignable a p.cidr, by simp [hc], fun h => hc h.1⟩

theorem mem_release (a b : Address) : b ∈ (p.release a).held ↔ b ∈ p.held ∧ b ≠ a := by
  unfold release
  split
  · simp
  · rename_i hm
    constructor
    · exact fun hb => ⟨hb, fun h => hm (h ▸ hb)⟩
    · exact And.left

theorem release_network (a : Address) : (p.release a).network = p.network := by
  unfold release; split <;> rfl

theorem release_broadcast (a : Address) : (p.release a).broadcast = p.broadcast := by
  unfold release; split <;> rfl

theorem release_cidr (a : Address) : (p.release a).cidr = p.cidr := by
  unfold release; split <;> rfl

theorem valid_release (hp : p.Valid) (a : Address) : (p.release a).Valid := by
  refine ⟨?_, ?_, ?_⟩
  · rw [release_network]
    unfold release
    split
    · rename_i hm
      have hc := hp.cursor
      have hl := (contains_iff.mp (hp.hosts a hm)).1
      simp only
      omega
    · exact hp.cursor
  · rw [release_network, release_broadcast]
    intro n hn hlt hbr
    have hbelow : n < p.next ∧ (a ∈ p.held → n ≠ a.number) := by
      unfold release at hlt
      split at hlt
      · simp only at hlt
        exact ⟨by omega, fun _ => by omega⟩
      · exact ⟨hlt, fun h => absurd h ‹_›⟩
    have hh := hp.below n hn hbelow.1 hbr
    refine (mem_release a ⟨n⟩).mpr ⟨hh, ?_⟩
    rintro rfl
    exact hbelow.2 hh rfl
  · intro b hb
    have := hp.hosts b ((mem_release a b).mp hb).1
    simpa [contains, release_network, release_broadcast] using this

/-- Giving back the one address more that is held makes up for having been given it. -/
theorem Grown.release (h : p.Grown [a] q) : p.Grown [] (q.release a) where
  network := (release_network a).trans h.network
  broadcast := (release_broadcast a).trans h.broadcast
  cidr := (release_cidr a).trans h.cidr
  held b := by
    rw [mem_release, h.held]
    have hf : ¬ a ∈ p.held := (h.free a (by simp)).2
    constructor
    · rintro ⟨hb | hb, hn⟩
      · exact .inl hb
      · exact absurd (List.mem_singleton.mp hb) hn
    · rintro (hb | hb)
      · exact ⟨.inl hb, fun he => hf (he ▸ hb)⟩
      · exact absurd hb (by simp)
  free := by simp
  nodup := .nil
  valid := valid_release h.valid a

/-! Calls of a pool, one after another. -/

inductive PoolCall where
  | allocate
  | reserve (a : Address)
  | release (a : Address)
  deriving DecidableEq, Repr

/-- The address that a call hands out, if any, or its fault. -/
def perform (p : AddressPool) : PoolCall → Except Fault (Option Address) × AddressPool
  | .allocate => (p.allocate.1.map some, p.allocate.2)
  | .reserve a => ((p.reserve a).1.map fun _ => none, (p.reserve a).2)
  | .release a => (.ok none, p.release a)

def answers (p : AddressPool) : List PoolCall → List (Except Fault (Option Address))
  | [] => []
  | call :: calls => (p.perform call).1 :: answers (p.perform call).2 calls

/-- Pools of one network that hold the same addresses. -/
structure Same (p q : AddressPool) : Prop where
  network : q.network = p.network
  broadcast : q.broadcast = p.broadcast
  cidr : q.cidr = p.cidr
  held : ∀ a, a ∈ q.held ↔ a ∈ p.held

namespace Same

theorem free_iff (h : p.Same q) : q.Free a ↔ p.Free a := by
  simp [Free, contains, h.network, h.broadcast, h.held]

theorem grown {p' q' : AddressPool} (h : p.Same q) (hp : p.Grown as p') (hq : q.Grown as q') :
    p'.Same q' where
  network := hq.network.trans (h.network.trans hp.network.symm)
  broadcast := hq.broadcast.trans (h.broadcast.trans hp.broadcast.symm)
  cidr := hq.cidr.trans (h.cidr.trans hp.cidr.symm)
  held a := by rw [hq.held, hp.held, h.held]

theorem release (h : p.Same q) (a : Address) : (p.release a).Same (q.release a) where
  network := by rw [release_network, release_network, h.network]
  broadcast := by rw [release_broadcast, release_broadcast, h.broadcast]
  cidr := by rw [release_cidr, release_cidr, h.cidr]
  held b := by rw [mem_release, mem_release, h.held]

theorem allocate (h : p.Same q) (hp : p.Valid) (hq : q.Valid) :
    q.allocate.1 = p.allocate.1 ∧ p.allocate.2.Same q.allocate.2 := by
  rcases allocate_cases hp with ⟨a, p', hpa, hfa, hla, hga⟩ | ⟨p', hpa, hna, hga⟩ <;>
    rcases allocate_cases hq with ⟨b, q', hqb, hfb, hlb, hgb⟩ | ⟨q', hqb, hnb, hgb⟩
  · have hab : b = a := by
      have h1 := hla b (h.free_iff.mp hfb)
      have h2 := hlb a (h.free_iff.mpr hfa)
      have hn : b.number = a.number := by omega
      cases a; cases b; exact congrArg Address.mk hn
    subst hab
    simpa only [hpa, hqb, true_and] using h.grown hga hgb
  · exact absurd (h.free_iff.mpr hfa) (hnb a)
  · exact absurd (h.free_iff.mp hfb) (hna b)
  · simpa only [hpa, hqb, h.cidr, true_and] using h.grown hga hgb

theorem reserve (h : p.Same q) (a : Address) :
    (q.reserve a).1 = (p.reserve a).1 ∧ (p.reserve a).2.Same (q.reserve a).2 := by
  have hc : q.contains a = p.contains a := by simp [contains, h.network, h.broadcast]
  unfold AddressPool.reserve
  simp only [hc, h.cidr, h.held]
  split
  · exact ⟨rfl, h⟩
  · split
    · exact ⟨rfl, h⟩
    · exact ⟨rfl, h.network, h.broadcast, rfl, fun b => by simp [h.held]⟩

theorem perform (h : p.Same q) (hp : p.Valid) (hq : q.Valid) (call : PoolCall) :
    (q.perform call).1 = (p.perform call).1 ∧ (p.perform call).2.Same (q.perform call).2 := by
  cases call with
  | allocate =>
    obtain ⟨ha, hs⟩ := h.allocate hp hq
    exact ⟨by simp only [AddressPool.perform, ha], hs⟩
  | reserve a =>
    obtain ⟨ha, hs⟩ := h.reserve a
    exact ⟨by simp only [AddressPool.perform, ha], hs⟩
  | release a => exact ⟨rfl, h.release a⟩

end Same

theorem valid_perform (hp : p.Valid) (call : PoolCall) : (p.perform call).2.Valid := by
  cases call with
  | allocate =>
    rcases allocate_cases hp with ⟨a, q, hq, -, -, hg⟩ | ⟨q, hq, -, hg⟩ <;>
      simpa [perform, hq] using hg.valid
  | reserve a =>
    rcases reserve_cases hp a with ⟨q, hq, -, hg⟩ | ⟨_, hq, -⟩
    · simpa [perform, hq] using hg.valid
    · simpa [perform, hq] using hp
  | release a => exact valid_release hp a

/-- The cursor never shows: pools that hold the same addresses answer all calls alike. -/
theorem answers_same (h : p.Same q) (hp : p.Valid) (hq : q.Valid) (calls : List PoolCall) :
    q.answers calls = p.answers calls := by
  induction calls generalizing p q with
  | nil => rfl
  | cons call calls ih =>
    obtain ⟨ha, hs⟩ := h.perform hp hq call
    simp only [answers]
    rw [ha, ih hs (valid_perform hp call) (valid_perform hq call)]

theorem Grown.same (h : p.Grown [] q) : p.Same q :=
  ⟨h.network, h.broadcast, h.cidr, by simpa using h.held⟩

/-! Pools as they are read from a configuration. -/

theorem parse_eq_ok {cidr : String} (h : parse cidr = .ok p) :
    ∃ address bits, address.number < 0x100000000 ∧ 8 ≤ bits ∧ bits ≤ 30 ∧
      p = ofNetwork address bits cidr := by
  unfold parse at h
  split at h
  · rename_i p' hp
    cases h
    simp only [parse?, bind, Option.bind_eq_some_iff, bits?, Option.filter_eq_some_iff] at hp
    obtain ⟨_, -, address, ha, bits, ⟨-, hb⟩, hp⟩ := hp
    simp only [Bool.and_eq_true, decide_eq_true_eq] at hb
    cases hp
    exact ⟨address, bits, Address.number_lt ha, hb.1, hb.2, rfl⟩
  · cases h

theorem bounds_of_parse {cidr : String} (h : parse cidr = .ok p) :
    p.network + 2 ≤ p.broadcast ∧ p.broadcast < 0x100000000 := by
  obtain ⟨a, bits, ha, hb, hb', rfl⟩ := parse_eq_ok h
  -- A network begins at a multiple of its size, and its size divides the number of all addresses.
  have hsize : 2 ^ (32 - bits) * 2 ^ bits = 2 ^ 32 := by
    rw [← Nat.pow_add]
    congr 1
    omega
  have hfour : 2 ^ 2 ≤ 2 ^ (32 - bits) := Nat.pow_le_pow_right (by decide) (by omega)
  have hdiv : a.number / 2 ^ (32 - bits) < 2 ^ bits := by
    rw [Nat.div_lt_iff_lt_mul (by omega), Nat.mul_comm, hsize]
    exact ha
  have hend : (a.number / 2 ^ (32 - bits) + 1) * 2 ^ (32 - bits) ≤ 2 ^ 32 := by
    rw [← hsize, Nat.mul_comm (2 ^ (32 - bits))]
    exact Nat.mul_le_mul_right _ hdiv
  rw [Nat.add_mul, Nat.one_mul] at hend
  simp only [ofNetwork, Nat.pow_eq]
  omega

theorem held_of_parse {cidr : String} (h : parse cidr = .ok p) : p.held = [] := by
  obtain ⟨_, _, -, -, -, rfl⟩ := parse_eq_ok h
  rfl

theorem valid_of_parse {cidr : String} (h : parse cidr = .ok p) : p.Valid := by
  obtain ⟨_, _, -, -, -, rfl⟩ := parse_eq_ok h
  refine ⟨Nat.le_refl _, ?_, by simp [ofNetwork]⟩
  intro n hn hlt
  simp only [ofNetwork] at hn hlt
  omega

end CloudEmulation.AddressPool
