import CloudEmulation.Oracle.Client
import CloudEmulation.Proofs.Cloud.Turns
import CloudEmulation.Proofs.Emulation.Bodies
/-!
What a list of a compartment shows: the instances that are asked for, each one once, in the order
that is asked for. Where that order does not tell two instances apart, the older one comes first.
-/

namespace CloudEmulation.Oracle

section

variable {α : Type} {le : α → α → Bool}

/-- It does not matter whether one chooses before or after sorting. -/
theorem filter_mergeSort (trans : ∀ a b c, le a b → le b c → le a c)
    (total : ∀ a b, le a b || le b a) (p : α → Bool) (l : List α) :
    (l.mergeSort le).filter p = (l.filter p).mergeSort le := by
  have hsub : ((l.filter p).mergeSort le).Sublist (l.mergeSort le) :=
    mergeSort_sublist trans total List.filter_sublist
  have hall : ((l.filter p).mergeSort le).filter p = (l.filter p).mergeSort le := by
    refine List.filter_eq_self.mpr fun a ha => ?_
    exact (List.mem_filter.mp (List.mem_mergeSort.mp ha)).2
  have hlength : ((l.mergeSort le).filter p).length = ((l.filter p).mergeSort le).length := by
    rw [((List.mergeSort_perm l le).filter p).length_eq, List.length_mergeSort]
  have hfiltered := hsub.filter p
  rw [hall] at hfiltered
  exact (hfiltered.eq_of_length hlength.symm).symm

end

variable {k : SortKey} {o : SortOrder} {key : Option SortKey} {order : Option SortOrder}
  {a b : Instance} {l : List Instance}

theorem mayPrecede_of_eq (h : k.compare a b = .eq) : mayPrecede k o a b = true := by
  have := k.trans_compare
  have hswap : k.compare b a = .eq := by
    have heq : k.compare b a = (k.compare a b).swap := Std.OrientedCmp.eq_swap
    rw [heq, h]
    rfl
  cases o <;> simp [mayPrecede, h, hswap]

theorem filter_arranged (key : Option SortKey) (order : Option SortOrder) (p : Instance → Bool)
    (l : List Instance) :
    (arranged key order l).filter p = arranged key order (l.filter p) := by
  cases key with
  | none => rfl
  | some k => exact filter_mergeSort (mayPrecede_trans k _) (mayPrecede_total k _) p l

/-- Whether a list holds the instances of another one in the order of a key, and those that the key
does not tell apart in the order in which they stand there. -/
structure Ordered (key : Option SortKey) (order : Option SortOrder) (l shown : List Instance) :
    Prop where
  perm : shown.Perm l
  created : key = none → shown = l
  keys : ∀ k, key = some k → shown.Pairwise fun a b =>
    match order.getD k.defaultOrder with
    | .ascending => k.compare a b ≠ .gt
    | .descending => k.compare a b ≠ .lt
  ties : ∀ k a b, key = some k → k.compare a b = .eq → [a, b].Sublist l → [a, b].Sublist shown

theorem ordered_arranged (key : Option SortKey) (order : Option SortOrder) (l : List Instance) :
    Ordered key order l (arranged key order l) where
  perm := by
    cases key with
    | none => exact .refl _
    | some k => exact List.mergeSort_perm _ _
  created := by
    rintro rfl
    rfl
  keys := by
    rintro k rfl
    refine (List.pairwise_mergeSort (mayPrecede_trans k _) (mayPrecede_total k _) l).imp ?_
    intro a b hab
    generalize order.getD k.defaultOrder = o at hab ⊢
    cases o with
    | ascending => exact of_decide_eq_true hab
    | descending =>
      have := k.trans_compare
      have hswap : k.compare a b = (k.compare b a).swap := Std.OrientedCmp.eq_swap
      rw [hswap]
      exact mt Ordering.swap_eq_lt.mp (of_decide_eq_true hab)
  ties := by
    rintro k a b rfl hab hl
    exact List.pair_sublist_mergeSort (mayPrecede_trans k _) (mayPrecede_total k _)
      (mayPrecede_of_eq hab) hl

/-! What is asked for. -/

/-- Whether an instance has the values that are asked for. -/
def ListOptions.admits (o : ListOptions) (i : Instance) : Bool :=
  o.availabilityDomain.all (· = i.placement) && o.displayName.all (· = i.name) &&
    o.lifecycleState.all (· = stateName i.status)

/-- Whether a request asks for the same instances in the same order. -/
structure ListOptions.AskedBy (o : ListOptions) (r : Http.Request) : Prop where
  availabilityDomain : r.query? "availabilityDomain" = o.availabilityDomain
  displayName : r.query? "displayName" = o.displayName
  lifecycleState : r.query? "lifecycleState" = o.lifecycleState
  sortBy : (r.query? "sortBy").bind SortKey.ofName? = o.sortBy
  sortOrder : (r.query? "sortOrder").bind SortOrder.ofName? = o.sortOrder

/-- The instances of a compartment that are asked for, in the order that is asked for. -/
def ListOptions.chosen (o : ListOptions) (instances : List Instance) : List Instance :=
  (arranged o.sortBy o.sortOrder instances).filter o.admits

theorem ListOptions.mem_of_chosen (o : ListOptions) (h : a ∈ o.chosen l) : a ∈ l :=
  mem_arranged.mp (List.mem_filter.mp h).1

theorem ListOptions.length_chosen_le (o : ListOptions) (l : List Instance) :
    (o.chosen l).length ≤ l.length := by
  rw [chosen, filter_arranged, (ordered_arranged _ _ _).perm.length_eq]
  exact List.length_filter_le _ _

variable {config : Configuration} {compartment : String} {r : Http.Request} {options : ListOptions}
  {i : Instance}

theorem ListOptions.AskedBy.agrees_view (h : options.AskedBy r)
    (hi : config.Makes (.oracle compartment) i) :
    r.agrees ((Scope.oracle compartment).view config i) = options.admits i := by
  obtain ⟨m, hm, hv, -⟩ := hi.oracle_view
  obtain ⟨d, rfl⟩ : ∃ d, m = assigned config i d := by
    unfold describe at hm
    split at hm
    · cases hm
      exact ⟨_, rfl⟩
    · cases hm
  obtain ⟨hdomain, hname, hstate⟩ := assigned_shown config i d
  rw [hv]
  simp only [Http.Request.agrees, List.all_cons, List.all_nil, Bool.and_true, hdomain, hname,
    hstate, h.availabilityDomain, h.displayName, h.lifecycleState, ListOptions.admits,
    Option.some.injEq, Bool.and_assoc]
  cases options.availabilityDomain <;> cases options.displayName <;>
    cases options.lifecycleState <;> simp [eq_comm]

theorem ListOptions.AskedBy.sought (h : options.AskedBy r)
    (hl : ∀ i ∈ l, config.Makes (.oracle compartment) i) :
    (Scope.oracle compartment).sought config r l =
      (options.chosen l).map ((Scope.oracle compartment).view config) := by
  have harranged : (Scope.oracle compartment).arranged r l =
      arranged options.sortBy options.sortOrder l := by
    show Oracle.arranged _ _ l = _
    rw [h.sortBy, h.sortOrder]
  rw [Scope.sought, harranged, List.filter_map, ListOptions.chosen]
  refine congrArg _ (List.filter_congr fun i hi => ?_)
  exact h.agrees_view (hl i (Scope.mem_arranged.mp (harranged ▸ hi)))

/-! What is accepted. -/

section

variable {c : Configuration} {s s' : CloudState} {call : Call} {answer : Http.Response}
  {params : Params} {now : Timestamp}

theorem counts_of_queryCount {name : String} {n : Option Nat}
    (h : (r.call params now).queryCount name = .ok n) : r.Counts name := by
  intro raw hraw
  have hq : (r.call params now).query? name = some raw := hraw
  rw [Call.queryCount, hq] at h
  simp only at h
  cases hn : (Numeral.word64? raw).filter (0 < ·) with
  | none =>
    rw [hn] at h
    cases h
  | some n =>
    obtain ⟨hw, hpos⟩ := Option.filter_eq_some_iff.mp hn
    exact ⟨n, hw, of_decide_eq_true hpos⟩

theorem chooses_of_choice {α : Type} {name : String} {ofName? : String → Option α} {a : Option α}
    (h : choice (r.call params now) name ofName? = .ok a) : r.Chooses name ofName? := by
  intro raw hraw
  have hq : (r.call params now).query? name = some raw := hraw
  rw [choice, hq] at h
  simp only at h
  cases ha : ofName? raw with
  | none =>
    rw [ha] at h
    cases h
  | some a => rfl

theorem listInstances_eq_ok (h : (listInstances c call).exec s = (.ok answer, s')) :
    ∃ compartment key order limit shown, call.requireQuery "compartmentId" = .ok compartment ∧
      choice call "sortBy" SortKey.ofName? = .ok key ∧
      choice call "sortOrder" SortOrder.ofName? = .ok order ∧
      call.queryCount "limit" = .ok limit ∧ answer.body = some (.array shown) := by
  obtain ⟨compartment, hcompartment, h⟩ := Handler.exec_liftExcept_bind_eq_ok.mp h
  rw [Handler.exec_bind_ok _ (Handler.exec_look _ _)] at h
  obtain ⟨selected, hs, h⟩ := Handler.exec_liftExcept_bind_eq_ok.mp h
  obtain ⟨key, hkey, hs⟩ := Except.bind_eq_ok.mp hs
  obtain ⟨order, horder, hs⟩ := Except.bind_eq_ok.mp hs
  obtain ⟨shown, hbody, -⟩ := replyPage_of_ok h
  obtain ⟨limit, hlimit, -⟩ := Handler.exec_liftExcept_bind_eq_ok.mp h
  exact ⟨compartment, key, order, limit, shown, hcompartment, hkey, horder, hlimit, hbody⟩

/-- A list that is answered with a success is one that selects instances of a compartment. -/
theorem selects_of_success (hr : Provider.oracle.Routed r .list "instances" params)
    (hs : (((Provider.oracle.emulator c).respond now r).run s).1.isSuccess = true) :
    ∃ compartment shown, r.query? "compartmentId" = some compartment ∧
      (Scope.oracle compartment).Selects r ∧
      (((Provider.oracle.emulator c).respond now r).run s).1.body = some (.array shown) := by
  obtain ⟨compartment, key, order, limit, shown, hcompartment, hkey, horder, hlimit, hbody⟩ :=
    listInstances_eq_ok (hr.exec_of_success hs)
  have hq : r.query? "compartmentId" = some compartment :=
    Call.query?_of_requireQuery hcompartment
  have hne : compartment ≠ "" := by
    rintro rfl
    have hq' : (r.call params now).query? "compartmentId" = some "" := hq
    rw [Call.requireQuery, hq'] at hcompartment
    cases hcompartment
  exact ⟨compartment, shown, hq, .oracle hr hq hne (chooses_of_choice hkey) (chooses_of_choice horder)
    (counts_of_queryCount hlimit), hbody⟩

end

end CloudEmulation.Oracle
