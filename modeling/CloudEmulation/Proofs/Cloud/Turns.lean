import CloudEmulation.Proofs.Cloud.Tours
/-!
Tours while nothing is created in the scope: the pages are one list, in whatever order it is asked
for, and can be followed to the last one.
-/

namespace CloudEmulation

variable {scope : Scope} {config : Configuration} {n : Nat}

namespace Visit

variable {v v' : Visit}

/-- Whether one visit follows another while nothing is created in the scope. -/
structure Turns (scope : Scope) (v v' : Visit) : Prop where
  precedes : v.Precedes scope v'
  list : v'.cloud.state.instances.list scope =
    (v.left scope.provider).state.instances.list scope

/-- Whether one visit follows right after another, with a request that differs in its token only. -/
structure Succeeds (scope : Scope) (v v' : Visit) : Prop where
  precedes : v.Precedes scope v'
  cloud : v'.cloud = v.left scope.provider
  queries : ∀ name ≠ scope.provider.tokenName, v'.request.query? name = v.request.query? name

theorem Succeeds.turns (h : v.Succeeds scope v') : v.Turns scope v' := ⟨h.precedes, by rw [h.cloud]⟩

/-- The next page begins where the last one ended, in the same list. -/
theorem Turns.next (ht : v.Turns scope v') (h : v.At config scope n) :
    v'.sought config scope = v.sought config scope ∧
    ∃ m, scope.limit config v.request = some m ∧ n + m < (v.sought config scope).length ∧
      scope.provider.shown (v.answer scope.provider) = ((v.sought config scope).drop n).take m ∧
      v'.At config scope (n + m) := by
  obtain ⟨hgrows, m, hlimit, hm, hshown, hat⟩ := h.next ht.precedes
  have hstep := (Cloud.respond_selects h.consistent h.selects v.now h.offset).2
  have hinstances : (v.left scope.provider).state.instances = v.cloud.state.instances :=
    hstep.instances
  refine ⟨?_, m, hlimit, hm, hshown, hat⟩
  rw [sought, sought, Scope.sought_congr hgrows.selectors, ht.list, hinstances]

end Visit

namespace Tour

variable {first last : Visit} {visits : List Visit}

theorem sought_last (ht : Tour (Visit.Turns scope) first visits last)
    (h : first.At config scope n) : last.sought config scope = first.sought config scope := by
  induction ht generalizing n with
  | one => rfl
  | more hturns _ ih =>
    obtain ⟨hsought, m, -, -, -, hat⟩ := hturns.next h
    exact (ih hat).trans hsought

/-- In any order the pages are what is sought first of all. -/
theorem shown_sought (ht : Tour (Visit.Turns scope) first visits last)
    (h : first.At config scope n)
    (hend : scope.provider.next? (last.answer scope.provider) = none) :
    shownOn scope.provider visits = (first.sought config scope).drop n := by
  induction ht generalizing n with
  | one =>
    rw [shownOn, List.flatMap_singleton]
    exact h.last hend
  | more hturns _ ih =>
    obtain ⟨hsought, m, -, -, hshown, hat⟩ := hturns.next h
    have htail := ih hat hend
    rw [hsought, shownOn] at htail
    rw [shownOn, List.flatMap_cons, hshown, htail, ← List.drop_drop, List.take_append_drop]

end Tour

/-- A visit can be followed to the last page. -/
theorem exists_tour {v : Visit} (h : v.At config scope n)
    (hpage : scope.provider = .azure → 0 < config.azurePageSize) :
    ∃ visits last, Tour (Visit.Succeeds scope) v visits last ∧
      scope.provider.next? (last.answer scope.provider) = none := by
  -- A page of a positive size leaves fewer items for the rest of the tour.
  induction hk : (v.sought config scope).length - n using Nat.strongRecOn generalizing v n with
  | _ k ih =>
    cases hnext : scope.provider.next? (v.answer scope.provider) with
    | none => exact ⟨[v], v, .one, hnext⟩
    | some link =>
      obtain ⟨m, hm, hlength, -, rfl⟩ := h.more hnext
      obtain ⟨r', hcontinues, hother⟩ := h.selects.exists_continues (toString (n + m))
      let v' : Visit := ⟨v.left scope.provider, v.now, r'⟩
      have hsucceeds : v.Succeeds scope v' := ⟨⟨⟨_, hnext, hcontinues⟩, [], rfl⟩, rfl, hother⟩
      obtain ⟨hsought, m', hm', -, -, hat⟩ := hsucceeds.turns.next h
      obtain rfl : m' = m := Option.some.inj (hm'.symm.trans hm)
      have hpos := h.selects.limit_pos hpage hm
      have hlt : (v'.sought config scope).length - (n + m') < k := by
        rw [hsought]
        omega
      obtain ⟨visits, last, ht, hend⟩ := ih _ hlt hat rfl
      exact ⟨v :: visits, last, .more hsucceeds ht, hend⟩

end CloudEmulation
