import CloudEmulation.Proofs.Azure.Listing
import CloudEmulation.Proofs.Cloud.History
import CloudEmulation.Proofs.Google.Listing
import CloudEmulation.Proofs.Oracle.Listing
/-!
Walks from page to page through the instances of a scope.
-/

namespace CloudEmulation

theorem Scope.Selects.handle {scope : Scope} {c : Configuration} {s : CloudState}
    {r : Http.Request} {n : Nat} (h : scope.Selects r) (hs : s.Sound c) (now : Timestamp)
    (ho : Page.offset (scope.sought c r (s.instances.list scope)).length
      (r.query? scope.provider.tokenName) = .ok n) :
    ∃ answer s', ((scope.provider.emulator c).handle now r).exec s = (.ok answer, s') ∧
      scope.Displays r answer
        (Page.slice (scope.sought c r (s.instances.list scope)) (scope.limit c r) n) := by
  cases scope with
  | google project zone => exact Google.handle_selects c now s h ho
  | azure subscription group => exact Azure.handle_selects hs now h ho
  | oracle compartment => exact Oracle.handle_selects hs now h ho
  | tenancy p => cases h

namespace Cloud

variable {config : Configuration} {c c' : Cloud} {scope : Scope} {r : Http.Request} {n : Nat}
  {items : List Json}

theorem Step.instances (k : c.Step none c') : c'.state.instances = c.state.instances := by
  cases k with
  | kept _ _ hk => exact hk.instances
  | added _ hn _ => cases hn

theorem Consistent.offset_token (hc : Consistent config c)
    (hn : n ≤ (c.state.instances.list scope).length) :
    Page.offset (c.state.instances.list scope).length (some (toString n)) = .ok n :=
  Page.offset_toString hn (hc.length_list_le scope)

/-- Asking for a page shows it and creates nothing. -/
theorem respond_selects (hc : Consistent config c) (h : scope.Selects r) (now : Timestamp)
    (ho : Page.offset (scope.sought config r (c.state.instances.list scope)).length
      (r.query? scope.provider.tokenName) = .ok n) :
    scope.Displays r (c.respond scope.provider now r).1
      (Page.slice (scope.sought config r (c.state.instances.list scope)) (scope.limit config r) n) ∧
    c.Step none (c.respond scope.provider now r).2 := by
  constructor
  · obtain ⟨rfl, hs, -⟩ := hc
    obtain ⟨answer, s', hx, hd⟩ := h.handle hs now ho
    have ha : (c.respond scope.provider now r).1 = answer :=
      congrArg Prod.fst (Provider.respond_of_answered hx)
    exact ha ▸ hd
  · have k := hc.step_perform now (.request scope.provider r)
    have hn : scope.provider.accepted? r (c.respond scope.provider now r).1 = none :=
      Provider.accepted?_of_get h.method
    exact hn ▸ k

theorem respond_lists (hc : Consistent config c) (hpage : 0 < config.azurePageSize)
    (h : scope.Lists r) (now : Timestamp)
    (ho : Page.offset (c.state.instances.list scope).length
      (r.query? scope.provider.tokenName) = .ok n) :
    (∃ limit, (∀ m, limit = some m → 0 < m) ∧
      scope.Shows config r (c.respond scope.provider now r).1
        (Page.slice (c.state.instances.list scope) limit n)) ∧
    c.Step none (c.respond scope.provider now r).2 := by
  have hsought := h.sought config (c.state.instances.list scope)
  rw [← List.length_map (scope.view config), ← hsought] at ho
  obtain ⟨hd, hstep⟩ := respond_selects hc h.selects now ho
  rw [hsought, Page.map_slice] at hd
  exact ⟨⟨_, fun m hm => h.selects.limit_pos (fun _ => hpage) hm, hd.shows⟩, hstep⟩

/-- What the answers show one after another, from a request on that is followed to the last page. -/
inductive Walk (scope : Scope) : Cloud → Http.Request → List Json → Prop
  | last {c now r} : (c.respond scope.provider now r).1.isSuccess = true →
    scope.provider.next? (c.respond scope.provider now r).1 = none →
    Walk scope c r (scope.provider.shown (c.respond scope.provider now r).1)
  | more {c now r link r' rest} : (c.respond scope.provider now r).1.isSuccess = true →
    scope.provider.next? (c.respond scope.provider now r).1 = some link →
    scope.Follows r link r' → Walk scope (c.respond scope.provider now r).2 r' rest →
    Walk scope c r (scope.provider.shown (c.respond scope.provider now r).1 ++ rest)

/-- What follows a page asks for the same list from the end of the page on, and finds it as it was. -/
theorem Step.follows {r' : Http.Request} {m : Nat} (k : c.Step none c')
    (hc : Consistent config c) (h : scope.Lists r)
    (hf : scope.Follows r (scope.provider.link r (toString m)) r')
    (hm : m ≤ (c.state.instances.list scope).length) :
    Consistent config c' ∧ scope.Lists r' ∧
      Page.offset (c'.state.instances.list scope).length
        (r'.query? scope.provider.tokenName) = .ok m := by
  obtain ⟨hl, ht⟩ := hf.lists h
  refine ⟨hc.step k, hl, ?_⟩
  rw [ht, k.instances]
  exact hc.offset_token hm

/-- A walk shows everything from where it begins. -/
theorem Walk.items_eq (hw : Walk scope c r items) (hc : Consistent config c)
    (hpage : 0 < config.azurePageSize) (h : scope.Lists r)
    (ho : Page.offset (c.state.instances.list scope).length
      (r.query? scope.provider.tokenName) = .ok n) :
    items = ((c.state.instances.list scope).drop n).map (scope.view config) := by
  -- Along the walk only the offset of the page changes: asking for it creates nothing.
  induction hw generalizing n with
  | @last c now r hsuccess hnext =>
    obtain ⟨⟨limit, -, hshows⟩, -⟩ := respond_lists hc hpage h now ho
    rw [hshows.next] at hnext
    rcases Page.slice_cases (c.state.instances.list scope) limit n with hs | ⟨m, -, -, hs⟩
    · rw [hshows.shown, hs]
    · rw [hs] at hnext
      cases hnext
  | @more c now r link r' rest hsuccess hnext hf hw ih =>
    obtain ⟨⟨limit, -, hshows⟩, hstep⟩ := respond_lists hc hpage h now ho
    rw [hshows.next] at hnext
    rcases Page.slice_cases (c.state.instances.list scope) limit n with hs | ⟨m, -, hm, hs⟩
    · rw [hs] at hnext
      cases hnext
    · rw [hs] at hnext
      cases hnext
      obtain ⟨hc', hl, ho'⟩ := hstep.follows hc h hf (Nat.le_of_lt hm)
      rw [ih hc' hl ho', hshows.shown, hs, hstep.instances, ← List.map_append, ← List.drop_drop,
        List.take_append_drop]

/-- Every walk can be finished. -/
theorem exists_walk (hc : Consistent config c) (hpage : 0 < config.azurePageSize)
    (h : scope.Lists r)
    (ho : Page.offset (c.state.instances.list scope).length
      (r.query? scope.provider.tokenName) = .ok n) : ∃ items, Walk scope c r items := by
  -- A page of a positive size leaves fewer instances for the rest of the walk.
  induction hk : (c.state.instances.list scope).length - n using Nat.strongRecOn
    generalizing c r n with
  | _ k ih =>
    let now : Timestamp := ⟨0, 0⟩
    obtain ⟨⟨limit, hpos, hshows⟩, hstep⟩ := respond_lists hc hpage h now ho
    rcases Page.slice_cases (c.state.instances.list scope) limit n with hs | ⟨m, hlimit, hm, hs⟩
    · refine ⟨_, .last hshows.success ?_⟩
      rw [hshows.next, hs]
      rfl
    · have hnext : scope.provider.next? (c.respond scope.provider now r).1 =
          some (scope.provider.link r (toString (n + m))) := by
        rw [hshows.next, hs]
        rfl
      obtain ⟨r', hf⟩ := h.exists_follows (toString (n + m))
      obtain ⟨hc', hl, ho'⟩ := hstep.follows hc h hf (Nat.le_of_lt hm)
      have hlt : ((c.respond scope.provider now r).2.state.instances.list scope).length - (n + m)
          < k := by
        rw [hstep.instances]
        have hm' := hpos m hlimit
        omega
      obtain ⟨rest, hw⟩ := ih _ hlt hc' hl ho' rfl
      exact ⟨_, .more hshows.success hnext hf hw⟩

end Cloud

end CloudEmulation
