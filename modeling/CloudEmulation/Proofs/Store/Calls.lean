import CloudEmulation.Instance
import CloudEmulation.Proofs.Store
/-!
Stores under any calls: what was accepted is what is listed, found and counted, and what no further
resource of its scope may be named like.
-/

namespace CloudEmulation

inductive StoreCall (α : Type) where
  | add (scope : Scope) (a : α)
  | list (scope : Scope)
  | get (scope : Scope) (id : String)
  | size
  deriving DecidableEq, Repr

inductive StoreAnswer (α : Type) where
  | resource (r : Except Fault α)
  | resources (as : List α)
  | number (n : Nat)

/-- The resource that an answered call added, with its scope. -/
def StoreCall.accepted? {α : Type} : StoreCall α → StoreAnswer α → Option (Scope × α)
  | .add scope _, .resource (.ok a) => some (scope, a)
  | _, _ => none

namespace Store

variable {α : Type} [Identified α] {s : Store α} {scope : Scope} {a b : α} {id : String} {f : Fault}

def perform (s : Store α) : StoreCall α → StoreAnswer α × Store α
  | .add scope a => (.resource (s.add scope a).1, (s.add scope a).2)
  | .list scope => (.resources (s.list scope), s)
  | .get scope id => (.resource (s.get scope id), s)
  | .size => (.number s.size, s)

def after (s : Store α) (calls : List (StoreCall α)) : Store α :=
  calls.foldl (fun s call => (s.perform call).2) s

/-- What some calls add, oldest first. -/
def accepted (s : Store α) : List (StoreCall α) → List (Scope × α)
  | [] => []
  | call :: calls =>
    (call.accepted? (s.perform call).1).toList ++ accepted (s.perform call).2 calls

theorem add_cases (s : Store α) (scope : Scope) (a : α) :
    (s.has scope (identity a) = false ∧ s.add scope a = (.ok a, s.append scope a)) ∨
    (s.has scope (identity a) = true ∧
      s.add scope a = (.error (.duplicateIdentity (identity a) scope), s)) := by
  unfold add
  cases s.has scope (identity a) with
  | false => exact .inl ⟨rfl, rfl⟩
  | true => exact .inr ⟨rfl, rfl⟩

/-! One call. -/

theorem entries_perform (s : Store α) (call : StoreCall α) :
    (s.perform call).2.entries =
      s.entries ++ (call.accepted? (s.perform call).1).toList := by
  cases call with
  | add scope a =>
    rcases s.add_cases scope a with ⟨-, h⟩ | ⟨-, h⟩
    · simp only [perform, h, StoreCall.accepted?, append, Option.toList_some]
    · simp only [perform, h, StoreCall.accepted?, Option.toList_none, List.append_nil]
  | list scope => exact (List.append_nil _).symm
  | get scope id => exact (List.append_nil _).symm
  | size => exact (List.append_nil _).symm

theorem Distinct.perform (h : s.Distinct) (call : StoreCall α) : (s.perform call).2.Distinct := by
  cases call with
  | add scope a =>
    rcases s.add_cases scope a with ⟨hv, ha⟩ | ⟨-, ha⟩
    · simpa only [Store.perform, ha] using h.append hv
    · simpa only [Store.perform, ha] using h
  | list scope => exact h
  | get scope id => exact h
  | size => exact h

/-! Any number of calls. -/

theorem entries_after (s : Store α) (calls : List (StoreCall α)) :
    (s.after calls).entries = s.entries ++ s.accepted calls := by
  induction calls generalizing s with
  | nil => exact (List.append_nil _).symm
  | cons call calls ih =>
    calc (s.after (call :: calls)).entries
      _ = (s.perform call).2.entries ++ (s.perform call).2.accepted calls := ih _
      _ = s.entries ++ s.accepted (call :: calls) := by
        rw [entries_perform, List.append_assoc, accepted]

theorem Distinct.after (h : s.Distinct) (calls : List (StoreCall α)) :
    (s.after calls).Distinct := by
  induction calls generalizing s with
  | nil => exact h
  | cons call calls ih => exact ih (h.perform call)

theorem accepted?_eq_some {call : StoreCall α}
    (h : call.accepted? (s.perform call).1 = some (scope, a)) : call = .add scope a := by
  cases call with
  | add other b =>
    rcases s.add_cases other b with ⟨-, hb⟩ | ⟨-, hb⟩
    · simp only [perform, hb, StoreCall.accepted?, Option.some.injEq, Prod.mk.injEq] at h
      rw [h.1, h.2]
    · simp only [perform, hb, StoreCall.accepted?, reduceCtorEq] at h
  | list => cases h
  | get => cases h
  | size => cases h

theorem mem_calls_of_accepted {calls : List (StoreCall α)} (h : (scope, a) ∈ s.accepted calls) :
    .add scope a ∈ calls := by
  induction calls generalizing s with
  | nil => cases h
  | cons call calls ih =>
    rcases List.mem_append.mp h with h | h
    · rw [accepted?_eq_some (Option.mem_toList.mp h)]
      exact List.mem_cons_self
    · exact List.mem_cons_of_mem _ (ih h)

/-! What the entries say. -/

theorem add_eq_ok : (s.add scope a).1 = .ok b ↔
    b = a ∧ ∀ c, (scope, c) ∈ s.entries → identity c ≠ identity a := by
  rcases s.add_cases scope a with ⟨hv, h⟩ | ⟨hv, h⟩
  · have hne : ∀ c, (scope, c) ∈ s.entries → identity c ≠ identity a := by
      intro c hc he
      exact has_eq_false_iff.mp hv (he ▸ List.mem_map_of_mem (mem_list.mpr hc))
    rw [h, Except.ok.injEq]
    exact ⟨fun he => ⟨he.symm, hne⟩, fun he => he.1.symm⟩
  · obtain ⟨c, hc, he⟩ := List.mem_map.mp (has_iff.mp hv)
    rw [h]
    exact ⟨nofun, fun ⟨_, hne⟩ => absurd he (hne c (mem_list.mp hc))⟩

theorem add_eq_error : (s.add scope a).1 = .error f ↔
    f = .duplicateIdentity (identity a) scope ∧
      ∃ c, (scope, c) ∈ s.entries ∧ identity c = identity a := by
  rcases s.add_cases scope a with ⟨hv, h⟩ | ⟨hv, h⟩
  · rw [h]
    refine ⟨nofun, fun ⟨_, c, hc, he⟩ => ?_⟩
    exact absurd (he ▸ List.mem_map_of_mem (mem_list.mpr hc)) (has_eq_false_iff.mp hv)
  · obtain ⟨c, hc, he⟩ := List.mem_map.mp (has_iff.mp hv)
    rw [h, Except.error.injEq]
    exact ⟨fun hf => ⟨hf.symm, c, mem_list.mp hc, he⟩, fun hf => hf.1.symm⟩

theorem add_of_error (h : (s.add scope a).1 = .error f) : (s.add scope a).2 = s := by
  rcases s.add_cases scope a with ⟨-, ha⟩ | ⟨-, ha⟩
  · rw [ha] at h
    cases h
  · rw [ha]

theorem perform_of_ne_add {call : StoreCall α} (h : ∀ scope a, call ≠ .add scope a) :
    (s.perform call).2 = s := by
  cases call with
  | add scope a => exact absurd rfl (h scope a)
  | list => rfl
  | get => rfl
  | size => rfl

/-- Whatever was called before, a store takes a resource whose identity nothing it took in that scope
has, and it lists, finds and counts what it took. -/
theorem tells_accepted (calls : List (StoreCall α)) :
    let s := (empty : Store α).after calls
    let accepted := (empty : Store α).accepted calls
    (∀ scope a b, (s.add scope a).1 = .ok b ↔
      b = a ∧ ∀ c, (scope, c) ∈ accepted → identity c ≠ identity a) ∧
    (∀ scope a f, (s.add scope a).1 = .error f ↔
      f = .duplicateIdentity (identity a) scope ∧
        ∃ c, (scope, c) ∈ accepted ∧ identity c = identity a) ∧
    (∀ scope a f, (s.add scope a).1 = .error f → (s.add scope a).2 = s) ∧
    (∀ scope, s.list scope = (accepted.filter (·.1 = scope)).map Prod.snd) ∧
    (∀ scope, (∀ a, .add scope a ∉ calls) → s.list scope = []) ∧
    (∀ scope id a, s.get scope id = .ok a ↔ (scope, a) ∈ accepted ∧ identity a = id) ∧
    (∀ scope id f, s.get scope id = .error f ↔
      f = .notFound id scope ∧ ∀ a, (scope, a) ∈ accepted → identity a ≠ id) ∧
    s.size = accepted.length ∧
    ∀ call, (∀ scope a, call ≠ .add scope a) → (s.perform call).2 = s := by
  intro s accepted
  have hentries : s.entries = accepted := entries_after empty calls
  have hdistinct : s.Distinct := distinct_empty.after calls
  have hmem (scope : Scope) (a : α) : a ∈ s.list scope ↔ (scope, a) ∈ accepted :=
    hentries ▸ mem_list
  refine ⟨fun scope a b => hentries ▸ add_eq_ok, fun scope a f => hentries ▸ add_eq_error,
    fun scope a f => add_of_error, fun scope => hentries ▸ list_eq_filter s scope, ?_, ?_, ?_,
    congrArg List.length hentries, fun call => perform_of_ne_add⟩
  · intro scope hnone
    refine List.eq_nil_iff_forall_not_mem.mpr fun a ha => ?_
    exact hnone a (mem_calls_of_accepted ((hmem scope a).mp ha))
  · intro scope id a
    rw [get_eq_ok_iff (hdistinct scope), hmem]
  · intro scope id f
    simp only [get_eq_error_iff, hmem]

/-- A name is taken in the scope where it was accepted, and nowhere else. -/
theorem told_of_three_calls :
    let here := Scope.tenancy .oracle
    let there := Scope.tenancy .azure
    let l : Locator := ⟨"a", .oracle "north", none⟩
    let m : Locator := ⟨"a", .oracle "south", some "b"⟩
    let s := (empty : Store Locator).after [.add here l, .add here m, .add there m]
    (s.add here m).1 = .error (.duplicateIdentity "a" here) ∧
    s.list here = [l] ∧ s.list there = [m] ∧ s.list (.tenancy .google) = [] ∧
    s.get here "a" = .ok l ∧ s.get there "b" = .error (.notFound "b" there) ∧ s.size = 2 := by
  intro here there l m s
  obtain ⟨-, hrefuse, -, hlist, hnone, hget, hmiss, hsize, -⟩ :=
    tells_accepted [.add here l, .add here m, .add there m]
  have haccepted : (empty : Store Locator).accepted [.add here l, .add here m, .add there m] =
      [(here, l), (there, m)] := by decide
  rw [haccepted] at hrefuse hlist hget hmiss hsize
  have hthere : ∀ a, (there, a) ∈ [(here, l), (there, m)] → a = m := by
    intro a ha
    simpa [here, there] using ha
  refine ⟨(hrefuse here m _).mpr ⟨rfl, l, by decide, rfl⟩, hlist here, hlist there,
    hnone _ (by simp [here, there]), (hget here "a" l).mpr ⟨by decide, rfl⟩, ?_, hsize⟩
  refine (hmiss there "b" _).mpr ⟨rfl, fun a ha => ?_⟩
  rw [hthere a ha]
  decide

end Store

end CloudEmulation
