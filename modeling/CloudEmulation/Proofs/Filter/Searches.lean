import CloudEmulation.Proofs.Filter.Terms
import CloudEmulation.Proofs.Pattern.Anchoring
/-!
Terms that search a value for a pattern from its first character on.
-/

namespace CloudEmulation.Filter

open Read
open Pattern.Read (SelfContained)

def searching (k : Key) (wanted : Bool) (q : Quote) (p : String) : String :=
  k.text ++ (searchSign wanted ++ q.around p)

theorem parse_searching (k : Key) (wanted : Bool) (q : Quote) (p : String) :
    parse (searching k wanted q p) =
      match Pattern.parse? (anchored p) with
      | some pattern => .ok (.search k.names wanted pattern)
      | none => .error (.invalidPattern p) := by
  have hsigned : Signed (searchSign wanted ++ q.around p).toList := by
    rw [String.toList_append]
    exact signed_searchSign wanted _
  have hterm := term_search k wanted (.quoted q p) (r := []) (by simp [Ended])
  rw [List.append_nil, ← String.toList_append] at hterm
  simp only [Literal.text, Literal.value] at hterm
  cases hp : Pattern.parse? (anchored p) with
  | none =>
    rw [hp] at hterm
    exact refused_of_term k hsigned hterm
  | some pattern =>
    rw [hp] at hterm
    exact parse_of_term k hsigned hterm

/-- Whether the search is read as a filter, and the resource matches it. -/
def Found (k : Key) (wanted : Bool) (q : Quote) (p : String) (j : Json) : Prop :=
  ∃ a : Accepted, a.text = searching k wanted q p ∧ a.filter.accepts j = true

theorem exists_searching (k : Key) (wanted : Bool) (q : Quote) (p : String) :
    (∃ a : Accepted, a.text = searching k wanted q p) ↔
      (Pattern.parse? (anchored p)).isSome = true := by
  have hparse := parse_searching k wanted q p
  constructor
  · rintro ⟨a, ha⟩
    cases hp : Pattern.parse? (anchored p) with
    | some pattern => rfl
    | none =>
      have hparses := a.parses
      rw [ha, hparse, hp] at hparses
      cases hparses
  · intro hp
    obtain ⟨pattern, hp⟩ := Option.isSome_iff_exists.mp hp
    rw [hp] at hparse
    exact ⟨⟨_, _, hparse⟩, rfl⟩

theorem found_iff (k : Key) (wanted : Bool) (q : Quote) (p : String) {j : Json} {t : String}
    (hvalue : lookup j k.names = some (.string t)) :
    Found k wanted q p j ↔
      ∃ pattern ∈ Pattern.parse? (anchored p), pattern.isMatch t = wanted := by
  have hparse := parse_searching k wanted q p
  have haccepts (pattern : Pattern) : (Filter.search k.names wanted pattern).accepts j =
      (pattern.isMatch t == wanted) := by
    simp [accepts, hvalue, searches, anyScalar, Scalar.shown]
  constructor
  · rintro ⟨a, ha, hmatch⟩
    obtain ⟨pattern, hp⟩ :=
      Option.isSome_iff_exists.mp ((exists_searching k wanted q p).mp ⟨a, ha⟩)
    have hparses := a.parses
    rw [ha, hparse, hp] at hparses
    rw [← Except.ok.inj hparses, haccepts] at hmatch
    exact ⟨pattern, hp, beq_iff_eq.mp hmatch⟩
  · rintro ⟨pattern, hp, hmatch⟩
    rw [Option.mem_def.mp hp] at hparse
    exact ⟨⟨_, _, hparse⟩, rfl, (haccepts pattern).trans (beq_iff_eq.mpr hmatch)⟩

/-! Patterns that the anchoring leaves what they are. -/

theorem parse?_anchored {p : String} (h : SelfContained p.toList) :
    Pattern.parse? (anchored p) = (Pattern.parse? p).map (.seq (.look .start)) :=
  Pattern.parse?_wrapped h (by simp [anchored, Pattern.Read.wrapped])

def nameKey : Key := .ofName "name" ⟨'n', ['a', 'm', 'e'], rfl, rfl, List.all_eq_true.mp rfl⟩

end CloudEmulation.Filter
