import CloudEmulation.Pattern.Matching
import CloudEmulation.Proofs.Pattern.Alternatives
/-!
Patterns within the parentheses that anchor them at the start of a text.
-/

namespace CloudEmulation.Pattern

namespace Read

variable {s : Text} {n : Nat}

def outermost (s : Text) : Option Progress :=
  reading .standard [] [] ⟨[]⟩ (2 * s.length + 2) s

/-- The part that a whole text stands for, however deep and large it is. -/
def whole? (s : Text) : Option Part :=
  (outermost s).bind fun p => if p.2 = [] then some p.1.1 else none

/-- A parenthesis stands in the text that closes no group. -/
def Stray (s : Text) : Prop := ∃ p ∈ outermost s, p.2 ≠ []

/-- The text ends within a comment, which swallows a parenthesis after it. -/
def EndsInComment (s : Text) : Prop := (whole? s).isSome ∧ (whole? (s ++ [')'])).isSome

/-- Within parentheses the text stays what it is on its own. -/
structure SelfContained (s : Text) : Prop where
  closed : ¬Stray s
  uncommented : ¬EndsInComment s
  room : ∀ p, whole? s = some p → p.depth + 2 ≤ depthLimit ∧ p.pattern.weight + 32 ≤ weightLimit

theorem stray_iff : Stray s ↔ (outermost s).any (!·.2.isEmpty) = true := by
  unfold Stray
  cases outermost s <;> simp

theorem room_iff {o : Option Part} :
    (∀ p, o = some p → p.depth + 2 ≤ depthLimit ∧ p.pattern.weight + 32 ≤ weightLimit) ↔
      o.all (fun p => decide (p.depth + 2 ≤ depthLimit) &&
        decide (p.pattern.weight + 32 ≤ weightLimit)) = true := by
  cases o <;> simp

theorem selfContained_iff : SelfContained s ↔ ¬(outermost s).any (!·.2.isEmpty) = true ∧
    ¬((whole? s).isSome ∧ (whole? (s ++ [')'])).isSome) ∧
    (whole? s).all (fun p => decide (p.depth + 2 ≤ depthLimit) &&
      decide (p.pattern.weight + 32 ≤ weightLimit)) = true := by
  rw [← stray_iff, ← room_iff]
  exact ⟨fun h => ⟨h.closed, h.uncommented, h.room⟩, fun h => ⟨h.1, h.2.1, h.2.2⟩⟩

instance : Decidable (SelfContained s) := decidable_of_iff _ selfContained_iff.symm

def wrapped (s : Text) : Text := '^' :: '(' :: '?' :: ':' :: (s ++ [')'])

def anchoredPart (p : Part) : Part := ⟨.seq (.look .start) p.pattern, p.depth + 2⟩

def startFrame : Frame := ⟨[some ⟨.look .start, 0⟩]⟩

theorem outermost_wrapped (s : Text) :
    outermost (wrapped s) =
      reading .standard [] [] ⟨[]⟩ (2 * s.length + 10) (s ++ [')']) >>=
        closeGroup .standard [] startFrame (2 * s.length + 10) := by
  have hopening : opening .standard ('?' :: ':' :: (s ++ [')'])) =
      some (.group .standard none (s ++ [')'])) := rfl
  have hlength : 2 * (wrapped s).length + 2 = 2 * s.length + 10 + 1 + 1 := by
    simp [wrapped]
    omega
  rw [outermost, hlength, wrapped, reading_primitive rfl rfl rfl]
  show reading .standard [] [] startFrame (2 * s.length + 10 + 1) _ = _
  rw [reading_open rfl, hopening]
  rfl

theorem closeGroup_anchored (p : Part × List String) :
    closeGroup .standard [] startFrame (n + 1) (p, [')']) = some ((anchoredPart p.1, p.2), []) := by
  show reading .standard p.2 [] (startFrame.push (some ⟨p.1.pattern, p.1.depth + 1⟩)) (n + 1) [] = _
  rw [reading_end rfl]
  simp [ended, Frame.sequence, startFrame, Frame.push, seqOf, altOf, anchoredPart]
  omega

theorem whole?_wrapped (hclosed : ¬Stray s) (hcomment : ¬EndsInComment s) :
    whole? (wrapped s) = (whole? s).map anchoredPart := by
  have hfuel : outermost (s ++ [')']) =
      reading .standard [] [] ⟨[]⟩ (2 * s.length + 10) (s ++ [')']) :=
    reading_fuel _ _ _ _ (by omega) (by simp; omega)
  have hafter : After s (s ++ [')']) (outermost s) (outermost (s ++ [')'])) :=
    reading_after _ _ _ _ _ (.append s) (by omega) (by omega)
  simp only [Stray, EndsInComment, whole?] at hclosed hcomment ⊢
  rw [outermost_wrapped, ← hfuel]
  generalize outermost s = o at hafter hclosed hcomment ⊢
  generalize outermost (s ++ [')']) = o' at hafter hcomment ⊢
  cases hafter with
  | refused => rfl
  | swallowed => rfl
  | @read p r r' hr _ _ =>
    obtain rfl : r = [] := Decidable.byContradiction fun hne => hclosed ⟨_, rfl, hne⟩
    cases hr with
    | nil => exact absurd ⟨rfl, rfl⟩ hcomment
    | close =>
      rw [Option.bind_eq_bind, Option.bind_some, closeGroup_anchored]
      rfl

end Read

theorem parse?_eq (text : String) :
    parse? text = (Read.whole? text.toList).bind fun p =>
      if p.depth ≤ Read.depthLimit ∧ p.pattern.weight ≤ weightLimit then some p.pattern
      else none := by
  unfold parse? Read.whole? Read.outermost Read.reading
  dsimp only
  cases Read.alternatives .standard [] [] ⟨[]⟩ (2 * text.toList.length + 2) text.toList with
  | none => rfl
  | some o =>
    obtain ⟨p, names, rest⟩ := o
    cases rest <;> rfl

theorem parse?_wrapped {text wrapped : String} (h : Read.SelfContained text.toList)
    (hwrapped : wrapped.toList = Read.wrapped text.toList) :
    parse? wrapped = (parse? text).map (.seq (.look .start)) := by
  rw [parse?_eq, parse?_eq, hwrapped, Read.whole?_wrapped h.closed h.uncommented]
  cases hpart : Read.whole? text.toList with
  | none => rfl
  | some p =>
    obtain ⟨hdepth, hweight⟩ := h.room p hpart
    have hweight' : (Pattern.seq (.look .start) p.pattern).weight ≤ weightLimit := by
      rw [weight, weight]
      omega
    have hin : p.depth ≤ Read.depthLimit ∧ p.pattern.weight ≤ weightLimit :=
      ⟨by omega, by omega⟩
    simp only [Option.map_some, Option.bind_some, Read.anchoredPart, if_pos hin,
      if_pos (And.intro hdepth hweight')]

theorem ends_start (cs : Array Char) : ends cs (.look .start) (List.range (cs.size + 1)) = [0] := by
  rw [ends, List.range_succ_eq_map, List.filter_cons]
  simp [Look.holds, List.filter_map]

theorem isMatch_start (p : Pattern) (text : String) :
    (Pattern.seq (.look .start) p).isMatch text = p.matchesStart text := by
  simp only [isMatch, matchesStart, ends]
  rw [← ends_start text.toList.toArray, ends]

end CloudEmulation.Pattern
