import CloudEmulation.Pattern.Reader
/-!
Parts of patterns are read in the same way where a closing parenthesis follows their text: the
parenthesis is left over, unless a comment at the end of the text swallows it.
-/

namespace CloudEmulation.Pattern.Read

variable {α β : Type} {c : Char} {s s' t t' r r' u u' : Text} {m n : Nat} {b : Bool}

/-- The second text is the first one, or the first one with a closing parenthesis after it. -/
inductive Follows : Text → Text → Prop where
  | nil : Follows [] []
  | close : Follows [] [')']
  | cons (c : Char) {s s' : Text} : Follows s s' → Follows (c :: s) (c :: s')

namespace Follows

theorem self (s : Text) : Follows s s := by
  induction s with
  | nil => exact .nil
  | cons c s ih => exact .cons c ih

theorem append (s : Text) : Follows s (s ++ [')']) := by
  induction s with
  | nil => exact .close
  | cons c s ih => exact .cons c ih

theorem antisymm (h : Follows s s') (h' : Follows s' s) : s = s' := by
  induction h with
  | nil => rfl
  | close => cases h'
  | cons c _ ih =>
    cases h' with
    | cons _ h' => rw [ih h']

theorem dropWhile {p : Char → Bool} (hp : p ')' = false) (h : Follows s s') :
    Follows (s.dropWhile p) (s'.dropWhile p) := by
  induction h with
  | nil => exact .nil
  | close => simpa [hp] using close
  | cons c h ih =>
    rw [List.dropWhile_cons, List.dropWhile_cons]
    split
    · exact ih
    · exact h.cons c

theorem takeWhile {p : Char → Bool} (hp : p ')' = false) (h : Follows s s') :
    s'.takeWhile p = s.takeWhile p := by
  induction h with
  | nil => rfl
  | close => simp [hp]
  | cons c h ih => rw [List.takeWhile_cons, List.takeWhile_cons, ih]

theorem cut {p : Char → Bool} (hp : p ')' = true) (h : Follows s s') :
    (s.dropWhile p = [] ∧ s'.dropWhile p = []) ∨
      ∃ c u u', s.dropWhile p = c :: u ∧ s'.dropWhile p = c :: u' ∧ Follows u u' ∧
        s'.takeWhile p = s.takeWhile p := by
  induction h with
  | nil => exact .inl ⟨rfl, rfl⟩
  | close => exact .inl ⟨rfl, by simp [hp]⟩
  | cons c h ih =>
    simp only [List.dropWhile_cons, List.takeWhile_cons]
    cases hc : p c with
    | false => exact .inr ⟨c, _, _, rfl, rfl, h, rfl⟩
    | true =>
      obtain ih | ⟨d, u, u', hs, hs', hu, htake⟩ := ih
      · exact .inl ih
      · exact .inr ⟨d, u, u', hs, hs', hu, by simp [htake]⟩

end Follows

theorem length_dropWhile (p : Char → Bool) (s : Text) : (s.dropWhile p).length ≤ s.length :=
  (List.dropWhile_suffix p).length_le

theorem cons_ne {d : Char} (h : c ≠ d) : c :: s ≠ d :: t := fun he => h (List.cons.inj he).1

/-! Blanks and comments. -/

theorem length_dropComment (s : Text) : (dropComment s).length ≤ s.length := by
  have h := length_dropWhile (· ≠ '\n') s
  simp only [dropComment, List.length_drop]
  omega

theorem Follows.dropComment (h : Follows s s') : Follows (dropComment s) (dropComment s') := by
  unfold Read.dropComment
  obtain ⟨hs, hs'⟩ | ⟨c, u, u', hs, hs', hu, -⟩ := h.cut (p := (· ≠ '\n')) (by decide)
  · rw [hs, hs']
    exact .nil
  · rw [hs, hs']
    exact hu

theorem length_skipBlanks (n : Nat) (s : Text) : (skipBlanks n s).length ≤ s.length := by
  fun_induction skipBlanks n s with
  | case1 => simp
  | case2 => simp
  | case3 n c r hc ih =>
    rw [List.length_cons]
    omega
  | case4 n r hc ih =>
    have h := length_dropComment r
    rw [List.length_cons]
    omega
  | case5 => simp

theorem Follows.skipBlanks (h : Follows s s') (hn : s.length ≤ n) (hm : s'.length ≤ m) :
    Follows (skipBlanks n s) (skipBlanks m s') := by
  induction n generalizing s s' m with
  | zero =>
    cases h with
    | nil => cases m <;> exact .nil
    | close => cases m <;> exact .close
    | cons c h => simp at hn
  | succ n ih =>
    cases h with
    | nil => cases m <;> exact .nil
    | close => cases m <;> exact .close
    | @cons c u u' h =>
      simp only [List.length_cons] at hn hm
      obtain ⟨m, rfl⟩ : ∃ k, m = k + 1 := ⟨m - 1, by omega⟩
      rw [Read.skipBlanks, Read.skipBlanks]
      split
      · exact ih h (by omega) (by omega)
      · split
        · have hlength := length_dropComment u
          have hlength' := length_dropComment u'
          exact ih h.dropComment (by omega) (by omega)
        · exact h.cons c

theorem Follows.skip (h : Follows s s') (b : Bool) : Follows (skip b s) (skip b s') := by
  cases b with
  | false => exact h
  | true => exact h.skipBlanks (Nat.le_refl _) (Nat.le_refl _)

theorem length_skip (b : Bool) (s : Text) : (Read.skip b s).length ≤ s.length := by
  cases b with
  | false => exact Nat.le_refl _
  | true => exact length_skipBlanks _ s

inductive Skipped (b : Bool) (s s' : Text) : Prop where
  | nil : skip b s = [] → skip b s' = [] → Skipped b s s'
  | close : skip b s = [] → skip b s' = [')'] → Skipped b s s'
  | cons {c : Char} {u u' : Text} : skip b s = c :: u → skip b s' = c :: u' → Follows u u' →
      u.length < s.length → u'.length < s'.length → Skipped b s s'

theorem Follows.skipped (h : Follows s s') (b : Bool) : Skipped b s s' := by
  have hlength := length_skip b s
  have hlength' := length_skip b s'
  have hskip := h.skip b
  generalize hs : Read.skip b s = t at hskip hlength
  generalize hs' : Read.skip b s' = t' at hskip hlength'
  cases hskip with
  | nil => exact .nil hs hs'
  | close => exact .close hs hs'
  | cons c h => exact .cons hs hs' h hlength hlength'

/-! What a reader makes of the two texts. -/

/-- The two results of a reader, which leaves no more than it is given. It may also refuse the
first text and take up all of the second, parenthesis included. -/
inductive After (s s' : Text) : Option (α × Text) → Option (α × Text) → Prop where
  | read {x : α} {r r' : Text} :
      Follows r r' → r.length ≤ s.length → r'.length ≤ s'.length →
        After s s' (some (x, r)) (some (x, r'))
  | refused : After s s' none none
  | swallowed {x : α} : After s s' none (some (x, []))

namespace After

variable {o o' : Option (α × Text)}

theorem mono (h : After t t' o o') (ht : t.length ≤ s.length) (ht' : t'.length ≤ s'.length) :
    After s s' o o' := by
  cases h with
  | read hr hle hle' => exact .read hr (Nat.le_trans hle ht) (Nat.le_trans hle' ht')
  | refused => exact .refused
  | swallowed => exact .swallowed

theorem whole {x : α} (h : Follows s s') : After s s' (some (x, s)) (some (x, s')) :=
  .read h (Nat.le_refl _) (Nat.le_refl _)

theorem cons (c : Char) (h : After s s' o o') : After (c :: s) (c :: s') o o' :=
  h.mono (Nat.le_succ _) (Nat.le_succ _)

theorem skip (h : After (skip b s) (skip b s') o o') : After s s' o o' :=
  h.mono (length_skip b s) (length_skip b s')

theorem of_lt (h : After u u' o o') (hle : u.length < s.length) (hle' : u'.length < s'.length) :
    After s s' o o' :=
  h.mono (Nat.le_of_lt hle) (Nat.le_of_lt hle')

theorem of_nil (h : After [] [] o o') : After s s' none o' := by
  cases h with
  | @read x r r' hr hle hle' =>
    obtain rfl := List.length_eq_zero_iff.mp (Nat.le_zero.mp hle')
    exact .swallowed
  | refused => exact .refused
  | swallowed => exact .swallowed

theorem bind {Q Q' : α × Text → Option (β × Text)} (h : After s s' o o')
    (hQ : ∀ x {r r'}, Follows r r' → r.length ≤ s.length → r'.length ≤ s'.length →
      After r r' (Q (x, r)) (Q' (x, r'))) :
    After s s' (o >>= Q) (o' >>= Q') := by
  cases h with
  | read hr hle hle' => exact (hQ _ hr hle hle').mono hle hle'
  | refused => exact .refused
  | @swallowed x => exact (hQ x .nil (Nat.zero_le _) (Nat.zero_le _)).of_nil

theorem option {F F' : β → Option (α × Text)} (x : Option β) (h : ∀ y, After s s' (F y) (F' y)) :
    After s s' (x >>= F) (x >>= F') := by
  cases x with
  | none => exact .refused
  | some y => exact h y

theorem antisymm (h : After s s' o o') (h' : After s' s o' o) : o = o' := by
  cases h with
  | read hr _ _ =>
    cases h' with
    | read hr' _ _ => rw [hr.antisymm hr']
  | refused => rfl
  | swallowed => cases h'

end After

/-! Numbers. -/

theorem hexFixed_after (h : Follows s s') (v count : Nat) :
    After s s' (hexFixed b v count s) (hexFixed b v count s') := by
  induction count generalizing v s s' with
  | zero => exact .whole h
  | succ count ih =>
    cases h with
    | nil => exact .refused
    | close => exact .refused
    | cons c h =>
      apply After.option
      exact fun d => ((ih (h.skip b) _).skip).cons c

theorem hexBraced_after (h : Follows s s') (hn : s.length < n) (hm : s'.length < m)
    (digits v : Nat) :
    After s s' (hexBraced b digits v n s) (hexBraced b digits v m s') := by
  induction n generalizing digits v m s s' with
  | zero => omega
  | succ n ih =>
    obtain ⟨m, rfl⟩ : ∃ k, m = k + 1 := ⟨m - 1, by omega⟩
    cases h with
    | nil => exact .refused
    | close => exact .refused
    | @cons c u u' h =>
      rw [hexBraced, hexBraced]
      split
      · split
        · exact .refused
        · exact (After.whole h).cons c
      · apply After.option
        intro d
        have hlength := length_skip b u
        have hlength' := length_skip b u'
        simp only [List.length_cons] at hn hm
        exact ((ih (h.skip b) (by omega) (by omega) _ _).skip).cons c

theorem decimalDigits_after (h : Follows s s') (hn : s.length ≤ n) (hm : s'.length ≤ m)
    (digits : List Char) :
    After s s' (some (decimalDigits b digits n s)) (some (decimalDigits b digits m s')) := by
  induction n generalizing digits m s s' with
  | zero =>
    cases h with
    | nil => cases m <;> exact .whole .nil
    | close => cases m <;> exact .whole .close
    | cons c h => simp at hn
  | succ n ih =>
    cases h with
    | nil => cases m <;> exact .whole .nil
    | close => cases m <;> exact .whole .close
    | @cons c u u' h =>
      have hlength := length_skip b u
      have hlength' := length_skip b u'
      simp only [List.length_cons] at hn hm
      obtain ⟨m, rfl⟩ : ∃ k, m = k + 1 := ⟨m - 1, by omega⟩
      rw [decimalDigits, decimalDigits]
      split
      · exact ((ih (h.skip b) (by omega) (by omega) _).skip).cons c
      · exact .whole (h.cons c)

theorem decimal_follows (h : Follows s s') :
    ∃ x missing r r', decimal b s = (x, missing, r) ∧ decimal b s' = (x, missing, r') ∧
      Follows r r' ∧ r.length ≤ s.length ∧ r'.length ≤ s'.length := by
  have hblank := h.dropWhile (p := Text.isBlank) (by decide)
  have hdigits := decimalDigits_after (b := b) hblank (Nat.le_refl _) (Nat.le_refl _) []
  unfold decimal
  dsimp only
  generalize decimalDigits b [] _ (s.dropWhile Text.isBlank) = p at hdigits ⊢
  generalize decimalDigits b [] _ (s'.dropWhile Text.isBlank) = p' at hdigits ⊢
  cases hdigits with
  | @read ds r r' hr hle hle' =>
    refine ⟨_, _, _, _, rfl, rfl, hr.dropWhile (by decide), ?_, ?_⟩
    · exact Nat.le_trans (length_dropWhile _ r) (Nat.le_trans hle (length_dropWhile _ s))
    · exact Nat.le_trans (length_dropWhile _ r') (Nat.le_trans hle' (length_dropWhile _ s'))

/-! Escapes. -/

/-- After a boundary, an opening brace with nothing but the parenthesis behind it: the first text
is refused at once, the second one with the brace. -/
def Loose (f : Flags) (o o' : Option (Atom × Text)) : Prop :=
  o = none ∧ ∃ w u, o' = some (.look (.boundary w), '\x7b' :: u) ∧ skip f.blanks u = [')']

theorem boundary_plain {f : Flags} (hs : ∀ u, s ≠ '\x7b' :: u) :
    boundary f s = some (.look (.boundary (wordSet f)), s) := by
  unfold boundary
  split
  · exact absurd rfl (hs _)
  · rfl

theorem boundary_named_after (f : Flags) {d : Char} {v v' : Text} (hu : Follows u u')
    (hs : skip f.blanks u = d :: v) (hs' : skip f.blanks u' = d :: v') (hv : Follows v v')
    (hlength : v.length < u.length) (hlength' : v'.length < u'.length) :
    After ('\x7b' :: u) ('\x7b' :: u') (boundary f ('\x7b' :: u)) (boundary f ('\x7b' :: u')) := by
  have hdrop := (hv.cons d).dropWhile (p := isBoundaryChar) (by decide)
  have hle := length_dropWhile isBoundaryChar (d :: v)
  have hle' := length_dropWhile isBoundaryChar (d :: v')
  simp only [boundary, hs, hs', (hv.cons d).takeWhile (p := isBoundaryChar) (by decide)]
  generalize (d :: v).dropWhile isBoundaryChar = w at hdrop hle ⊢
  generalize (d :: v').dropWhile isBoundaryChar = w' at hdrop hle' ⊢
  split
  · exact .whole (hu.cons _)
  · cases hdrop with
    | nil => exact .refused
    | close => exact .refused
    | @cons e w w' hw =>
      have hread (l : Look) : After ('\x7b' :: u) ('\x7b' :: u')
          (some (.look l, w)) (some (Atom.look l, w')) := by
        simp only [List.length_cons] at hle hle'
        exact .read hw (by simp; omega) (by simp; omega)
      by_cases he : e = '\x7d'
      · subst he
        split
        · next heq =>
          cases heq
          split <;> first
            | exact hread _
            | exact .refused
        · next hne => exact absurd rfl (hne w)
      · split
        · next heq => exact absurd heq (cons_ne he)
        · split
          · next heq => exact absurd heq (cons_ne he)
          · exact .refused

theorem boundary_after (f : Flags) (h : Follows s s') :
    After s s' (boundary f s) (boundary f s') ∨ Loose f (boundary f s) (boundary f s') := by
  cases h with
  | nil => exact .inl (.whole .nil)
  | close => exact .inl (.whole .close)
  | @cons c u u' hu =>
    by_cases hc : c = '\x7b'
    · subst hc
      cases hu.skipped f.blanks with
      | nil hs hs' =>
        simp only [boundary, hs, hs']
        exact .inl .refused
      | close hs hs' =>
        refine .inr ⟨by simp only [boundary, hs], wordSet f, u', ?_, hs'⟩
        simp only [boundary, hs']
        rfl
      | cons hs hs' hv hle hle' => exact .inl (boundary_named_after f hu hs hs' hv hle hle')
    · rw [boundary_plain fun _ => cons_ne hc, boundary_plain fun _ => cons_ne hc]
      exact .inl (.whole (hu.cons c))

def scalar? (byte : Bool) (p : Nat × Text) : Option (Atom × Text) :=
  if isScalar p.1 then some (.literal (Char.ofNat p.1) byte, p.2) else none

theorem scalar?_after {byte : Bool} {x : Nat} (h : Follows r r') :
    After r r' (scalar? byte (x, r)) (scalar? byte (x, r')) := by
  unfold scalar?
  split
  · exact .whole h
  · exact .refused

theorem hexEscape_braced {f : Flags} {kind : Char} (hs : skip f.blanks s = '\x7b' :: u) :
    hexEscape f kind s =
      hexBraced f.blanks 0 0 ((skip f.blanks u).length + 1) (skip f.blanks u) >>=
        scalar? false := by
  simp only [hexEscape, hs]
  rfl

theorem hexEscape_fixed {f : Flags} {kind : Char} (hs : skip f.blanks s = c :: u)
    (hc : c ≠ '\x7b') :
    hexEscape f kind s =
      hexFixed f.blanks 0 (hexWidth kind) (c :: u) >>= scalar? (kind = 'x') := by
  unfold hexEscape
  rw [hs]
  split
  · next he => cases he
  · next he => exact absurd (List.cons.inj he).1 hc
  · rfl

theorem hexEscape_after (f : Flags) (kind : Char) (h : Follows s s') :
    After s s' (hexEscape f kind s) (hexEscape f kind s') := by
  cases h.skipped f.blanks with
  | nil hs hs' =>
    simp only [hexEscape, hs, hs']
    exact .refused
  | close hs hs' =>
    have hdigit : hexFixed f.blanks 0 (hexWidth kind) [')'] = none := by
      unfold hexWidth
      split
      · rfl
      · split <;> rfl
    rw [hexEscape_fixed hs' (by decide), hdigit]
    simp only [hexEscape, hs]
    exact .refused
  | @cons c u u' hs hs' hu hle hle' =>
    by_cases hc : c = '\x7b'
    · subst hc
      rw [hexEscape_braced hs, hexEscape_braced hs']
      refine After.of_lt (After.skip (b := f.blanks) ?_) hle hle'
      apply (hexBraced_after (hu.skip f.blanks) (Nat.lt_succ_self _) (Nat.lt_succ_self _) 0 0).bind
      exact fun n r r' hr _ _ => scalar?_after hr
    · rw [hexEscape_fixed hs hc, hexEscape_fixed hs' hc]
      refine After.mono (?_ : After (c :: u) (c :: u') _ _) hle hle'
      apply (hexFixed_after (hu.cons c) 0 (hexWidth kind)).bind
      exact fun n r r' hr _ _ => scalar?_after hr

theorem propertyEscape_named {f : Flags} {negated : Bool} (hs : skip f.blanks s = c :: u)
    (hc : c ≠ '\x7b') :
    propertyEscape f negated s =
      ((if !f.unicode ∨ c = '\\' then none else propertySet? [c]) >>= fun p =>
        some (.set (maybeCompl (negated != p.1) (foldSet f p.2)), u)) := by
  unfold propertyEscape
  rw [hs]
  cases f.unicode with
  | false => rfl
  | true =>
    by_cases hslash : c = '\\' <;> simp [hslash]

theorem propertyEscape_after (f : Flags) (negated : Bool) (h : Follows s s') :
    After s s' (propertyEscape f negated s) (propertyEscape f negated s') := by
  cases h.skipped f.blanks with
  | nil hs hs' =>
    simp only [propertyEscape, hs, hs', ite_self]
    exact .refused
  | close hs hs' =>
    have hname : propertySet? [')'] = none := by decide +kernel
    rw [propertyEscape_named hs' (by decide), hname, ite_self]
    simp only [propertyEscape, hs, ite_self]
    exact .refused
  | @cons c u u' hs hs' hu hle hle' =>
    by_cases hc : c = '\x7b'
    · subst hc
      simp only [propertyEscape, hs, hs']
      split
      · exact .refused
      · have hlength := length_dropWhile (· ≠ '\x7d') u
        have hlength' := length_dropWhile (· ≠ '\x7d') u'
        obtain ⟨hdrop, hdrop'⟩ | ⟨d, rest, rest', hdrop, hdrop', hrest, htake⟩ :=
          hu.cut (p := (· ≠ '\x7d')) (by decide)
        · rw [hdrop, hdrop']
          exact .refused
        · rw [hdrop, List.length_cons] at hlength
          rw [hdrop', List.length_cons] at hlength'
          rw [hdrop, hdrop', htake]
          apply After.option
          exact fun p => .read hrest (by omega) (by omega)
    · rw [propertyEscape_named hs hc, propertyEscape_named hs' hc]
      apply After.option
      exact fun p => (After.whole hu).of_lt hle hle'

theorem escape_after (f : Flags) (h : Follows s s') :
    After s s' (escape f s) (escape f s') ∨ Loose f (escape f s) (escape f s') := by
  cases h with
  | nil => exact .inl .refused
  -- the parenthesis is what the backslash at the end of the first text lacks
  | close => exact .inl .swallowed
  | @cons c u u' hu =>
    have hread (x : Atom) : After (c :: u) (c :: u') (some (x, u)) (some (x, u')) :=
      (After.whole hu).cons c
    simp only [escape]
    split
    · exact .inl .refused
    · split
      · exact .inl ((hexEscape_after f c hu).cons c)
      · split
        · exact .inl ((propertyEscape_after f _ hu).cons c)
        · split
          · exact .inl (hread _)
          · split
            · exact .inl (hread _)
            · exact .inl (hread _)
            · split
              all_goals first
                | exact (boundary_after f hu).imp_left (·.cons _)
                | exact .inl (hread _)
                | exact .inl .refused

end CloudEmulation.Pattern.Read
