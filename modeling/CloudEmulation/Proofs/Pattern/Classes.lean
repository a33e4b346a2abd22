import CloudEmulation.Proofs.Pattern.Following
/-!
Classes in brackets with a closing parenthesis after their text.
-/

namespace CloudEmulation.Pattern.Read

variable {α β : Type} {f : Flags} {a : Atom} {c : Char} {s s' r r' u u' v : Text} {n m : Nat}

theorem skip_eq {b : Bool} (hc : Text.isBlank c = false) (hne : c ≠ '#') :
    skip b (c :: u) = c :: u := by
  cases b with
  | false => rfl
  | true => simp [skip, skipBlanks, hc, hne]

theorem skip_nil (b : Bool) : skip b [] = [] := by cases b <;> rfl

/-! Members. -/

theorem classAtom_plain (hc : c ≠ '\\') : classAtom f (c :: u) = some (.literal c false, u) := by
  unfold classAtom
  split
  · next he => cases he
  · next he => exact absurd he (cons_ne hc)
  · next he => rw [(List.cons.inj he).1, (List.cons.inj he).2]

theorem classAtom_after (f : Flags) (c : Char) (h : Follows u u') :
    After u u' (classAtom f (c :: u)) (classAtom f (c :: u')) ∨
      Loose f (classAtom f (c :: u)) (classAtom f (c :: u')) := by
  by_cases hc : c = '\\'
  · subst hc
    exact escape_after f h
  · rw [classAtom_plain hc, classAtom_plain hc]
    exact .inl (.whole h)

def rangeTo (f : Flags) (a : Atom) (p : Atom × Text) : Option (CharSet × Text) := do
  let low ← atomChar? f a
  let high ← atomChar? f p.1
  if low.toNat ≤ high.toNat then some (.range low.toNat high.toNat, p.2) else none

theorem classItem_none (ha : classAtom f s = none) : classItem f s = none := by
  simp [classItem, ha]

theorem classItem_end (ha : classAtom f s = some (a, r)) (hr : skip f.blanks r = []) :
    classItem f s = none := by
  simp [classItem, ha, hr]

theorem classItem_single (ha : classAtom f s = some (a, r)) (hr : skip f.blanks r = c :: u)
    (hc : c ≠ '-') : classItem f s = (atomSet? f a).map (·, c :: u) := by
  simp only [classItem, ha, hr, Option.bind_eq_bind, Option.bind_some]
  split
  · next he => cases he
  · next he => exact absurd he (cons_ne hc)
  · rfl

theorem classItem_hyphen (ha : classAtom f s = some (a, r)) (hr : skip f.blanks r = '-' :: u)
    (hu : ∀ c v, skip f.blanks u = c :: v → c = ']' ∨ c = '-') :
    classItem f s = (atomSet? f a).map (·, '-' :: u) := by
  simp only [classItem, ha, hr, Option.bind_eq_bind, Option.bind_some]
  split
  · rfl
  · next c v he => rw [if_pos (hu c v he)]

theorem classItem_range (ha : classAtom f s = some (a, r)) (hr : skip f.blanks r = '-' :: u)
    (hu : skip f.blanks u = c :: v) (hc : ¬(c = ']' ∨ c = '-')) :
    classItem f s = classAtom f (c :: v) >>= rangeTo f a := by
  simp only [classItem, ha, hr, hu, if_neg hc, Option.bind_eq_bind, Option.bind_some]
  rfl

theorem rangeTo_look {l : Look} : rangeTo f a (.look l, r) = none := by
  simp [rangeTo, atomChar?]

/-! Texts without a class's end. -/

/-- No class is read to its end from here. -/
def Dead (f : Flags) (r : Text) : Prop := ∀ n pending set, classBody f n pending set r = none

theorem dead_of_blank (hs : skip f.blanks s = []) : Dead f s := by
  intro n pending set
  cases n with
  | zero => rfl
  | succ n => simp only [classBody, hs]

theorem dead_nil : Dead f [] := dead_of_blank (skip_nil _)

theorem classBody_member {pending : Option Pending} {set : CharSet}
    (hs : skip f.blanks s = c :: u) (hopen : c ≠ '[') (hclose : c ≠ ']')
    (hop : u.head?.bind (operator? c) = none) :
    classBody f (n + 1) pending set s =
      classItem f (c :: u) >>= fun p => classBody f n pending (.union set p.1) p.2 := by
  rw [classBody.eq_2, hs]
  split
  · next he => cases he
  · next he => exact absurd he (cons_ne hopen)
  · next he => exact absurd he (cons_ne hclose)
  · next a b v _ _ he =>
    cases he
    have hop : operator? c b = none := hop
    rw [hop]
  · rfl

theorem dead_of_item (hs : skip f.blanks s = c :: u) (hopen : c ≠ '[') (hclose : c ≠ ']')
    (hop : u.head?.bind (operator? c) = none) (hitem : classItem f (c :: u) = none) :
    Dead f s := by
  intro n pending set
  cases n with
  | zero => rfl
  | succ n =>
    rw [classBody_member hs hopen hclose hop, hitem]
    rfl

theorem dead_of_close (hs : skip f.blanks s = [')']) : Dead f s := by
  apply dead_of_item hs (by decide) (by decide) rfl
  exact classItem_end (classAtom_plain (by decide)) (skip_nil _)

theorem dead_close : Dead f [')'] := dead_of_close (skip_eq (by decide) (by decide))

theorem dead_hyphen (hu : skip f.blanks u = []) : Dead f ('-' :: u) := by
  apply dead_of_item (skip_eq (by decide) (by decide)) (by decide) (by decide)
  · cases u with
    | nil => rfl
    | cons c v =>
      rw [List.head?_cons, Option.bind_some, operator?, if_pos]
      rintro rfl
      rw [skip_eq (by decide) (by decide)] at hu
      cases hu
  · exact classItem_end (classAtom_plain (by decide)) hu

/-- The two results of reading a member: from what is left of the texts either both classes go on,
or neither ever ends. -/
inductive Within (f : Flags) (s s' : Text) :
    Option (CharSet × Text) → Option (CharSet × Text) → Prop where
  | read {x : CharSet} {r r' : Text} :
      Follows r r' → r.length ≤ s.length → r'.length ≤ s'.length →
        Within f s s' (some (x, r)) (some (x, r'))
  | dead {o o' : Option (CharSet × Text)} :
      (∀ p ∈ o, Dead f p.2) → (∀ p ∈ o', Dead f p.2) → Within f s s' o o'

namespace Within

variable {o o' : Option (CharSet × Text)}

theorem refused : Within f s s' none none := .dead (by simp) (by simp)

theorem of_after (h : After s s' o o') : Within f s s' o o' := by
  cases h with
  | read hr hle hle' => exact .read hr hle hle'
  | refused => exact refused
  | swallowed => exact .dead (by simp) (by simp [dead_nil])

theorem mono (h : Within f r r' o o') (hle : r.length ≤ s.length) (hle' : r'.length ≤ s'.length) :
    Within f s s' o o' := by
  cases h with
  | read hr h h' => exact .read hr (Nat.le_trans h hle) (Nat.le_trans h' hle')
  | dead h h' => exact .dead h h'

theorem map (x : Option CharSet) (hr : Follows r r') (hle : r.length ≤ s.length)
    (hle' : r'.length ≤ s'.length) : Within f s s' (x.map (·, r)) (x.map (·, r')) := by
  cases x with
  | none => exact refused
  | some x => exact .read hr hle hle'

end Within

theorem dead_of_after {o o' : Option (CharSet × Text)} (h : After [] [] o o') :
    ∀ p ∈ o', Dead f p.2 := by
  cases (h.of_nil : After [] [] none o') with
  | refused => simp
  | swallowed => simp [dead_nil]

theorem body_of_dead {o : Option (CharSet × Text)} (h : ∀ p ∈ o, Dead f p.2)
    {pending : Option Pending} {set : CharSet} :
    (o >>= fun p => classBody f n pending (.union set p.1) p.2) = none := by
  cases o with
  | none => rfl
  | some p => exact h p rfl n pending _

theorem dead_map {x : Option CharSet} (h : Dead f r) : ∀ p ∈ x.map (·, r), Dead f p.2 := by
  intro p hp
  obtain ⟨y, -, rfl⟩ := Option.map_eq_some_iff.mp hp
  exact h

theorem rangeTo_after (h : Follows r r') (b : Atom) :
    After r r' (rangeTo f a (b, r)) (rangeTo f a (b, r')) := by
  apply After.option
  intro low
  apply After.option
  intro high
  split
  · exact .whole h
  · exact .refused

theorem classItem_hyphen_within (h : Follows u u') (hr : skip f.blanks r = '-' :: u)
    (hr' : skip f.blanks r' = '-' :: u') (ha : classAtom f s = some (a, r))
    (ha' : classAtom f s' = some (a, r')) (hle : u.length < r.length)
    (hle' : u'.length < r'.length) : Within f r r' (classItem f s) (classItem f s') := by
  cases h.skipped f.blanks with
  | nil hu hu' =>
    rw [classItem_hyphen ha hr (by simp [hu]), classItem_hyphen ha' hr' (by simp [hu'])]
    exact .map _ (h.cons _) hle hle'
  | close hu hu' =>
    -- the hyphen stands for itself in the first text and begins a range in the second one
    rw [classItem_hyphen ha hr (by simp [hu]), classItem_range ha' hr' hu' (by decide),
      classAtom_plain (by decide)]
    exact .dead (dead_map (dead_hyphen hu)) (dead_of_after (rangeTo_after .nil _))
  | @cons c v v' hu hu' hv hshort hshort' =>
    by_cases hc : c = ']' ∨ c = '-'
    · rw [classItem_hyphen ha hr (by simp [hu, hc]), classItem_hyphen ha' hr' (by simp [hu', hc])]
      exact .map _ (h.cons _) hle hle'
    · rw [classItem_range ha hr hu hc, classItem_range ha' hr' hu' hc]
      obtain hatom | ⟨hnone, w, z, hsome, -⟩ := classAtom_after f c hv
      · apply Within.of_after
        apply After.of_lt _ (Nat.lt_trans hshort hle) (Nat.lt_trans hshort' hle')
        exact hatom.bind fun b _ _ hr _ _ => rangeTo_after hr b
      · rw [hnone, hsome, Option.bind_eq_bind, Option.bind_some, rangeTo_look]
        exact .refused

theorem classItem_within (f : Flags) (c : Char) (h : Follows u u') :
    Within f u u' (classItem f (c :: u)) (classItem f (c :: u')) := by
  obtain hatom | ⟨hnone, w, v, hsome, hv⟩ := classAtom_after f c h
  · generalize ho : classAtom f (c :: u) = o at hatom
    generalize ho' : classAtom f (c :: u') = o' at hatom
    cases hatom with
    | refused =>
      rw [classItem_none ho, classItem_none ho']
      exact .refused
    | swallowed =>
      rw [classItem_none ho, classItem_end ho' (skip_nil _)]
      exact .refused
    | @read a r r' hr hle hle' =>
      cases hr.skipped f.blanks with
      | nil hs hs' =>
        rw [classItem_end ho hs, classItem_end ho' hs']
        exact .refused
      | close hs hs' =>
        rw [classItem_end ho hs, classItem_single ho' hs' (by decide)]
        exact .dead (by simp) (dead_map dead_close)
      | @cons d v v' hs hs' hv hshort hshort' =>
        by_cases hd : d = '-'
        · subst hd
          exact (classItem_hyphen_within hv hs hs' ho ho' hshort hshort').mono hle hle'
        · rw [classItem_single ho hs hd, classItem_single ho' hs' hd]
          exact .map _ (hv.cons d) (Nat.le_trans hshort hle) (Nat.le_trans hshort' hle')
  · rw [classItem_none hnone, classItem_single hsome (skip_eq (by decide) (by decide)) (by decide)]
    exact .refused

/-! Whole classes. -/

/-- Whether a class is negated, and its text after the sign for that. -/
def negation (b : Bool) (s : Text) : Bool × Text :=
  match s with
  | '^' :: r => (true, skip b r)
  | s => (false, s)

theorem negation_after (b : Bool) (h : Follows s s') :
    After s s' (some (negation b s)) (some (negation b s')) := by
  cases h with
  | nil => exact .whole .nil
  | close => exact .whole .close
  | @cons c u u' h =>
    by_cases hc : c = '^'
    · subst hc
      exact (After.whole (h.skip b)).skip.cons '^'
    · have hplain (v : Text) : negation b (c :: v) = (false, c :: v) := by
        unfold negation
        split
        · next he => exact absurd he (cons_ne hc)
        · rfl
      rw [hplain, hplain]
      exact .whole (h.cons c)

def nameEnd (s : Text) : Option Text :=
  match s with
  | ':' :: ']' :: r => some r
  | _ => none

theorem nameEnd_follows (h : Follows s s') :
    (nameEnd s = none ∧ nameEnd s' = none) ∨
      ∃ r r', nameEnd s = some r ∧ nameEnd s' = some r' ∧
        Follows r r' ∧ r.length ≤ s.length ∧ r'.length ≤ s'.length := by
  cases h with
  | nil => exact .inl ⟨rfl, rfl⟩
  | close => exact .inl ⟨rfl, rfl⟩
  | @cons c u u' h =>
    cases h with
    | nil => exact .inl (by simp [nameEnd])
    | close => exact .inl (by simp [nameEnd])
    | @cons d v v' h =>
      by_cases hend : c = ':' ∧ d = ']'
      · obtain ⟨rfl, rfl⟩ := hend
        exact .inr ⟨v, v', rfl, rfl, h, by simp; omega, by simp; omega⟩
      · have hnone (w : Text) : nameEnd (c :: d :: w) = none := by
          unfold nameEnd
          split
          · next he => simp_all
          · rfl
        exact .inl ⟨hnone v, hnone v'⟩

theorem asciiClass?_named (u : Text) :
    asciiClass? (':' :: u) =
      (nameEnd ((negation false u).2.dropWhile (· ≠ ':'))).bind fun r =>
        (CharSet.ascii? (String.ofList ((negation false u).2.takeWhile (· ≠ ':')))).map fun x =>
          (maybeCompl (negation false u).1 x, r) := by
  have hsplit (r : Text) (g : Text → Option (CharSet × Text)) :
      (match r with
        | ':' :: ']' :: rest => g rest
        | _ => none) = (nameEnd r).bind g := by
    unfold nameEnd
    split <;> rfl
  exact hsplit _ _

theorem asciiClass?_plain (hc : c ≠ ':') : asciiClass? (c :: u) = none := by
  unfold asciiClass?
  split
  · next he => exact absurd he (cons_ne hc)
  · rfl

theorem asciiClass?_after (h : Follows s s') :
    (asciiClass? s = none ∧ asciiClass? s' = none) ∨
      ∃ x r r', asciiClass? s = some (x, r) ∧ asciiClass? s' = some (x, r') ∧
        Follows r r' ∧ r.length ≤ s.length ∧ r'.length ≤ s'.length := by
  cases h with
  | nil => exact .inl ⟨rfl, rfl⟩
  | close => exact .inl ⟨rfl, rfl⟩
  | @cons c u u' h =>
    by_cases hc : c = ':'
    · subst hc
      have hsign := negation_after false h
      rw [asciiClass?_named, asciiClass?_named]
      generalize negation false u = p at hsign ⊢
      generalize negation false u' = p' at hsign ⊢
      cases hsign with
      | @read negated r r' hr hle hle' =>
        dsimp only
        have hlength := length_dropWhile (· ≠ ':') r
        have hlength' := length_dropWhile (· ≠ ':') r'
        obtain ⟨hdrop, hdrop'⟩ | ⟨d, w, w', hdrop, hdrop', hw, htake⟩ :=
          hr.cut (p := (· ≠ ':')) (by decide)
        · rw [hdrop, hdrop']
          exact .inl ⟨rfl, rfl⟩
        · rw [hdrop] at hlength ⊢
          rw [hdrop'] at hlength' ⊢
          rw [htake]
          obtain ⟨hend, hend'⟩ | ⟨z, z', hend, hend', hz, hshort, hshort'⟩ :=
            nameEnd_follows (hw.cons d)
          · rw [hend, hend']
            exact .inl ⟨rfl, rfl⟩
          · rw [hend, hend', Option.bind_some, Option.bind_some]
            cases CharSet.ascii? (String.ofList (r.takeWhile (· ≠ ':'))) with
            | none => exact .inl ⟨rfl, rfl⟩
            | some x =>
              refine .inr ⟨_, z, z', rfl, rfl, hz, ?_, ?_⟩
              · exact Nat.le_trans hshort (Nat.le_trans hlength (Nat.le_succ_of_le hle))
              · exact Nat.le_trans hshort' (Nat.le_trans hlength' (Nat.le_succ_of_le hle'))
    · exact .inl ⟨asciiClass?_plain hc, asciiClass?_plain hc⟩

theorem classFront_after (h : Follows s s') (hn : s.length ≤ n) (hm : s'.length ≤ m)
    (set : CharSet) (first : Bool) :
    After s s' (some (classFront f n set first s)) (some (classFront f m set first s')) := by
  induction n generalizing m s s' set first with
  | zero =>
    cases h with
    | nil => cases m <;> exact .whole .nil
    | close => cases m <;> exact .whole .close
    | cons c h => simp at hn
  | succ n ih =>
    cases h with
    | nil => cases m <;> exact .whole .nil
    | close => cases m <;> exact .whole .close
    | @cons c u u' h =>
      have hlength := length_skip f.blanks u
      have hlength' := length_skip f.blanks u'
      simp only [List.length_cons] at hn hm
      obtain ⟨m, rfl⟩ : ∃ k, m = k + 1 := ⟨m - 1, by omega⟩
      by_cases hc : c = '-'
      · subst hc
        exact ((ih (h.skip f.blanks) (by omega) (by omega) _ _).skip).cons '-'
      · by_cases hclose : c = ']' ∧ first = true
        · obtain ⟨rfl, rfl⟩ := hclose
          exact (After.whole (h.skip f.blanks)).skip.cons ']'
        · have hplain (k : Nat) (v : Text) :
              classFront f (k + 1) set first (c :: v) = (set, c :: v) := by
            unfold classFront
            split
            · next he => exact absurd he (cons_ne hc)
            · next he =>
              rw [if_neg fun hfirst => hclose ⟨(List.cons.inj he).1, hfirst⟩]
            · rfl
          rw [hplain, hplain]
          exact .whole (h.cons c)

theorem openClass_succ :
    openClass f (n + 1) s =
      let p := negation f.blanks (skip f.blanks s)
      let q := classFront f p.2.length .none true p.2
      classBody f n none q.1 q.2 >>= fun x =>
        some (maybeCompl p.1 (foldSet f x.1), x.2.1 + 1, x.2.2) := by
  rw [openClass]
  rfl

theorem classBody_named {pending : Option Pending} {set x : CharSet}
    (hs : skip f.blanks s = '[' :: u) (hx : asciiClass? u = some (x, r)) :
    classBody f (n + 1) pending set s = classBody f n pending (.union set x) r := by
  simp only [classBody, hs, hx]

theorem classBody_nested {pending : Option Pending} {set : CharSet}
    (hs : skip f.blanks s = '[' :: u) (hx : asciiClass? u = none) :
    classBody f (n + 1) pending set s =
      openClass f n u >>= fun p => classBody f n pending (.union set p.1) p.2.2 >>= fun q =>
        some (q.1, max p.2.1 q.2.1, q.2.2) := by
  simp only [classBody, hs, hx]

theorem classBody_close {pending : Option Pending} {set : CharSet}
    (hs : skip f.blanks s = ']' :: u) :
    classBody f (n + 1) pending set s = some (settle f pending set, 0, u) := by
  simp only [classBody, hs]

theorem classBody_operator {pending : Option Pending} {set : CharSet} {d : Char}
    {op : CharSet → CharSet → CharSet} (hs : skip f.blanks s = c :: d :: u) (hopen : c ≠ '[')
    (hclose : c ≠ ']') (hop : operator? c d = some op) :
    classBody f (n + 1) pending set s =
      classBody f n (some ⟨settle f pending set, op⟩) .none u := by
  rw [classBody.eq_2, hs]
  split
  · next he => cases he
  · next he => exact absurd he (cons_ne hopen)
  · next he => exact absurd he (cons_ne hclose)
  · next a b v _ _ he =>
    cases he
    rw [hop]
  · next hne => exact absurd rfl (hne _ _ _)

theorem operator?_close (c : Char) : operator? c ')' = none := by
  unfold operator?
  split
  · rfl
  · next hc =>
    rw [Decidable.not_not] at hc
    subst hc
    decide

/-- The two results of a reader that takes up no parenthesis: both refused, or alike. -/
inductive Alike (s s' : Text) : Option (α × β × Text) → Option (α × β × Text) → Prop where
  | read {x : α} {y : β} {r r' : Text} :
      Follows r r' → r.length ≤ s.length → r'.length ≤ s'.length →
        Alike s s' (some (x, y, r)) (some (x, y, r'))
  | refused : Alike s s' none none

namespace Alike

variable {o o' : Option (α × β × Text)}

theorem mono (h : Alike r r' o o') (hle : r.length ≤ s.length) (hle' : r'.length ≤ s'.length) :
    Alike s s' o o' := by
  cases h with
  | read hr h h' => exact .read hr (Nat.le_trans h hle) (Nat.le_trans h' hle')
  | refused => exact .refused

theorem bind {γ δ : Type} {Q Q' : α × β × Text → Option (γ × δ × Text)} (h : Alike s s' o o')
    (hQ : ∀ x y {r r'}, Follows r r' → r.length ≤ s.length → r'.length ≤ s'.length →
      Alike s s' (Q (x, y, r)) (Q' (x, y, r'))) :
    Alike s s' (o >>= Q) (o' >>= Q') := by
  cases h with
  | read hr hle hle' => exact hQ _ _ hr hle hle'
  | refused => exact .refused

/-- What follows a reader that takes up no parenthesis may do so. -/
theorem after {γ : Type} {Q Q' : α × β × Text → Option (γ × Text)} (h : Alike s s' o o')
    (hQ : ∀ x y {r r'}, Follows r r' → r.length ≤ s.length → r'.length ≤ s'.length →
      After r r' (Q (x, y, r)) (Q' (x, y, r'))) :
    After s s' (o >>= Q) (o' >>= Q') := by
  cases h with
  | read hr hle hle' => exact (hQ _ _ hr hle hle').mono hle hle'
  | refused => exact .refused

end Alike

-- What opens a class may take fuel and leave the text as long: hence twice the length.
structure ClassesAlike (f : Flags) (n : Nat) : Prop where
  opened : ∀ {m s s'}, Follows s s' → 2 * s.length + 2 ≤ n → 2 * s'.length + 2 ≤ m →
    Alike s s' (openClass f n s) (openClass f m s')
  body : ∀ {m s s'} pending set, Follows s s' → 2 * s.length + 1 ≤ n → 2 * s'.length + 1 ≤ m →
    Alike s s' (classBody f n pending set s) (classBody f m pending set s')

theorem openClass_step (ih : ClassesAlike f n) (h : Follows s s')
    (hn : 2 * s.length + 2 ≤ n + 1) (hm : 2 * s'.length + 2 ≤ m + 1) :
    Alike s s' (openClass f (n + 1) s) (openClass f (m + 1) s') := by
  rw [openClass_succ, openClass_succ]
  have hlength := length_skip f.blanks s
  have hlength' := length_skip f.blanks s'
  have hnegation := negation_after f.blanks (h.skip f.blanks)
  generalize negation f.blanks (skip f.blanks s) = p at hnegation ⊢
  generalize negation f.blanks (skip f.blanks s') = p' at hnegation ⊢
  cases hnegation with
  | @read negated r r' hr hle hle' =>
    have hfront := classFront_after (f := f) hr (Nat.le_refl _) (Nat.le_refl _) .none true
    dsimp only
    generalize classFront f _ .none true r = q at hfront ⊢
    generalize classFront f _ .none true r' = q' at hfront ⊢
    cases hfront with
    | @read front t t' ht hshort hshort' =>
      refine Alike.mono (?_ : Alike t t' _ _) (by omega) (by omega)
      apply (ih.body none front ht (by omega) (by omega)).bind
      exact fun set depth r r' hr hle hle' => .read hr hle hle'

theorem ClassesAlike.rest (ih : ClassesAlike f n) (hn : 2 * u.length + 2 ≤ n)
    (hm : 2 * u'.length + 2 ≤ m) (pending : Option Pending) (set : CharSet) (h : Follows r r')
    (hle : r.length ≤ u.length) (hle' : r'.length ≤ u'.length) :
    Alike u u' (classBody f n pending set r) (classBody f m pending set r') :=
  (ih.body pending set h (by omega) (by omega)).mono hle hle'

/-- What begins with a bracket: a class by name or a class within the class. -/
theorem classBody_bracket (ih : ClassesAlike f n) (pending : Option Pending) (set : CharSet)
    (hs : skip f.blanks s = '[' :: u) (hs' : skip f.blanks s' = '[' :: u') (hu : Follows u u')
    (hn : 2 * u.length + 2 ≤ n) (hm : 2 * u'.length + 2 ≤ m) :
    Alike u u' (classBody f (n + 1) pending set s) (classBody f (m + 1) pending set s') := by
  obtain ⟨hx, hx'⟩ | ⟨x, r, r', hx, hx', hr, hle, hle'⟩ := asciiClass?_after hu
  · rw [classBody_nested hs hx, classBody_nested hs' hx']
    apply (ih.opened hu hn hm).bind
    intro inner depth r r' hr hle hle'
    apply (ih.rest hn hm pending _ hr hle hle').bind
    exact fun _ _ r r' hr hle hle' => .read hr hle hle'
  · rw [classBody_named hs hx, classBody_named hs' hx']
    exact ih.rest hn hm pending _ hr hle hle'

theorem classBody_item (ih : ClassesAlike f n) (pending : Option Pending) (set : CharSet)
    (hs : skip f.blanks s = c :: u) (hs' : skip f.blanks s' = c :: u') (hu : Follows u u')
    (hopen : c ≠ '[') (hclose : c ≠ ']') (hop : u.head?.bind (operator? c) = none)
    (hop' : u'.head?.bind (operator? c) = none) (hn : 2 * u.length + 2 ≤ n)
    (hm : 2 * u'.length + 2 ≤ m) :
    Alike u u' (classBody f (n + 1) pending set s) (classBody f (m + 1) pending set s') := by
  rw [classBody_member hs hopen hclose hop, classBody_member hs' hopen hclose hop']
  have hitem := classItem_within f c hu
  generalize classItem f (c :: u) = o at hitem ⊢
  generalize classItem f (c :: u') = o' at hitem ⊢
  cases hitem with
  | read hr hle hle' => exact ih.rest hn hm pending _ hr hle hle'
  | dead hdead hdead' =>
    rw [body_of_dead hdead, body_of_dead hdead']
    exact .refused

theorem classBody_step (ih : ClassesAlike f n) (pending : Option Pending) (set : CharSet)
    (h : Follows s s') (hn : 2 * s.length + 1 ≤ n + 1) (hm : 2 * s'.length + 1 ≤ m + 1) :
    Alike s s' (classBody f (n + 1) pending set s) (classBody f (m + 1) pending set s') := by
  cases h.skipped f.blanks with
  | nil hs hs' =>
    rw [dead_of_blank hs, dead_of_blank hs']
    exact .refused
  | close hs hs' =>
    rw [dead_of_blank hs, dead_of_close hs']
    exact .refused
  | @cons c u u' hs hs' hu hlength hlength' =>
    refine Alike.mono (?_ : Alike u u' _ _) (Nat.le_of_lt hlength) (Nat.le_of_lt hlength')
    have hn : 2 * u.length + 2 ≤ n := by omega
    have hm : 2 * u'.length + 2 ≤ m := by omega
    by_cases hopen : c = '['
    · subst hopen
      exact classBody_bracket ih pending set hs hs' hu hn hm
    · by_cases hclose : c = ']'
      · subst hclose
        rw [classBody_close hs, classBody_close hs']
        exact .read hu (Nat.le_refl _) (Nat.le_refl _)
      · -- No operator has a parenthesis in it, so both texts have one here or neither has.
        cases hu with
        | nil => exact classBody_item ih pending set hs hs' .nil hopen hclose rfl rfl hn hm
        | close =>
          exact classBody_item ih pending set hs hs' .close hopen hclose rfl (operator?_close c)
            hn hm
        | @cons d v v' hv =>
          cases hop : operator? c d with
          | none =>
            exact classBody_item ih pending set hs hs' (hv.cons d) hopen hclose hop hop hn hm
          | some op =>
            rw [classBody_operator hs hopen hclose hop, classBody_operator hs' hopen hclose hop]
            exact ih.rest hn hm _ _ hv (Nat.le_succ _) (Nat.le_succ _)

theorem classesAlike (f : Flags) (n : Nat) : ClassesAlike f n := by
  induction n with
  | zero => exact ⟨by omega, by omega⟩
  | succ n ih =>
    constructor
    · intro m s s' h hn hm
      obtain ⟨m, rfl⟩ : ∃ k, m = k + 1 := ⟨m - 1, by omega⟩
      exact openClass_step ih h hn hm
    · intro m s s' pending set h hn hm
      obtain ⟨m, rfl⟩ : ∃ k, m = k + 1 := ⟨m - 1, by omega⟩
      exact classBody_step ih pending set h hn hm

end CloudEmulation.Pattern.Read
