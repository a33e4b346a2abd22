import CloudEmulation.Filter.Reader
import CloudEmulation.Proofs.Text.Parts
import CloudEmulation.Proofs.Text.Runs
import Mathlib.Data.List.Basic
/-!
A filter is read in the same way where a closing parenthesis follows it, and with more fuel.
-/

namespace CloudEmulation.Filter.Read

variable {s r : Text} {n m : Nat} {f : Filter}

theorem takeWhile_closed {p : Char → Bool} (hp : p ')' = false) (s t : Text) :
    (s ++ ')' :: t).takeWhile p = s.takeWhile p :=
  (Text.halts_cons.mpr hp).takeWhile_append s

theorem dropWhile_closed {p : Char → Bool} (hp : p ')' = false) (s t : Text) :
    (s ++ ')' :: t).dropWhile p = s.dropWhile p ++ ')' :: t :=
  (Text.halts_cons.mpr hp).dropWhile_append s

theorem skipSpace_closed (s t : Text) : skipSpace (s ++ ')' :: t) = skipSpace s ++ ')' :: t :=
  dropWhile_closed (by decide) s t

theorem trimStart_closed (s t : Text) :
    Text.trimStart (s ++ ')' :: t) = Text.trimStart s ++ ')' :: t :=
  dropWhile_closed (by decide) s t

theorem skipSeparators_closed (s t : Text) :
    skipSeparators (s ++ ')' :: t) = skipSeparators s ++ ')' :: t :=
  dropWhile_closed (by decide) s t

/-! Words that stand alone. -/

theorem isPrefixOf_closed {word : Text} (hw : ')' ∉ word) (s t : Text) :
    word.isPrefixOf (s ++ ')' :: t) = word.isPrefixOf s := by
  induction word generalizing s with
  | nil => simp
  | cons w word ih =>
    have hne : ')' ≠ w := fun h => hw (h ▸ List.mem_cons_self)
    have hword : ')' ∉ word := fun h => hw (List.mem_cons_of_mem _ h)
    cases s with
    | nil =>
      have hc : (w == ')') = false := beq_eq_false_iff_ne.mpr (Ne.symm hne)
      simp [List.isPrefixOf, hc]
    | cons c s => simp [List.isPrefixOf, ih hword s]

theorem endsWord_closed (hs : s ≠ []) (t : Text) (closes : Char) :
    endsWord (s ++ ')' :: t) closes = endsWord s closes := by
  cases s with
  | nil => exact absurd rfl hs
  | cons c s => rfl

theorem keyword?_closed {word : Text} (hw : ')' ∉ word) (hs : s ≠ word) (t : Text) :
    keyword? word (s ++ ')' :: t) = (keyword? word s).map (· ++ ')' :: t) := by
  unfold keyword?
  rw [isPrefixOf_closed hw]
  cases hp : word.isPrefixOf s with
  | false => simp
  | true =>
    obtain ⟨u, rfl⟩ := List.isPrefixOf_iff_prefix.mp hp
    have hu : u ≠ [] := by
      rintro rfl
      exact hs (List.append_nil word)
    rw [List.append_assoc, List.drop_left, List.drop_left, endsWord_closed hu]
    cases endsWord u '(' <;> simp

theorem keyword?_self (word : Text) : keyword? word word = some [] := by
  have hp : word.isPrefixOf word = true := List.isPrefixOf_iff_prefix.mpr List.prefix_rfl
  simp [keyword?, hp, endsWord]

theorem keyword?_none_closed {word : Text} (hw : ')' ∉ word) (h : keyword? word s = none)
    (t : Text) : keyword? word (s ++ ')' :: t) = none := by
  have hs : s ≠ word := by
    rintro rfl
    rw [keyword?_self] at h
    cases h
  rw [keyword?_closed hw hs, h]
  rfl

theorem connective_closed (ha : s ≠ ['A', 'N', 'D']) (ho : s ≠ ['O', 'R']) (t : Text) :
    connective (s ++ ')' :: t) = ((connective s).1, (connective s).2 ++ ')' :: t) := by
  unfold connective
  rw [keyword?_closed (by decide) ha, keyword?_closed (by decide) ho]
  cases keyword? ['A', 'N', 'D'] s with
  | some r => rfl
  | none => cases keyword? ['O', 'R'] s <;> rfl

/-! Keys and operators. -/

theorem identifier?_closed (s t : Text) :
    identifier? (s ++ ')' :: t) = (identifier? s).map fun p => (p.1, p.2 ++ ')' :: t) := by
  cases s with
  | nil => rfl
  | cons c s =>
    have ht := takeWhile_closed (p := isKeyChar) (by decide) (c :: s) t
    have hd := dropWhile_closed (p := isKeyChar) (by decide) (c :: s) t
    rw [List.cons_append] at ht hd
    rw [List.cons_append, identifier?, identifier?, ht, hd]
    split
    · rfl
    · rfl

theorem identifier?_suffix {name : String} (h : identifier? s = some (name, r)) : r <:+ s := by
  cases s with
  | nil => cases h
  | cons c s =>
    rw [identifier?] at h
    split at h
    · cases h
      exact List.dropWhile_suffix _
    · cases h

/-- The fuel does not count as long as it is enough for the text. -/
theorem moreNames_closed (hn : s.length ≤ n) (hm : s.length ≤ m) (t : Text) :
    moreNames m (s ++ ')' :: t) = ((moreNames n s).1, (moreNames n s).2 ++ ')' :: t) := by
  induction n generalizing s m with
  | zero =>
    have hs : s = [] := List.length_eq_zero_iff.mp (Nat.le_zero.mp hn)
    subst hs
    cases m <;> rfl
  | succ n ih =>
    cases s with
    | nil => cases m <;> rfl
    | cons c s =>
      rw [List.length_cons] at hn hm
      obtain ⟨m, rfl⟩ : ∃ k, m = k + 1 := ⟨m - 1, by omega⟩
      by_cases hc : c = '.'
      · subst hc
        rw [List.cons_append, moreNames, moreNames, identifier?_closed]
        cases hi : identifier? s with
        | none => rfl
        | some p =>
          have hp := (identifier?_suffix hi).length_le
          have ht := @ih p.2 m (by omega) (by omega)
          simp only [Option.map_some, ht]
      · have hne (u v : Text) : c :: u ≠ '.' :: v := fun h => hc (List.cons.inj h).1
        rw [List.cons_append, moreNames, moreNames]
        · rfl
        · exact fun v => hne s v
        · exact fun v => hne _ v

theorem key_closed {k : FilterKey} (h : key s = .ok (k, r)) (t : Text) :
    key (s ++ ')' :: t) = .ok (k, r ++ ')' :: t) := by
  unfold key at h ⊢
  rw [identifier?_closed]
  cases hi : identifier? s with
  | none =>
    rw [hi] at h
    cases h
  | some p =>
    rw [hi] at h
    cases h
    have hm := @moreNames_closed p.2 p.2.length (p.2 ++ ')' :: t).length (Nat.le_refl _)
      (by simp) t
    simp only [Option.map_some, hm]

theorem closed_ne {d : Char} (hd : d ≠ ')') (h : ∀ u, r = d :: u → False) (t : Text) :
    ∀ u, r ++ ')' :: t = d :: u → False := by
  intro u hu
  cases r with
  | nil => exact hd (List.cons.inj hu).1.symm
  | cons c r => exact h r (congrArg (· :: r) (List.cons.inj hu).1)

theorem operator?_closed {op : Operator} (h : operator? s = some (op, r)) (t : Text) :
    operator? (s ++ ')' :: t) = some (op, r ++ ')' :: t) := by
  unfold operator? at h
  split at h
  case h_7 hne | h_8 hne | h_9 hne | h_10 hne =>
    cases h
    rw [List.cons_append, operator?]
    exact closed_ne (by decide) hne t
  case h_12 => cases h
  all_goals
    cases h
    rfl

theorem operator_closed {op : Operator} (h : operator s = .ok (op, r)) (t : Text) :
    operator (s ++ ')' :: t) = .ok (op, r ++ ')' :: t) := by
  unfold operator at h ⊢
  rw [skipSpace_closed]
  cases ho : operator? (skipSpace s) with
  | none =>
    rw [ho] at h
    cases h
  | some p =>
    rw [ho] at h
    cases h
    rw [operator?_closed ho]

/-! Literals. -/

theorem ne_backslash {c : Char} (hnil : c = '\\' → s = [] → False)
    (hcons : ∀ d u, c = '\\' → s = d :: u → False) : c ≠ '\\' := by
  intro hc
  cases s with
  | nil => exact hnil hc rfl
  | cons d u => exact hcons d u hc rfl

theorem quotedBody_closed {quote : Char} {v : List Char} (h : quotedBody quote s = .ok (v, r))
    (t : Text) : quotedBody quote (s ++ ')' :: t) = .ok (v, r ++ ')' :: t) := by
  fun_induction quotedBody quote s generalizing v r with
  | case1 => cases h
  | case2 => cases h
  | case3 c s ih =>
    obtain ⟨p, hp, he⟩ := Except.map_eq_ok.mp h
    cases he
    rw [List.cons_append, List.cons_append, quotedBody, ih hp]
    rfl
  | case4 s hnil hcons =>
    have hne := ne_backslash hnil hcons
    cases h
    rw [List.cons_append, quotedBody, if_pos rfl]
    · exact fun hq => absurd hq hne
    · exact fun _ _ hq => absurd hq hne
  | case5 c s hnil hcons hc ih =>
    have hne := ne_backslash hnil hcons
    obtain ⟨p, hp, he⟩ := Except.map_eq_ok.mp h
    cases he
    rw [List.cons_append, quotedBody, if_neg hc, ih hp]
    · rfl
    · exact fun hq => absurd hq hne
    · exact fun _ _ hq => absurd hq hne

theorem literal_closed {ends : Char → Bool} (he : ends ')' = true) {v : String}
    (h : literal ends s = .ok (v, r)) (t : Text) :
    literal ends (s ++ ')' :: t) = .ok (v, r ++ ')' :: t) := by
  cases s with
  | nil => cases h
  | cons c s =>
    have hp : (!ends ')') = false := by rw [he, Bool.not_true]
    have htake := takeWhile_closed (p := (!ends ·)) hp (c :: s) t
    have hdrop := dropWhile_closed (p := (!ends ·)) hp (c :: s) t
    rw [List.cons_append] at htake hdrop ⊢
    rw [literal] at h ⊢
    by_cases hquote : isQuote c = true
    · rw [if_pos hquote] at h ⊢
      obtain ⟨p, hp, he⟩ := Except.map_eq_ok.mp h
      cases he
      rw [quotedBody_closed hp]
      rfl
    · rw [if_neg hquote] at h ⊢
      by_cases hends : ends c = true
      · rw [if_pos hends] at h
        cases h
      · rw [if_neg hends] at h ⊢
        cases h
        rw [htake, hdrop]

theorem bind_ok {α β : Type} {x : Reading α} {a : α} (h : x = .ok a) (g : α → Reading β) :
    x >>= g = g a := by
  rw [h]
  rfl

theorem moreItems_of_item {c : Char} {u : Text} (h : skipSeparators s = c :: u) (hc : c ≠ ')') :
    moreItems (n + 1) s = literal endsItem (c :: u) >>= fun p =>
      moreItems n p.2 >>= fun q => .ok (p.1 :: q.1, q.2) := by
  rw [moreItems, h]
  split
  · rename_i he
    cases he
  · rename_i he
    exact absurd (List.cons.inj he).1 hc
  · rfl

theorem moreItems_closed {vs : List String} (h : moreItems n s = .ok (vs, r)) (hm : n ≤ m)
    (t : Text) : moreItems m (s ++ ')' :: t) = .ok (vs, r ++ ')' :: t) := by
  induction n generalizing s m vs r with
  | zero => cases h
  | succ n ih =>
    obtain ⟨m, rfl⟩ : ∃ k, m = k + 1 := ⟨m - 1, by omega⟩
    have hskip := skipSeparators_closed s t
    cases hu : skipSeparators s with
    | nil =>
      rw [moreItems, hu] at h
      cases h
    | cons c u =>
      rw [hu] at hskip
      by_cases hc : c = ')'
      · subst hc
        rw [moreItems, hu] at h
        cases h
        rw [moreItems, hskip]
        exact congrArg (fun u => Except.ok ([], u)) (skipSpace_closed u t)
      · rw [moreItems_of_item hu hc] at h
        obtain ⟨p, h₁, h⟩ := Except.bind_eq_ok.mp h
        obtain ⟨q, h₂, h⟩ := Except.bind_eq_ok.mp h
        cases h
        have hl := literal_closed (by decide) h₁ t
        rw [List.cons_append] at hskip hl
        rw [moreItems_of_item hskip hc, bind_ok hl]
        exact bind_ok (ih h₂ (Nat.le_of_succ_le_succ hm)) _

theorem items_closed {vs : List String} (h : items s = .ok (vs, r)) (t : Text) :
    items (s ++ ')' :: t) = .ok (vs, r ++ ')' :: t) := by
  unfold items at h ⊢
  obtain ⟨⟨v, r₁⟩, h₁, h⟩ := Except.bind_eq_ok.mp h
  obtain ⟨⟨vs', r₂⟩, h₂, h⟩ := Except.bind_eq_ok.mp h
  cases h
  have hlength : r₁.length + 1 ≤ (r₁ ++ ')' :: t).length + 1 := by simp
  rw [skipSeparators_closed, bind_ok (literal_closed (by decide) h₁ t)]
  exact bind_ok (moreItems_closed h₂ hlength t) _

/-! Terms. -/

theorem wildcard?_closed (hs : s ≠ []) (t : Text) :
    wildcard? (s ++ ')' :: t) = (wildcard? s).map (· ++ ')' :: t) := by
  match s with
  | [] => exact absurd rfl hs
  | c :: s =>
    by_cases hc : c = '*'
    · subst hc
      have he : endsWord (s ++ ')' :: t) ')' = endsWord s ')' := by
        cases s <;> rfl
      rw [List.cons_append, wildcard?, wildcard?, he]
      cases endsWord s ')' <;> rfl
    · unfold wildcard?
      split
      · rename_i he
        exact absurd (List.cons.inj he).1 hc
      · split
        · rename_i he
          exact absurd (List.cons.inj he).1 hc
        · rfl

/-- Only after one of the operators does a star stand for any value. -/
theorem star_closed (hs : s ≠ []) (op : Comparison) (t : Text) :
    (if op = .has then wildcard? (s ++ ')' :: t) else none) =
      (if op = .has then wildcard? s else none).map (· ++ ')' :: t) := by
  split
  · exact wildcard?_closed hs t
  · rfl

theorem search_closed {k : FilterKey} {wanted : Bool}
    (h : comparison k (.search wanted) s = .ok (f, r)) (t : Text) :
    comparison k (.search wanted) (s ++ ')' :: t) = .ok (f, r ++ ')' :: t) := by
  rw [comparison] at h ⊢
  obtain ⟨⟨v, r₁⟩, h₁, h⟩ := Except.bind_eq_ok.mp h
  rw [trimStart_closed, bind_ok (literal_closed (by decide) h₁ t)]
  dsimp only at h ⊢
  cases hp : Pattern.parse? (anchored v) with
  | none =>
    rw [hp] at h
    cases h
  | some p =>
    rw [hp] at h
    cases h
    rfl

theorem operand_ne {k : FilterKey} {op : Comparison}
    (h : comparison k (.single op) s = .ok (f, r)) : Text.trimStart s ≠ [] := by
  intro hs
  rw [comparison, hs] at h
  have hnone : (if op = .has then wildcard? [] else none) = none := by
    split
    · rfl
    · rfl
  rw [hnone] at h
  cases h

theorem single_closed {k : FilterKey} {op : Comparison}
    (h : comparison k (.single op) s = .ok (f, r)) (t : Text) :
    comparison k (.single op) (s ++ ')' :: t) = .ok (f, r ++ ')' :: t) := by
  have hne := operand_ne h
  rw [comparison] at h ⊢
  rw [trimStart_closed, star_closed hne]
  cases hw : (if op = .has then wildcard? (Text.trimStart s) else none) with
  | some u =>
    rw [hw] at h
    cases h
    rfl
  | none =>
    rw [hw] at h
    obtain ⟨p, hp, he⟩ := Except.map_eq_ok.mp h
    cases he
    dsimp only [Option.map_none]
    rw [literal_closed (by decide) hp t]
    rfl

theorem comparison_closed {k : FilterKey} {op : Operator} (h : comparison k op s = .ok (f, r))
    (t : Text) : comparison k op (s ++ ')' :: t) = .ok (f, r ++ ')' :: t) := by
  cases op with
  | list op =>
    obtain ⟨p, hp, he⟩ := Except.map_eq_ok.mp h
    cases he
    rw [comparison, items_closed hp]
    rfl
  | search wanted => exact search_closed h t
  | single op => exact single_closed h t

theorem term_closed (h : term s = .ok (f, r)) (t : Text) :
    term (s ++ ')' :: t) = .ok (f, r ++ ')' :: t) := by
  unfold term at h ⊢
  obtain ⟨⟨k, r₁⟩, h₁, h⟩ := Except.bind_eq_ok.mp h
  obtain ⟨⟨op, r₂⟩, h₂, h⟩ := Except.bind_eq_ok.mp h
  rw [bind_ok (key_closed h₁ t)]
  dsimp only
  rw [bind_ok (operator_closed h₂ t)]
  exact comparison_closed h t

theorem absence_closed (h : absence s = .ok (f, r)) (t : Text) :
    absence (s ++ ')' :: t) = .ok (f, r ++ ')' :: t) := by
  unfold absence at h ⊢
  obtain ⟨⟨k, r₁⟩, h₁, h⟩ := Except.bind_eq_ok.mp h
  rw [skipSpace_closed, bind_ok (key_closed h₁ t)]
  dsimp only at h ⊢
  rw [skipSpace_closed]
  split at h
  · rename_i r₂ hcolon
    split at h
    · rename_i r₃ hstar
      cases h
      simp only [hcolon, List.cons_append, skipSpace_closed, hstar]
      rfl
    · cases h
  · cases h

/-! What the readers of terms in a chain do, by the first character. -/

theorem chain_of_end (h : Text.trimStart s = []) (before : Option Connective) (left : Filter) :
    chain (n + 1) before left s = .ok (left, []) := by
  rw [chain, h]

theorem chain_of_close {u : Text} (h : Text.trimStart s = ')' :: u) (before : Option Connective)
    (left : Filter) : chain (n + 1) before left s = .ok (left, ')' :: u) := by
  rw [chain, h]
  rfl

theorem chain_of_term {c : Char} {u : Text} (h : Text.trimStart s = c :: u) (hc : c ≠ ')')
    (before : Option Connective) (left : Filter) :
    chain (n + 1) before left s =
      if before.any (· ≠ (connective (c :: u)).1) then .error .ambiguous
      else unary n (connective (c :: u)).2 >>= fun p =>
        chain n (some (connective (c :: u)).1) (join (connective (c :: u)).1 left p.1) p.2 := by
  rw [chain, h]
  split
  · rename_i he
    cases he
  · rename_i he
    exact absurd (List.cons.inj he).1 hc
  · rfl

theorem unary_of_not {u : Text} (h : keyword? ['N', 'O', 'T'] (Text.trimStart s) = some u) :
    unary (n + 1) s = (unary n u).map fun p => (.not p.1, p.2) := by
  rw [unary, h]

theorem unary_of_open {u : Text} (h : Text.trimStart s = '(' :: u) :
    unary (n + 1) s = expression n u >>= fun p =>
      match skipSpace p.2 with
      | ')' :: r => .ok (p.1, r)
      | r => .error (.at r) := by
  rw [unary, h]
  rfl

theorem unary_of_minus {u : Text} (h : Text.trimStart s = '-' :: u) :
    unary (n + 1) s = absence u := by
  rw [unary, h]
  rfl

theorem unary_of_term {c : Char} {u : Text} (h : Text.trimStart s = c :: u) (ho : c ≠ '(')
    (hm : c ≠ '-') (hn : keyword? ['N', 'O', 'T'] (c :: u) = none) :
    unary (n + 1) s = term (c :: u) := by
  rw [unary, h, hn]
  split
  · rename_i he
    cases he
  · rename_i he
    cases he
  · rename_i he
    exact absurd (List.cons.inj he).1 ho
  · rename_i he
    exact absurd (List.cons.inj he).1 hm
  · rfl

theorem unary_nil_ne : unary n [] ≠ .ok (f, r) := by
  cases n with
  | zero => exact fun h => nomatch h
  | succ n =>
    rw [unary]
    exact fun h => nomatch h

/-! The recursion: one statement for its three readers, by induction on the fuel. -/

structure Closed (n : Nat) : Prop where
  expression : ∀ {s r : Text} {f : Filter} {m : Nat}, expression n s = .ok (f, r) → n ≤ m →
    ∀ t, Read.expression m (s ++ ')' :: t) = .ok (f, r ++ ')' :: t)
  chain : ∀ {before : Option Connective} {left : Filter} {s r : Text} {f : Filter} {m : Nat},
    chain n before left s = .ok (f, r) → n ≤ m →
    ∀ t, Read.chain m before left (s ++ ')' :: t) = .ok (f, r ++ ')' :: t)
  unary : ∀ {s r : Text} {f : Filter} {m : Nat}, unary n s = .ok (f, r) → n ≤ m →
    ∀ t, Read.unary m (s ++ ')' :: t) = .ok (f, r ++ ')' :: t)

theorem expression_succ_closed (ih : Closed n) (h : expression (n + 1) s = .ok (f, r))
    (hm : n ≤ m) (t : Text) :
    expression (m + 1) (s ++ ')' :: t) = .ok (f, r ++ ')' :: t) := by
  rw [expression] at h ⊢
  obtain ⟨⟨first, r₁⟩, h₁, h⟩ := Except.bind_eq_ok.mp h
  rw [bind_ok (ih.unary h₁ hm t)]
  exact ih.chain h hm t

theorem connective_keyword {word : Text} (h : word = ['A', 'N', 'D'] ∨ word = ['O', 'R']) :
    (connective word).2 = [] := by
  obtain rfl | rfl := h
  · rfl
  · rfl

theorem chain_succ_closed {before : Option Connective} {left : Filter} (ih : Closed n)
    (h : chain (n + 1) before left s = .ok (f, r)) (hm : n ≤ m) (t : Text) :
    chain (m + 1) before left (s ++ ')' :: t) = .ok (f, r ++ ')' :: t) := by
  have htrim := trimStart_closed s t
  cases hu : Text.trimStart s with
  | nil =>
    rw [hu] at htrim
    rw [chain_of_end hu] at h
    cases h
    exact chain_of_close htrim _ _
  | cons c u =>
    rw [hu, List.cons_append] at htrim
    by_cases hc : c = ')'
    · subst hc
      rw [chain_of_close hu] at h
      cases h
      exact chain_of_close htrim _ _
    · rw [chain_of_term hu hc] at h
      split at h
      · cases h
      · rename_i hbefore
        obtain ⟨p, h₁, h⟩ := Except.bind_eq_ok.mp h
        -- A connective at the very end has no term after it.
        have hne (hw : (connective (c :: u)).2 = []) : False := by
          rw [hw] at h₁
          exact unary_nil_ne h₁
        have hand : c :: u ≠ ['A', 'N', 'D'] := fun hw => hne (connective_keyword (.inl hw))
        have hor : c :: u ≠ ['O', 'R'] := fun hw => hne (connective_keyword (.inr hw))
        have hconnective := connective_closed hand hor t
        rw [List.cons_append] at hconnective
        rw [chain_of_term htrim hc, hconnective]
        rw [if_neg hbefore, bind_ok (ih.unary h₁ hm t)]
        exact ih.chain h hm t

theorem group_closed {u : Text} (ih : Closed n) (hu : Text.trimStart s = '(' :: u)
    (h : unary (n + 1) s = .ok (f, r)) (hm : n ≤ m) (t : Text) :
    unary (m + 1) (s ++ ')' :: t) = .ok (f, r ++ ')' :: t) := by
  have htrim := trimStart_closed s t
  rw [hu, List.cons_append] at htrim
  rw [unary_of_open hu] at h
  obtain ⟨⟨g, r₁⟩, h₁, h⟩ := Except.bind_eq_ok.mp h
  rw [unary_of_open htrim, bind_ok (ih.expression h₁ hm t)]
  dsimp only at h ⊢
  rw [skipSpace_closed]
  split at h
  · rename_i hr
    cases h
    rw [hr]
    rfl
  · cases h

theorem not_closed {u : Text} (ih : Closed n)
    (hk : keyword? ['N', 'O', 'T'] (Text.trimStart s) = some u)
    (h : unary (n + 1) s = .ok (f, r)) (hm : n ≤ m) (t : Text) :
    unary (m + 1) (s ++ ')' :: t) = .ok (f, r ++ ')' :: t) := by
  rw [unary_of_not hk] at h
  obtain ⟨p, h₁, he⟩ := Except.map_eq_ok.mp h
  cases he
  -- The word at the very end has no term after it.
  have hnot : Text.trimStart s ≠ ['N', 'O', 'T'] := by
    intro hw
    rw [hw, keyword?_self] at hk
    cases hk
    exact unary_nil_ne h₁
  have hkeyword := keyword?_closed (by decide) hnot t
  rw [← trimStart_closed, hk] at hkeyword
  rw [unary_of_not hkeyword, ih.unary h₁ hm t]
  rfl

theorem unary_succ_closed (ih : Closed n) (h : unary (n + 1) s = .ok (f, r)) (hm : n ≤ m)
    (t : Text) : unary (m + 1) (s ++ ')' :: t) = .ok (f, r ++ ')' :: t) := by
  cases hk : keyword? ['N', 'O', 'T'] (Text.trimStart s) with
  | some u => exact not_closed ih hk h hm t
  | none =>
    have htrim := trimStart_closed s t
    cases hu : Text.trimStart s with
    | nil =>
      rw [unary, hu] at h
      cases h
    | cons c u =>
      rw [hu] at htrim hk
      rw [List.cons_append] at htrim
      by_cases ho : c = '('
      · subst ho
        exact group_closed ih hu h hm t
      · by_cases hminus : c = '-'
        · subst hminus
          rw [unary_of_minus hu] at h
          rw [unary_of_minus htrim]
          exact absence_closed h t
        · rw [unary_of_term hu ho hminus hk] at h
          rw [unary_of_term htrim ho hminus (keyword?_none_closed (by decide) hk t)]
          exact term_closed h t

theorem closed (n : Nat) : Closed n := by
  induction n with
  | zero =>
    constructor
    · intro s r f m h
      exact nomatch h
    · intro before left s r f m h
      exact nomatch h
    · intro s r f m h
      exact nomatch h
  | succ n ih =>
    have hpred {m : Nat} (hm : n + 1 ≤ m) : ∃ k, m = k + 1 ∧ n ≤ k := ⟨m - 1, by omega, by omega⟩
    constructor
    · intro s r f m h hm t
      obtain ⟨m, rfl, hk⟩ := hpred hm
      exact expression_succ_closed ih h hk t
    · intro before left s r f m h hm t
      obtain ⟨m, rfl, hk⟩ := hpred hm
      exact chain_succ_closed ih h hk t
    · intro s r f m h hm t
      obtain ⟨m, rfl, hk⟩ := hpred hm
      exact unary_succ_closed ih h hk t

end CloudEmulation.Filter.Read
