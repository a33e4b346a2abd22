import CloudEmulation.Proofs.Filter.Closing
import CloudEmulation.Proofs.Text.Utf8
/-!
Where a filter is refused, its error tells a position of the text and what stands there: readers go
through a text from its start, so that whatever they leave or stop before is an end of it.
-/

namespace CloudEmulation.Filter.Read

variable {α β : Type} {s r : Text} {n : Nat} {e : Stop}

/-- Reading stopped before an end of a text; where it looked for a key, none begins. -/
def Within (s : Text) : Stop → Prop
  | .at r => r <:+ s
  | .key r => r <:+ s ∧ identifier? r = none
  | .ambiguous => True
  | .pattern _ => True

/-- What is left of a text is an end of it, or reading stopped within it. -/
def Stays (s : Text) : Reading (α × Text) → Prop
  | .ok p => p.2 <:+ s
  | .error e => Within s e

theorem Within.mono (h : r <:+ s) (hw : Within r e) : Within s e := by
  cases e with
  | «at» t => exact List.IsSuffix.trans hw h
  | key t => exact ⟨hw.1.trans h, hw.2⟩
  | ambiguous => trivial
  | pattern p => trivial

namespace Stays

variable {x : Reading (α × Text)}

theorem mono (h : r <:+ s) (hx : Stays r x) : Stays s x := by
  cases x with
  | ok p => exact List.IsSuffix.trans hx h
  | error e => exact Within.mono h hx

theorem map (hx : Stays s x) (g : α → β) : Stays s (x.map fun p => (g p.1, p.2)) := by
  cases x with
  | ok p => exact hx
  | error e => exact hx

/-- The second reader goes on where the first one ended. -/
theorem bind {g : α × Text → Reading (β × Text)} (hx : Stays s x) (hg : ∀ p, Stays p.2 (g p)) :
    Stays s (x >>= g) := by
  cases x with
  | ok p => exact (hg p).mono hx
  | error e => exact hx

end Stays

/-! What is skipped, and words that stand alone. -/

theorem skipSpace_suffix (s : Text) : skipSpace s <:+ s := List.dropWhile_suffix _

theorem trimStart_suffix (s : Text) : Text.trimStart s <:+ s := List.dropWhile_suffix _

theorem skipSeparators_suffix (s : Text) : skipSeparators s <:+ s := List.dropWhile_suffix _

theorem keyword?_suffix {word : Text} (h : keyword? word s = some r) : r <:+ s := by
  unfold keyword? at h
  split at h
  · cases h
    exact List.drop_suffix _ _
  · cases h

theorem connective_suffix (s : Text) : (connective s).2 <:+ s := by
  unfold connective
  cases hand : keyword? ['A', 'N', 'D'] s with
  | some r => exact keyword?_suffix hand
  | none =>
    cases hor : keyword? ['O', 'R'] s with
    | some r => exact keyword?_suffix hor
    | none => exact List.suffix_rfl

theorem wildcard?_suffix (h : wildcard? s = some r) : r <:+ s := by
  unfold wildcard? at h
  split at h
  · split at h
    · cases h
      exact List.suffix_cons _ _
    · cases h
  · cases h

/-! Keys and operators. -/

theorem moreNames_suffix (n : Nat) (s : Text) : (moreNames n s).2 <:+ s := by
  fun_induction moreNames n s with
  | case1 s => exact List.suffix_rfl
  | case2 n r name rest hi names left hnames ih =>
    rw [hnames] at ih
    exact (ih.trans (identifier?_suffix hi)).trans (List.suffix_cons _ _)
  | case3 n r hi => exact List.suffix_rfl
  | case4 n s hs => exact List.suffix_rfl

theorem stays_key (s : Text) : Stays s (key s) := by
  unfold key
  cases hi : identifier? s with
  | some p => exact (moreNames_suffix _ _).trans (identifier?_suffix hi)
  | none => exact ⟨List.suffix_rfl, hi⟩

theorem operator?_suffix {op : Operator} (h : operator? s = some (op, r)) : r <:+ s := by
  unfold operator? at h
  split at h
  case h_12 => cases h
  case h_7 | h_8 | h_9 | h_10 | h_11 =>
    cases h
    exact List.suffix_cons _ _
  all_goals
    cases h
    exact (List.suffix_cons _ _).trans (List.suffix_cons _ _)

theorem stays_operator (s : Text) : Stays s (operator s) := by
  unfold operator
  cases ho : operator? (skipSpace s) with
  | some p => exact (operator?_suffix ho).trans (skipSpace_suffix s)
  | none => exact skipSpace_suffix s

/-! Literals. -/

theorem stays_quotedBody (quote : Char) (s : Text) : Stays s (quotedBody quote s) := by
  fun_induction quotedBody quote s with
  | case1 => exact List.suffix_rfl
  | case2 => exact List.suffix_rfl
  | case3 c r ih => exact (ih.mono (List.drop_suffix 2 ('\\' :: c :: r))).map _
  | case4 r => exact List.suffix_cons _ _
  | case5 c r _ _ _ ih => exact (ih.mono (List.suffix_cons c r)).map _

theorem stays_literal (ends : Char → Bool) (s : Text) : Stays s (literal ends s) := by
  cases s with
  | nil => exact List.suffix_rfl
  | cons c r =>
    rw [literal]
    split
    · exact ((stays_quotedBody c r).mono (List.suffix_cons c r)).map _
    · split
      · exact List.suffix_rfl
      · exact List.dropWhile_suffix _

theorem stays_moreItems (n : Nat) (s : Text) : Stays s (moreItems n s) := by
  induction n generalizing s with
  | zero => exact List.suffix_rfl
  | succ n ih =>
    have hskip := skipSeparators_suffix s
    cases hu : skipSeparators s with
    | nil =>
      rw [moreItems, hu]
      exact List.nil_suffix
    | cons c u =>
      rw [hu] at hskip
      by_cases hc : c = ')'
      · subst hc
        rw [moreItems, hu]
        exact ((skipSpace_suffix u).trans (List.suffix_cons _ _)).trans hskip
      · rw [moreItems_of_item hu hc]
        refine ((stays_literal endsItem (c :: u)).mono hskip).bind fun p => ?_
        exact (ih p.2).map (p.1 :: ·)

theorem stays_items (s : Text) : Stays s (items s) := by
  unfold items
  refine ((stays_literal endsItem _).mono (skipSeparators_suffix s)).bind fun p => ?_
  exact (stays_moreItems _ p.2).map (p.1 :: ·)

/-! Terms. -/

theorem stays_comparison (k : FilterKey) (op : Operator) (s : Text) :
    Stays s (comparison k op s) := by
  have htrim := trimStart_suffix s
  cases op with
  | list op => exact (stays_items s).map _
  | search wanted =>
    refine ((stays_literal endsBare _).mono htrim).bind fun p => ?_
    dsimp only
    split
    · exact List.suffix_rfl
    · trivial
  | single op =>
    rw [comparison]
    cases hw : (if op = .has then wildcard? (Text.trimStart s) else none) with
    | some r =>
      split at hw
      · exact (wildcard?_suffix hw).trans htrim
      · cases hw
    | none => exact ((stays_literal endsBare _).mono htrim).map _

theorem stays_term (s : Text) : Stays s (term s) :=
  (stays_key s).bind fun p => (stays_operator p.2).bind fun q => stays_comparison p.1 q.1 q.2

theorem stays_absence (s : Text) : Stays s (absence s) := by
  unfold absence
  refine ((stays_key _).mono (skipSpace_suffix s)).bind fun p => ?_
  have hcolon := skipSpace_suffix p.2
  dsimp only
  split
  · rename_i r hr
    rw [hr] at hcolon
    have hstar := (skipSpace_suffix r).trans ((List.suffix_cons _ _).trans hcolon)
    split
    · rename_i u hu
      rw [hu] at hstar
      exact (List.suffix_cons _ _).trans hstar
    · exact hstar
  · exact hcolon

/-! The recursion: one statement for its three readers, by induction on the fuel. -/

structure AllStay (n : Nat) : Prop where
  expression : ∀ s, Stays s (expression n s)
  chain : ∀ before left s, Stays s (chain n before left s)
  unary : ∀ s, Stays s (unary n s)

theorem stays_chain_succ (ih : AllStay n) (before : Option Connective) (left : Filter) (s : Text) :
    Stays s (chain (n + 1) before left s) := by
  have htrim := trimStart_suffix s
  cases hu : Text.trimStart s with
  | nil =>
    rw [chain_of_end hu]
    exact List.nil_suffix
  | cons c u =>
    rw [hu] at htrim
    by_cases hc : c = ')'
    · subst hc
      rw [chain_of_close hu]
      exact htrim
    · rw [chain_of_term hu hc]
      split
      · trivial
      · have hafter := (connective_suffix (c :: u)).trans htrim
        exact ((ih.unary _).mono hafter).bind fun p => ih.chain _ _ p.2

theorem stays_unary_succ (ih : AllStay n) (s : Text) : Stays s (unary (n + 1) s) := by
  have htrim := trimStart_suffix s
  cases hk : keyword? ['N', 'O', 'T'] (Text.trimStart s) with
  | some u =>
    rw [unary_of_not hk]
    exact ((ih.unary u).mono ((keyword?_suffix hk).trans htrim)).map _
  | none =>
    cases hu : Text.trimStart s with
    | nil =>
      rw [unary, hu]
      exact List.nil_suffix
    | cons c u =>
      rw [hu] at htrim hk
      have hrest := (List.suffix_cons c u).trans htrim
      by_cases ho : c = '('
      · subst ho
        rw [unary_of_open hu]
        refine ((ih.expression u).mono hrest).bind fun p => ?_
        have hclose := skipSpace_suffix p.2
        split
        · rename_i r hr
          rw [hr] at hclose
          exact (List.suffix_cons _ _).trans hclose
        · exact hclose
      · by_cases hm : c = '-'
        · subst hm
          rw [unary_of_minus hu]
          exact (stays_absence u).mono hrest
        · rw [unary_of_term hu ho hm hk]
          exact (stays_term _).mono htrim

theorem all_stay (n : Nat) : AllStay n := by
  induction n with
  | zero => exact ⟨fun s => List.suffix_rfl, fun _ _ s => List.suffix_rfl, fun s => List.suffix_rfl⟩
  | succ n ih =>
    refine ⟨fun s => ?_, stays_chain_succ ih, stays_unary_succ ih⟩
    rw [expression]
    exact (ih.unary s).bind fun p => ih.chain none p.1 p.2

theorem within_of_whole (h : whole s = .error e) : Within s e := by
  have hs := (all_stay (2 * s.length + 2)).expression s
  unfold whole at h
  cases hx : expression (2 * s.length + 2) s with
  | error e =>
    rw [hx] at h hs
    cases h
    exact hs
  | ok p =>
    rw [hx] at h hs
    have hrest : Text.trimStart p.2 <:+ s := (trimStart_suffix p.2).trans hs
    rw [bind_ok rfl] at h
    dsimp only at h
    split at h
    · cases h
    · cases h
      exact hrest

/-! Positions. -/

theorem not_starts {c : Char} (h : identifier? (c :: r) = none) : c.isAlpha = false ∧ c ≠ '_' := by
  rw [identifier?] at h
  split at h
  · cases h
  · rename_i hc
    simpa [isKeyStart] using hc

theorem eq_at_of_unexpected {c : Char} {p : Nat} (h : located s e = .unexpected c p) :
    ∃ r, e = .at (c :: r) ∧ p = Utf8.size s - Utf8.size (c :: r) := by
  cases e with
  | «at» t =>
    cases t with
    | nil => cases h
    | cons d t =>
      cases h
      exact ⟨t, rfl, rfl⟩
  | key => cases h
  | ambiguous => cases h
  | pattern => cases h

theorem eq_key_of_expectedKey {p : Nat} (h : located s e = .expectedKey p) :
    ∃ r, e = .key r ∧ p = Utf8.size s - Utf8.size r := by
  cases e with
  | «at» t => cases t <;> cases h
  | key t =>
    cases h
    exact ⟨t, rfl, rfl⟩
  | ambiguous => cases h
  | pattern => cases h

end Read

theorem stop_of_parse {text : String} {e : ReadError} (h : parse text = .error e) :
    ∃ stop, Read.Within text.toList stop ∧ Read.located text.toList stop = e := by
  unfold parse at h
  cases hw : Read.whole text.toList with
  | error stop =>
    rw [hw] at h
    cases h
    exact ⟨stop, Read.within_of_whole hw, rfl⟩
  | ok f =>
    rw [hw] at h
    cases h

/-- Where an end of a text begins, its first character stands. -/
theorem exists_pos {text : String} {r : List Char} (h : r <:+ text.toList) :
    ∃ p : text.Pos, p.offset.byteIdx = Utf8.size text.toList - Utf8.size r ∧
      p.get? = r.head? := by
  obtain ⟨front, hr⟩ := h
  have htext : text = String.ofList front ++ String.ofList r := by
    rw [← String.ofList_append, hr, String.ofList_toList]
  have hvalid := String.Pos.Raw.isValid_iff_exists_append.mpr ⟨_, _, htext, rfl⟩
  let p : text.Pos := ⟨(String.ofList front).rawEndPos, hvalid⟩
  have hsplits : p.Splits (String.ofList front) (String.ofList r) := ⟨htext, rfl⟩
  refine ⟨p, ?_, ?_⟩
  · rw [← hr, Utf8.size_append, Nat.add_sub_cancel]
    exact Utf8.utf8ByteSize_ofList front
  · cases r with
    | nil => exact String.Pos.get?_eq_none (hsplits.eq_endPos_iff.mpr rfl)
    | cons c r =>
      have hne : p ≠ text.endPos := fun he => by simpa using hsplits.eq_endPos_iff.mp he
      obtain ⟨t, ht⟩ := hsplits.exists_eq_singleton_append hne
      have hc := congrArg (·.toList.head?) ht
      rw [String.Pos.get?_eq_some_get hne]
      simpa using hc.symm

/-- The character that an error tells stands at the position it tells, and where it misses a key,
which may be at the end of the text, there is no letter and no underscore. -/
theorem positions_truthful (text : String) :
    (∀ found position, parse text = .error (.unexpected found position) →
      ∃ p : text.Pos, p.offset.byteIdx = position ∧ p.get? = some found) ∧
    ∀ position, parse text = .error (.expectedKey position) →
      ∃ p : text.Pos, p.offset.byteIdx = position ∧
        ∀ c, p.get? = some c → c.isAlpha = false ∧ c ≠ '_' := by
  constructor
  · intro found position h
    obtain ⟨stop, hw, hl⟩ := stop_of_parse h
    obtain ⟨r, rfl, rfl⟩ := Read.eq_at_of_unexpected hl
    exact exists_pos hw
  · intro position h
    obtain ⟨stop, hw, hl⟩ := stop_of_parse h
    obtain ⟨r, rfl, rfl⟩ := Read.eq_key_of_expectedKey hl
    obtain ⟨p, hp, hget⟩ := exists_pos hw.1
    refine ⟨p, hp, fun c hc => ?_⟩
    obtain ⟨t, rfl⟩ := List.head?_eq_some_iff.mp (hget.symm.trans hc)
    exact Read.not_starts hw.2

/-- Positions count bytes, and both texts have a character of two bytes. -/
theorem positions_of_refused :
    parse "name='é' )" = .error (.unexpected ')' 10) ∧
    (∃ p : "name='é' )".Pos, p.offset.byteIdx = 10 ∧ p.get? = some ')') ∧
    parse "name='é' AND 9=b" = .error (.expectedKey 14) ∧
    ∃ p : "name='é' AND 9=b".Pos, p.offset.byteIdx = 14 ∧
      ∀ c, p.get? = some c → c.isAlpha = false ∧ c ≠ '_' := by
  have hclose : parse "name='é' )" = .error (.unexpected ')' 10) := rfl
  have hnine : parse "name='é' AND 9=b" = .error (.expectedKey 14) := rfl
  exact ⟨hclose, (positions_truthful _).1 _ _ hclose, hnine, (positions_truthful _).2 _ hnine⟩

end CloudEmulation.Filter
