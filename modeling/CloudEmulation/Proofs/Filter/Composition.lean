import CloudEmulation.Filter.Matching
import CloudEmulation.Proofs.Filter.Closing
/-!
Filters put together from the texts of other filters, each in parentheses.
-/

namespace CloudEmulation.Filter

/-- A text that is read, with the filter it denotes. -/
structure Accepted where
  text : String
  filter : Filter
  parses : parse text = .ok filter

inductive Separator where
  | and
  | or
  | blank
  deriving DecidableEq, Repr

def Separator.text : Separator → String
  | .and => " AND "
  | .or => " OR "
  | .blank => " "

def grouped (text : String) : String := "(" ++ text ++ ")"

abbrev Links := List (Separator × Accepted)

def following : Links → String
  | [] => ""
  | (sep, a) :: rest => sep.text ++ grouped a.text ++ following rest

def joined (first : Accepted) (rest : Links) : String := grouped first.text ++ following rest

/-- Whether `OR` stands beside one of the others. -/
def Mixed (rest : Links) : Prop := (∃ p ∈ rest, p.1 = .or) ∧ ∃ p ∈ rest, p.1 ≠ .or

/-- Whether some member matches where `OR` joins them, and whether all do otherwise. -/
def verdict (first : Accepted) (rest : Links) (j : Json) : Bool :=
  if rest.any (·.1 = .or) then (first :: rest.map Prod.snd).any (·.filter.accepts j)
  else (first :: rest.map Prod.snd).all (·.filter.accepts j)

namespace Read

variable {s r w : Text} {n : Nat} {f : Filter}

/-! One group. -/

def StopsAtClose (r : Text) : Prop := r = [] ∨ ∃ u, r = ')' :: u

theorem chain_stops {before : Option Connective} {left : Filter}
    (h : chain n before left s = .ok (f, r)) : StopsAtClose r := by
  induction n generalizing before left s with
  | zero => cases h
  | succ n ih =>
    cases hu : Text.trimStart s with
    | nil =>
      rw [chain_of_end hu] at h
      cases h
      exact .inl rfl
    | cons c u =>
      by_cases hc : c = ')'
      · subst hc
        rw [chain_of_close hu] at h
        cases h
        exact .inr ⟨u, rfl⟩
      · rw [chain_of_term hu hc] at h
        split at h
        · cases h
        · obtain ⟨p, -, h⟩ := Except.bind_eq_ok.mp h
          exact ih h

theorem expression_of_whole (h : whole s = .ok f) :
    expression (2 * s.length + 2) s = .ok (f, []) := by
  obtain ⟨⟨g, r⟩, hread, h⟩ := Except.bind_eq_ok.mp h
  have hstops : StopsAtClose r := by
    rw [expression] at hread
    obtain ⟨p, -, hchain⟩ := Except.bind_eq_ok.mp hread
    exact chain_stops hchain
  obtain rfl | ⟨u, rfl⟩ := hstops
  · cases h
    exact hread
  · cases h

theorem whole_of_expression (h : expression (2 * s.length + 2) s = .ok (f, [])) :
    whole s = .ok f :=
  bind_ok h _

theorem unary_group (h : whole s = .ok f) (hn : 2 * s.length + 3 ≤ n) {t : Text}
    (hw : Text.trimStart w = '(' :: (s ++ ')' :: t)) : unary n w = .ok (f, t) := by
  obtain ⟨n, rfl⟩ : ∃ k, n = k + 1 := ⟨n - 1, by omega⟩
  have hinner := (closed _).expression (expression_of_whole h) (by omega : _ ≤ n) t
  rw [unary_of_open hw, bind_ok hinner]
  rfl

end Read

theorem Accepted.whole (a : Accepted) : Read.whole a.text.toList = .ok a.filter := by
  have h := a.parses
  unfold parse at h
  cases hr : Read.whole a.text.toList with
  | error e =>
    rw [hr] at h
    cases h
  | ok f =>
    rw [hr] at h
    cases h
    rfl

theorem parse_of_whole {s : String} {f : Filter} (h : Read.whole s.toList = .ok f) :
    parse s = .ok f := by
  rw [parse, h]
  rfl

/-! Chains of groups. -/

def Separator.connective : Separator → Read.Connective
  | .and => .all
  | .or => .any
  | .blank => .all

theorem connective_eq_any {sep : Separator} : sep.connective = .any ↔ sep = .or := by
  cases sep <;> decide

theorem toList_grouped (s : String) (t : List Char) :
    (grouped s).toList ++ t = '(' :: (s.toList ++ ')' :: t) := by
  simp [grouped]

theorem toList_following (sep : Separator) (a : Accepted) (rest : Links) :
    (following ((sep, a) :: rest)).toList
      = sep.text.toList ++ '(' :: (a.text.toList ++ ')' :: (following rest).toList) := by
  rw [following, String.append_assoc, String.toList_append, String.toList_append, toList_grouped]

/-- What a chain of groups is read as. -/
def Links.fold (left : Filter) : Links → Filter
  | [] => left
  | (sep, a) :: rest => fold (Read.join sep.connective left a.filter) rest

/-- A separator and the group after it. -/
theorem separator_group (sep : Separator) (u : List Char) :
    ∃ c v w, Text.trimStart (sep.text.toList ++ '(' :: u) = c :: v ∧ c ≠ ')' ∧
      Read.connective (c :: v) = (sep.connective, w) ∧ Text.trimStart w = '(' :: u := by
  cases sep with
  | and => exact ⟨'A', _, _, rfl, by decide, rfl, rfl⟩
  | or => exact ⟨'O', _, _, rfl, by decide, rfl, rfl⟩
  | blank => exact ⟨'(', _, _, rfl, by decide, rfl, rfl⟩

theorem chain_link {n : Nat} {sep : Separator} {a : Accepted} {rest : Links}
    (hn : 2 * a.text.toList.length + 3 ≤ n) (before : Option Read.Connective) (left : Filter) :
    Read.chain (n + 1) before left (following ((sep, a) :: rest)).toList =
      if before.any (· ≠ sep.connective) then .error .ambiguous
      else Read.chain n (some sep.connective) (Read.join sep.connective left a.filter)
        (following rest).toList := by
  obtain ⟨c, v, w, htrim, hc, hconnective, hw⟩ :=
    separator_group sep (a.text.toList ++ ')' :: (following rest).toList)
  rw [toList_following, Read.chain_of_term htrim hc, hconnective]
  rw [Read.bind_ok (Read.unary_group a.whole hn hw)]

theorem length_following (sep : Separator) (a : Accepted) (rest : Links) :
    a.text.toList.length + (following rest).toList.length + 3
      ≤ (following ((sep, a) :: rest)).toList.length := by
  have hsep : 1 ≤ sep.text.toList.length := by cases sep <;> decide
  rw [toList_following]
  simp only [List.length_append, List.length_cons]
  omega

theorem chain_uniform {c : Read.Connective} {rest : Links} {n : Nat} {left : Filter}
    (hrest : ∀ p ∈ rest, p.1.connective = c) (hn : 2 * (following rest).toList.length + 1 ≤ n)
    {before : Option Read.Connective} (hbefore : ∀ d ∈ before, d = c) :
    Read.chain n before left (following rest).toList = .ok (Links.fold left rest, []) := by
  induction rest generalizing n left before with
  | nil =>
    obtain ⟨n, rfl⟩ : ∃ k, n = k + 1 := ⟨n - 1, by omega⟩
    exact Read.chain_of_end rfl before left
  | cons p rest ih =>
    obtain ⟨sep, a⟩ := p
    have hlength := length_following sep a rest
    obtain ⟨n, rfl⟩ : ∃ k, n = k + 1 := ⟨n - 1, by omega⟩
    have hsep : sep.connective = c := hrest (sep, a) List.mem_cons_self
    have htail : ∀ p ∈ rest, p.1.connective = c := fun p hp => hrest p (List.mem_cons_of_mem _ hp)
    have hsame : ¬before.any (· ≠ sep.connective) = true := by
      cases before with
      | none => exact Bool.false_ne_true
      | some d =>
        have hd : d = sep.connective := (hbefore d rfl).trans hsep.symm
        simp [hd]
    rw [chain_link (by omega), if_neg hsame]
    refine ih htail (by omega) ?_
    intro d hd
    cases hd
    exact hsep

theorem chain_mixed {c : Read.Connective} {rest : Links} {n : Nat} {left : Filter}
    (hrest : ∃ p ∈ rest, p.1.connective ≠ c) (hn : 2 * (following rest).toList.length + 1 ≤ n) :
    Read.chain n (some c) left (following rest).toList = .error .ambiguous := by
  induction rest generalizing n left with
  | nil =>
    obtain ⟨p, hp, -⟩ := hrest
    cases hp
  | cons p rest ih =>
    obtain ⟨sep, a⟩ := p
    have hlength := length_following sep a rest
    obtain ⟨n, rfl⟩ : ∃ k, n = k + 1 := ⟨n - 1, by omega⟩
    rw [chain_link (by omega)]
    by_cases hsep : sep.connective = c
    · have htail : ∃ p ∈ rest, p.1.connective ≠ c := by
        obtain ⟨p, hp, hne⟩ := hrest
        obtain rfl | hp := List.mem_cons.mp hp
        · exact absurd hsep hne
        · exact ⟨p, hp, hne⟩
      rw [hsep, if_neg (by simp)]
      exact ih htail (by omega)
    · exact if_pos (by simpa using Ne.symm hsep)

/-! Whole texts. -/

theorem toList_joined (first : Accepted) (rest : Links) :
    (joined first rest).toList = '(' :: (first.text.toList ++ ')' :: (following rest).toList) := by
  rw [joined, String.toList_append, toList_grouped]

theorem length_joined (first : Accepted) (rest : Links) :
    (joined first rest).toList.length
      = first.text.toList.length + (following rest).toList.length + 2 := by
  rw [toList_joined]
  simp only [List.length_append, List.length_cons]
  omega

theorem expression_joined (first : Accepted) (rest : Links) {n : Nat}
    (hn : 2 * (joined first rest).toList.length ≤ n) :
    Read.expression (n + 1) (joined first rest).toList =
      Read.chain n none first.filter (following rest).toList := by
  have hlength := length_joined first rest
  have htrim : Text.trimStart (joined first rest).toList
      = '(' :: (first.text.toList ++ ')' :: (following rest).toList) := by
    rw [toList_joined]
    rfl
  rw [Read.expression, Read.bind_ok (Read.unary_group first.whole (by omega) htrim)]

theorem parse_uniform {first : Accepted} {rest : Links} {c : Read.Connective}
    (hrest : ∀ p ∈ rest, p.1.connective = c) :
    parse (joined first rest) = .ok (Links.fold first.filter rest) := by
  have hlength := length_joined first rest
  have hchain := @chain_uniform c rest (2 * (joined first rest).toList.length + 1) first.filter
    hrest (by omega) none fun d hd => nomatch hd
  rw [← expression_joined first rest (Nat.le_succ _)] at hchain
  exact parse_of_whole (Read.whole_of_expression hchain)

theorem parse_mixed {first : Accepted} {rest : Links} (h : Mixed rest) :
    parse (joined first rest) = .error .ambiguous := by
  have hlength := length_joined first rest
  have hchain : Read.expression (2 * (joined first rest).toList.length + 2)
      (joined first rest).toList = .error .ambiguous := by
    rw [expression_joined first rest (Nat.le_succ _)]
    obtain ⟨⟨p, hp, hor⟩, q, hq, hother⟩ := h
    cases rest with
    | nil => cases hp
    | cons l rest =>
      obtain ⟨sep, a⟩ := l
      have hfollowing := length_following sep a rest
      rw [chain_link (by omega), Option.any_none, if_neg Bool.false_ne_true]
      refine chain_mixed ?_ (by omega)
      -- One of the two later separators differs from the first, whichever it is.
      by_cases hsep : sep = .or
      · obtain rfl | hq := List.mem_cons.mp hq
        · exact absurd hsep hother
        · refine ⟨q, hq, fun he => hother ?_⟩
          rw [hsep] at he
          exact connective_eq_any.mp he
      · obtain rfl | hp := List.mem_cons.mp hp
        · exact absurd hor hsep
        · refine ⟨p, hp, fun he => hsep ?_⟩
          rw [hor] at he
          exact connective_eq_any.mp he.symm
  rw [parse, Read.whole, hchain]
  rfl

theorem parse_not (a : Accepted) :
    parse ("NOT " ++ grouped a.text) = .ok (.not a.filter) := by
  have hlist : ("NOT " ++ grouped a.text).toList
      = 'N' :: 'O' :: 'T' :: ' ' :: '(' :: (a.text.toList ++ [')']) := by
    simp [grouped]
  refine parse_of_whole (Read.whole_of_expression ?_)
  rw [hlist]
  generalize hn : 2 * _ = n
  have hlength : 2 * a.text.toList.length + 3 ≤ n := by
    rw [← hn]
    simp only [List.length_cons, List.length_append]
    omega
  have hgroup := Read.unary_group (w := ' ' :: '(' :: (a.text.toList ++ [')'])) a.whole hlength rfl
  have hnot : Read.keyword? ['N', 'O', 'T'] (Text.trimStart
      ('N' :: 'O' :: 'T' :: ' ' :: '(' :: (a.text.toList ++ [')'])))
        = some (' ' :: '(' :: (a.text.toList ++ [')'])) := rfl
  rw [Read.expression, Read.unary_of_not hnot, hgroup]
  exact @Read.chain_of_end [] n rfl none _

/-! What the filters match. -/

theorem accepts_fold_any {rest : Links} (h : ∀ p ∈ rest, p.1 = .or) (left : Filter) (j : Json) :
    (Links.fold left rest).accepts j
      = (left.accepts j || rest.any (·.2.filter.accepts j)) := by
  induction rest generalizing left with
  | nil => rw [Links.fold, List.any_nil, Bool.or_false]
  | cons p rest ih =>
    obtain ⟨sep, a⟩ := p
    have hsep : sep = .or := h (sep, a) List.mem_cons_self
    subst hsep
    rw [Links.fold, ih fun p hp => h p (List.mem_cons_of_mem _ hp)]
    exact Bool.or_assoc _ _ _

theorem accepts_fold_all {rest : Links} (h : ∀ p ∈ rest, p.1 ≠ .or) (left : Filter) (j : Json) :
    (Links.fold left rest).accepts j
      = (left.accepts j && rest.all (·.2.filter.accepts j)) := by
  induction rest generalizing left with
  | nil => rw [Links.fold, List.all_nil, Bool.and_true]
  | cons p rest ih =>
    obtain ⟨sep, a⟩ := p
    have hsep : Read.join sep.connective left a.filter = .and left a.filter := by
      have hne : sep ≠ .or := h (sep, a) List.mem_cons_self
      cases sep with
      | and => rfl
      | or => exact absurd rfl hne
      | blank => rfl
    rw [Links.fold, hsep, ih fun p hp => h p (List.mem_cons_of_mem _ hp)]
    exact Bool.and_assoc _ _ _

theorem uniform_of_not_mixed {rest : Links} (h : ¬Mixed rest) :
    (∀ p ∈ rest, p.1 = .or) ∨ ∀ p ∈ rest, p.1 ≠ .or := by
  by_contra hboth
  push Not at hboth
  exact h ⟨hboth.2, hboth.1⟩

theorem accepts_fold {rest : Links} (h : ¬Mixed rest) (first : Accepted) (j : Json) :
    (Links.fold first.filter rest).accepts j = verdict first rest j := by
  unfold verdict
  obtain hall | hnone := uniform_of_not_mixed h
  · rw [accepts_fold_any hall]
    cases rest with
    | nil => simp
    | cons p rest =>
      have hp : p.1 = .or := hall p List.mem_cons_self
      rw [if_pos (by simp [hp])]
      simp [List.any_map, Function.comp_def]
  · have hor : ¬rest.any (·.1 = .or) = true := by
      intro h
      obtain ⟨p, hp, he⟩ := List.any_eq_true.mp h
      exact hnone p hp (of_decide_eq_true he)
    rw [accepts_fold_all hnone, if_neg hor]
    simp [List.all_map, Function.comp_def]

theorem groups_compose (first : Accepted) (rest : Links) :
    (Mixed rest → parse (joined first rest) = .error .ambiguous) ∧
    (¬Mixed rest → ∃ a : Accepted, a.text = joined first rest ∧
      ∀ j, a.filter.accepts j = verdict first rest j) ∧
    (∃ a : Accepted, a.text = "NOT " ++ grouped first.text ∧
      ∀ j, a.filter.accepts j = !first.filter.accepts j) ∧
    ∃ a : Accepted, a.text = grouped first.text ∧
      ∀ j, a.filter.accepts j = first.filter.accepts j := by
  refine ⟨parse_mixed, ?_, ?_, ?_⟩
  · intro h
    have hparse : parse (joined first rest) = .ok (Links.fold first.filter rest) := by
      obtain hall | hnone := uniform_of_not_mixed h
      · exact parse_uniform fun p hp => connective_eq_any.mpr (hall p hp)
      · refine parse_uniform (c := .all) fun p hp => ?_
        have hne := hnone p hp
        cases hsep : p.1 with
        | and => rfl
        | or => exact absurd hsep hne
        | blank => rfl
    exact ⟨⟨_, _, hparse⟩, rfl, accepts_fold h first⟩
  · exact ⟨⟨_, _, parse_not first⟩, rfl, fun j => rfl⟩
  · have hparse : parse (grouped first.text) = .ok first.filter := by
      have h := @parse_uniform first [] .all fun p hp => nomatch hp
      rwa [joined, following, String.append_empty] at h
    exact ⟨⟨_, _, hparse⟩, rfl, fun j => rfl⟩

theorem web_without_north :
    ∃ web north : Accepted, web.text = "name:web" ∧ north.text = "-zone:* OR zone = eu-1" ∧
      (∃ a : Accepted, a.text = "(name:web) AND (-zone:* OR zone = eu-1)" ∧
        ∀ j, a.filter.accepts j = (web.filter.accepts j && (north.filter.accepts j && true))) ∧
      parse "(name:web) OR (-zone:* OR zone = eu-1) (name:web)" = .error .ambiguous := by
  let web : Accepted := ⟨"name:web", .compare ["name"] .has "web", rfl⟩
  let north : Accepted := ⟨"-zone:* OR zone = eu-1",
    .or (.not (.defined ["zone"])) (.compare ["zone"] .equal "eu-1"), rfl⟩
  refine ⟨web, north, rfl, rfl, ?_, ?_⟩
  · obtain ⟨a, htext, haccepts⟩ := (groups_compose web [(.and, north)]).2.1 (by simp [Mixed])
    exact ⟨a, htext, haccepts⟩
  · exact (groups_compose web [(.or, north), (.blank, web)]).1 (by simp [Mixed])

end CloudEmulation.Filter
