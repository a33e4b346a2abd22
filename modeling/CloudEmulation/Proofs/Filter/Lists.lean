import CloudEmulation.Proofs.Filter.Terms
/-!
Lists of literals, as one term and as terms joined by `OR`.
-/

namespace CloudEmulation.Filter

open Read
open Text (isBlank Halts halts_cons none_of_all dropWhile_run)

def isSeparator (c : Char) : Bool := isBlank c || c = ','

structure Gap where
  text : String
  nonempty : text.toList ≠ []
  separates : ∀ c ∈ text.toList, isSeparator c = true

abbrev Item := Literal endsItem

def listed : List (Gap × Item) → List Char
  | [] => []
  | (gap, l) :: rest => gap.text.toList ++ (l.text.toList ++ listed rest)

structure Listing where
  lead : String
  first : Item
  rest : List (Gap × Item)
  trail : String
  leads : ∀ c ∈ lead.toList, isSeparator c = true
  trails : ∀ c ∈ trail.toList, isSeparator c = true

namespace Listing

def items (xs : Listing) : List Item := xs.first :: xs.rest.map Prod.snd

def values (xs : Listing) : List String := xs.items.map Literal.value

def text (xs : Listing) : String :=
  xs.lead ++ (xs.first.text ++ (String.ofList (listed xs.rest) ++ xs.trail))

end Listing

def listTerm (k : Key) (op : Comparison) (xs : Listing) : String :=
  k.text ++ (op.sign ++ ("(" ++ (xs.text ++ ")")))

namespace Read

variable {r s : Text} {n : Nat}

/-! Reading lists. -/

theorem exists_first (l : Item) :
    ∃ c u, l.text.toList = c :: u ∧ isSeparator c = false ∧ c ≠ ')' := by
  cases l with
  | quoted q s =>
    refine ⟨q.char, escaped q.char s.toList ++ [q.char], by simp [Literal.text, Quote.around], ?_⟩
    cases q <;> decide
  | bare w =>
    have hunbroken := w.unbroken
    cases hw : w.text.toList with
    | nil => exact absurd hw w.nonempty
    | cons c u =>
      have hc := hunbroken c (by simp [hw])
      simp only [endsItem, endsBare, Bool.or_eq_false_iff, decide_eq_false_iff_not] at hc
      exact ⟨c, u, hw, by simp [isSeparator, hc], hc.1.2⟩

theorem endsItem_of_isSeparator {c : Char} (h : isSeparator c = true) : endsItem c = true := by
  simp only [isSeparator, Bool.or_eq_true] at h
  simp only [endsItem, endsBare, Bool.or_eq_true]
  exact h.imp .inl id

theorem ended_close (hs : ∀ c ∈ s, isSeparator c = true) (r : Text) :
    Ended endsItem (s ++ ')' :: r) := by
  cases s with
  | nil => simp [Ended, endsItem, endsBare]
  | cons c s =>
    have hc := endsItem_of_isSeparator (hs c (by simp))
    simpa [Ended] using hc

theorem ended_listed (rest : List (Gap × Item)) (hs : ∀ c ∈ s, isSeparator c = true) (r : Text) :
    Ended endsItem (listed rest ++ (s ++ ')' :: r)) := by
  cases rest with
  | nil => exact ended_close hs r
  | cons p rest =>
    obtain ⟨gap, l⟩ := p
    cases hgap : gap.text.toList with
    | nil => exact absurd hgap gap.nonempty
    | cons c u =>
      have hc := endsItem_of_isSeparator (gap.separates c (by simp [hgap]))
      simpa [listed, hgap, Ended] using hc

theorem skipSeparators_run (hs : ∀ c ∈ s, isSeparator c = true) (hr : Halts isSeparator r) :
    skipSeparators (s ++ r) = r :=
  dropWhile_run hs hr

theorem moreItems_listed (rest : List (Gap × Item)) (hs : ∀ c ∈ s, isSeparator c = true)
    (hn : rest.length < n) (r : Text) :
    moreItems n (listed rest ++ (s ++ ')' :: r)) = .ok (rest.map (·.2.value), skipSpace r) := by
  induction rest generalizing n with
  | nil =>
    obtain ⟨n, rfl⟩ : ∃ k, n = k + 1 := ⟨n - 1, by omega⟩
    have hskip := skipSeparators_run (r := ')' :: r) hs (halts_cons.mpr (by decide))
    simp [listed, moreItems, hskip]
  | cons p rest ih =>
    obtain ⟨gap, l⟩ := p
    rw [List.length_cons] at hn
    obtain ⟨n, rfl⟩ : ∃ k, n = k + 1 := ⟨n - 1, by omega⟩
    obtain ⟨c, u, hfirst, hc, hclose⟩ := exists_first l
    have hliteral := literal_text l (ended_listed rest hs r)
    have hskip := skipSeparators_run (r := l.text.toList ++ (listed rest ++ (s ++ ')' :: r)))
      gap.separates (by simpa [hfirst] using halts_cons.mpr hc)
    rw [listed, List.append_assoc, List.append_assoc]
    rw [hfirst, List.cons_append] at hskip hliteral
    rw [hfirst, List.cons_append, moreItems_of_item hskip hclose, bind_ok hliteral,
      bind_ok (ih (by omega))]
    rfl

theorem length_listed (rest : List (Gap × Item)) : rest.length ≤ (listed rest).length := by
  induction rest with
  | nil => simp
  | cons p rest ih =>
    have hgap := List.length_pos_of_ne_nil p.1.nonempty
    simp only [listed, List.length_cons, List.length_append]
    omega

theorem items_listing (xs : Listing) (r : Text) :
    items (xs.text.toList ++ ')' :: r) = .ok (xs.values, skipSpace r) := by
  obtain ⟨c, u, hfirst, hc, -⟩ := exists_first xs.first
  have hliteral := literal_text xs.first (ended_listed xs.rest xs.trails r)
  have hskip := skipSeparators_run
    (r := xs.first.text.toList ++ (listed xs.rest ++ (xs.trail.toList ++ ')' :: r)))
    xs.leads (by simpa [hfirst] using halts_cons.mpr hc)
  have hlength := length_listed xs.rest
  have hmore := moreItems_listed
    (n := (listed xs.rest ++ (xs.trail.toList ++ ')' :: r)).length + 1) xs.rest xs.trails
    (by simp only [List.length_append]; omega) r
  have htext : xs.text.toList ++ ')' :: r = xs.lead.toList ++
      (xs.first.text.toList ++ (listed xs.rest ++ (xs.trail.toList ++ ')' :: r))) := by
    simp [Listing.text]
  have hvalues : xs.values = xs.first.value :: xs.rest.map (·.2.value) := by
    simp [Listing.values, Listing.items]
  rw [htext, items, hskip, bind_ok hliteral, hvalues]
  exact bind_ok hmore _

end Read

theorem parse_listTerm (k : Key) {op : Comparison} (hop : op = .has ∨ op = .equal)
    (xs : Listing) : parse (listTerm k op xs) = .ok (.anyOf k.names op xs.values) := by
  have htail : (op.sign ++ ("(" ++ (xs.text ++ ")"))).toList =
      op.sign.toList ++ '(' :: (xs.text.toList ++ [')']) := by
    simp
  apply parse_of_term
  · rw [htail]
    exact Read.signed_sign op _
  · rw [htail, Read.term_list k hop, Read.items_listing]
    rfl

/-! Terms joined by `OR`. -/

def alone (k : Key) (op : Comparison) (l : Literal endsBare) : String :=
  k.text ++ (op.sign ++ l.text)

def disjunction (k : Key) (op : Comparison) (ls : List (Literal endsBare)) : String :=
  " OR ".intercalate (ls.map (alone k op))

namespace Literal

def ofItem : Item → Literal endsBare
  | quoted q s => .quoted q s
  | bare w => .bare
    { w with
      unbroken := fun c hc => by
        have h := w.unbroken c hc
        simp only [endsItem, Bool.or_eq_false_iff] at h
        exact h.1 }

/-- A bare star put between quotes, and any other literal as it is. -/
def unstarred : Literal endsBare → Literal endsBare
  | quoted q s => .quoted q s
  | bare w => if w.text = "*" then .quoted .single "*" else .bare w

end Literal

/-- A literal that may stand right after a colon and is compared with there. -/
structure Plain (op : Comparison) (l : Literal endsBare) : Prop where
  unopened : Halts (· = '(') l.text.toList
  starless : op = .has → ¬l.IsStar

namespace Read

variable {n : Nat}

def orChain (k : Key) (op : Comparison) : List (Literal endsBare) → List Char
  | [] => []
  | l :: ls => ' ' :: 'O' :: 'R' :: ' ' ::
      (k.text.toList ++ (op.sign.toList ++ (l.text.toList ++ orChain k op ls)))

theorem toList_disjunction (k : Key) (op : Comparison) (l : Literal endsBare)
    (ls : List (Literal endsBare)) :
    (disjunction k op (l :: ls)).toList =
      k.text.toList ++ (op.sign.toList ++ (l.text.toList ++ orChain k op ls)) := by
  induction ls generalizing l with
  | nil => simp [disjunction, alone, orChain]
  | cons m ls ih =>
    have h := ih m
    rw [disjunction, List.map_cons] at h
    rw [disjunction, List.map_cons, List.map_cons, String.intercalate_cons_cons,
      String.toList_append, String.toList_append, h]
    simp [alone, orChain]

theorem ended_orChain (k : Key) (op : Comparison) (ls : List (Literal endsBare)) :
    Ended endsBare (orChain k op ls) := by
  cases ls with
  | nil => simp [Ended, orChain]
  | cons l ls => simp [Ended, orChain, endsBare, isBlank]

theorem halts_extends {op : Comparison} (hop : op = .has ∨ op = .equal) {s : Text}
    (hs : Halts (· = '(') s) : Halts op.extends s := by
  obtain rfl | rfl := hop <;> exact hs

theorem term_alone (k : Key) {op : Comparison} (hop : op = .has ∨ op = .equal)
    {l : Literal endsBare} (hl : Plain op l) {r : Text} (hr : Ended endsBare r) :
    term (k.text.toList ++ (op.sign.toList ++ (l.text.toList ++ r))) =
      .ok (.compare k.names op l.value, r) := by
  have h := term_single k [] (by simp) (halts_extends hop (by simpa using hl.unopened))
    hl.starless hr
  simpa using h

theorem connective_or (s : Text) : connective ('O' :: 'R' :: ' ' :: s) = (.any, ' ' :: s) := rfl

theorem chain_orChain (k : Key) {op : Comparison} (hop : op = .has ∨ op = .equal)
    {ls : List (Literal endsBare)} (hls : ∀ l ∈ ls, Plain op l) (hn : ls.length + 1 < n)
    {before : Option Connective} (hbefore : ∀ c ∈ before, c = .any) (left : Filter) :
    chain n before left (orChain k op ls) =
      .ok (ls.foldl (fun f l => .or f (.compare k.names op l.value)) left, []) := by
  induction ls generalizing n before left with
  | nil =>
    obtain ⟨n, rfl⟩ : ∃ k, n = k + 1 := ⟨n - 1, by omega⟩
    exact chain_of_end rfl before left
  | cons l ls ih =>
    rw [List.length_cons] at hn
    obtain ⟨n, rfl⟩ : ∃ k, n = k + 2 := ⟨n - 2, by omega⟩
    have hunary := unary_key (n := n) [' '] (by simp [isBlank]) k
      (signed_sign op (l.text.toList ++ orChain k op ls))
    rw [term_alone k hop (hls l (by simp)) (ended_orChain k op ls), List.singleton_append] at hunary
    have hsame : ¬before.any (· ≠ .any) = true := by
      cases before with
      | none => simp
      | some c => simp [hbefore c rfl]
    rw [orChain, chain_of_term rfl (by decide), connective_or, if_neg hsame, bind_ok hunary]
    exact ih (fun m hm => hls m (by simp [hm])) (by omega) (by simp) _

end Read

theorem length_orChain (k : Key) (op : Comparison) (ls : List (Literal endsBare)) :
    ls.length ≤ (Read.orChain k op ls).length := by
  induction ls with
  | nil => simp
  | cons l ls ih =>
    simp only [Read.orChain, List.length_cons, List.length_append]
    omega

theorem parse_disjunction (k : Key) {op : Comparison} (hop : op = .has ∨ op = .equal)
    {l : Literal endsBare} {ls : List (Literal endsBare)} (h : ∀ m ∈ l :: ls, Plain op m) :
    parse (disjunction k op (l :: ls)) =
      .ok (ls.foldl (fun f m => .or f (.compare k.names op m.value))
        (.compare k.names op l.value)) := by
  have hlength := length_orChain k op ls
  have hsign : 0 < op.sign.toList.length := by cases op <;> decide
  have hterm := Read.term_alone k hop (h l (by simp)) (Read.ended_orChain k op ls)
  apply parse_of_whole
  apply Read.whole_of_expression
  rw [Read.toList_disjunction, Read.expression_key k (Read.signed_sign op _), bind_ok hterm]
  apply Read.chain_orChain k hop (fun m hm => h m (by simp [hm])) _ (by simp)
  simp only [List.length_append]
  omega

/-! What they match. -/

theorem accepts_foldl_or (k : FilterKey) (op : Comparison) (ls : List (Literal endsBare))
    (left : Filter) (j : Json) :
    (ls.foldl (fun f m => .or f (.compare k op m.value)) left).accepts j =
      (left.accepts j || ls.any fun m => (Filter.compare k op m.value).accepts j) := by
  induction ls generalizing left with
  | nil => simp
  | cons l ls ih => simp [ih, accepts, Bool.or_assoc]

theorem accepts_anyOf (k : FilterKey) (op : Comparison) (values : List String) (j : Json) :
    (Filter.anyOf k op values).accepts j =
      values.any fun v => (Filter.compare k op v).accepts j := by
  simp only [accepts]
  cases lookup j k with
  | none => simp
  | some v => simp

/-- A filter that matches as the chain does. -/
theorem exists_disjunction (k : Key) {op : Comparison} (hop : op = .has ∨ op = .equal)
    {ls : List (Literal endsBare)} (hne : ls ≠ []) (h : ∀ l ∈ ls, Plain op l) :
    ∃ a : Accepted, a.text = disjunction k op ls ∧
      ∀ j, a.filter.accepts j = (Filter.anyOf k.names op (ls.map Literal.value)).accepts j := by
  cases ls with
  | nil => exact absurd rfl hne
  | cons l ls =>
    refine ⟨⟨_, _, parse_disjunction k hop h⟩, rfl, fun j => ?_⟩
    simp [accepts_foldl_or, accepts_anyOf, List.any_map, Function.comp_def]

theorem Literal.value_ofItem (l : Item) : (Literal.ofItem l).value = l.value := by
  cases l <;> rfl

theorem Literal.text_ofItem (l : Item) : (Literal.ofItem l).text = l.text := by
  cases l <;> rfl

theorem Literal.unstarred_bare (w : Bare endsBare) :
    (Literal.bare w).unstarred =
      if w.text = "*" then .quoted .single "*" else .bare w := rfl

theorem Literal.value_unstarred (l : Literal endsBare) : l.unstarred.value = l.value := by
  cases l with
  | quoted q s => rfl
  | bare w =>
    rw [unstarred_bare]
    by_cases hw : w.text = "*"
    · rw [if_pos hw]
      exact hw.symm
    · rw [if_neg hw]

theorem Literal.plain_unstarred {l : Literal endsBare} (h : Halts (· = '(') l.text.toList)
    (op : Comparison) : Plain op l.unstarred := by
  cases l with
  | quoted q s => exact ⟨h, fun _ => id⟩
  | bare w =>
    rw [unstarred_bare]
    by_cases hw : w.text = "*"
    · rw [if_pos hw]
      exact ⟨by decide, fun _ => id⟩
    · rw [if_neg hw]
      exact ⟨h, fun _ => hw⟩

theorem Literal.isStar_ofItem (l : Item) : (Literal.ofItem l).IsStar ↔ l.IsStar := by
  cases l <;> rfl

theorem list_is_disjunction (k : Key) (op : Comparison) (hop : op = .has ∨ op = .equal)
    (xs : Listing) (hxs : ∀ l ∈ xs.items, Halts (· = '(') l.text.toList) :
    ∃ a : Accepted, a.text = listTerm k op xs ∧
      (∃ b : Accepted,
        b.text = disjunction k op (xs.items.map fun l => (Literal.ofItem l).unstarred) ∧
        ∀ j, a.filter.accepts j = b.filter.accepts j) ∧
      ((op = .has → ∀ l ∈ xs.items, ¬l.IsStar) →
        ∃ b : Accepted, b.text = disjunction k op (xs.items.map Literal.ofItem) ∧
          ∀ j, a.filter.accepts j = b.filter.accepts j) := by
  have hopen : ∀ l ∈ xs.items, Halts (· = '(') (Literal.ofItem l).text.toList := by
    intro l hl
    rw [Literal.text_ofItem]
    exact hxs l hl
  refine ⟨⟨_, _, parse_listTerm k hop xs⟩, rfl, ?_, ?_⟩
  · have hplain : ∀ l ∈ xs.items.map fun l => (Literal.ofItem l).unstarred, Plain op l := by
      simpa using fun l hl => Literal.plain_unstarred (hopen l hl) op
    obtain ⟨b, htext, haccepts⟩ := exists_disjunction k hop (by simp [Listing.items]) hplain
    refine ⟨b, htext, fun j => ?_⟩
    rw [haccepts, List.map_map]
    simp [Listing.values, Function.comp_def, Literal.value_unstarred, Literal.value_ofItem]
  · intro hstar
    have hplain : ∀ l ∈ xs.items.map Literal.ofItem, Plain op l := by
      simpa using fun l hl => Plain.mk (hopen l hl)
        fun hhas => mt (Literal.isStar_ofItem l).mp (hstar hhas l hl)
    obtain ⟨b, htext, haccepts⟩ := exists_disjunction k hop (by simp [Listing.items]) hplain
    refine ⟨b, htext, fun j => ?_⟩
    rw [haccepts, List.map_map]
    simp [Listing.values, Function.comp_def, Literal.value_ofItem]

def zoneKey : Key := .ofName "zone" ⟨'z', ['o', 'n', 'e'], rfl, rfl, List.all_eq_true.mp rfl⟩

def zones : Listing where
  lead := " "
  first := .bare ⟨"eu*", by decide, by decide, none_of_all (by decide)⟩
  rest := [(⟨", ", by decide, List.all_eq_true.mp (by decide)⟩, .quoted .single "it's")]
  trail := ""
  leads := List.all_eq_true.mp (by decide)
  trails := by simp

theorem zones_disjunction :
    listTerm zoneKey .has zones = "zone:( eu*, 'it\\'s')" ∧
    disjunction zoneKey .has (zones.items.map Literal.ofItem) = "zone:eu* OR zone:'it\\'s'" ∧
    ∃ a b : Accepted, a.text = listTerm zoneKey .has zones ∧
      b.text = disjunction zoneKey .has (zones.items.map Literal.ofItem) ∧
      ∀ j, a.filter.accepts j = b.filter.accepts j := by
  refine ⟨by decide +kernel, by decide +kernel, ?_⟩
  have hopen : ∀ l ∈ zones.items, Halts (· = '(') l.text.toList := by
    simp only [zones, Listing.items, List.map_cons, List.map_nil, List.mem_cons, List.not_mem_nil,
      or_false, forall_eq_or_imp, forall_eq]
    decide
  obtain ⟨a, ha, -, h⟩ := list_is_disjunction zoneKey .has (.inl rfl) zones hopen
  obtain ⟨b, hb, haccepts⟩ := h (by simp [zones, Listing.items, Literal.IsStar])
  exact ⟨a, b, ha, hb, haccepts⟩

theorem star_in_list :
    ∃ list single : Accepted, list.text = "name:(*)" ∧ single.text = "name:*" ∧
      list.filter.accepts (.object [("name", .string "web")]) = false ∧
      single.filter.accepts (.object [("name", .string "web")]) = true := by
  refine ⟨⟨"name:(*)", _, rfl⟩, ⟨"name:*", _, rfl⟩, rfl, rfl, ?_⟩
  decide +kernel

/-! Quoted texts. -/

theorem accepts_equal (k : FilterKey) {s t : String} {j : Json}
    (h : lookup j k = some (.string t)) :
    (Filter.compare k .equal s).accepts j = true ↔ s = t := by
  simp [accepts, h, compares, anyScalar, Scalar.satisfies, Scalar.equals, eq_comm]

theorem quoting_exact (k : Key) :
    (∀ (q : Quote) (s : String), ∃ a : Accepted, a.text = k.text ++ ("=" ++ q.around s) ∧
      ∀ j t, lookup j k.names = some (.string t) → (a.filter.accepts j = true ↔ s = t)) ∧
    ∀ xs : Listing, ∃ a : Accepted, a.text = listTerm k .equal xs ∧
      ∀ j t, lookup j k.names = some (.string t) →
        (a.filter.accepts j = true ↔ t ∈ xs.values) := by
  constructor
  · intro q s
    have hplain : ∀ l ∈ [Literal.quoted q s], Plain .equal l := by
      intro l hl
      obtain rfl := List.mem_singleton.mp hl
      exact ⟨Read.halts_around (by cases q <;> decide) s, fun h => nomatch h⟩
    obtain ⟨a, htext, haccepts⟩ := exists_disjunction k (.inr rfl) (by simp) hplain
    refine ⟨a, by simp [htext, disjunction, alone, Comparison.sign, Literal.text], fun j t h => ?_⟩
    rw [haccepts, accepts_anyOf]
    simp [accepts_equal k.names h, Literal.value]
  · intro xs
    refine ⟨⟨_, _, parse_listTerm k (.inr rfl) xs⟩, rfl, fun j t h => ?_⟩
    simp [accepts_anyOf, accepts_equal k.names h]

theorem quoted_zones :
    zoneKey.text ++ ("=" ++ Quote.single.around "it's") = "zone='it\\'s'" ∧
    (∃ a : Accepted, a.text = zoneKey.text ++ ("=" ++ Quote.single.around "it's") ∧
      a.filter.accepts (.object [("zone", .string "it's")]) = true) ∧
    ∃ a : Accepted, a.text = listTerm zoneKey .equal zones ∧
      a.filter.accepts (.object [("zone", .string "it's")]) = true := by
  obtain ⟨hsingle, hlist⟩ := quoting_exact zoneKey
  obtain ⟨a, ha, haccepts⟩ := hsingle .single "it's"
  obtain ⟨b, hb, hmember⟩ := hlist zones
  refine ⟨by decide +kernel, ⟨a, ha, ?_⟩, b, hb, ?_⟩
  · exact (haccepts _ "it's" rfl).mpr rfl
  · exact (hmember _ "it's" rfl).mpr (by decide +kernel)

end CloudEmulation.Filter
