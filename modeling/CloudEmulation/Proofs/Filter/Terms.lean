import CloudEmulation.Filter.Matching
import CloudEmulation.Proofs.Filter.Composition
import CloudEmulation.Proofs.Text.Runs
/-!
Terms as they are written: a key, an operator and a literal, quoted or bare.
-/

namespace CloudEmulation

def Comparison.sign : Comparison → String
  | .has => ":"
  | .equal => "="
  | .unequal => "!="
  | .less => "<"
  | .atMost => "<="
  | .greater => ">"
  | .atLeast => ">="

/-- Whether a character after the sign makes it another sign. -/
def Comparison.extends : Comparison → Char → Bool
  | .has, c => c = '('
  | .equal, c => c = '('
  | .less, c => c = '='
  | .greater, c => c = '='
  | _, _ => false

namespace Filter

open Read
open Text (isBlank trimStart Halts halts_cons none_of_all takeWhile_run
  dropWhile_run)

def searchSign (wanted : Bool) : String := if wanted then "~" else "!~"

/-! Keys. -/

def IsName (name : String) : Prop :=
  ∃ c u, name.toList = c :: u ∧ isKeyStart c = true ∧ ∀ d ∈ u, isKeyChar d = true

structure Key where
  first : String
  rest : List String
  isName : IsName first
  areNames : ∀ name ∈ rest, IsName name

def dotted : List String → List Char
  | [] => []
  | name :: rest => '.' :: (name.toList ++ dotted rest)

namespace Key

def ofName (name : String) (h : IsName name) : Key := ⟨name, [], h, by simp⟩

def names (k : Key) : FilterKey := k.first :: k.rest

def text (k : Key) : String := k.first ++ String.ofList (dotted k.rest)

theorem toList_text (k : Key) : k.text.toList = k.first.toList ++ dotted k.rest := by
  simp [text]

end Key

/-! Literals. -/

inductive Quote where
  | single
  | double
  deriving DecidableEq, Repr

def Quote.char : Quote → Char
  | .single => '\''
  | .double => '"'

def escaped (quote : Char) : List Char → List Char
  | [] => []
  | c :: s =>
    if c = '\\' ∨ c = quote then '\\' :: c :: escaped quote s else c :: escaped quote s

/-- A text between quotes, where a backslash stands before each backslash and each such quote. -/
def Quote.around (q : Quote) (s : String) : String :=
  String.ofList (q.char :: (escaped q.char s.toList ++ [q.char]))

structure Bare (ends : Char → Bool) where
  text : String
  nonempty : text.toList ≠ []
  unquoted : Halts isQuote text.toList
  unbroken : ∀ c ∈ text.toList, ends c = false

inductive Literal (ends : Char → Bool) where
  | quoted (q : Quote) (s : String)
  | bare (w : Bare ends)

namespace Literal

variable {ends : Char → Bool}

def text : Literal ends → String
  | quoted q s => q.around s
  | bare w => w.text

def value : Literal ends → String
  | quoted _ s => s
  | bare w => w.text

/-- A bare star, which is no text to compare with where it stands alone after a colon. -/
def IsStar : Literal ends → Prop
  | quoted _ _ => False
  | bare w => w.text = "*"

end Literal

/-- Neither a bare literal nor a star that stands alone goes on into the text. -/
def Ended (ends : Char → Bool) (r : List Char) : Prop := ∀ c ∈ r.head?, ends c = true

namespace Read

variable {r s : Text} {n : Nat} {f : Filter} {ends : Char → Bool}

/-! Reading keys. -/

def signStarts : List Char := [':', '=', '!', '<', '>', '~']

def Signed (r : Text) : Prop := ∃ c ∈ signStarts, ∃ u, r = c :: u

theorem Signed.halts {p : Char → Bool} (hr : Signed r) (hp : ∀ c ∈ signStarts, p c = false) :
    Halts p r := by
  obtain ⟨c, hc, u, rfl⟩ := hr
  exact halts_cons.mpr (hp c hc)

theorem isKeyChar_of_start {c : Char} (h : isKeyStart c = true) : isKeyChar c = true := by
  simp only [isKeyStart, isKeyChar, Char.isAlphanum, Bool.or_eq_true] at h ⊢
  exact h.imp .inl id

theorem isKeyChar_of_name {name : String} (h : IsName name) :
    ∀ c ∈ name.toList, isKeyChar c = true := by
  obtain ⟨c, u, hname, hc, hu⟩ := h
  intro d hd
  rw [hname] at hd
  obtain rfl | hd := List.mem_cons.mp hd
  · exact isKeyChar_of_start hc
  · exact hu d hd

theorem identifier?_name {name : String} (h : IsName name) (hr : Halts isKeyChar r) :
    identifier? (name.toList ++ r) = some (name, r) := by
  have htake := takeWhile_run (isKeyChar_of_name h) hr
  have hdrop := dropWhile_run (isKeyChar_of_name h) hr
  obtain ⟨c, u, hname, hc, -⟩ := h
  rw [hname, List.cons_append] at htake hdrop ⊢
  rw [identifier?, if_pos hc, htake, hdrop, ← hname, String.ofList_toList]

theorem halts_dotted (rest : List String) (hr : Signed r) :
    Halts isKeyChar (dotted rest ++ r) := by
  cases rest with
  | nil => exact hr.halts (none_of_all rfl)
  | cons name rest => exact halts_cons.mpr rfl

theorem moreNames_dotted {rest : List String} (h : ∀ name ∈ rest, IsName name) (hr : Signed r)
    (hn : (dotted rest).length ≤ n) : moreNames n (dotted rest ++ r) = (rest, r) := by
  induction rest generalizing n with
  | nil =>
    cases n with
    | zero => rfl
    | succ n =>
      obtain ⟨c, hc, u, rfl⟩ := hr
      have hpoint : c ≠ '.' := by
        rintro rfl
        exact absurd hc (by decide)
      rw [dotted, List.nil_append, moreNames]
      exact fun v hv => hpoint (List.cons.inj hv).1
  | cons name rest ih =>
    simp only [dotted, List.length_cons, List.length_append] at hn
    obtain ⟨n, rfl⟩ : ∃ k, n = k + 1 := ⟨n - 1, by omega⟩
    have hname := identifier?_name (h name (by simp)) (halts_dotted rest hr)
    have hrest := @ih n (fun m hm => h m (by simp [hm])) (by omega)
    simp only [dotted, List.cons_append, List.append_assoc, moreNames, hname, hrest]

theorem key_text (k : Key) (hr : Signed r) : key (k.text.toList ++ r) = .ok (k.names, r) := by
  have hfirst := identifier?_name k.isName (halts_dotted k.rest hr)
  have hrest := moreNames_dotted (n := (dotted k.rest ++ r).length) k.areNames hr (by simp)
  rw [k.toList_text, List.append_assoc, key, hfirst]
  simp only [hrest, Key.names]

/-! Reading operators. -/

theorem operator_of_operator? {op : Operator} (hs : Halts isSpace s)
    (h : operator? s = some (op, r)) : operator s = .ok (op, r) := by
  rw [operator, skipSpace, hs.dropWhile, h]

theorem operator_single {op : Comparison} (h : Halts op.extends r) :
    operator (op.sign.toList ++ r) = .ok (.single op, r) := by
  apply operator_of_operator?
  · cases op <;> exact halts_cons.mpr rfl
  · cases r with
    | nil => cases op <;> rfl
    | cons c r =>
      have hc := halts_cons.mp h
      cases op <;> simp_all [Comparison.sign, Comparison.extends, operator?]

theorem operator_search (wanted : Bool) (r : Text) :
    operator ((searchSign wanted).toList ++ r) = .ok (.search wanted, r) := by
  cases wanted <;> rfl

theorem operator_list {op : Comparison} (h : op = .has ∨ op = .equal) (r : Text) :
    operator (op.sign.toList ++ '(' :: r) = .ok (.list op, r) := by
  obtain rfl | rfl := h <;> rfl

theorem signed_sign (op : Comparison) (r : Text) : Signed (op.sign.toList ++ r) := by
  cases op <;> exact ⟨_, by decide, _, rfl⟩

theorem signed_searchSign (wanted : Bool) (r : Text) :
    Signed ((searchSign wanted).toList ++ r) := by
  cases wanted <;> exact ⟨_, by decide, _, rfl⟩

/-! Reading literals. -/

theorem quotedBody_escaped {q : Char} (hq : q ≠ '\\') (s r : Text) :
    quotedBody q (escaped q s ++ q :: r) = .ok (s, r) := by
  induction s with
  | nil => simp [escaped, quotedBody, hq]
  | cons c s ih =>
    rw [escaped]
    split
    · rw [List.cons_append, List.cons_append, quotedBody, ih]
      rfl
    · rename_i hc
      obtain ⟨hc, hcq⟩ := not_or.mp hc
      rw [List.cons_append, quotedBody, if_neg hcq, ih]
      · rfl
      · exact fun h => absurd h hc
      · exact fun _ _ h => absurd h hc

theorem toList_around (q : Quote) (s : String) (r : Text) :
    (q.around s).toList ++ r = q.char :: (escaped q.char s.toList ++ q.char :: r) := by
  simp [Quote.around]

theorem halts_around {p : Char → Bool} {q : Quote} (hp : p q.char = false) (s : String) :
    Halts p (q.around s).toList := by
  have h := toList_around q s []
  rw [List.append_nil] at h
  rw [h]
  exact halts_cons.mpr hp

theorem literal_around (q : Quote) (s : String) (r : Text) :
    literal ends ((q.around s).toList ++ r) = .ok (s, r) := by
  have hquote : isQuote q.char = true := by cases q <;> rfl
  have hbody := quotedBody_escaped (q := q.char) (by cases q <;> decide) s.toList r
  rw [toList_around, literal, if_pos hquote, hbody]
  simp [Except.map]

theorem literal_bare (w : Bare ends) (hr : Ended ends r) :
    literal ends (w.text.toList ++ r) = .ok (w.text, r) := by
  have hhalts : Halts (!ends ·) r := fun c hc => by simp [hr c hc]
  have hrun : ∀ c ∈ w.text.toList, (!ends c) = true := fun c hc => by simp [w.unbroken c hc]
  have htake := takeWhile_run hrun hhalts
  have hdrop := dropWhile_run hrun hhalts
  have hquote := w.unquoted
  have hends := w.unbroken
  cases hw : w.text.toList with
  | nil => exact absurd hw w.nonempty
  | cons c u =>
    rw [hw] at hquote hends htake hdrop
    rw [List.cons_append] at htake hdrop ⊢
    have hc : isQuote c = false := halts_cons.mp hquote
    rw [literal, if_neg (by simp [hc]), if_neg (by simp [hends c]), htake, hdrop, ← hw,
      String.ofList_toList]

theorem literal_text (l : Literal ends) (hr : Ended ends r) :
    literal ends (l.text.toList ++ r) = .ok (l.value, r) := by
  cases l with
  | quoted q s => exact literal_around q s r
  | bare w => exact literal_bare w hr

theorem isBlank_of_isSpace {c : Char} (h : isSpace c = true) : isBlank c = true := by
  simp only [isSpace, Bool.or_eq_true, decide_eq_true_eq] at h
  obtain ((rfl | rfl) | rfl) | rfl := h <;> rfl

theorem toList_text_ne (l : Literal ends) : l.text.toList ≠ [] := by
  cases l with
  | quoted q s => simp [Literal.text, Quote.around]
  | bare w => exact w.nonempty

theorem halts_blank_literal (l : Literal endsBare) : Halts isBlank l.text.toList := by
  cases l with
  | quoted q s => exact halts_around (by cases q <;> decide) s
  | bare w =>
    intro c hc
    have hc := w.unbroken c (List.mem_of_mem_head? hc)
    simp only [endsBare, Bool.or_eq_false_iff] at hc
    exact hc.1

theorem wildcard?_literal {l : Literal endsBare} (hl : ¬l.IsStar) (r : Text) :
    wildcard? (l.text.toList ++ r) = none := by
  cases l with
  | quoted q s =>
    rw [Literal.text, toList_around]
    cases q <;> rfl
  | bare w =>
    have hunbroken := w.unbroken
    have htext : w.text = String.ofList w.text.toList := by simp
    show wildcard? (w.text.toList ++ r) = none
    unfold wildcard?
    split
    · rename_i u hu
      cases hw : w.text.toList with
      | nil => exact absurd hw w.nonempty
      | cons c v =>
        rw [hw] at hu hunbroken htext
        obtain ⟨rfl, rfl⟩ := List.cons.inj hu
        cases v with
        | nil => exact absurd htext hl
        | cons d v =>
          have hd := hunbroken d (by simp)
          simp only [endsBare, Bool.or_eq_false_iff] at hd
          have hspace : isSpace d = false := by
            cases hs : isSpace d with
            | false => rfl
            | true => simp [isBlank_of_isSpace hs] at hd
          simp [endsWord, hspace, of_decide_eq_false hd.2]
    · rfl

/-! Reading terms. -/

theorem trimStart_literal (gap : Text) (hgap : ∀ c ∈ gap, isBlank c = true)
    (l : Literal endsBare) (r : Text) :
    trimStart (gap ++ (l.text.toList ++ r)) = l.text.toList ++ r :=
  dropWhile_run hgap ((halts_blank_literal l).append (toList_text_ne l) r)

theorem term_of_key (k : Key) {op : Operator} (hs : Signed s) (h : operator s = .ok (op, r)) :
    term (k.text.toList ++ s) = comparison k.names op r := by
  rw [term, bind_ok (key_text k hs)]
  exact bind_ok h _

theorem term_single (k : Key) {op : Comparison} (gap : Text)
    (hgap : ∀ c ∈ gap, isBlank c = true) {l : Literal endsBare}
    (hop : Halts op.extends (gap ++ l.text.toList)) (hl : op = .has → ¬l.IsStar)
    (hr : Ended endsBare r) :
    term (k.text.toList ++ (op.sign.toList ++ (gap ++ (l.text.toList ++ r)))) =
      .ok (.compare k.names op l.value, r) := by
  have hne : gap ++ l.text.toList ≠ [] := by simp [toList_text_ne l]
  have hoperator : operator (op.sign.toList ++ (gap ++ (l.text.toList ++ r))) =
      .ok (.single op, gap ++ (l.text.toList ++ r)) :=
    operator_single (by simpa using hop.append hne r)
  have hstar : (if op = .has then wildcard? (l.text.toList ++ r) else none) = none := by
    split
    · exact wildcard?_literal (hl ‹_›) r
    · rfl
  rw [term_of_key k (signed_sign op _) hoperator, comparison, trimStart_literal gap hgap, hstar,
    literal_text l hr]
  rfl

theorem term_search (k : Key) (wanted : Bool) (l : Literal endsBare) (hr : Ended endsBare r) :
    term (k.text.toList ++ ((searchSign wanted).toList ++ (l.text.toList ++ r))) =
      match Pattern.parse? (anchored l.value) with
      | some p => .ok (.search k.names wanted p, r)
      | none => .error (.pattern l.value) := by
  have htrim := trimStart_literal [] (by simp) l r
  rw [List.nil_append] at htrim
  rw [term_of_key k (signed_searchSign wanted _) (operator_search wanted _), comparison, htrim,
    bind_ok (literal_text l hr)]
  rfl

theorem term_list (k : Key) {op : Comparison} (hop : op = .has ∨ op = .equal) (s : Text) :
    term (k.text.toList ++ (op.sign.toList ++ '(' :: s)) =
      (items s).map fun p => (.anyOf k.names op p.1, p.2) :=
  term_of_key k (signed_sign op _) (operator_list hop s)

/-! Terms where any filter may stand. -/

theorem exists_of_isPrefixOf {word t u : Text} {c : Char} (hc : c ∉ word)
    (h : word.isPrefixOf (t ++ c :: u) = true) : ∃ v, t = word ++ v := by
  obtain ⟨w, hw⟩ := List.isPrefixOf_iff_prefix.mp h
  obtain ⟨v, hv, hcons⟩ | ⟨v, hv, -⟩ := List.append_eq_append_iff.mp hw.symm
  · cases v with
    | nil => exact ⟨[], by simpa using hv.symm⟩
    | cons d v =>
      obtain ⟨rfl, -⟩ := List.cons.inj hcons
      exact absurd (by simp [hv]) hc
  · exact ⟨v, hv⟩

theorem not_separator_of_isKeyChar {c : Char} (h : isKeyChar c = true) :
    isSpace c = false ∧ c ≠ '(' := by
  constructor
  · by_contra hs
    simp only [Bool.not_eq_false, isSpace, Bool.or_eq_true, decide_eq_true_eq] at hs
    obtain ((rfl | rfl) | rfl) | rfl := hs <;> exact absurd h (by decide)
  · rintro rfl
    exact absurd h (by decide)

theorem not_separator_of_dotted {rest : List String} (h : ∀ name ∈ rest, IsName name) :
    ∀ c ∈ dotted rest, isSpace c = false ∧ c ≠ '(' := by
  induction rest with
  | nil => simp [dotted]
  | cons name rest ih =>
    intro c hc
    obtain rfl | hc := List.mem_cons.mp hc
    · decide
    · obtain hc | hc := List.mem_append.mp hc
      · exact not_separator_of_isKeyChar (isKeyChar_of_name (h name (by simp)) c hc)
      · exact ih (fun m hm => h m (by simp [hm])) c hc

theorem not_separator_of_key (k : Key) : ∀ c ∈ k.text.toList, isSpace c = false ∧ c ≠ '(' := by
  intro c hc
  rw [k.toList_text] at hc
  obtain hc | hc := List.mem_append.mp hc
  · exact not_separator_of_isKeyChar (isKeyChar_of_name k.isName c hc)
  · exact not_separator_of_dotted k.areNames c hc

/-- No key is the keyword, because a sign follows it directly. -/
theorem keyword?_key (k : Key) (hs : Signed s) (word : Text) (hw : ∀ c ∈ signStarts, c ∉ word) :
    keyword? word (k.text.toList ++ s) = none := by
  obtain ⟨c, hc, u, rfl⟩ := hs
  cases hp : word.isPrefixOf (k.text.toList ++ c :: u) with
  | false => simp [keyword?, hp]
  | true =>
    obtain ⟨v, hv⟩ := exists_of_isPrefixOf (hw c hc) hp
    have hends : endsWord (v ++ c :: u) '(' = false := by
      cases v with
      | nil =>
        have hsign : ∀ c ∈ signStarts, (isSpace c || decide (c = '(')) = false :=
          none_of_all rfl
        exact hsign c hc
      | cons d v =>
        have hd := not_separator_of_key k d (by simp [hv])
        simp [endsWord, hd]
    rw [hv, List.append_assoc]
    simp [keyword?, hends]

theorem bounds_of_isKeyStart {c : Char} (h : isKeyStart c = true) :
    65 ≤ c.toNat ∧ c.toNat < 128 := by
  delta isKeyStart Char.isAlpha Char.isUpper Char.isLower at h
  simp only [Bool.or_eq_true, Bool.and_eq_true, decide_eq_true_eq, ge_iff_le,
    UInt32.le_iff_toNat_le] at h
  obtain (⟨hlow, hhigh⟩ | ⟨hlow, hhigh⟩) | rfl := h
  · exact ⟨hlow, Nat.lt_of_le_of_lt hhigh (by decide)⟩
  · exact ⟨Nat.le_trans (by decide) hlow, Nat.lt_of_le_of_lt hhigh (by decide)⟩
  · decide

theorem not_blank_of_isKeyStart {c : Char} (h : isKeyStart c = true) : isBlank c = false := by
  obtain ⟨hlow, hhigh⟩ := bounds_of_isKeyStart h
  have hspace : c ≠ ' ' := by
    rintro rfl
    exact absurd hlow (by decide)
  simp [isBlank, hhigh, hspace]
  omega

theorem unary_key (gap : Text) (hgap : ∀ c ∈ gap, isBlank c = true) (k : Key) (hs : Signed s) :
    unary (n + 1) (gap ++ (k.text.toList ++ s)) = term (k.text.toList ++ s) := by
  have hkeyword := keyword?_key k hs ['N', 'O', 'T'] (by simp [signStarts])
  obtain ⟨c, u, hfirst, hc, -⟩ := k.isName
  have htext : k.text.toList ++ s = c :: (u ++ (dotted k.rest ++ s)) := by
    simp [k.toList_text, hfirst]
  rw [htext] at hkeyword ⊢
  have htrim : trimStart (gap ++ c :: (u ++ (dotted k.rest ++ s))) =
      c :: (u ++ (dotted k.rest ++ s)) :=
    dropWhile_run hgap (halts_cons.mpr (not_blank_of_isKeyStart hc))
  apply unary_of_term htrim _ _ hkeyword
  · rintro rfl
    exact absurd hc (by decide)
  · rintro rfl
    exact absurd hc (by decide)

theorem expression_key (k : Key) (hs : Signed s) :
    expression (n + 2) (k.text.toList ++ s) =
      term (k.text.toList ++ s) >>= fun p => chain (n + 1) none p.1 p.2 := by
  have hunary := unary_key (n := n) [] (by simp) k hs
  rw [List.nil_append] at hunary
  rw [expression, hunary]

end Read

/-! Texts that are one term. -/

theorem parse_of_term (k : Key) {s : String} {f : Filter} (hs : Read.Signed s.toList)
    (h : term (k.text.toList ++ s.toList) = .ok (f, [])) : parse (k.text ++ s) = .ok f := by
  apply parse_of_whole
  apply Read.whole_of_expression
  rw [String.toList_append, expression_key k hs, bind_ok h]
  exact chain_of_end rfl none f

theorem refused_of_term (k : Key) {s : String} {e : Stop} (hs : Read.Signed s.toList)
    (h : term (k.text.toList ++ s.toList) = .error e) :
    parse (k.text ++ s) = .error (located (k.text ++ s).toList e) := by
  have hexpression := expression_key (n := 2 * (k.text ++ s).toList.length) k hs
  rw [h] at hexpression
  rw [parse, whole, String.toList_append]
  rw [String.toList_append] at hexpression
  rw [hexpression]
  rfl

end Filter

end CloudEmulation
