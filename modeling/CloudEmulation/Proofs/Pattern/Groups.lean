import CloudEmulation.Proofs.Pattern.Classes
/-!
Alternatives, sequences and groups with a closing parenthesis after their text.
-/

namespace CloudEmulation.Pattern.Read

variable {f : Flags} {c : Char} {s s' r r' u u' : Text} {n m : Nat} {b : Bool}

/-! What an opening parenthesis begins. -/

def flagRun (f : Flags) (seen : List Char) (off dangling : Bool) (s : Text) :
    Option ((Flags × Bool × Char) × Text) :=
  (flagList f seen off dangling s).map fun p => ((p.1, p.2.1, p.2.2.1), p.2.2.2)

theorem flagRun_after (f : Flags) (seen : List Char) (off dangling : Bool) (h : Follows s s') :
    After s s' (flagRun f seen off dangling s) (flagRun f seen off dangling s') := by
  induction h generalizing f seen off dangling with
  | nil => exact .refused
  | close =>
    cases dangling with
    | true => exact .refused
    | false => exact .swallowed
  | @cons c u u' h ih =>
    apply After.cons
    rw [flagRun, flagRun, flagList, flagList]
    split
    · split
      · exact .refused
      · exact .whole h
    · split
      · split
        · exact .refused
        · exact ih f seen true true
      · split
        · exact .refused
        · cases setFlag f (!off) c with
          | none => exact .refused
          | some g => exact ih g (c :: seen) off false

theorem groupName_none (hs : s.dropWhile (· ≠ '>') = []) : groupName s = none := by
  unfold groupName
  rw [hs]
  dsimp only
  split
  · next he => cases he
  · rfl

theorem groupName_after (h : Follows s s') : After s s' (groupName s) (groupName s') := by
  have hlength := length_dropWhile (· ≠ '>') s
  have hlength' := length_dropWhile (· ≠ '>') s'
  obtain ⟨hdrop, hdrop'⟩ | ⟨d, w, w', hdrop, hdrop', hw, htake⟩ :=
    h.cut (p := (· ≠ '>')) (by decide)
  · rw [groupName_none hdrop, groupName_none hdrop']
    exact .refused
  · rw [hdrop, List.length_cons] at hlength
    rw [hdrop', List.length_cons] at hlength'
    unfold groupName
    rw [hdrop, hdrop', htake]
    cases s.takeWhile (· ≠ '>') with
    | nil => exact .refused
    | cons c cs =>
      dsimp only
      split
      · exact .read hw (by omega) (by omega)
      · exact .refused

def Opening.rest : Opening → Text
  | .group _ _ r => r
  | .flags _ r => r

/-- The two results of reading what an opening parenthesis begins. -/
inductive Opened (s s' : Text) : Option Opening → Option Opening → Prop where
  | group {g : Flags} {name : Option String} {r r' : Text} :
      Follows r r' → r.length ≤ s.length → r'.length ≤ s'.length →
        Opened s s' (some (.group g name r)) (some (.group g name r'))
  | flags {g : Flags} {r r' : Text} :
      Follows r r' → r.length ≤ s.length → r'.length ≤ s'.length →
        Opened s s' (some (.flags g r)) (some (.flags g r'))
  | refused : Opened s s' none none
  | swallowed {x : Opening} : x.rest = [] → Opened s s' none (some x)

theorem Opened.mono {o o' : Option Opening} (h : Opened r r' o o') (hle : r.length ≤ s.length)
    (hle' : r'.length ≤ s'.length) : Opened s s' o o' := by
  cases h with
  | group hr h h' => exact .group hr (Nat.le_trans h hle) (Nat.le_trans h' hle')
  | flags hr h h' => exact .flags hr (Nat.le_trans h hle) (Nat.le_trans h' hle')
  | refused => exact .refused
  | swallowed hx => exact .swallowed hx

theorem named_opened (f : Flags) (h : Follows s s') :
    Opened s s' (opening.named f s) (opening.named f s') := by
  have hname := groupName_after h
  unfold opening.named
  generalize groupName s = o at hname ⊢
  generalize groupName s' = o' at hname ⊢
  cases hname with
  | read hr hle hle' => exact .group hr hle hle'
  | refused => exact .refused
  | swallowed => exact .swallowed rfl

def flagged (p : (Flags × Bool × Char) × Text) : Option Opening :=
  if p.1.2.2 = ')' then (if p.1.2.1 then some (.flags p.1.1 p.2) else none)
  else some (.group p.1.1 none p.2)

theorem flagged_opened (f : Flags) (h : Follows s s') :
    Opened s s' (flagRun f [] false false s >>= flagged)
      (flagRun f [] false false s' >>= flagged) := by
  have hflags := flagRun_after f [] false false h
  generalize flagRun f [] false false s = o at hflags ⊢
  generalize flagRun f [] false false s' = o' at hflags ⊢
  cases hflags with
  | @read x r r' hr hle hle' =>
    simp only [Option.bind_eq_bind, Option.bind_some, flagged]
    split
    · split
      · exact .flags hr hle hle'
      · exact .refused
    · exact .group hr hle hle'
  | refused => exact .refused
  | @swallowed x =>
    simp only [Option.bind_eq_bind, Option.bind_some, Option.bind_none, flagged]
    split
    · split
      · exact .swallowed rfl
      · exact .refused
    · exact .swallowed rfl

theorem opening_named (hs : skip f.blanks s = '?' :: 'P' :: '<' :: u) :
    opening f s = opening.named f u := by
  simp only [opening, hs]

theorem opening_angle (hs : skip f.blanks s = '?' :: '<' :: c :: u) :
    opening f s = if c = '=' ∨ c = '!' then none else opening.named f (c :: u) := by
  simp only [opening, hs]

theorem opening_flags (hs : skip f.blanks s = '?' :: u) (hP : ∀ r, u ≠ 'P' :: '<' :: r)
    (hangle : ∀ c r, u ≠ '<' :: c :: r) :
    opening f s = flagRun f [] false false u >>= flagged := by
  unfold opening
  rw [hs]
  split
  · next he => exact absurd (List.cons.inj he).2 (hP _)
  · next he => exact absurd (List.cons.inj he).2 (hangle _ _)
  · next he =>
    cases he
    rw [flagRun]
    cases flagList f [] false false u <;> rfl
  · next hne => exact absurd rfl (hne _)

theorem opening_plain (hs : skip f.blanks s = r) (hr : ∀ u, r ≠ '?' :: u) :
    opening f s = some (.group f none r) := by
  unfold opening
  rw [hs]
  split
  · next he => exact absurd rfl (hr _)
  · next he => exact absurd rfl (hr _)
  · next he => exact absurd rfl (hr _)
  · rfl

theorem flags_opened (f : Flags) (h : Follows u u') (hs : skip f.blanks s = '?' :: u)
    (hs' : skip f.blanks s' = '?' :: u')
    (hu : (∀ r, u ≠ 'P' :: '<' :: r) ∧ ∀ c r, u ≠ '<' :: c :: r)
    (hu' : (∀ r, u' ≠ 'P' :: '<' :: r) ∧ ∀ c r, u' ≠ '<' :: c :: r) :
    Opened u u' (opening f s) (opening f s') := by
  rw [opening_flags hs hu.1 hu.2, opening_flags hs' hu'.1 hu'.2]
  exact flagged_opened f h

theorem letter_opened (f : Flags) (h : Follows u u') (hs : skip f.blanks s = '?' :: 'P' :: u)
    (hs' : skip f.blanks s' = '?' :: 'P' :: u') :
    Opened ('P' :: u) ('P' :: u') (opening f s) (opening f s') := by
  cases h with
  | nil => exact flags_opened f (Follows.nil.cons 'P') hs hs' (by simp) (by simp)
  | close => exact flags_opened f (Follows.close.cons 'P') hs hs' (by simp) (by simp)
  | @cons e w w' hw =>
    by_cases he : e = '<'
    · subst he
      rw [opening_named hs, opening_named hs']
      exact (named_opened f hw).mono (by simp; omega) (by simp; omega)
    · exact flags_opened f ((hw.cons e).cons 'P') hs hs' (by simp [he]) (by simp [he])

theorem angle_opened (f : Flags) (h : Follows u u') (hs : skip f.blanks s = '?' :: '<' :: u)
    (hs' : skip f.blanks s' = '?' :: '<' :: u') :
    Opened ('<' :: u) ('<' :: u') (opening f s) (opening f s') := by
  cases h with
  | nil => exact flags_opened f (Follows.nil.cons '<') hs hs' (by simp) (by simp)
  -- the first text has flags that do not exist, the second one a name that never ends
  | close =>
    have hname : opening.named f [')'] = none := by
      rw [opening.named, groupName_none rfl]
      rfl
    rw [opening_flags hs (by simp) (by simp), opening_angle hs', if_neg (by decide), hname]
    exact .refused
  | @cons e w w' hw =>
    rw [opening_angle hs, opening_angle hs']
    split
    · exact .refused
    · exact (named_opened f (hw.cons e)).mono (by simp) (by simp)

theorem question_opened (f : Flags) (h : Follows u u') (hs : skip f.blanks s = '?' :: u)
    (hs' : skip f.blanks s' = '?' :: u') : Opened u u' (opening f s) (opening f s') := by
  cases h with
  | nil => exact flags_opened f .nil hs hs' (by simp) (by simp)
  | close => exact flags_opened f .close hs hs' (by simp) (by simp)
  | @cons d v v' hv =>
    by_cases hP : d = 'P'
    · subst hP
      exact letter_opened f hv hs hs'
    · by_cases hangle : d = '<'
      · subst hangle
        exact angle_opened f hv hs hs'
      · exact flags_opened f (hv.cons d) hs hs' (by simp [hP, hangle]) (by simp [hP, hangle])

theorem opening_opened (f : Flags) (h : Follows s s') :
    Opened s s' (opening f s) (opening f s') := by
  have hgroup (hs : ∀ u, skip f.blanks s ≠ '?' :: u) (hs' : ∀ u, skip f.blanks s' ≠ '?' :: u) :
      Opened s s' (opening f s) (opening f s') := by
    rw [opening_plain rfl hs, opening_plain rfl hs']
    exact .group (h.skip f.blanks) (length_skip _ s) (length_skip _ s')
  cases h.skipped f.blanks with
  | nil hs hs' => exact hgroup (by simp [hs]) (by simp [hs'])
  | close hs hs' => exact hgroup (by simp [hs]) (by simp [hs'])
  | @cons c u u' hs hs' hu hle hle' =>
    by_cases hc : c = '?'
    · subst hc
      exact (question_opened f hu hs hs').mono (Nat.le_of_lt hle) (Nat.le_of_lt hle')
    · exact hgroup (by simp [hs, hc]) (by simp [hs', hc])

/-! Repetition. -/

theorem dropLazy_follows (h : Follows s s') : Follows (dropLazy s) (dropLazy s') := by
  cases h with
  | nil => exact .nil
  | close => exact .close
  | @cons c u u' h =>
    by_cases hc : c = '?'
    · subst hc
      exact h
    · have hplain (v : Text) : dropLazy (c :: v) = c :: v := by
        unfold dropLazy
        split
        · next he => exact absurd he (cons_ne hc)
        · rfl
      rw [hplain, hplain]
      exact h.cons c

theorem length_dropLazy (s : Text) : (dropLazy s).length ≤ s.length := by
  unfold dropLazy
  split
  · exact Nat.le_succ _
  · exact Nat.le_refl _

theorem decimal_close (b : Bool) : decimal b [')'] = (none, true, [')']) := by
  cases b <;> decide

def countEnd (s : Text) : Option Text :=
  match s with
  | '\x7d' :: r => some r
  | _ => none

theorem countEnd_none (hs : ∀ r, s ≠ '\x7d' :: r) : countEnd s = none := by
  unfold countEnd
  split
  · exact absurd rfl (hs _)
  · rfl

theorem countEnd_follows (h : Follows s s') :
    (countEnd s = none ∧ countEnd s' = none) ∨
      ∃ r r', countEnd s = some r ∧ countEnd s' = some r' ∧
        Follows r r' ∧ r.length ≤ s.length ∧ r'.length ≤ s'.length := by
  cases h with
  | nil => exact .inl ⟨rfl, rfl⟩
  | close => exact .inl ⟨rfl, rfl⟩
  | @cons c u u' h =>
    by_cases hc : c = '\x7d'
    · subst hc
      exact .inr ⟨u, u', rfl, rfl, h, Nat.le_succ _, Nat.le_succ _⟩
    · exact .inl ⟨countEnd_none fun _ => cons_ne hc, countEnd_none fun _ => cons_ne hc⟩

theorem countEnd_bind {α : Type} (s : Text) (g : Text → Option α) :
    (countEnd s).bind g =
      match s with
      | '\x7d' :: r => g r
      | _ => none := by
  unfold countEnd
  split <;> rfl

def upperBound (b : Bool) (least : Nat) (s : Text) : Option (Nat × Option Nat × Text) :=
  match skip b s with
  | [] => none
  | '\x7d' :: r => some (least, none, r)
  | s =>
    (decimal b s).1.bind fun most =>
      match (decimal b s).2.2 with
      | '\x7d' :: r => if least ≤ most then some (least, some most, r) else none
      | _ => none

theorem upperBound_bounded {least : Nat} (hs : skip b s = c :: u) (hc : c ≠ '\x7d') :
    upperBound b least s =
      (decimal b (c :: u)).1.bind fun most => (countEnd (decimal b (c :: u)).2.2).bind fun r =>
        if least ≤ most then some (least, some most, r) else none := by
  simp only [countEnd_bind]
  unfold upperBound
  rw [hs]
  split
  · next he => cases he
  · next he => exact absurd he (cons_ne hc)
  · rfl

theorem upperBound_alike (b : Bool) (least : Nat) (h : Follows s s') :
    Alike s s' (upperBound b least s) (upperBound b least s') := by
  cases h.skipped b with
  | nil hs hs' =>
    simp only [upperBound, hs, hs']
    exact .refused
  | close hs hs' =>
    rw [upperBound_bounded hs' (by decide), decimal_close]
    simp only [upperBound, hs]
    exact .refused
  | @cons c u u' hs hs' hu hlength hlength' =>
    by_cases hc : c = '\x7d'
    · subst hc
      simp only [upperBound, hs, hs']
      exact .read hu (Nat.le_of_lt hlength) (Nat.le_of_lt hlength')
    · rw [upperBound_bounded hs hc, upperBound_bounded hs' hc]
      obtain ⟨most, missing, r, r', hd, hd', hr, hle, hle'⟩ := decimal_follows (b := b) (hu.cons c)
      rw [hd, hd']
      cases most with
      | none => exact .refused
      | some most =>
        obtain ⟨hend, hend'⟩ | ⟨w, w', hend, hend', hw, hshort, hshort'⟩ := countEnd_follows hr
        · simp only [Option.bind_some, hend, hend']
          exact .refused
        · simp only [Option.bind_some, hend, hend']
          split
          · refine .read hw (Nat.le_trans hshort ?_) (Nat.le_trans hshort' ?_)
            · exact Nat.le_trans hle hlength
            · exact Nat.le_trans hle' hlength'
          · exact .refused

def fromLower (b : Bool) (least : Option Nat) (missing : Bool) (s : Text) :
    Option (Nat × Option Nat × Text) :=
  match s with
  | ',' :: r => if missing then none else least.bind fun least => upperBound b least r
  | s => (countEnd s).bind fun r => least.map fun n => (n, some n, r)

theorem fromLower_exact {least : Option Nat} {missing : Bool} (hs : ∀ r, s ≠ ',' :: r) :
    fromLower b least missing s =
      (countEnd s).bind fun r => least.map fun n => (n, some n, r) := by
  unfold fromLower
  split
  · next he => exact absurd rfl (hs _)
  · rfl

theorem countBody_eq {least : Option Nat} {missing : Bool} (hs : skip b s = c :: u)
    (hd : decimal b (c :: u) = (least, missing, r)) :
    countBody b s = fromLower b least missing r := by
  unfold countBody
  rw [hs]
  dsimp only
  rw [hd]
  split
  · next he =>
    obtain rfl : r = _ := he
    rfl
  · next he =>
    obtain rfl : r = _ := he
    rfl
  · next hcomma hbrace =>
    rw [fromLower_exact hcomma, countEnd_none hbrace]
    rfl

theorem fromLower_alike (b : Bool) (least : Option Nat) (missing : Bool) (h : Follows s s') :
    Alike s s' (fromLower b least missing s) (fromLower b least missing s') := by
  have hexact (hs : ∀ r, s ≠ ',' :: r) (hs' : ∀ r, s' ≠ ',' :: r) :
      Alike s s' (fromLower b least missing s) (fromLower b least missing s') := by
    rw [fromLower_exact hs, fromLower_exact hs']
    obtain ⟨hend, hend'⟩ | ⟨w, w', hend, hend', hw, hle, hle'⟩ := countEnd_follows h
    · rw [hend, hend']
      exact .refused
    · rw [hend, hend']
      cases least with
      | none => exact .refused
      | some least => exact .read hw hle hle'
  cases h with
  | nil => exact hexact (by simp) (by simp)
  | close => exact hexact (by simp) (by simp)
  | @cons c u u' h =>
    by_cases hc : c = ','
    · subst hc
      simp only [fromLower]
      split
      · exact .refused
      · cases least with
        | none => exact .refused
        | some least => exact (upperBound_alike b least h).mono (Nat.le_succ _) (Nat.le_succ _)
    · exact hexact (fun _ => cons_ne hc) (fun _ => cons_ne hc)

theorem countBody_alike (b : Bool) (h : Follows s s') :
    Alike s s' (countBody b s) (countBody b s') := by
  cases h.skipped b with
  | nil hs hs' =>
    simp only [countBody, hs, hs']
    exact .refused
  | close hs hs' =>
    rw [countBody_eq hs' (decimal_close b)]
    simp only [countBody, hs]
    exact .refused
  | @cons c u u' hs hs' hu hlength hlength' =>
    obtain ⟨least, missing, r, r', hd, hd', hr, hle, hle'⟩ := decimal_follows (b := b) (hu.cons c)
    rw [countBody_eq hs hd, countBody_eq hs' hd']
    refine (fromLower_alike b least missing hr).mono ?_ ?_
    · exact Nat.le_trans hle hlength
    · exact Nat.le_trans hle' hlength'

theorem repetition?_after (b : Bool) (c : Char) (h : Follows u u') :
    (repetition? b (c :: u) = none ∧ repetition? b (c :: u') = none) ∨
      ∃ o o', repetition? b (c :: u) = some o ∧ repetition? b (c :: u') = some o' ∧
        Alike u u' o o' := by
  have hlazy (least : Nat) (most : Option Nat) :
      Alike u u' (some (least, most, dropLazy u)) (some (least, most, dropLazy u')) :=
    .read (dropLazy_follows h) (length_dropLazy u) (length_dropLazy u')
  by_cases hone : c = '?'
  · subst hone
    exact .inr ⟨_, _, rfl, rfl, hlazy 0 (some 1)⟩
  · by_cases hmany : c = '*'
    · subst hmany
      exact .inr ⟨_, _, rfl, rfl, hlazy 0 none⟩
    · by_cases hsome : c = '+'
      · subst hsome
        exact .inr ⟨_, _, rfl, rfl, hlazy 1 none⟩
      · by_cases hcount : c = '\x7b'
        · subst hcount
          refine .inr ⟨_, _, rfl, rfl, ?_⟩
          have hbody := countBody_alike b h
          generalize countBody b u = o at hbody ⊢
          generalize countBody b u' = o' at hbody ⊢
          cases hbody with
          | @read least most r r' hr hle hle' =>
            refine .read (dropLazy_follows (hr.skip b)) ?_ ?_
            · exact Nat.le_trans (length_dropLazy _) (Nat.le_trans (length_skip b r) hle)
            · exact Nat.le_trans (length_dropLazy _) (Nat.le_trans (length_skip b r') hle')
          | refused => exact .refused
        · have hnone (v : Text) : repetition? b (c :: v) = none := by
            unfold repetition?
            split
            · next he => exact absurd he (cons_ne hone)
            · next he => exact absurd he (cons_ne hmany)
            · next he => exact absurd he (cons_ne hsome)
            · next he => exact absurd he (cons_ne hcount)
            · rfl
          exact .inl ⟨hnone u, hnone u'⟩

/-! Primitives. -/

theorem primitive_plain (hslash : c ≠ '\\') (hdot : c ≠ '.') (hstart : c ≠ '^')
    (hend : c ≠ '$') : primitive f (c :: u) = (literalPart f c false).map (·, u) := by
  unfold primitive
  split
  · next he => cases he
  · next he => exact absurd he (cons_ne hslash)
  · next he => exact absurd he (cons_ne hdot)
  · next he => exact absurd he (cons_ne hstart)
  · next he => exact absurd he (cons_ne hend)
  · next he => rw [(List.cons.inj he).1, (List.cons.inj he).2]

theorem primitive_after (f : Flags) (c : Char) (h : Follows u u') :
    After u u' (primitive f (c :: u)) (primitive f (c :: u')) ∨
      primitive f (c :: u) = none ∧ ∃ p v, primitive f (c :: u') = some (p, '\x7b' :: v) ∧
        skip f.blanks v = [')'] := by
  by_cases hslash : c = '\\'
  · subst hslash
    obtain hescape | ⟨hnone, w, v, hsome, hv⟩ := escape_after f h
    · left
      apply hescape.bind
      intro a r r' hr _ _
      apply After.option
      exact fun p => .whole hr
    · refine .inr ⟨?_, ⟨.look (.boundary w), 0⟩, v, ?_, hv⟩
      · simp only [primitive, hnone]
        rfl
      · simp only [primitive, hsome]
        rfl
  · left
    by_cases hdot : c = '.'
    · subst hdot
      simp only [primitive]
      cases dotSet f with
      | none => exact .refused
      | some set => exact .whole h
    · by_cases hstart : c = '^'
      · subst hstart
        exact .whole h
      · by_cases hend : c = '$'
        · subst hend
          exact .whole h
        · rw [primitive_plain hslash hdot hstart hend, primitive_plain hslash hdot hstart hend]
          cases literalPart f c false with
          | none => exact .refused
          | some p => exact .whole h

end CloudEmulation.Pattern.Read
