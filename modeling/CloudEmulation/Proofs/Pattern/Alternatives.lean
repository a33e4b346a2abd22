import CloudEmulation.Proofs.Pattern.Groups
/-!
Whole patterns with a closing parenthesis after their text, and how much fuel they need.
-/

namespace CloudEmulation.Pattern.Read

variable {f : Flags} {names : List String} {done : List Part} {frame : Frame} {c : Char}
  {s s' t r r' u u' : Text} {n m : Nat}

abbrev Progress := (Part × List String) × Text

/-- What is read up to a closing parenthesis or the end, the names of groups, and what follows. -/
def reading (f : Flags) (names : List String) (done : List Part) (frame : Frame) (n : Nat)
    (s : Text) : Option Progress :=
  (alternatives f names done frame n s).map fun o => ((o.part, o.names), o.rest)

def ended (names : List String) (done : List Part) (frame : Frame) : Part × List String :=
  (altOf (done ++ [frame.sequence]), names)

def Frame.push (frame : Frame) (p : Option Part) : Frame := ⟨p :: frame.parts⟩

theorem reading_end (hs : skip f.blanks s = []) :
    reading f names done frame (n + 1) s = some (ended names done frame, []) := by
  simp only [reading, alternatives, hs]
  rfl

theorem reading_close (hs : skip f.blanks s = ')' :: u) :
    reading f names done frame (n + 1) s = some (ended names done frame, ')' :: u) := by
  simp only [reading, alternatives, hs]
  rfl

theorem reading_bar (hs : skip f.blanks s = '|' :: u) :
    reading f names done frame (n + 1) s =
      reading f names (done ++ [frame.sequence]) ⟨[]⟩ n u := by
  simp only [reading, alternatives, hs]

def closeGroup (f : Flags) (done : List Part) (frame : Frame) (n : Nat) (p : Progress) :
    Option Progress :=
  match p.2 with
  | ')' :: r => reading f p.1.2 done (frame.push (some ⟨p.1.1.pattern, p.1.1.depth + 1⟩)) n r
  | _ => none

def readOpening (f : Flags) (names : List String) (done : List Part) (frame : Frame) (n : Nat) :
    Opening → Option Progress
  | .flags g r => reading g names done (frame.push none) n r
  | .group g name r =>
    if name.any names.contains then none
    else reading g (name.toList ++ names) [] ⟨[]⟩ n r >>= closeGroup f done frame n

theorem reading_open (hs : skip f.blanks s = '(' :: u) :
    reading f names done frame (n + 1) s =
      opening f u >>= readOpening f names done frame n := by
  simp only [reading, alternatives, hs]
  cases hx : opening f u with
  | none => simp
  | some x =>
    cases x with
    | flags g r => rfl
    | group g name r =>
      simp only [Option.bind_eq_bind, Option.bind_some, readOpening]
      split
      · rfl
      · simp only [reading]
        cases alternatives g (name.toList ++ names) [] ⟨[]⟩ n r with
        | none => rfl
        | some o =>
          obtain ⟨p, names, rest⟩ := o
          simp only [Option.map_some, Option.bind_some, closeGroup]
          split
          · next he =>
            cases he
            rfl
          · next hne =>
            split
            · exact (hne _ _ _ rfl).elim
            · rfl

theorem reading_class (hs : skip f.blanks s = '[' :: u) :
    reading f names done frame (n + 1) s =
      openClass f n u >>= fun p =>
        if !f.unicode ∧ !staysAscii p.1 then none
        else reading f names done (frame.push (some ⟨.char p.1, p.2.1⟩)) n p.2.2 := by
  simp only [reading, alternatives, hs]
  cases openClass f n u with
  | none => rfl
  | some p =>
    simp only [Option.bind_eq_bind, Option.bind_some]
    split <;> rfl

/-- Signs that are read neither as a repetition nor as a part of their own. -/
def isOuter (c : Char) : Bool := c = ')' || c = '|' || c = '(' || c = '['

theorem alternatives_inner (hs : skip f.blanks s = c :: u) (hc : isOuter c = false) :
    alternatives f names done frame (n + 1) s =
      match repetition? f.blanks (c :: u) with
      | some o => o >>= fun p => repeatLast frame.parts p.1 p.2.1 >>= fun parts =>
          alternatives f names done ⟨parts⟩ n p.2.2
      | none => primitive f (c :: u) >>= fun p =>
          alternatives f names done (frame.push (some p.1)) n p.2 := by
  have hne (d : Char) (hd : isOuter d = true) : c ≠ d := by
    rintro rfl
    rw [hc] at hd
    cases hd
  rw [alternatives.eq_2, hs]
  split
  · next he => cases he
  · next he => exact absurd he (cons_ne (hne _ rfl))
  · next he => exact absurd he (cons_ne (hne _ rfl))
  · next he => exact absurd he (cons_ne (hne _ rfl))
  · next he => exact absurd he (cons_ne (hne _ rfl))
  · cases repetition? f.blanks (c :: u) with
    | some o =>
      cases o with
      | none => rfl
      | some p =>
        obtain ⟨least, most, r⟩ := p
        simp only [Option.bind_eq_bind, Option.bind_some]
        cases repeatLast frame.parts least most <;> rfl
    | none =>
      simp only
      cases primitive f (c :: u) <;> rfl

theorem reading_repeat {o : Option (Nat × Option Nat × Text)} (hs : skip f.blanks s = c :: u)
    (hc : isOuter c = false) (ho : repetition? f.blanks (c :: u) = some o) :
    reading f names done frame (n + 1) s =
      o >>= fun p => repeatLast frame.parts p.1 p.2.1 >>= fun parts =>
        reading f names done ⟨parts⟩ n p.2.2 := by
  simp only [reading, alternatives_inner hs hc, ho, Option.bind_eq_bind, Option.map_bind,
    Function.comp_def]

theorem reading_primitive (hs : skip f.blanks s = c :: u) (hc : isOuter c = false)
    (ho : repetition? f.blanks (c :: u) = none) :
    reading f names done frame (n + 1) s =
      primitive f (c :: u) >>= fun p => reading f names done (frame.push (some p.1)) n p.2 := by
  simp only [reading, alternatives_inner hs hc, ho, Option.bind_eq_bind, Option.map_bind,
    Function.comp_def]

def ReadAfter (n : Nat) : Prop :=
  ∀ {m s s'} f names done frame, Follows s s' → 2 * s.length + 1 ≤ n → 2 * s'.length + 1 ≤ m →
    After s s' (reading f names done frame n s) (reading f names done frame m s')

theorem closeGroup_after (ih : ReadAfter n) (f : Flags) (done : List Part) (frame : Frame)
    (h : Follows s s') (hn : 2 * s.length + 1 ≤ n) (hm : 2 * s'.length + 1 ≤ m)
    (p : Part × List String) :
    After s s' (closeGroup f done frame n (p, s)) (closeGroup f done frame m (p, s')) := by
  cases h with
  | nil => exact .refused
  -- only the second text closes the group, and nothing is left of it
  | close => exact (ih f _ done _ .nil hn (Nat.le_trans (by simp) hm)).of_nil
  | @cons c u u' h =>
    rw [List.length_cons] at hn hm
    by_cases hc : c = ')'
    · subst hc
      exact (ih f _ done _ h (by omega) (by omega)).cons ')'
    · have hnone (k : Nat) (v : Text) : closeGroup f done frame k (p, c :: v) = none := by
        unfold closeGroup
        split
        · next he => exact absurd he (cons_ne hc)
        · rfl
      rw [hnone, hnone]
      exact .refused

theorem readOpening_after (ih : ReadAfter n) (f : Flags) (names : List String) (done : List Part)
    (frame : Frame) {o o' : Option Opening} (h : Opened u u' o o')
    (hn : 2 * u.length + 2 ≤ n) (hm : 2 * u'.length + 2 ≤ m) :
    After u u' (o >>= readOpening f names done frame n)
      (o' >>= readOpening f names done frame m) := by
  have hgroup (g : Flags) (name : Option String) {r r' : Text} (hr : Follows r r')
      (hle : r.length ≤ u.length) (hle' : r'.length ≤ u'.length) :
      After r r' (readOpening f names done frame n (.group g name r))
        (readOpening f names done frame m (.group g name r')) := by
    simp only [readOpening]
    split
    · exact .refused
    · apply (ih g _ [] ⟨[]⟩ hr (by omega) (by omega)).bind
      exact fun p _ _ ht hshort hshort' =>
        closeGroup_after ih f done frame ht (by omega) (by omega) p
  have hflags (g : Flags) {r r' : Text} (hr : Follows r r') (hle : r.length ≤ u.length)
      (hle' : r'.length ≤ u'.length) :
      After r r' (readOpening f names done frame n (.flags g r))
        (readOpening f names done frame m (.flags g r')) :=
    ih g names done _ hr (by omega) (by omega)
  cases h with
  | group hr hle hle' => exact (hgroup _ _ hr hle hle').mono hle hle'
  | flags hr hle hle' => exact (hflags _ hr hle hle').mono hle hle'
  | refused => exact .refused
  | @swallowed x hx =>
    cases x with
    | group g name r =>
      obtain rfl : r = [] := hx
      exact (hgroup g name .nil (Nat.zero_le _) (Nat.zero_le _)).of_nil
    | flags g r =>
      obtain rfl : r = [] := hx
      exact (hflags g .nil (Nat.zero_le _) (Nat.zero_le _)).of_nil

theorem reading_loose {v : Text} (hv : skip f.blanks v = [')']) :
    reading f names done frame n ('\x7b' :: v) = none := by
  cases n with
  | zero => rfl
  | succ n =>
    have hcount : countBody f.blanks v = none := countBody_eq hv (decimal_close f.blanks)
    have hmalformed : repetition? f.blanks ('\x7b' :: v) = some none := by
      rw [repetition?, hcount]
      rfl
    rw [reading_repeat (skip_eq (by decide) (by decide)) rfl hmalformed]
    rfl

section

variable (ih : ReadAfter n) (f : Flags) (names : List String) (done : List Part) (frame : Frame)

include ih

theorem outer_after (h : Follows u u') (hs : skip f.blanks s = c :: u)
    (hs' : skip f.blanks s' = c :: u') (hc : isOuter c = true) (hn : 2 * u.length + 2 ≤ n)
    (hm : 2 * u'.length + 2 ≤ m) :
    After (c :: u) (c :: u') (reading f names done frame (n + 1) s)
      (reading f names done frame (m + 1) s') := by
  simp only [isOuter, Bool.or_eq_true, decide_eq_true_eq] at hc
  obtain ((rfl | rfl) | rfl) | rfl := hc
  · rw [reading_close hs, reading_close hs']
    exact .whole (h.cons ')')
  · rw [reading_bar hs, reading_bar hs']
    exact (ih f names _ _ h (by omega) (by omega)).cons '|'
  · rw [reading_open hs, reading_open hs']
    exact (readOpening_after ih f names done frame (opening_opened f h) hn hm).cons '('
  · rw [reading_class hs, reading_class hs']
    apply After.cons
    apply ((classesAlike f n).opened h hn hm).after
    intro set depth r r' hr hle hle'
    dsimp only
    split
    · exact .refused
    · exact ih f names done _ hr (by omega) (by omega)

theorem inner_after (h : Follows u u') (hs : skip f.blanks s = c :: u)
    (hs' : skip f.blanks s' = c :: u') (hc : isOuter c = false) (hn : 2 * u.length + 2 ≤ n)
    (hm : 2 * u'.length + 2 ≤ m) :
    After (c :: u) (c :: u') (reading f names done frame (n + 1) s)
      (reading f names done frame (m + 1) s') := by
  apply After.cons
  obtain ⟨ho, ho'⟩ | ⟨o, o', ho, ho', halike⟩ := repetition?_after f.blanks c h
  · rw [reading_primitive hs hc ho, reading_primitive hs' hc ho']
    obtain hprimitive | ⟨hnone, p, v, hsome, hv⟩ := primitive_after f c h
    · apply hprimitive.bind
      exact fun p _ _ hr hle hle' => ih f names done _ hr (by omega) (by omega)
    · rw [hnone, hsome, Option.bind_eq_bind, Option.bind_some, reading_loose hv]
      exact .refused
  · rw [reading_repeat hs hc ho, reading_repeat hs' hc ho']
    apply halike.after
    intro least most r r' hr hle hle'
    exact After.option (repeatLast frame.parts least most) fun parts =>
      ih f names done ⟨parts⟩ hr (by omega) (by omega)

theorem reading_step (h : Follows s s') (hn : 2 * s.length + 1 ≤ n + 1)
    (hm : 2 * s'.length + 1 ≤ m + 1) :
    After s s' (reading f names done frame (n + 1) s) (reading f names done frame (m + 1) s') := by
  cases h.skipped f.blanks with
  | nil hs hs' =>
    rw [reading_end hs, reading_end hs']
    exact .read .nil (Nat.zero_le _) (Nat.zero_le _)
  | close hs hs' =>
    rw [reading_end hs, reading_close hs']
    exact .read .close (Nat.zero_le _) (hs' ▸ length_skip f.blanks s')
  | @cons c u u' hs hs' hu hlength hlength' =>
    refine After.mono (?_ : After (c :: u) (c :: u') _ _) hlength hlength'
    cases hc : isOuter c with
    | true => exact outer_after ih f names done frame hu hs hs' hc (by omega) (by omega)
    | false => exact inner_after ih f names done frame hu hs hs' hc (by omega) (by omega)

end

theorem reading_after (n : Nat) : ReadAfter n := by
  induction n with
  | zero => exact fun _ _ _ _ _ hn => by omega
  | succ n ih =>
    intro m s s' f names done frame h hn hm
    obtain ⟨m, rfl⟩ : ∃ k, m = k + 1 := ⟨m - 1, by omega⟩
    exact reading_step ih f names done frame h hn hm

/-- More fuel than a text needs changes nothing. -/
theorem reading_fuel (f : Flags) (names : List String) (done : List Part) (frame : Frame)
    (hn : 2 * s.length + 1 ≤ n) (hm : 2 * s.length + 1 ≤ m) :
    reading f names done frame n s = reading f names done frame m s :=
  (reading_after n f names done frame (.self s) hn hm).antisymm
    (reading_after m f names done frame (.self s) hm hn)

end CloudEmulation.Pattern.Read
