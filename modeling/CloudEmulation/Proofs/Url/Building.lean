import CloudEmulation.Proofs.Url.Canonical
/-!
The URLs that are built by reading a text, growing the path and changing the query are all as
reading leaves them.
-/

namespace CloudEmulation.Url

variable {c : Char} {s t : String} {kind : Kind} {names done segments : List String} {u v : Url}

/-- The URLs that there are: those read, and those that others lead to. -/
inductive Built : Url → Prop
  | parsed {t : String} {u : Url} (h : parse t = .ok u) : Built u
  | joined {u v : Url} {segments : List String} (h : Built u) (hv : u.join segments = .ok v) :
    Built v
  | appended {u : Url} (h : Built u) (pairs : Pairs) : Built (u.appendPairs pairs)
  | replaced {u : Url} (h : Built u) (pairs : Pairs) : Built (u.withPairs pairs)

/-! Growing a path. -/

theorem spec_of_keepsSegment (h : keepsSegment (kind ≠ .other) c = true) :
    keepsPath c = true ∧ Read.isSlash kind c = false := by
  simp only [keepsSegment, Bool.and_eq_true, Bool.not_eq_true'] at h
  obtain ⟨⟨⟨hpath, hslash⟩, -⟩, hback⟩ := h
  refine ⟨hpath, ?_⟩
  rw [Read.isSlash, decide_eq_false (of_decide_eq_true hslash), hback]
  rfl

theorem partOf_encode (s : List Char) :
    PartOf kind (String.ofList (Percent.encode (keepsSegment (kind ≠ .other)) s)) := by
  rw [PartOf, String.toList_ofList]
  refine Percent.forall_mem_encode ?_ ?_ ?_
  · exact fun c _ hascii hk => ⟨hascii, spec_of_keepsSegment hk⟩
  · cases kind <;> decide
  · cases kind <;> decide +kernel

theorem fronted_concat (h : done.head? ≠ some "") (t : String) : Fronted (done ++ [t]) := by
  cases done with
  | nil =>
    intro hhead
    rw [List.nil_append] at hhead ⊢
    rw [Option.some.inj hhead]
  | cons n done => exact fun hhead => absurd hhead h

theorem head?_takeBack (h : done.head? ≠ some "") : (Read.takeBack done).head? ≠ some "" := by
  unfold Read.takeBack
  split
  · exact h
  · match done with
    | [] => exact h
    | [_] => exact fun he => nomatch he
    | _ :: _ :: _ => exact h

theorem fronted_walk (h : done.head? ≠ some "") (t : String) :
    Fronted (Read.walk .file done [t]) := by
  rw [Read.walk]
  split
  · exact fronted_concat (head?_takeBack h) ""
  · split
    · exact fronted_concat h ""
    · unfold Read.add
      split
      · exact @fronted_concat [] (by simp) _
      · exact fronted_concat h t

theorem segmentOf_push (h : ∀ n ∈ names, SegmentOf kind n) (s : String) :
    ∀ n ∈ Segments.push kind names s, SegmentOf kind n := by
  unfold Segments.push
  split
  · exact h
  · refine segmentOf_walk (fun n hn => ?_) fun n hn => ?_
    · split at hn
      · cases hn
      · exact h n hn
    · rw [List.mem_singleton.mp hn]
      exact partOf_encode _

theorem segmentOf_foldl_push (h : ∀ n ∈ names, SegmentOf kind n) (segments : List String) :
    ∀ n ∈ segments.foldl (Segments.push kind) names, SegmentOf kind n := by
  induction segments generalizing names with
  | nil => exact h
  | cons s segments ih => exact ih (segmentOf_push h s)

theorem fronted_push (h : Fronted names) (s : String) : Fronted (Segments.push .file names s) := by
  unfold Segments.push
  split
  · exact h
  · refine fronted_walk ?_ _
    split
    · simp
    · rename_i hne
      exact fun hhead => hne (h hhead)

theorem push_ne_nil (h : names ≠ []) (s : String) : Segments.push kind names s ≠ [] := by
  unfold Segments.push
  split
  · exact h
  · exact walk_ne_nil (List.cons_ne_nil _ _)

theorem dropEmptyLast_ne_nil (h : names ≠ []) : Segments.dropEmptyLast names ≠ [] := by
  unfold Segments.dropEmptyLast
  split
  · rename_i hlong
    intro he
    have hlength := congrArg List.length he
    rw [List.length_dropLast] at hlength
    simp at hlength
    omega
  · exact h

theorem PathOf.dropEmptyLast (h : PathOf kind names) :
    PathOf kind (Segments.dropEmptyLast names) where
  segments := fun n hn => h.segments n (mem_dropEmptyLast hn)
  nonempty := fun hk => dropEmptyLast_ne_nil (h.nonempty hk)
  fronted := by
    intro hk hhead
    have hfront := h.fronted hk
    unfold Segments.dropEmptyLast at hhead ⊢
    split
    · rename_i hlong
      rw [if_pos hlong] at hhead
      obtain ⟨n, m, rest, rfl⟩ : ∃ n m rest, names = n :: m :: rest := by
        match names, hlong.1 with
        | n :: m :: rest, _ => exact ⟨n, m, rest, rfl⟩
      cases hfront hhead
    · rename_i hshort
      rw [if_neg hshort] at hhead
      exact hfront hhead

theorem PathOf.push (h : PathOf kind names) (s : String) :
    PathOf kind (Segments.push kind names s) where
  segments := segmentOf_push h.segments s
  nonempty := fun hk => push_ne_nil (h.nonempty hk) s
  fronted := by
    rintro rfl
    exact fronted_push (h.fronted rfl) s

theorem PathOf.foldl_push (h : PathOf kind names) (segments : List String) :
    PathOf kind (segments.foldl (Segments.push kind) names) ∧
      (names ≠ [] → segments.foldl (Segments.push kind) names ≠ []) := by
  induction segments generalizing names with
  | nil => exact ⟨h, id⟩
  | cons s segments ih =>
    obtain ⟨hp, hne⟩ := ih (h.push s)
    exact ⟨hp, fun hn => hne (push_ne_nil hn s)⟩

theorem Canonical.join (h : u.Canonical) (hv : u.join segments = .ok v) : v.Canonical := by
  obtain ⟨scheme, authority, path, query, fragment⟩ := u
  have hplaced := h.placed
  unfold Url.join at hv
  simp only at hplaced hv
  refine ⟨?_, ?_, ?_⟩
  · cases path <;> cases hv
    exact h.scheme
  · cases hplaced with
    | hosted hk ha hp =>
      cases hv
      exact .hosted hk ha (hp.dropEmptyLast.foldl_push segments).1
    | file hk hh hp =>
      cases hv
      have hgrown := (hk ▸ hp : PathOf (kindOf scheme) _).dropEmptyLast.foldl_push segments
      exact .file hk hh (hk ▸ hgrown.1)
    | rooted hk hp hne =>
      cases hv
      have hgrown := (hk ▸ hp : PathOf (kindOf scheme) _).dropEmptyLast.foldl_push segments
      exact .rooted hk (hk ▸ hgrown.1) (hgrown.2 (dropEmptyLast_ne_nil hne))
    | whole hk ht => cases hv
  · cases path <;> cases hv
    exact h.tail

/-! Changing a query. -/

theorem keptBy_pairs (special : Bool) (pairs : Pairs) :
    KeptBy (keepsQuery special) (Query.encode pairs) := by
  refine @Query.forall_mem_encode (fun c => c.toNat < 128 ∧ keepsQuery special c = true)
    (fun c hascii hk => ⟨hascii, ?_⟩) ?_ ?_ pairs
  · exact Text.of_ascii hascii (by cases special <;> decide +kernel) hk
  · exact Text.forall_of_all (by cases special <;> decide)
  · cases special <;> decide +kernel

theorem Canonical.withPairs (h : u.Canonical) (pairs : Pairs) : (u.withPairs pairs).Canonical where
  scheme := h.scheme
  placed := h.placed
  tail := ⟨fun _ hq => Option.some.inj hq ▸ keptBy_pairs _ pairs, h.tail.fragment⟩

theorem Canonical.appendPairs (h : u.Canonical) (pairs : Pairs) :
    (u.appendPairs pairs).Canonical where
  scheme := h.scheme
  placed := h.placed
  tail := by
    have hadded := keptBy_pairs (kindOf u.scheme ≠ .other) pairs
    have hmark : ∀ special, keepsQuery special '&' = true := by decide
    refine ⟨fun q hq => ?_, h.tail.fragment⟩
    cases hq
    split
    · exact hadded
    · exact hadded
    · rename_i q _ hq
      have hkept := h.tail.query q hq
      split
      · exact hkept
      · intro c hc
        rw [String.toList_append, String.toList_append, List.append_assoc, List.mem_append,
          List.mem_append] at hc
        rcases hc with hc | hc | hc
        · exact hkept c hc
        · obtain rfl : c = '&' := List.mem_singleton.mp hc
          exact ⟨by decide, hmark _⟩
        · exact hadded c hc

/-- Every URL that is built is as reading leaves it. -/
theorem Built.canonical (h : Built u) : u.Canonical := by
  induction h with
  | parsed h => exact canonical_of_parse h
  | joined _ hv ih => exact ih.join hv
  | appended _ pairs ih => exact ih.appendPairs pairs
  | replaced _ pairs ih => exact ih.withPairs pairs

end CloudEmulation.Url
