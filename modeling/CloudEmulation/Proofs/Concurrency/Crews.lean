import CloudEmulation.Proofs.Concurrency.Sections
import Mathlib.Logic.Function.Basic
import Mathlib.Logic.Relation
/-!
Programs whose sections interleave on one cloud, and the same programs one after another. Where the
first section of a program settles its result, both come to the same: the order is that in which the
programs first read or wrote more than the generator of identifiers.
-/

namespace CloudEmulation

open Program (Draws)

variable {ι α V : Type} [DecidableEq ι]

/-- Programs as far as they have come. `source` is the generator that the first section of a program
found; `touched` lists the programs with a section that reads or writes more than the generator, in
the order of their first one. -/
structure Crew (ι α : Type) where
  programs : ι → Program CloudState α
  state : CloudState
  source : ι → Option Generator
  touched : List ι

namespace Crew

omit [DecidableEq ι] in
/-- None of the programs has begun. -/
def waiting (programs : ι → Program CloudState α) (s : CloudState) : Crew ι α :=
  ⟨programs, s, fun _ => none, []⟩

/-- The next section of one program. -/
def advance (crew : Crew ι α) (i : ι) (act : CloudState → CloudState)
    (next : CloudState → Program CloudState α) (touched : List ι) : Crew ι α where
  programs := Function.update crew.programs i (next crew.state)
  state := act crew.state
  source := Function.update crew.source i (some ((crew.source i).getD crew.state.generator))
  touched := touched

section Advancing

variable {crew : Crew ι α} {i j : ι} {act : CloudState → CloudState}
  {next : CloudState → Program CloudState α} {touched : List ι}

@[simp]
theorem programs_advance_self : (crew.advance i act next touched).programs i = next crew.state :=
  Function.update_self ..

@[simp]
theorem source_advance_self : (crew.advance i act next touched).source i =
    some ((crew.source i).getD crew.state.generator) := Function.update_self ..

theorem programs_advance_ne (h : j ≠ i) :
    (crew.advance i act next touched).programs j = crew.programs j := Function.update_of_ne h ..

theorem source_advance_ne (h : j ≠ i) :
    (crew.advance i act next touched).source j = crew.source j := Function.update_of_ne h ..

end Advancing

/-- Any program that is not done may have its next section. -/
inductive Step (crew : Crew ι α) : Crew ι α → Prop
  | pass {i act next} : crew.programs i = .atomic act next → Draws act next ∨ i ∈ crew.touched →
    Step crew (crew.advance i act next crew.touched)
  | touch {i act next} : crew.programs i = .atomic act next → ¬Draws act next → i ∉ crew.touched →
    Step crew (crew.advance i act next (crew.touched ++ [i]))

/-- What any number of sections can lead to. -/
abbrev Reaches (crew crew' : Crew ι α) : Prop := Relation.ReflTransGen Step crew crew'

def Finished (crew : Crew ι α) (answers : ι → α) : Prop := ∀ i, crew.programs i = .done (answers i)

/-- The generator that a program began with, or what there is where it has not begun. -/
def seed (crew : Crew ι α) (i : ι) (g : Generator) : Generator := (crew.source i).getD g

end Crew

/-- What programs come to when their sections follow a schedule. -/
def interleave (programs : ι → Program CloudState α) (s : CloudState) :
    List ι → (ι → Program CloudState α) × CloudState
  | [] => (programs, s)
  | i :: rest =>
    match programs i with
    | .done _ => interleave programs s rest
    | .atomic act next => interleave (Function.update programs i (next s)) (act s) rest

theorem Crew.exists_interleaved (schedule : List ι) (crew : Crew ι α) :
    ∃ crew', crew.Reaches crew' ∧
      (crew'.programs, crew'.state) = interleave crew.programs crew.state schedule := by
  induction schedule generalizing crew with
  | nil => exact ⟨crew, .refl, rfl⟩
  | cons i rest ih =>
    cases hp : crew.programs i with
    | done a =>
      obtain ⟨crew', hr, he⟩ := ih crew
      refine ⟨crew', hr, he.trans ?_⟩
      rw [interleave, hp]
    | atomic act next =>
      have hstep : ∃ touched, crew.Step (crew.advance i act next touched) := by
        by_cases h : Draws act next ∨ i ∈ crew.touched
        · exact ⟨_, .pass hp h⟩
        · exact ⟨_, .touch hp (fun hd => h (.inl hd)) fun hi => h (.inr hi)⟩
      obtain ⟨touched, hstep⟩ := hstep
      obtain ⟨crew', hr, he⟩ := ih (crew.advance i act next touched)
      refine ⟨crew', .head hstep hr, he.trans ?_⟩
      rw [interleave, hp]
      rfl

omit [DecidableEq ι] in
/-- The result of a program that is done. -/
def Program.result? : Program CloudState α → Option α
  | .done a => some a
  | .atomic _ _ => none

omit [DecidableEq ι] in
theorem Program.eq_done_of_result? {p : Program CloudState α} {a : α} (h : p.result? = some a) :
    p = .done a := by
  cases p with
  | done b =>
    cases h
    rfl
  | atomic act next => cases h

/-- A schedule that lets all programs finish is one way for them to interleave. -/
theorem Crew.exists_finished {programs : ι → Program CloudState α} {s : CloudState}
    {schedule : List ι} {answers : ι → α}
    (h : ∀ i, ((interleave programs s schedule).1 i).result? = some (answers i)) :
    ∃ crew, (Crew.waiting programs s).Reaches crew ∧ crew.Finished answers := by
  obtain ⟨crew, hr, he⟩ := exists_interleaved schedule (Crew.waiting programs s)
  refine ⟨crew, hr, fun i => Program.eq_done_of_result? ?_⟩
  rw [show crew.programs = _ from congrArg Prod.fst he]
  exact h i

omit [DecidableEq ι] in
/-- Programs run one after another, each from the generator that `seed` makes of the present one:
their generators and results, and the state in the end. -/
def serve (programs : ι → Program CloudState α) (seed : ι → Generator → Generator) :
    List ι → CloudState → List (ι × Generator × α) × CloudState
  | [], s => ([], s)
  | i :: rest, s =>
    let g := seed i s.generator
    let out := (programs i).run { s with generator := g }
    let more := serve programs seed rest out.2
    ((i, g, out.1) :: more.1, more.2)

section Serving

variable {programs : ι → Program CloudState α} {seed seed' : ι → Generator → Generator}
  {order : List ι} {s : CloudState} {i : ι} {e : ι × Generator × α}

omit [DecidableEq ι]

theorem map_serve (programs : ι → Program CloudState α) (seed : ι → Generator → Generator)
    (order : List ι) (s : CloudState) : (serve programs seed order s).1.map Prod.fst = order := by
  induction order generalizing s with
  | nil => rfl
  | cons j rest ih => rw [serve, List.map_cons, ih]

theorem mem_of_serve (h : e ∈ (serve programs seed order s).1) : e.1 ∈ order := by
  have hm := List.mem_map_of_mem (f := Prod.fst) h
  rwa [map_serve] at hm

theorem serve_append (first rest : List ι) (s : CloudState) :
    serve programs seed (first ++ rest) s =
      ((serve programs seed first s).1 ++
          (serve programs seed rest (serve programs seed first s).2).1,
        (serve programs seed rest (serve programs seed first s).2).2) := by
  induction first generalizing s with
  | nil => rfl
  | cons i first ih =>
    simp only [List.cons_append, serve, ih]

theorem serve_congr (h : ∀ i ∈ order, seed i = seed' i) (s : CloudState) :
    serve programs seed order s = serve programs seed' order s := by
  induction order generalizing s with
  | nil => rfl
  | cons i rest ih =>
    have hrest := ih fun j hj => h j (List.mem_cons_of_mem _ hj)
    simp only [serve, h i List.mem_cons_self, hrest]

end Serving

/-- The first section of a program settles its result up to what `admits` allows. -/
def Program.Serves (c : Configuration) (admits : V → α → Prop) (p : Program CloudState α) : Prop :=
  ∀ act next, p = .atomic act next → ∀ s, s.Sound c →
    ∃ v, s.Grows c (act s) ∧ (next s).Settled c (admits v) (act s)

/-- Whether a program, wherever it is run from a generator, leaves the stores alone and has a result
of a kind. -/
def Program.Passes (c : Configuration) (R : α → Prop) (g : Generator) (p : Program CloudState α) :
    Prop :=
  ∀ s, s.Sound c → s.generator = g → R (p.run s).1 ∧ s.Redrawn (p.run s).2

theorem Program.Serves.passes {c : Configuration} {admits : V → α → Prop}
    {act : CloudState → CloudState} {next : CloudState → Program CloudState α}
    (h : (Program.atomic act next).Serves c admits) (hd : Draws act next) (g : Generator) :
    ∃ v, (Program.atomic act next).Passes c (admits v) g ∧
      ∀ s, s.Sound c → s.generator = g → (next s).Settled c (admits v) (act s) := by
  -- The section goes on in every state as it does in one without instances.
  obtain ⟨e, he, hempty, hg⟩ := CloudState.exists_empty c g
  obtain ⟨v, -, hw⟩ := h act next rfl e he
  have hsettled : ∀ s, s.Sound c → s.generator = g →
      (next s).Settled c (admits v) (act s) := by
    intro s hs hsg
    obtain ⟨hr, -⟩ := hd s
    rw [((hd e).2 s (hsg.trans hg.symm)).1]
    exact hw.mono (.of_empty ((hd e).1.instances.trans hempty) (hs.redrawn hr))
  refine ⟨v, ?_, hsettled⟩
  intro s hs hsg
  obtain ⟨hr, -⟩ := hd s
  obtain ⟨ha, hk⟩ := (hsettled s hs hsg).run (hs.redrawn hr)
  exact ⟨ha, hr.trans hk⟩

theorem Program.Serves.grows_run {c : Configuration} {admits : V → α → Prop}
    {p : Program CloudState α} {s : CloudState} (h : p.Serves c admits) (hs : s.Sound c) :
    s.Grows c (p.run s).2 := by
  cases p with
  | done a => exact .refl hs
  | atomic act next =>
    obtain ⟨v, hg, hw⟩ := h act next rfl s hs
    exact hg.trans (.redrawn hg.sound (hw.run hg.sound).2)

/-- What interleaved programs have in common with those that touched something, run one after
another. -/
structure Crew.Tracks (c : Configuration) (admits : V → α → Prop)
    (programs : ι → Program CloudState α) (s : CloudState) (crew : Crew ι α) (v : ι → V) :
    Prop where
  sound : crew.state.Sound c
  served : (serve programs crew.seed crew.touched s).2.Redrawn crew.state
  answered : ∀ e ∈ (serve programs crew.seed crew.touched s).1, admits (v e.1) e.2.2
  nodup : crew.touched.Nodup
  begun : ∀ i ∈ crew.touched, crew.source i ≠ none
  waiting : ∀ i, crew.source i = none → crew.programs i = programs i
  settled : ∀ i, crew.source i ≠ none → (crew.programs i).Settled c (admits (v i)) crew.state
  untouched : ∀ i g, crew.source i = some g → i ∉ crew.touched →
    (programs i).Passes c (admits (v i)) g

namespace Crew.Tracks

variable {c : Configuration} {admits : V → α → Prop} {programs : ι → Program CloudState α}
  {s : CloudState} {crew crew' : Crew ι α} {v : ι → V} {i : ι} {act : CloudState → CloudState}
  {next : CloudState → Program CloudState α} {touched : List ι} {w : V}

omit [DecidableEq ι] in
theorem start (h : s.Sound c) (v : ι → V) :
    (Crew.waiting programs s).Tracks c admits programs s v where
  sound := h
  served := .refl s
  answered := by simp [Crew.waiting, serve]
  nodup := List.nodup_nil
  begun := by simp [Crew.waiting]
  waiting := by simp [Crew.waiting]
  settled := by simp [Crew.waiting]
  untouched := by simp [Crew.waiting]

theorem waiting_advance (h : crew.Tracks c admits programs s v) (j : ι)
    (hj : (crew.advance i act next touched).source j = none) :
    (crew.advance i act next touched).programs j = programs j := by
  have hne : j ≠ i := by
    rintro rfl
    simp at hj
  rw [source_advance_ne hne] at hj
  rw [programs_advance_ne hne, h.waiting j hj]

theorem settled_advance (h : crew.Tracks c admits programs s v)
    (hg : crew.state.Grows c (act crew.state))
    (hw : (next crew.state).Settled c (admits w) (act crew.state)) (j : ι)
    (hj : (crew.advance i act next touched).source j ≠ none) :
    ((crew.advance i act next touched).programs j).Settled c
      (admits (Function.update v i w j)) (act crew.state) := by
  by_cases he : j = i
  · subst he
    rwa [programs_advance_self, Function.update_self]
  · rw [source_advance_ne he] at hj
    rw [programs_advance_ne he, Function.update_of_ne he]
    exact (h.settled j hj).mono hg

theorem begun_advance (h : crew.Tracks c admits programs s v) (j : ι)
    (hj : j = i ∨ j ∈ crew.touched) : (crew.advance i act next touched).source j ≠ none := by
  by_cases he : j = i
  · simp [he]
  · rw [source_advance_ne he]
    exact h.begun j (hj.resolve_left he)

theorem untouched_advance (h : crew.Tracks c admits programs s v) {j : ι} {g : Generator}
    (hne : j ≠ i) (hg : (crew.advance i act next touched).source j = some g)
    (hj : j ∉ crew.touched) : (programs j).Passes c (admits (Function.update v i w j)) g := by
  rw [source_advance_ne hne] at hg
  rw [Function.update_of_ne hne]
  exact h.untouched j g hg hj

theorem seed_advance {j : ι} (h : j = i → crew.source i ≠ none) :
    (crew.advance i act next touched).seed j = crew.seed j := by
  funext g
  by_cases he : j = i
  · subst he
    obtain ⟨g', hg⟩ := Option.ne_none_iff_exists'.mp (h rfl)
    simp [Crew.seed, hg]
  · rw [Crew.seed, Crew.seed, source_advance_ne he]

/-- The programs that touched something are run from the generators that they had before. -/
theorem serve_advance (h : crew.Tracks c admits programs s v) (i : ι) :
    serve programs (crew.advance i act next touched).seed crew.touched s =
      serve programs crew.seed crew.touched s :=
  serve_congr (fun j hj => seed_advance fun he => he ▸ h.begun j hj) s

/-- Where a program touches something, it is run after the others that did. -/
theorem serve_touch (h : crew.Tracks c admits programs s v) (i : ι) :
    let before := serve programs crew.seed crew.touched s
    let g := (crew.source i).getD crew.state.generator
    let out := (programs i).run { before.2 with generator := g }
    serve programs (crew.advance i act next touched).seed (crew.touched ++ [i]) s =
      (before.1 ++ [(i, g, out.1)], out.2) := by
  intro before g out
  have hseed (g' : Generator) : (crew.advance i act next touched).seed i g' = g := by
    rw [Crew.seed, source_advance_self, Option.getD_some]
  rw [serve_append, h.serve_advance]
  simp only [serve, hseed]
  rfl

theorem answered_advance (h : crew.Tracks c admits programs s v) (hv : i ∈ crew.touched → w = v i) :
    ∀ e ∈ (serve programs crew.seed crew.touched s).1,
      admits (Function.update v i w e.1) e.2.2 := by
  intro e he
  have ha := h.answered e he
  by_cases hi : e.1 = i
  · rw [hi, Function.update_self, hv (hi ▸ mem_of_serve he), ← hi]
    exact ha
  · rwa [Function.update_of_ne hi]

/-- A section that draws identifiers at most. -/
theorem pass (h : crew.Tracks c admits programs s v) (hr : crew.state.Redrawn (act crew.state))
    (hw : (next crew.state).Settled c (admits w) (act crew.state))
    (hv : i ∈ crew.touched → w = v i)
    (hu : i ∉ crew.touched →
      (programs i).Passes c (admits w) ((crew.source i).getD crew.state.generator)) :
    (crew.advance i act next crew.touched).Tracks c admits programs s
      (Function.update v i w) where
  sound := h.sound.redrawn hr
  served := by
    show (serve programs _ crew.touched s).2.Redrawn (act crew.state)
    rw [h.serve_advance]
    exact h.served.trans hr
  answered := by
    show ∀ e ∈ (serve programs _ crew.touched s).1, _
    rw [h.serve_advance]
    exact h.answered_advance hv
  nodup := h.nodup
  begun j hj := h.begun_advance j (.inr hj)
  waiting := h.waiting_advance
  settled := h.settled_advance (.redrawn h.sound hr) hw
  untouched := by
    intro j g hg hj
    by_cases hi : j = i
    · subst hi
      rw [source_advance_self, Option.some.injEq] at hg
      rw [Function.update_self, ← hg]
      exact hu hj
    · exact h.untouched_advance hi hg hj

/-- The first section of a program that reads or writes more. -/
theorem touch (h : crew.Tracks c admits programs s v) (hi : i ∉ crew.touched)
    (hg : crew.state.Grows c (act crew.state))
    (hw : (next crew.state).Settled c (admits w) (act crew.state))
    (hrun : ∀ t, t.Redrawn crew.state →
      t.generator = (crew.source i).getD crew.state.generator →
      admits w ((programs i).run t).1 ∧ ((programs i).run t).2.Redrawn (act crew.state)) :
    (crew.advance i act next (crew.touched ++ [i])).Tracks c admits programs s
      (Function.update v i w) := by
  have hlast := hrun { (serve programs crew.seed crew.touched s).2 with
    generator := (crew.source i).getD crew.state.generator }
    ((CloudState.redrawn_with _ _).symm.trans h.served) rfl
  exact {
    sound := hg.sound
    served := by
      show (serve programs _ (crew.touched ++ [i]) s).2.Redrawn (act crew.state)
      rw [h.serve_touch]
      exact hlast.2
    answered := by
      show ∀ e ∈ (serve programs _ (crew.touched ++ [i]) s).1, _
      rw [h.serve_touch]
      refine List.forall_mem_append.mpr ⟨h.answered_advance fun hm => absurd hm hi, ?_⟩
      rw [List.forall_mem_singleton, Function.update_self]
      exact hlast.1
    nodup := List.nodup_append.mpr ⟨h.nodup, List.nodup_singleton i,
      fun a ha b hb he => hi (List.mem_singleton.mp hb ▸ he ▸ ha)⟩
    begun j hj := h.begun_advance j
      ((List.mem_append.mp hj).symm.imp_left List.mem_singleton.mp)
    waiting := h.waiting_advance
    settled := h.settled_advance hg hw
    untouched j g hg hj := h.untouched_advance
      (fun he => hj (List.mem_append_right _ (he ▸ List.mem_singleton_self j))) hg
      fun hm => hj (List.mem_append_left _ hm) }

theorem step_pass (h : crew.Tracks c admits programs s v)
    (hserves : ∀ i, (programs i).Serves c admits) (hp : crew.programs i = .atomic act next)
    (hor : Draws act next ∨ i ∈ crew.touched) :
    (∃ v', (crew.advance i act next crew.touched).Tracks c admits programs s v') ∧
      crew.state.Grows c (act crew.state) := by
  cases hsource : crew.source i with
  | none =>
    -- The section is the first one, so that it cannot be that of a program that touched.
    have hi : i ∉ crew.touched := fun hm => h.begun i hm hsource
    have hd : Draws act next := hor.resolve_right hi
    have he := (h.waiting i hsource).symm.trans hp
    obtain ⟨w, hpass, hw⟩ := Program.Serves.passes (he ▸ hserves i) hd crew.state.generator
    have hr := (hd crew.state).1
    refine ⟨⟨_, h.pass hr (hw _ h.sound rfl) (fun hm => absurd hm hi) fun _ => ?_⟩,
      .redrawn h.sound hr⟩
    rw [he, hsource]
    exact hpass
  | some g =>
    have hset := h.settled i (by simp [hsource])
    rw [hp] at hset
    obtain ⟨hr, hw⟩ := hset.next h.sound
    refine ⟨⟨_, h.pass hr hw (fun _ => rfl) fun hi => ?_⟩, .redrawn h.sound hr⟩
    rw [hsource]
    exact h.untouched i g hsource hi

theorem step_touch (h : crew.Tracks c admits programs s v)
    (hserves : ∀ i, (programs i).Serves c admits) (hp : crew.programs i = .atomic act next)
    (hi : i ∉ crew.touched) :
    (∃ v', (crew.advance i act next (crew.touched ++ [i])).Tracks c admits programs s v') ∧
      crew.state.Grows c (act crew.state) := by
  cases hsource : crew.source i with
  | none =>
    have he := (h.waiting i hsource).symm.trans hp
    obtain ⟨w, hg, hw⟩ := hserves i act next he crew.state h.sound
    refine ⟨⟨_, h.touch hi hg hw ?_⟩, hg⟩
    intro t ht htg
    rw [hsource] at htg
    rw [ht.eq_of_generator htg, he]
    obtain ⟨ha, hk⟩ := hw.run hg.sound
    exact ⟨ha, hk.symm⟩
  | some g =>
    -- What the program did so far was to draw, and its result was settled then.
    have hset := h.settled i (by simp [hsource])
    rw [hp] at hset
    obtain ⟨hr, hw⟩ := hset.next h.sound
    refine ⟨⟨_, h.touch hi (.redrawn h.sound hr) hw ?_⟩, .redrawn h.sound hr⟩
    intro t ht htg
    rw [hsource] at htg
    obtain ⟨ha, hk⟩ := h.untouched i g hsource hi t (h.sound.redrawn ht.symm) htg
    exact ⟨ha, hk.symm.trans (ht.trans hr)⟩

theorem step (h : crew.Tracks c admits programs s v) (hserves : ∀ i, (programs i).Serves c admits)
    (k : crew.Step crew') :
    (∃ v', crew'.Tracks c admits programs s v') ∧ crew.state.Grows c crew'.state := by
  cases k with
  | pass hp hor => exact h.step_pass hserves hp hor
  | touch hp _ hi => exact h.step_touch hserves hp hi

theorem reaches (h : crew.Tracks c admits programs s v)
    (hserves : ∀ i, (programs i).Serves c admits) (k : crew.Reaches crew') :
    ∃ v', crew'.Tracks c admits programs s v' := by
  induction k with
  | refl => exact ⟨v, h⟩
  | tail _ k ih =>
    obtain ⟨v', h'⟩ := ih
    exact (h'.step hserves k).1

/-- What is settled of a program stays settled. -/
theorem settled_reaches (h : crew.Tracks c admits programs s v)
    (hserves : ∀ i, (programs i).Serves c admits) (k : crew.Reaches crew') {R : α → Prop}
    (hi : (crew.programs i).Settled c R crew.state) :
    (crew'.programs i).Settled c R crew'.state := by
  induction k with
  | refl => exact hi
  | @tail crew₁ crew₂ k₁ k₂ ih =>
    obtain ⟨v₁, h₁⟩ := h.reaches hserves k₁
    have hg := (h₁.step hserves k₂).2
    have hset (j : ι) (act next touched) (hp : crew₁.programs j = .atomic act next)
        (hgj : crew₁.state.Grows c (act crew₁.state)) :
        ((crew₁.advance j act next touched).programs i).Settled c R (act crew₁.state) := by
      by_cases he : i = j
      · subst he
        rw [hp] at ih
        rw [programs_advance_self]
        exact (ih.next h₁.sound).2
      · rw [programs_advance_ne he]
        exact ih.mono hgj
    cases k₂ with
    | pass hp _ => exact hset _ _ _ _ hp hg
    | touch hp _ _ => exact hset _ _ _ _ hp hg

end Crew.Tracks

section Serializing

variable {c : Configuration} {programs : ι → Program CloudState α}
  {seed : ι → Generator → Generator} {touched order : List ι} {s t : CloudState}

omit [DecidableEq ι] in
/-- Programs that leave the stores alone can be run at any place between the others. -/
theorem serve_sublist {R : ι → α → Prop} (h : touched.Sublist order) (hn : order.Nodup)
    (hs : s.Sound c) (hst : s.Redrawn t)
    (hseed : ∀ i ∈ touched, ∀ g g', seed i g = seed i g')
    (hsound : ∀ i, ∀ s, s.Sound c → ((programs i).run s).2.Sound c)
    (hpass : ∀ i ∈ order, i ∉ touched → ∀ g, (programs i).Passes c (R i) (seed i g))
    (hanswers : ∀ e ∈ (serve programs seed touched s).1, R e.1 e.2.2) :
    (serve programs seed touched s).2.Redrawn (serve programs seed order t).2 ∧
      ∀ e ∈ (serve programs seed order t).1, R e.1 e.2.2 := by
  -- The induction is on how the programs that touched something stand among all: the others run
  -- as if they were not there, up to the generator, which the next one is given anew.
  induction h generalizing s t with
  | slnil => exact ⟨hst, by simp [serve]⟩
  | @cons touched order i h ih =>
    obtain ⟨hi, hn'⟩ := List.nodup_cons.mp hn
    have ht : ({ t with generator := seed i t.generator } : CloudState).Sound c :=
      (hs.redrawn hst).redrawn (t.redrawn_with _)
    obtain ⟨ha, hk⟩ := hpass i List.mem_cons_self (fun hm => hi (h.subset hm)) t.generator _ ht rfl
    obtain ⟨hstate, hrest⟩ := ih hn' hs (hst.trans ((t.redrawn_with _).trans hk)) hseed
      (fun j hj => hpass j (List.mem_cons_of_mem _ hj)) hanswers
    refine ⟨hstate, ?_⟩
    simp only [serve, List.forall_mem_cons]
    exact ⟨ha, hrest⟩
  | @cons_cons touched order i h ih =>
    obtain ⟨hi, hn'⟩ := List.nodup_cons.mp hn
    have he : ({ s with generator := seed i s.generator } : CloudState) =
        { t with generator := seed i t.generator } := by
      rw [hseed i List.mem_cons_self s.generator t.generator]
      exact hst.reseed _
    simp only [serve, List.forall_mem_cons] at hanswers ⊢
    rw [← he]
    obtain ⟨hstate, hrest⟩ := ih hn' (hsound i _ (hs.redrawn (s.redrawn_with _))) (.refl _)
      (fun j hj => hseed j (List.mem_cons_of_mem _ hj))
      (fun j hj hjt => hpass j (List.mem_cons_of_mem _ hj) (by
        rintro (hm | ⟨_, hm⟩)
        · exact hi hj
        · exact hjt hm))
      hanswers.2
    exact ⟨hstate, hanswers.1, hrest⟩

/-- Interleaved programs end as they do one after another, in any order that keeps those in place
that touched something. -/
theorem Crew.Finished.serializable {admits : V → α → Prop} {crew : Crew ι α} {answers : ι → α}
    (hs : s.Sound c) (hserves : ∀ i, (programs i).Serves c admits) (hadmits : ∀ a, ∃ v, admits v a)
    (hr : (Crew.waiting programs s).Reaches crew) (hf : crew.Finished answers)
    (ho : crew.touched.Sublist order) (hn : order.Nodup) :
    (serve programs crew.seed order s).2.Redrawn crew.state ∧
      ∀ e ∈ (serve programs crew.seed order s).1,
        ∃ v, admits v (answers e.1) ∧ admits v e.2.2 := by
  obtain ⟨v₀⟩ : Nonempty (ι → V) := ⟨fun i => (hadmits (answers i)).choose⟩
  have hstart : (Crew.waiting programs s).Tracks c admits programs s v₀ := .start hs v₀
  obtain ⟨v, k⟩ := hstart.reaches hserves hr
  have hdone : ∀ i, crew.source i ≠ none → admits (v i) (answers i) := by
    intro i hi
    have hset := k.settled i hi
    rw [hf i] at hset
    exact hset
  have hall : (serve programs crew.seed crew.touched s).2.Redrawn
        (serve programs crew.seed order s).2 ∧
      ∀ e ∈ (serve programs crew.seed order s).1, ∃ v, admits v (answers e.1) ∧ admits v e.2.2 := by
    refine serve_sublist (R := fun i b => ∃ v, admits v (answers i) ∧ admits v b) ho hn hs (.refl s)
      ?_ (fun i s hs => ((hserves i).grows_run hs).sound) ?_ ?_
    · intro i hi g g'
      obtain ⟨g₀, hg₀⟩ := Option.ne_none_iff_exists'.mp (k.begun i hi)
      simp [Crew.seed, hg₀]
    · intro i _ hi g
      cases hsource : crew.source i with
      | none =>
        -- A program without any section is its result.
        rw [← k.waiting i hsource, hf i]
        obtain ⟨w, hw⟩ := hadmits (answers i)
        exact fun s _ _ => ⟨⟨w, hw, hw⟩, .refl s⟩
      | some g₀ =>
        intro s hs hsg
        have hg₀ : s.generator = g₀ := by simpa [Crew.seed, hsource] using hsg
        obtain ⟨ha, hk⟩ := k.untouched i g₀ hsource hi s hs hg₀
        exact ⟨⟨v i, hdone i (by simp [hsource]), ha⟩, hk⟩
    · intro e he
      exact ⟨v e.1, hdone _ (k.begun _ (mem_of_serve he)), k.answered e he⟩
  exact ⟨hall.1.symm.trans k.served, hall.2⟩

end Serializing

end CloudEmulation
