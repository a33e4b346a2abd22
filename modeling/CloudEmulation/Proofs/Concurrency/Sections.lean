import CloudEmulation.Proofs.Emulation.Responses
import Mathlib.Data.List.Infix
/-!
Sections of a program with those of others between them. A cloud only ever gains instances, so what
a program has read of them stays true, and what is left of it may draw identifiers but decides
nothing any more.
-/

namespace CloudEmulation

namespace CloudState

variable {c : Configuration} {s s' s'' : CloudState}

/-- Nothing but identifiers was drawn. -/
def Redrawn (s s' : CloudState) : Prop := s' = { s with generator := s'.generator }

theorem redrawn_with (s : CloudState) (g : Generator) : s.Redrawn { s with generator := g } := rfl

theorem redrawn_draw (s : CloudState) (f : Generator → String × Generator) :
    s.Redrawn (s.draw f).2 := rfl

namespace Redrawn

theorem refl (s : CloudState) : s.Redrawn s := rfl

theorem trans (h : s.Redrawn s') (k : s'.Redrawn s'') : s.Redrawn s'' := by
  rw [Redrawn] at *
  rw [k, h]

theorem symm (h : s.Redrawn s') : s'.Redrawn s := by
  rw [Redrawn] at *
  rw [h]

/-- What is drawn next decides all that is left to tell such states apart. -/
theorem reseed (h : s.Redrawn s') (g : Generator) :
    { s with generator := g } = { s' with generator := g } := by
  rw [Redrawn] at h
  rw [h]

theorem eq_of_generator (h : s.Redrawn s') (hg : s.generator = s'.generator) : s = s' := by
  rw [Redrawn, ← hg] at h
  exact h.symm

theorem instances (h : s.Redrawn s') : s'.instances = s.instances := by
  rw [Redrawn] at h
  rw [h]

theorem locators (h : s.Redrawn s') : s'.locators = s.locators := by
  rw [Redrawn] at h
  rw [h]

theorem pool (h : s.Redrawn s') : s'.pool = s.pool := by
  rw [Redrawn] at h
  rw [h]

theorem kept (h : s.Redrawn s') (hp : s.pool.Valid) : s.Kept s' where
  instances := h.instances
  locators := h.locators
  pool := by
    rw [h.pool]
    exact .refl hp

end Redrawn

theorem Sound.redrawn (h : s.Sound c) (k : s.Redrawn s') : s'.Sound c := h.kept (k.kept h.pool)

/-- All instances stay where they are, and others may come after them. -/
structure Grows (c : Configuration) (s s' : CloudState) : Prop where
  sound : s'.Sound c
  instances : s.instances.entries <+: s'.instances.entries

namespace Grows

theorem refl (h : s.Sound c) : s.Grows c s := ⟨h, List.prefix_rfl⟩

theorem trans (h : s.Grows c s') (k : s'.Grows c s'') : s.Grows c s'' :=
  ⟨k.sound, h.instances.trans k.instances⟩

theorem redrawn (h : s.Sound c) (k : s.Redrawn s') : s.Grows c s' :=
  ⟨h.redrawn k, by rw [k.instances]⟩

theorem kept (h : s.Sound c) (k : s.Kept s') : s.Grows c s' := ⟨h.kept k, by rw [k.instances]⟩

theorem added {scope : Scope} {i : Instance} (h : s.Sound c) (k : s.Added c scope i s') :
    s.Grows c s' := by
  refine ⟨h.added k, ?_⟩
  rw [k.instances]
  exact List.prefix_append _ _

theorem mem_list (h : s.Grows c s') {scope : Scope} {i : Instance}
    (hi : i ∈ s.instances.list scope) : i ∈ s'.instances.list scope :=
  Store.mem_list.mpr (h.instances.subset (Store.mem_list.mp hi))

/-- Without instances nothing has to stay. -/
theorem of_empty (he : s.instances = .empty) (h : s'.Sound c) : s.Grows c s' := by
  refine ⟨h, ?_⟩
  rw [he]
  exact List.nil_prefix

end Grows

theorem exists_empty (c : Configuration) (g : Generator) :
    ∃ s : CloudState, s.Sound c ∧ s.instances = .empty ∧ s.generator = g := by
  have hp : (⟨0, 0, 2, [], ""⟩ : AddressPool).Valid :=
    ⟨Nat.le_refl _, fun n _ _ hn => absurd hn (Nat.not_lt_zero n), by simp⟩
  exact ⟨_, .empty hp rfl g, rfl, rfl⟩

end CloudState

namespace Program

variable {α β : Type} {c : Configuration} {R : α → Prop} {p : Program CloudState α}
  {s s' : CloudState}

/-- A section that neither reads nor writes more than the generator of identifiers. -/
def Draws (act : CloudState → CloudState) (next : CloudState → Program CloudState α) : Prop :=
  ∀ s, s.Redrawn (act s) ∧ ∀ t, t.generator = s.generator →
    next t = next s ∧ (act t).generator = (act s).generator

/-- Whatever is added between the sections that are left, they only draw identifiers and their
result is one of some. -/
def Settled (c : Configuration) (R : α → Prop) : Program CloudState α → CloudState → Prop
  | .done a, _ => R a
  | .atomic act next, s => ∀ s', s.Grows c s' → s'.Redrawn (act s') ∧ Settled c R (next s') s'

namespace Settled

theorem mono (h : p.Settled c R s) (k : s.Grows c s') : p.Settled c R s' := by
  cases p with
  | done a => exact h
  | atomic act next => exact fun t kt => h t (k.trans kt)

theorem bind {R' : β → Prop} {f : α → Program CloudState β} (h : p.Settled c R s) (hs : s.Sound c)
    (hf : ∀ a s', R a → s.Grows c s' → (f a).Settled c R' s') : (p.bind f).Settled c R' s := by
  induction p generalizing s with
  | done a => exact hf a s h (.refl hs)
  | atomic act next ih =>
    intro s' k
    exact ⟨(h s' k).1, ih s' (h s' k).2 k.sound fun a t hR kt => hf a t hR (k.trans kt)⟩

/-- A section that comes next. -/
theorem next {act : CloudState → CloudState} {next : CloudState → Program CloudState α}
    (h : (Program.atomic act next).Settled c R s) (hs : s.Sound c) :
    s.Redrawn (act s) ∧ (next s).Settled c R (act s) := by
  obtain ⟨hr, hn⟩ := h s (.refl hs)
  exact ⟨hr, hn.mono (.redrawn hs hr)⟩

/-- What is left can be run at once. -/
theorem run (h : p.Settled c R s) (hs : s.Sound c) : R (p.run s).1 ∧ s.Redrawn (p.run s).2 := by
  induction p generalizing s with
  | done a => exact ⟨h, .refl s⟩
  | atomic act next ih =>
    obtain ⟨hr, hn⟩ := h.next hs
    obtain ⟨ha, hd⟩ := ih s hn (hs.redrawn hr)
    exact ⟨ha, hr.trans hd⟩

end Settled

end Program

end CloudEmulation
