import CloudEmulation.Emulation.Seeding
/-!
Handlers executed alone: what they answer and the state they leave.
-/

namespace CloudEmulation

namespace Handler

variable {α β : Type}

def exec (h : Handler α) (s : CloudState) : Except Fault α × CloudState :=
  Program.run (ExceptT.run h) s

theorem exec_bind (h : Handler α) (f : α → Handler β) (s : CloudState) :
    (h >>= f).exec s = match h.exec s with
      | (.ok a, s) => (f a).exec s
      | (.error e, s) => (.error e, s) := by
  have hb : (h >>= f).exec s = _ := Program.run_bind (ExceptT.run h) _ s
  rw [hb]
  unfold exec
  rcases Program.run (ExceptT.run h) s with ⟨_ | a, s'⟩ <;> rfl

theorem exec_bind_ok {h : Handler α} {s s' : CloudState} {a : α} (f : α → Handler β)
    (hs : h.exec s = (.ok a, s')) : (h >>= f).exec s = (f a).exec s' := by
  rw [exec_bind, hs]

theorem exec_bind_error {h : Handler α} {s s' : CloudState} {e : Fault} (f : α → Handler β)
    (hs : h.exec s = (.error e, s')) : (h >>= f).exec s = (.error e, s') := by
  rw [exec_bind, hs]

@[simp] theorem exec_pure (a : α) (s : CloudState) : (pure a : Handler α).exec s = (.ok a, s) := rfl

@[simp] theorem exec_throw (f : Fault) (s : CloudState) :
    (throw f : Handler α).exec s = (.error f, s) := rfl

@[simp] theorem exec_liftExcept (r : Except Fault α) (s : CloudState) :
    (liftExcept r).exec s = (r, s) := rfl

@[simp] theorem exec_refuse (r : Reason) (s : CloudState) :
    (refuse r : Handler α).exec s = (.error (.invalidArgument r), s) := rfl

@[simp] theorem exec_look (f : CloudState → α) (s : CloudState) :
    (look f).exec s = (.ok (f s), s) := rfl

@[simp] theorem exec_lookup (f : CloudState → Except Fault α) (s : CloudState) :
    (lookup f).exec s = (f s, s) := rfl

@[simp] theorem exec_atomically (f : CloudState → Except Fault α × CloudState) (s : CloudState) :
    (atomically f).exec s = f s := rfl

@[simp] theorem exec_lift (p : Program CloudState α) (s : CloudState) :
    exec (ExceptT.lift p) s = (.ok (p.run s).1, (p.run s).2) := by
  have hb : exec (ExceptT.lift p) s = _ := Program.run_bind p _ s
  rw [hb]
  rfl

@[simp] theorem exec_bind_liftExcept_ok (a : α) (f : α → Handler β) (s : CloudState) :
    (liftExcept (.ok a) >>= f).exec s = (f a).exec s := exec_bind_ok f rfl

@[simp] theorem exec_bind_liftExcept_error (e : Fault) (f : α → Handler β) (s : CloudState) :
    (liftExcept (.error e) >>= f).exec s = (.error e, s) := exec_bind_error f rfl

theorem exec_bind_atomically_ok {g : CloudState → Except Fault α × CloudState} {s s' : CloudState}
    {a : α} (f : α → Handler β) (hs : g s = (.ok a, s')) :
    (atomically g >>= f).exec s = (f a).exec s' := exec_bind_ok f hs

theorem exec_bind_atomically_error {g : CloudState → Except Fault α × CloudState}
    {s s' : CloudState} {e : Fault} (f : α → Handler β) (hs : g s = (.error e, s')) :
    (atomically g >>= f).exec s = (.error e, s') := exec_bind_error f hs

/-! What a result tells of the steps that led to it. -/

theorem exec_bind_eq_ok {h : Handler α} {f : α → Handler β} {s s' : CloudState} {b : β} :
    (h >>= f).exec s = (.ok b, s') ↔
      ∃ a s₁, h.exec s = (.ok a, s₁) ∧ (f a).exec s₁ = (.ok b, s') := by
  rw [exec_bind]
  cases h.exec s with
  | mk r s₁ =>
    cases r with
    | ok a =>
      refine ⟨fun hf => ⟨a, s₁, rfl, hf⟩, ?_⟩
      rintro ⟨_, _, ⟨⟩, hf⟩
      exact hf
    | error e => simp

theorem exec_liftExcept_bind_eq_ok {r : Except Fault α} {f : α → Handler β} {s s' : CloudState}
    {b : β} : (liftExcept r >>= f).exec s = (.ok b, s') ↔
      ∃ a, r = .ok a ∧ (f a).exec s = (.ok b, s') := by
  cases r with
  | ok a => simp
  | error e => simp

theorem exec_lookup_bind_eq_ok {g : CloudState → Except Fault α} {f : α → Handler β}
    {s s' : CloudState} {b : β} : (lookup g >>= f).exec s = (.ok b, s') ↔
      ∃ a, g s = .ok a ∧ (f a).exec s = (.ok b, s') := by
  rw [exec_bind, exec_lookup]
  cases g s with
  | ok a => simp
  | error e => simp

end Handler

namespace Emulator

theorem run_respond (e : Emulator) (now : Timestamp) (r : Http.Request) (s : CloudState) :
    (e.respond now r).run s = match (e.handle now r).exec s with
      | (.ok response, s) => (response, s)
      | (.error f, s) => (e.refusal f).run s := by
  have hb : (e.respond now r).run s = _ := Program.run_bind (e.handle now r).run _ s
  rw [hb]
  unfold Handler.exec
  rcases Program.run (ExceptT.run (e.handle now r)) s with ⟨_ | a, s'⟩ <;> rfl

end Emulator

end CloudEmulation
