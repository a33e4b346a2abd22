import CloudEmulation.Emulation.Call
import CloudEmulation.Proofs.Cloud.State
/-!
Results whose faults, if any, are faults of the arguments, and handlers that leave everything but the
generator as it is, however they end.
-/

namespace CloudEmulation

def OfArguments {α : Type} (r : Except Fault α) : Prop := ∀ f, r = .error f → f.status = 400

namespace OfArguments

variable {α β : Type}

theorem ok (a : α) : OfArguments (.ok a) := by
  intro f h
  cases h

theorem invalid (reason : Reason) : OfArguments (.error (.invalidArgument reason) : Except Fault α) := by
  intro f h
  cases h
  rfl

theorem bind {r : Except Fault α} {g : α → Except Fault β} (hr : OfArguments r)
    (hg : ∀ a, OfArguments (g a)) : OfArguments (r >>= g) := by
  intro f h
  cases r with
  | error e =>
    cases h
    exact hr f rfl
  | ok a => exact hg a f h

theorem mapM {g : α → Except Fault β} (hg : ∀ a, OfArguments (g a)) (as : List α) :
    OfArguments (as.mapM g) := by
  induction as with
  | nil => exact ok _
  | cons a as ih =>
    rw [List.mapM_cons]
    exact bind (hg a) fun b => bind ih fun bs => ok _

theorem param (call : Call) (name : String) : OfArguments (call.param name) := by
  unfold Call.param
  split
  · exact ok _
  · exact invalid _

end OfArguments

theorem Call.param_eq_ok {call : Call} {name value : String} :
    call.param name = .ok value ↔ call.params.get? name = some value := by
  unfold param
  cases call.params.get? name <;> simp [refusal]

end CloudEmulation

namespace CloudEmulation.Handler

variable {α β : Type}

theorem lookup_cases (s : CloudState) (scope : Scope) (name : String) :
    (∃ i ∈ s.instances.list scope, s.instances.get scope name = .ok i ∧
      (lookup fun s => s.instances.get scope name).exec s = (.ok i, s)) ∨
    (∃ f, s.instances.has scope name = false ∧
      (lookup fun s => s.instances.get scope name).exec s = (.error f, s)) := by
  cases hh : s.instances.has scope name with
  | true =>
    obtain ⟨i, hi, hg⟩ := Store.exists_get hh
    exact .inl ⟨i, hi, hg, congrArg (·, s) hg⟩
  | false => exact .inr ⟨_, rfl, congrArg (·, s) (Store.get_eq_notFound hh)⟩

def Keeps (h : Handler α) : Prop := ∀ s : CloudState, s.pool.Valid → s.Kept (h.exec s).2

namespace Keeps

theorem pure (a : α) : Keeps (Pure.pure a : Handler α) := fun _ hp => .refl hp

theorem throw (f : Fault) : Keeps (throw f : Handler α) := fun _ hp => .refl hp

theorem liftExcept (r : Except Fault α) : (liftExcept r).Keeps := fun _ hp => .refl hp

theorem look (f : CloudState → α) : (look f).Keeps := fun _ hp => .refl hp

theorem lookup (f : CloudState → Except Fault α) : (lookup f).Keeps := fun _ hp => .refl hp

theorem bind {h : Handler α} {f : α → Handler β} (hh : h.Keeps) (hf : ∀ a, (f a).Keeps) :
    (h >>= f).Keeps := by
  intro s hp
  have k := hh s hp
  cases hx : h.exec s with
  | mk r s' =>
    rw [hx] at k
    cases r with
    | ok a =>
      rw [exec_bind_ok f hx]
      exact k.trans (hf a s' k.pool.valid)
    | error e =>
      rw [exec_bind_error f hx]
      exact k

end Keeps

end CloudEmulation.Handler
