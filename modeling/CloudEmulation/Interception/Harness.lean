import CloudEmulation.Fault
/-!
Harnesses: a provider's slot for what answers its requests in place of the real service. Whoever
fills the slot gets a token, and the slot is emptied by handing the token back.
-/

namespace CloudEmulation

/-- What is in a slot; `τ` answers requests. -/
structure Activation (τ : Type) where
  id : Nat
  answerer : τ
  deriving Repr

structure Token where
  provider : Provider
  id : Nat
  deriving DecidableEq, Repr

/-- A slot, and the number of its next activation. -/
structure Harness (τ : Type) where
  provider : Provider
  slot : Option (Activation τ)
  next : Nat
  deriving Repr

namespace Harness

variable {τ : Type}

def new (p : Provider) : Harness τ := ⟨p, none, 1⟩

/-- Fills the slot unless it is filled. -/
def activate (h : Harness τ) (answerer : τ) : Except Fault Token × Harness τ :=
  match h.slot with
  | some _ => (.error (.alreadyActive h.provider), h)
  | none =>
    (.ok ⟨h.provider, h.next⟩,
      { h with slot := some ⟨h.next, answerer⟩, next := h.next + 1 })

/-- Whether a token is that of the current activation. -/
def accepts (h : Harness τ) (t : Token) : Bool :=
  match h.slot with
  | some a => a.id = t.id && t.provider = h.provider
  | none => false

/-- Empties the slot; a token of an earlier activation changes nothing. -/
def deactivate (h : Harness τ) (t : Token) : Harness τ :=
  if h.accepts t then { h with slot := none } else h

def isActive (h : Harness τ) : Bool := h.slot.isSome

def current? (h : Harness τ) : Option τ := h.slot.map Activation.answerer

/-- What answers a request: what is in the slot, or the real service. -/
def dispatch (h : Harness τ) (fallback : τ) : τ := h.current?.getD fallback

end Harness

end CloudEmulation
