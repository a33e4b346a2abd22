/-!
Programs that share a state: sequences of atomic steps. A program can be run alone, or its steps
can be interleaved with those of others.
-/

namespace CloudEmulation

/-- `atomic act next` changes the state by `act` and goes on with what `next` makes of the state
before the change. -/
inductive Program (σ α : Type) where
  | done (a : α)
  | atomic (act : σ → σ) (next : σ → Program σ α)

namespace Program

variable {σ α β : Type}

def bind (p : Program σ α) (f : α → Program σ β) : Program σ β :=
  match p with
  | .done a => f a
  | .atomic act next => .atomic act fun s => bind (next s) f

instance : Monad (Program σ) where
  pure := .done
  bind := bind

/-- One atomic step. -/
def step (f : σ → α × σ) : Program σ α := .atomic (fun s => (f s).2) fun s => .done (f s).1

/-- Reads the state without changing it. -/
def look (f : σ → α) : Program σ α := .atomic id fun s => .done (f s)

/-- All steps in order, with no others between them. -/
def run (p : Program σ α) (s : σ) : α × σ :=
  match p with
  | .done a => (a, s)
  | .atomic act next => run (next s) (act s)

theorem run_bind (p : Program σ α) (f : α → Program σ β) (s : σ) :
    (p.bind f).run s = (f (p.run s).1).run (p.run s).2 := by
  induction p generalizing s with
  | done a => rfl
  | atomic act next ih => exact ih s (act s)

theorem run_step (f : σ → α × σ) (s : σ) : (step f).run s = f s := rfl

theorem run_look (f : σ → α) (s : σ) : (look f).run s = (f s, s) := rfl

end Program

end CloudEmulation
