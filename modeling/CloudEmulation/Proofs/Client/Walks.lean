import CloudEmulation.Client.Walk
/-!
Walks of a client from page to page, where each page is the outcome of one computation.
-/

namespace CloudEmulation

namespace Walk

variable {σ κ α : Type} {fetch : κ → Calling (StateM σ) (List α × Option κ)} {page next : κ}
  {s s' : σ} {items : List α}

theorem run_last (h : (fetch page).run.run s = (.ok (items, none), s')) (budget : Nat) :
    (run fetch (budget + 1) none page).run s = (⟨items, .complete⟩, s') := by
  rw [run, if_neg (by simp), StateT.run_bind, h]
  rfl

theorem run_next (h : (fetch page).run.run s = (.ok (items, some next), s')) {budget : Nat}
    {w : Walk α} {s'' : σ} (hw : (run fetch budget none next).run s' = (w, s'')) :
    (run fetch (budget + 1) none page).run s = (⟨items ++ w.items, w.ending⟩, s'') := by
  rw [run, if_neg (by simp), StateT.run_bind, h]
  show (run fetch budget none next >>= _).run s' = _
  rw [StateT.run_bind, hw]
  rfl

theorem run_failed {e : ClientError} (h : (fetch page).run.run s = (.error e, s')) (budget : Nat) :
    (run fetch (budget + 1) none page).run s = (⟨[], .failed e⟩, s') := by
  rw [run, if_neg (by simp), StateT.run_bind, h]
  rfl

theorem run_congr {page' : κ} (h : fetch page = fetch page') (budget : Nat) (wanted : Option Nat) :
    run fetch budget wanted page = run fetch budget wanted page' := by
  cases budget with
  | zero => rfl
  | succ budget => rw [run, run, h]

end Walk

end CloudEmulation
