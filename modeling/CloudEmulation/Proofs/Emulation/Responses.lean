import CloudEmulation.Proofs.Azure.Answers
import CloudEmulation.Proofs.Emulation.Routing
import CloudEmulation.Proofs.Google.Answers
import CloudEmulation.Proofs.Oracle.Answers
/-!
What a request does to the state of a cloud, and what its response tells of that.
-/

namespace CloudEmulation

variable {p : Provider} {r : Http.Request} {route : Route} {params : Params} {c : Configuration}
  {now : Timestamp} {s s' : CloudState} {f : Fault}

theorem Provider.refusal_cases (p : Provider) (c : Configuration) (f : Fault) (s : CloudState) :
    ∃ response s', ((p.emulator c).refusal f).run s = (response, s') ∧ response.status = f.status ∧
      (s.pool.Valid → s.Kept s') := by
  cases p with
  | google => exact ⟨Google.refusal f, s, rfl, rfl, .refl⟩
  | azure => exact ⟨Azure.refusal f, s, rfl, rfl, .refl⟩
  | oracle =>
    obtain ⟨id, s', hr, hk⟩ := Oracle.run_reply f.status
      ((Oracle.ErrorBody.mk (Oracle.codeOf f) f.message).encode .ofFields) s
    exact ⟨_, s', hr, rfl, hk⟩

theorem Fault.not_isSuccess {response : Http.Response} (h : response.status = f.status) :
    response.isSuccess = false := by
  have hf := f.status_ne_success
  rw [← h] at hf
  simpa [Http.Response.isSuccess, Http.isSuccess] using hf

theorem Provider.respond_of_refused
    (h : ((p.emulator c).handle now r).exec s = (.error f, s')) (hp : s'.pool.Valid) :
    ∃ response s'', ((p.emulator c).respond now r).run s = (response, s'') ∧
      response.status = f.status ∧ s'.Kept s'' := by
  obtain ⟨response, s'', hr, hs, hk⟩ := p.refusal_cases c f s'
  refine ⟨response, s'', ?_, hs, hk hp⟩
  rw [Emulator.run_respond, h]
  exact hr

theorem Provider.respond_of_answered {response : Http.Response}
    (h : ((p.emulator c).handle now r).exec s = (.ok response, s')) :
    ((p.emulator c).respond now r).run s = (response, s') := by
  rw [Emulator.run_respond, h]

theorem Provider.respond_of_success (hs : (((p.emulator c).respond now r).run s).1.isSuccess = true) :
    ((p.emulator c).handle now r).exec s = (.ok (((p.emulator c).respond now r).run s).1,
      (((p.emulator c).respond now r).run s).2) := by
  rw [Emulator.run_respond] at hs ⊢
  cases hx : ((p.emulator c).handle now r).exec s with
  | mk result s' =>
    rw [hx] at hs
    cases result with
    | ok answer => rfl
    | error f =>
      obtain ⟨response, s'', hr, hf, -⟩ := p.refusal_cases c f s'
      simp only [hr] at hs
      rw [Fault.not_isSuccess hf] at hs
      cases hs

/-! What statuses tell of the handlers. -/

theorem Provider.isSuccess_iff {P : Prop}
    (h : (∃ answer s', ((p.emulator c).handle now r).exec s = (.ok answer, s') ∧
        answer.isSuccess = true ∧ P) ∨
      (∃ f s', ((p.emulator c).handle now r).exec s = (.error f, s') ∧ ¬P)) :
    (((p.emulator c).respond now r).run s).1.isSuccess = true ↔ P := by
  rcases h with ⟨answer, s', hx, hs, hP⟩ | ⟨f, s', hx, hP⟩
  · rw [respond_of_answered hx]
    exact ⟨fun _ => hP, fun _ => hs⟩
  · obtain ⟨answer, s'', hr, hs, -⟩ := p.refusal_cases c f s'
    have hn : ¬answer.isSuccess = true := by
      rw [Fault.not_isSuccess hs]
      decide
    rw [Emulator.run_respond, hx]
    simp only [hr]
    exact ⟨fun h => absurd h hn, fun h => absurd h hP⟩

theorem Provider.conflict_iff {D : Type} {draft : Except Fault D} {taken : D → Prop}
    (h : (∃ d answer s', draft = .ok d ∧
        ((p.emulator c).handle now r).exec s = (.ok answer, s') ∧ answer.isSuccess = true ∧
        ¬taken d) ∨
      (∃ f s', ((p.emulator c).handle now r).exec s = (.error f, s') ∧
        (f.status = 409 ↔ ∃ d, draft = .ok d ∧ taken d))) :
    (((p.emulator c).respond now r).run s).1.status = 409 ↔ ∃ d, draft = .ok d ∧ taken d := by
  rcases h with ⟨d, answer, s', hd, hx, hs, hfree⟩ | ⟨f, s', hx, hf⟩
  · have hn : answer.status ≠ 409 := by
      intro he
      rw [Http.Response.isSuccess, he] at hs
      cases hs
    rw [respond_of_answered hx]
    refine ⟨fun h => absurd h hn, ?_⟩
    rintro ⟨d', hd', ht⟩
    rw [hd] at hd'
    cases hd'
    exact absurd ht hfree
  · obtain ⟨answer, s'', hr, hs, -⟩ := p.refusal_cases c f s'
    rw [Emulator.run_respond, hx]
    simp only [hr]
    rw [hs, hf]

end CloudEmulation
