import CloudEmulation.Interception.Harness
import Mathlib.Data.List.Induction
import Mathlib.Data.List.Nodup
/-!
Which tokens empty a harness, however often harnesses are activated and to whichever of them tokens
are handed back.
-/

namespace CloudEmulation

variable {τ : Type}

namespace Harness

variable (h : Harness τ) (t : Token)

@[simp] theorem provider_deactivate : (h.deactivate t).provider = h.provider := by
  unfold deactivate
  split <;> rfl

@[simp] theorem next_deactivate : (h.deactivate t).next = h.next := by
  unfold deactivate
  split <;> rfl

theorem slot_deactivate : (h.deactivate t).slot = if h.accepts t then none else h.slot := by
  unfold deactivate
  split <;> rfl

end Harness

/-- A call on one of some harnesses, which are named by their places. A token is named by the number
of tokens that were returned before it. -/
inductive HarnessCall (τ : Type) where
  | activate (place : Nat) (answerer : τ)
  | deactivate (place token : Nat)

/-- An activation that succeeded: the place of its harness, what it installed and its token. -/
structure Issue (τ : Type) where
  place : Nat
  answerer : τ
  token : Token

namespace Issue

def turns (issues : List (Issue τ)) (place : Nat) : Nat := issues.countP (·.place = place)

/-- How often a harness was activated when a token was returned. -/
def turn (issues : List (Issue τ)) (n place : Nat) : Nat := turns (issues.take (n + 1)) place

/-- The token of the latest activation of a harness. -/
def latest? (issues : List (Issue τ)) (place : Nat) : Option Nat :=
  (issues.zipIdx.reverse.find? (·.1.place = place)).map (·.2)

variable {issues : List (Issue τ)} {i j : Issue τ} {n place : Nat}

@[simp] theorem turns_concat : turns (issues ++ [i]) place =
    turns issues place + if i.place = place then 1 else 0 := by
  simp [turns]

theorem turn_concat_of_lt (h : n < issues.length) :
    turn (issues ++ [i]) n place = turn issues n place := by
  rw [turn, List.take_append_of_le_length h, turn]

@[simp] theorem turn_concat_length : turn (issues ++ [i]) issues.length place =
    turns issues place + if i.place = place then 1 else 0 := by
  rw [turn, List.take_of_length_le (by simp), turns_concat]

theorem turn_le_turns : turn issues n place ≤ turns issues place := by
  unfold turn turns
  exact (List.take_sublist _ _).countP_le

@[simp] theorem latest?_concat : latest? (issues ++ [i]) place =
    if i.place = place then some issues.length else latest? issues place := by
  by_cases h : i.place = place
  · simp [latest?, List.zipIdx_append, h]
  · simp [latest?, List.zipIdx_append, h]

theorem lt_length (h : issues[n]? = some i) : n < issues.length :=
  (List.getElem?_eq_some_iff.mp h).1

theorem getElem?_concat (h : issues[n]? = some i) (j : Issue τ) :
    (issues ++ [j])[n]? = some i := by
  rw [List.getElem?_append_left (lt_length h), h]

theorem getElem?_concat_cases (h : (issues ++ [j])[n]? = some i) :
    issues[n]? = some i ∨ (n = issues.length ∧ i = j) := by
  rw [List.getElem?_append] at h
  split at h
  · exact .inl h
  · have hlt := lt_length h
    rw [List.length_singleton] at hlt
    exact .inr ⟨by omega, List.mem_singleton.mp (List.mem_of_getElem? h)⟩

theorem latest?_eq_some_iff : latest? issues place = some n ↔
    ∃ i, issues[n]? = some i ∧ i.place = place ∧ turn issues n place = turns issues place := by
  induction issues using List.reverseRecOn with
  | nil => simp [latest?]
  | append_singleton issues j ih =>
    rw [latest?_concat]
    by_cases hj : j.place = place
    · simp only [if_pos hj, Option.some.injEq, turns_concat]
      constructor
      · rintro rfl
        exact ⟨j, by simp, hj, by simp [hj]⟩
      · rintro ⟨i, hi, -, ht⟩
        -- An earlier token was returned after fewer activations.
        by_contra hne
        have hlt : n < issues.length := by
          have hn := lt_length hi
          simp only [List.length_append, List.length_singleton] at hn
          omega
        have hle : turn issues n place ≤ turns issues place := turn_le_turns
        rw [turn_concat_of_lt hlt] at ht
        omega
    · simp only [if_neg hj, turns_concat, Nat.add_zero, ih]
      constructor
      · rintro ⟨i, hi, hp, ht⟩
        exact ⟨i, getElem?_concat hi j, hp, by rw [turn_concat_of_lt (lt_length hi), ht]⟩
      · rintro ⟨i, hi, hp, ht⟩
        rcases getElem?_concat_cases hi with hi | ⟨-, rfl⟩
        · exact ⟨i, hi, hp, by rw [← ht, turn_concat_of_lt (lt_length hi)]⟩
        · exact absurd hp hj

end Issue

open Issue (turns turn latest?)

/-- Harnesses and the tokens that they returned; a token that was handed back is listed with the
place of the harness that it was handed to. -/
structure Bench (τ : Type) where
  harnesses : List (Harness τ)
  issues : List (Issue τ)
  handed : List (Nat × Nat)

namespace Bench

def new (ps : List Provider) : Bench τ := ⟨ps.map .new, [], []⟩

def activate (b : Bench τ) (place : Nat) (answerer : τ) : Bench τ :=
  match b.harnesses[place]? with
  | none => b
  | some h =>
    match h.activate answerer with
    | (.error _, h) => { b with harnesses := b.harnesses.set place h }
    | (.ok token, h) =>
      ⟨b.harnesses.set place h, b.issues ++ [⟨place, answerer, token⟩], b.handed⟩

/-- A token that was returned and was not handed back yet. -/
def unspent? (b : Bench τ) (n : Nat) : Option (Issue τ) :=
  if n ∈ b.handed.map Prod.fst then none else b.issues[n]?

/-- Handing a token back leaves no token to be handed back again. -/
def deactivate (b : Bench τ) (place n : Nat) : Bench τ :=
  match b.harnesses[place]?, b.unspent? n with
  | some h, some i =>
    ⟨b.harnesses.set place (h.deactivate i.token), b.issues, b.handed ++ [(n, place)]⟩
  | _, _ => b

def perform (b : Bench τ) : HarnessCall τ → Bench τ
  | .activate place answerer => b.activate place answerer
  | .deactivate place n => b.deactivate place n

def after (b : Bench τ) (calls : List (HarnessCall τ)) : Bench τ := calls.foldl perform b

def active (b : Bench τ) (place : Nat) : Bool := b.harnesses[place]?.any Harness.isActive

def provider? (b : Bench τ) (place : Nat) : Option Provider :=
  b.harnesses[place]?.map Harness.provider

/-- Whether a token was not handed back yet and is that of an activation of a harness of the same
provider, which was activated as often until then as an active harness was until now. -/
def Matches (b : Bench τ) (n place : Nat) : Prop :=
  b.active place = true ∧ ∃ i, b.unspent? n = some i ∧ b.provider? i.place = b.provider? place ∧
    turn b.issues n i.place = turns b.issues place

/-- What calls on harnesses of some providers keep. -/
structure Kept (ps : List Provider) (b : Bench τ) : Prop where
  providers : ∀ place, b.provider? place = ps[place]?
  counted : ∀ place h, b.harnesses[place]? = some h → h.next = turns b.issues place + 1
  issued : ∀ n (i : Issue τ), b.issues[n]? = some i → ∃ p, ps[i.place]? = some p ∧
    i.token = ⟨p, turn b.issues n i.place⟩
  filled : ∀ place h a, b.harnesses[place]? = some h → h.slot = some a →
    a.id = turns b.issues place ∧ ∃ n i, latest? b.issues place = some n ∧
      b.issues[n]? = some i ∧ i.answerer = a.answerer
  spent : ∀ n place, (n, place) ∈ b.handed → n < b.issues.length
  emptied : ps.Nodup → ∀ place h n, b.harnesses[place]? = some h →
    latest? b.issues place = some n → (h.slot = none ↔ (n, place) ∈ b.handed)

variable {ps : List Provider} {b : Bench τ} {place n : Nat} {answerer : τ} {h : Harness τ}
  {i : Issue τ}

theorem unspent?_eq_some_iff : b.unspent? n = some i ↔
    n ∉ b.handed.map Prod.fst ∧ b.issues[n]? = some i := by
  unfold unspent?
  split
  · simp_all
  · simp_all

theorem active_iff : b.active place = true ↔
    ∃ h a, b.harnesses[place]? = some h ∧ h.slot = some a := by
  simp [active, Option.any_eq_true, Harness.isActive, Option.isSome_iff_exists]

theorem activate_cases (b : Bench τ) (place : Nat) (answerer : τ) :
    b.activate place answerer = b ∨
    ∃ h, b.harnesses[place]? = some h ∧ h.slot = none ∧ b.activate place answerer =
      ⟨b.harnesses.set place { h with slot := some ⟨h.next, answerer⟩, next := h.next + 1 },
        b.issues ++ [⟨place, answerer, ⟨h.provider, h.next⟩⟩], b.handed⟩ := by
  unfold activate
  cases hh : b.harnesses[place]? with
  | none => exact .inl rfl
  | some h =>
    cases hs : h.slot with
    | none => exact .inr ⟨h, rfl, hs, by simp [Harness.activate, hs]⟩
    | some a =>
      left
      have hset : b.harnesses.set place h = b.harnesses := by
        obtain ⟨hlt, rfl⟩ := List.getElem?_eq_some_iff.mp hh
        exact List.set_getElem_self hlt
      simp [Harness.activate, hs, hset]

theorem deactivate_cases (b : Bench τ) (place n : Nat) :
    (b.deactivate place n = b ∧ (b.harnesses[place]? = none ∨ b.unspent? n = none)) ∨
    ∃ h i, b.harnesses[place]? = some h ∧ b.unspent? n = some i ∧ b.deactivate place n =
      ⟨b.harnesses.set place (h.deactivate i.token), b.issues, b.handed ++ [(n, place)]⟩ := by
  unfold deactivate
  cases hh : b.harnesses[place]? with
  | none => exact .inl ⟨rfl, .inl rfl⟩
  | some h =>
    cases hi : b.unspent? n with
    | none => exact .inl ⟨rfl, .inr rfl⟩
    | some i => exact .inr ⟨h, i, rfl, rfl, rfl⟩

theorem provider?_set {g : Harness τ} (hh : b.harnesses[place]? = some h)
    (hg : g.provider = h.provider) (issues : List (Issue τ)) (handed : List (Nat × Nat)) :
    (Bench.mk (b.harnesses.set place g) issues handed).provider? = b.provider? := by
  funext other
  obtain ⟨hlt, hh⟩ := List.getElem?_eq_some_iff.mp hh
  by_cases he : place = other
  · subst he
    simp [provider?, hlt, hg, hh]
  · simp [provider?, he]

theorem getElem?_set_eq_some {g g' : Harness τ} {other : Nat} (hh : b.harnesses[place]? = some h) :
    (b.harnesses.set place g)[other]? = some g' ↔
      (other = place ∧ g' = g) ∨ (other ≠ place ∧ b.harnesses[other]? = some g') := by
  obtain ⟨hlt, -⟩ := List.getElem?_eq_some_iff.mp hh
  by_cases he : other = place
  · subst he
    simp [hlt, eq_comm]
  · simp [he, Ne.symm he]

namespace Kept

theorem of_new (ps : List Provider) : (new ps : Bench τ).Kept ps := by
  have hnew : ∀ (place : Nat) (h : Harness τ), (new ps).harnesses[place]? = some h →
      ∃ p, h = Harness.new p := by
    intro place h hh
    simp only [new, List.getElem?_map, Option.map_eq_some_iff] at hh
    obtain ⟨p, -, rfl⟩ := hh
    exact ⟨p, rfl⟩
  constructor
  · intro place
    cases hp : ps[place]? with
    | none => simp [provider?, new, hp]
    | some p => simp [provider?, new, hp, Harness.new]
  · intro place h hh
    obtain ⟨p, rfl⟩ := hnew place h hh
    rfl
  · intro n i hi
    simp [new] at hi
  · intro place h a hh ha
    obtain ⟨p, rfl⟩ := hnew place h hh
    cases ha
  · intro n place hm
    simp [new] at hm
  · intro _ place h n _ hl
    simp [new, latest?] at hl

/-- Whether a harness accepts a token is a matter of turns. -/
theorem accepts_iff (k : b.Kept ps) (hh : b.harnesses[place]? = some h)
    (hi : b.issues[n]? = some i) : h.accepts i.token = true ↔
      (∃ a, h.slot = some a) ∧ b.provider? i.place = b.provider? place ∧
        turn b.issues n i.place = turns b.issues place := by
  obtain ⟨p, hp, ht⟩ := k.issued n i hi
  have hissuer : b.provider? i.place = some p := by rw [k.providers, hp]
  have hplace : b.provider? place = some h.provider := by rw [provider?, hh, Option.map_some]
  rw [hissuer, hplace, Option.some_inj]
  cases hs : h.slot with
  | none => simp [Harness.accepts, hs]
  | some a =>
    have ha := (k.filled place h a hh hs).1
    simp only [Harness.accepts, hs, ht, ha]
    grind

/-- Where providers differ, a token of the right turn is the token of the latest activation. -/
theorem latest_of_turn (k : b.Kept ps) (hps : ps.Nodup) (hi : b.issues[n]? = some i)
    (hp : b.provider? i.place = b.provider? place)
    (ht : turn b.issues n i.place = turns b.issues place) :
    latest? b.issues place = some n := by
  obtain ⟨p, hsome, -⟩ := k.issued n i hi
  rw [k.providers, k.providers] at hp
  have hlt := (List.getElem?_eq_some_iff.mp hsome).1
  obtain rfl : i.place = place := (List.getElem?_inj hlt hps).mp hp
  exact Issue.latest?_eq_some_iff.mpr ⟨i, hi, rfl, ht⟩

theorem matches_iff (k : b.Kept ps) (hps : ps.Nodup) : b.Matches n place ↔
    b.active place = true ∧ n ∉ b.handed.map Prod.fst ∧ latest? b.issues place = some n := by
  constructor
  · rintro ⟨ha, i, hi, hp, ht⟩
    obtain ⟨hn, hi⟩ := unspent?_eq_some_iff.mp hi
    exact ⟨ha, hn, k.latest_of_turn hps hi hp ht⟩
  · rintro ⟨ha, hn, hl⟩
    obtain ⟨i, hi, rfl, ht⟩ := Issue.latest?_eq_some_iff.mp hl
    exact ⟨ha, i, unspent?_eq_some_iff.mpr ⟨hn, hi⟩, rfl, ht⟩

theorem activate (k : b.Kept ps) (place : Nat) (answerer : τ) :
    (b.activate place answerer).Kept ps := by
  rcases b.activate_cases place answerer with he | ⟨h, hh, -, he⟩
  · rw [he]
    exact k
  · have hcount := k.counted place h hh
    have hplace : ps[place]? = some h.provider := by
      rw [← k.providers, provider?, hh, Option.map_some]
    rw [he]
    exact {
      providers other := by
        rw [← k.providers other]
        exact congrFun (provider?_set hh (by rfl) _ _) other
      counted other g hg := by
        rcases (getElem?_set_eq_some hh).mp hg with ⟨rfl, rfl⟩ | ⟨hne, hg⟩
        · simp [hcount]
        · simp [k.counted other g hg, Ne.symm hne]
      issued n i hi := by
        rcases Issue.getElem?_concat_cases hi with hi | ⟨rfl, rfl⟩
        · obtain ⟨p, hp, ht⟩ := k.issued n i hi
          exact ⟨p, hp, by rw [ht, Issue.turn_concat_of_lt (Issue.lt_length hi)]⟩
        · exact ⟨h.provider, hplace, by simp [hcount]⟩
      filled other g a hg ha := by
        rcases (getElem?_set_eq_some hh).mp hg with ⟨rfl, rfl⟩ | ⟨hne, hg⟩
        · cases ha
          simp [hcount]
        · obtain ⟨hid, n, i, hl, hi, hia⟩ := k.filled other g a hg ha
          exact ⟨by simp [hid, Ne.symm hne], n, i, by simp [hl, Ne.symm hne],
            Issue.getElem?_concat hi _, hia⟩
      spent n other hm := by
        have hlt := k.spent n other hm
        rw [List.length_append]
        omega
      emptied hps other g n hg hl := by
        rcases (getElem?_set_eq_some hh).mp hg with ⟨rfl, rfl⟩ | ⟨hne, hg⟩
        · -- The newest token cannot have been handed to anyone.
          simp only [Issue.latest?_concat, if_true, Option.some.injEq] at hl
          subst hl
          simp only [reduceCtorEq, false_iff]
          intro hm
          exact absurd (k.spent _ _ hm) (Nat.lt_irrefl _)
        · simp only [Issue.latest?_concat, if_neg (Ne.symm hne)] at hl
          exact k.emptied hps other g n hg hl }

/-- Where providers differ, a harness that is handed a token is empty afterwards just if it was
before or the token is that of its latest activation. -/
theorem slot_deactivate (k : b.Kept ps) (hps : ps.Nodup) (hh : b.harnesses[place]? = some h)
    (hi : b.issues[n]? = some i) {m : Nat} (hl : latest? b.issues place = some m) :
    (h.deactivate i.token).slot = none ↔ h.slot = none ∨ m = n := by
  have haccepts := k.accepts_iff hh hi
  rw [Harness.slot_deactivate]
  by_cases hacc : h.accepts i.token = true
  · obtain ⟨-, hp, ht⟩ := haccepts.mp hacc
    have hln := k.latest_of_turn hps hi hp ht
    rw [hl, Option.some_inj] at hln
    simp [hacc, hln]
  · -- The token of the latest activation is accepted unless the harness is empty.
    simp only [hacc, Bool.false_eq_true, if_false]
    refine ⟨.inl, ?_⟩
    rintro (hs | rfl)
    · exact hs
    · obtain ⟨j, hj, rfl, ht⟩ := Issue.latest?_eq_some_iff.mp hl
      rw [hi, Option.some_inj] at hj
      subst hj
      cases hs : h.slot with
      | none => rfl
      | some a => exact absurd (haccepts.mpr ⟨⟨a, hs⟩, rfl, ht⟩) hacc

theorem deactivate (k : b.Kept ps) (place n : Nat) : (b.deactivate place n).Kept ps := by
  rcases b.deactivate_cases place n with ⟨he, -⟩ | ⟨h, i, hh, hi, he⟩
  · rw [he]
    exact k
  · obtain ⟨-, hi⟩ := unspent?_eq_some_iff.mp hi
    rw [he]
    exact {
      providers other := by rw [provider?_set hh (h.provider_deactivate i.token), k.providers]
      counted other g hg := by
        rcases (getElem?_set_eq_some hh).mp hg with ⟨rfl, rfl⟩ | ⟨-, hg⟩
        · rw [Harness.next_deactivate, k.counted other h hh]
        · exact k.counted other g hg
      issued := k.issued
      filled other g a hg ha := by
        rcases (getElem?_set_eq_some hh).mp hg with ⟨rfl, rfl⟩ | ⟨-, hg⟩
        · rw [Harness.slot_deactivate] at ha
          split at ha
          · cases ha
          · exact k.filled other h a hh ha
        · exact k.filled other g a hg ha
      spent m other hm := by
        rcases List.mem_append.mp hm with hm | hm
        · exact k.spent m other hm
        · cases List.mem_singleton.mp hm
          exact Issue.lt_length hi
      emptied hps other g m hg hl := by
        rw [List.mem_append, List.mem_singleton, Prod.mk.injEq]
        rcases (getElem?_set_eq_some hh).mp hg with ⟨rfl, rfl⟩ | ⟨hne, hg⟩
        · rw [k.slot_deactivate hps hh hi hl, k.emptied hps other h m hh hl]
          simp
        · rw [k.emptied hps other g m hg hl]
          simp [hne] }

theorem after (k : b.Kept ps) (calls : List (HarnessCall τ)) : (b.after calls).Kept ps := by
  induction calls generalizing b with
  | nil => exact k
  | cons call calls ih =>
    apply ih
    cases call with
    | activate place answerer => exact k.activate place answerer
    | deactivate place n => exact k.deactivate place n

end Kept

theorem deactivate_of_not_matches (k : b.Kept ps) (hm : ¬b.Matches n place) :
    (b.deactivate place n).harnesses = b.harnesses := by
  rcases b.deactivate_cases place n with ⟨he, -⟩ | ⟨h, i, hh, hi, he⟩
  · rw [he]
  · have hacc : ¬h.accepts i.token = true := by
      intro hacc
      obtain ⟨⟨a, hs⟩, hp, ht⟩ := (k.accepts_iff hh (unspent?_eq_some_iff.mp hi).2).mp hacc
      exact hm ⟨active_iff.mpr ⟨h, a, hh, hs⟩, i, hi, hp, ht⟩
    obtain ⟨hlt, rfl⟩ := List.getElem?_eq_some_iff.mp hh
    simp [he, Harness.deactivate, hacc]

theorem deactivate_of_matches (k : b.Kept ps) (hm : b.Matches n place) :
    ∃ h, b.harnesses[place]? = some h ∧
      (b.deactivate place n).harnesses = b.harnesses.set place { h with slot := none } := by
  obtain ⟨hactive, i, hi, hp, ht⟩ := hm
  obtain ⟨h, a, hh, hs⟩ := active_iff.mp hactive
  have hacc := (k.accepts_iff hh (unspent?_eq_some_iff.mp hi).2).mpr ⟨⟨a, hs⟩, hp, ht⟩
  refine ⟨h, hh, ?_⟩
  rcases b.deactivate_cases place n with ⟨-, hnone | hnone⟩ | ⟨h', i', hh', hi', he⟩
  · rw [hh] at hnone
    cases hnone
  · rw [hi] at hnone
    cases hnone
  · cases hh.symm.trans hh'
    cases hi.symm.trans hi'
    simp [he, Harness.deactivate, hacc]

/-- Handing back a token empties a harness just where providers and turns agree, and changes no
other. Among harnesses of different providers the token is then that of the activation that
installed what answers, and a harness is active until that token was handed back to it. -/
theorem tokens_empty_by_turn (ps : List Provider) (calls : List (HarnessCall τ)) :
    let b := (new ps : Bench τ).after calls
    (∀ place a, (b.harnesses[place]?.bind Harness.current?) = some a →
      ∃ n i, latest? b.issues place = some n ∧ b.issues[n]? = some i ∧ i.answerer = a) ∧
    (∀ place n, b.Matches n place → ∃ h, b.harnesses[place]? = some h ∧
      (b.deactivate place n).harnesses = b.harnesses.set place { h with slot := none }) ∧
    (∀ place n, ¬b.Matches n place → (b.deactivate place n).harnesses = b.harnesses) ∧
    (ps.Nodup →
      (∀ place n, b.Matches n place ↔ b.active place = true ∧ n ∉ b.handed.map Prod.fst ∧
        latest? b.issues place = some n) ∧
      ∀ place, b.active place = true ↔
        ∃ n, latest? b.issues place = some n ∧ (n, place) ∉ b.handed) := by
  intro b
  have k : b.Kept ps := (Kept.of_new ps).after calls
  refine ⟨?_, fun place n => deactivate_of_matches k, fun place n => deactivate_of_not_matches k,
    fun hps => ⟨fun place n => k.matches_iff hps, ?_⟩⟩
  · intro place answerer ha
    obtain ⟨h, hh, ha⟩ := Option.bind_eq_some_iff.mp ha
    obtain ⟨a, hs, rfl⟩ := Option.map_eq_some_iff.mp ha
    exact (k.filled place h a hh hs).2
  · intro place
    rw [active_iff]
    constructor
    · rintro ⟨h, a, hh, hs⟩
      obtain ⟨-, n, -, hl, -, -⟩ := k.filled place h a hh hs
      refine ⟨n, hl, ?_⟩
      rw [← k.emptied hps place h n hh hl, hs]
      exact Option.some_ne_none a
    · rintro ⟨n, hl, hn⟩
      obtain ⟨i, hi, rfl, -⟩ := Issue.latest?_eq_some_iff.mp hl
      obtain ⟨p, hp, -⟩ := k.issued n i hi
      rw [← k.providers] at hp
      obtain ⟨h, hh, -⟩ := Option.map_eq_some_iff.mp hp
      rw [← k.emptied hps i.place h n hh hl] at hn
      obtain ⟨a, hs⟩ := Option.ne_none_iff_exists'.mp hn
      exact ⟨h, a, hh, hs⟩

/-- The harnesses of all providers, of which one is emptied by its own token and activated again,
while a token of another is handed to it. -/
theorem active_until_handed_back :
    let b := (new Provider.all).after [.activate 0 "first", .activate 1 "other", .deactivate 0 0,
      .activate 0 "second", .deactivate 0 1]
    b.active 0 = true ↔ ∃ n, latest? b.issues 0 = some n ∧ (n, 0) ∉ b.handed :=
  ((tokens_empty_by_turn Provider.all _).2.2.2 (by decide)).2 0

/-- Of two harnesses of one provider each is emptied by the token of the other. -/
theorem emptied_by_token_of_other :
    let b := (new [.google, .google]).after [.activate 0 "one", .activate 1 "other"]
    b.issues[0]?.map Issue.place = some 0 ∧ latest? b.issues 1 = some 1 ∧ b.active 1 = true ∧
      (b.deactivate 1 0).active 1 = false := by
  decide

end Bench

end CloudEmulation
