import CloudEmulation.Proofs.Number.Numeral
import CloudEmulation.Proofs.Text.Runs
import CloudEmulation.Proofs.Url.Hosts
import CloudEmulation.Proofs.Url.Path
import Mathlib.Data.List.TakeWhile
/-!
Schemes and authorities as reading leaves them are read as they are.
-/

namespace CloudEmulation.Url

open Text (Halts halts_cons takeWhile_run dropWhile_run)

variable {c : Char} {keep : Char → Bool} {s rest : List Char} {t : String} {kind : Kind}
  {scheme : String} {a : Authority}

/-! Encoded texts. -/

/-- A text of characters that a component keeps. -/
def KeptBy (keep : Char → Bool) (t : String) : Prop :=
  ∀ c ∈ t.toList, c.toNat < 128 ∧ keep c = true

theorem keptBy_encode (hp : keep '%' = true) (hd : ∀ n, n < 16 → keep (Percent.hexDigit n) = true)
    (s : List Char) : KeptBy keep (String.ofList (Percent.encode keep s)) := by
  have hascii : ∀ n, n < 16 → (Percent.hexDigit n).toNat < 128 := by decide
  rw [KeptBy, String.toList_ofList]
  exact Percent.forall_mem_encode (fun c _ hc hk => ⟨hc, hk⟩) ⟨by decide, hp⟩
    fun n hn => ⟨hascii n hn, hd n hn⟩

theorem KeptBy.encode (h : KeptBy keep t) : String.ofList (Percent.encode keep t.toList) = t := by
  rw [Percent.encode_kept h, String.ofList_toList]

theorem keptBy_empty : KeptBy keep "" := fun _ hc => nomatch hc

/-! Schemes. -/

/-- A scheme is read from a text that begins with it. -/
structure SchemeName (scheme : String) : Prop where
  plain : ∀ c ∈ scheme.toList, Read.isEdge c = false
  nonempty : scheme.toList ≠ []
  read : ∀ s, Read.scheme? (scheme.toList ++ ':' :: s) = some (scheme, s)

theorem ascii_of_isSchemeChar (h : Read.isSchemeChar c = true) : c.toNat < 128 := by
  delta Read.isSchemeChar Char.isAlphanum Char.isAlpha Char.isUpper Char.isLower Char.isDigit at h
  simp only [Bool.or_eq_true, Bool.and_eq_true, decide_eq_true_eq, UInt32.le_iff_toNat_le] at h
  have hc : c.toNat = c.val.toNat := rfl
  rcases h with ((((⟨-, h⟩ | ⟨-, h⟩) | ⟨-, h⟩) | rfl) | rfl) | rfl
  · exact hc ▸ Nat.lt_of_le_of_lt h (by decide)
  · exact hc ▸ Nat.lt_of_le_of_lt h (by decide)
  · exact hc ▸ Nat.lt_of_le_of_lt h (by decide)
  · decide
  · decide
  · decide

theorem spec_of_isSchemeChar (h : Read.isSchemeChar c = true) :
    Read.isSchemeChar c.toLower = true ∧ c.toLower.toLower = c.toLower ∧
      Read.isEdge c.toLower = false ∧ (c.isAlpha = true → c.toLower.isAlpha = true) :=
  Text.of_ascii (ascii_of_isSchemeChar h) (by decide +kernel) h

theorem scheme?_eq_some (h : Read.scheme? s = some (scheme, rest)) : ∃ c name,
    c.isAlpha = true ∧ (∀ d ∈ c :: name, Read.isSchemeChar d = true) ∧
      scheme.toList = Numeral.lowerAscii (c :: name) := by
  unfold Read.scheme? at h
  split at h
  · cases h
  · rename_i c s
    simp only [Numeral.span] at h
    split at h
    · split at h
      · rename_i hc
        cases h
        have hscheme : Read.isSchemeChar c = true := by
          simp [Read.isSchemeChar, Char.isAlphanum, hc]
        rw [List.takeWhile_cons_of_pos hscheme, String.toList_ofList]
        refine ⟨c, s.takeWhile Read.isSchemeChar, hc, fun d hd => ?_, rfl⟩
        rcases List.mem_cons.mp hd with rfl | hd
        · exact hscheme
        · exact List.mem_takeWhile_imp hd
      · cases h
    · cases h

theorem schemeName_of_scheme? (h : Read.scheme? s = some (scheme, rest)) : SchemeName scheme := by
  obtain ⟨c, name, hc, hname, hscheme⟩ := scheme?_eq_some h
  have hlower : ∀ d ∈ scheme.toList, Read.isSchemeChar d = true ∧ d.toLower = d ∧
      Read.isEdge d = false := by
    intro d hd
    rw [hscheme] at hd
    obtain ⟨e, he, rfl⟩ := List.mem_map.mp hd
    obtain ⟨hs, hl, hedge, -⟩ := spec_of_isSchemeChar (hname e he)
    exact ⟨hs, hl, hedge⟩
  have hmap : Numeral.lowerAscii scheme.toList = scheme.toList :=
    (List.map_congr_left fun d hd => (hlower d hd).2.1).trans (List.map_id _)
  refine ⟨fun d hd => (hlower d hd).2.2, by rw [hscheme]; exact List.cons_ne_nil _ _, fun s => ?_⟩
  have hspan : Numeral.span Read.isSchemeChar (scheme.toList ++ ':' :: s) =
      (scheme.toList, ':' :: s) := by
    have halts : Halts Read.isSchemeChar (':' :: s) := halts_cons.mpr (by decide)
    rw [Numeral.span, takeWhile_run (fun d hd => (hlower d hd).1) halts,
      dropWhile_run (fun d hd => (hlower d hd).1) halts]
  have hfirst : c.toLower.isAlpha = true :=
    (spec_of_isSchemeChar (hname c List.mem_cons_self)).2.2.2 hc
  have htext : String.ofList (Numeral.lowerAscii scheme.toList) = scheme := by
    rw [hmap, String.ofList_toList]
  unfold Read.scheme?
  split
  · rename_i hnil
    exact absurd hnil (by simp)
  · rename_i hcons
    rw [hscheme] at hcons
    cases hcons
    simp only [hspan, hfirst, htext, if_true]

/-! Authorities. -/

/-- The host of a URL of any kind but a file. -/
def readHost (kind : Kind) (s : List Char) : Except UrlError String :=
  if kind = .special then Host.parse s else Host.plain s

/-- An authority as reading leaves it. -/
structure Authority.Canonical (kind : Kind) (scheme : String) (a : Authority) : Prop where
  username : KeptBy keepsUser a.username
  password : KeptBy keepsUser a.password
  framed : Framed a.host
  host : readHost kind a.host.toList = .ok a.host
  special : kind = .special → a.host.toList ≠ []
  bare : a.host.toList = [] → a.username = "" ∧ a.password = "" ∧ a.portNumber = none
  port : ∀ n, a.portNumber = some n → n ≤ 65535 ∧ some n ≠ defaultPort scheme

/-- The user of an authority, and the password after its colon. -/
def userText (a : Authority) : List Char :=
  a.username.toList ++ if a.password = "" then [] else ':' :: a.password.toList

/-- The port of an authority, after its colon. -/
def portText (a : Authority) : List Char :=
  match a.portNumber with
  | none => []
  | some n => ':' :: Nat.toDigits 10 n

theorem Authority.toList_text (a : Authority) : a.text.toList =
    (if userText a = [] then [] else userText a ++ ['@']) ++ (a.host.toList ++ portText a) := by
  have huser : (a.username ++ (if a.password = "" then "" else ":" ++ a.password)).toList =
      userText a := by
    rw [String.toList_append, userText]
    split
    · rfl
    · rw [String.toList_append]
      rfl
  have hempty : a.username ++ (if a.password = "" then "" else ":" ++ a.password) = "" ↔
      userText a = [] := by
    rw [← huser, String.toList_eq_nil_iff]
  have hfront : (if a.username ++ (if a.password = "" then "" else ":" ++ a.password) = "" then ""
      else a.username ++ (if a.password = "" then "" else ":" ++ a.password) ++ "@").toList =
        if userText a = [] then [] else userText a ++ ['@'] := by
    simp only [hempty]
    split
    · rfl
    · rw [String.toList_append, huser]
      rfl
  unfold Authority.text portText
  simp only [String.toList_append] at hfront ⊢
  rw [hfront, List.append_assoc]
  cases a.portNumber with
  | none => simp
  | some n => simp

theorem portText_cases (a : Authority) : portText a = [] ∨ ∃ r, portText a = ':' :: r := by
  unfold portText
  cases a.portNumber with
  | none => exact .inl rfl
  | some n => exact .inr ⟨_, rfl⟩

/-- A character within an authority. -/
def Inner (c : Char) : Prop := Read.isEdge c = false ∧ Read.endsAuthority .special c = false

theorem inner_of_isHostChar (h : isHostChar c = true) : Inner c ∧ c ∉ "@:[]|".toList := by
  simp only [isHostChar, Bool.and_eq_true, Bool.not_eq_true', decide_eq_true_eq] at h
  obtain ⟨⟨⟨-, hedge⟩, hends⟩, hmarks⟩ := h
  refine ⟨⟨hedge, hends⟩, fun hm => ?_⟩
  rw [List.contains_iff_mem.mpr hm] at hmarks
  cases hmarks

theorem isHostChar_of_isDigit (h : Numeral.isDigit c = true) : isHostChar c = true := by
  have hc := Numeral.toNat_of_isDigit h
  have hascii : c.toNat < 128 := by omega
  exact Text.of_ascii hascii (by decide +kernel) h

theorem isHostChar_of_isHexDigit (h : Host.isHexDigit c = true) : isHostChar c = true := by
  have hascii : c.toNat < 128 := by
    unfold Host.isHexDigit Host.hexDigit? Percent.hexValue? at h
    by_contra hc
    rw [if_neg (by omega), if_neg (by omega), if_neg (by omega)] at h
    cases h
  exact Text.of_ascii hascii (by decide +kernel) h

theorem Framed.inner (h : Framed t) : ∀ c ∈ t.toList, Inner c ∧ c ≠ '@' := by
  intro c hc
  have hchar (h : isHostChar c = true) : Inner c ∧ c ≠ '@' := by
    obtain ⟨hinner, hmarks⟩ := inner_of_isHostChar h
    exact ⟨hinner, fun he => hmarks (he ▸ by decide)⟩
  rcases h with h | ⟨body, ht, hbody⟩
  · exact hchar (h c hc)
  · rw [ht, List.mem_cons, List.mem_append, List.mem_singleton] at hc
    rcases hc with rfl | hc | rfl
    · exact ⟨⟨by decide, by decide⟩, by decide⟩
    · rcases hbody c hc with rfl | hc
      · exact ⟨⟨by decide, by decide⟩, by decide⟩
      · exact hchar (isHostChar_of_isHexDigit hc)
    · exact ⟨⟨by decide, by decide⟩, by decide⟩

theorem portText_inner (a : Authority) : ∀ c ∈ portText a, Inner c ∧ c ≠ '@' := by
  intro c hc
  unfold portText at hc
  split at hc
  · cases hc
  · rcases List.mem_cons.mp hc with rfl | hc
    · exact ⟨⟨by decide, by decide⟩, by decide⟩
    · obtain ⟨hinner, hmarks⟩ := inner_of_isHostChar
        (isHostChar_of_isDigit (Numeral.isDigit_of_mem hc))
      exact ⟨hinner, fun he => hmarks (he ▸ by decide)⟩

theorem inner_of_keepsUser (hc : c.toNat < 128) (h : keepsUser c = true) :
    Inner c ∧ c ≠ '@' ∧ c ≠ ':' :=
  Text.of_ascii hc (by unfold Inner; decide +kernel) h

theorem userText_inner (hu : KeptBy keepsUser a.username) (hp : KeptBy keepsUser a.password) :
    ∀ c ∈ userText a, Inner c := by
  intro c hc
  unfold userText at hc
  rcases List.mem_append.mp hc with hc | hc
  · exact (inner_of_keepsUser (hu c hc).1 (hu c hc).2).1
  · split at hc
    · cases hc
    · rcases List.mem_cons.mp hc with rfl | hc
      · exact ⟨by decide, by decide⟩
      · exact (inner_of_keepsUser (hp c hc).1 (hp c hc).2).1

theorem Authority.Canonical.inner (h : a.Canonical kind scheme) : ∀ c ∈ a.text.toList, Inner c := by
  intro c hc
  rw [Authority.toList_text, List.mem_append, List.mem_append] at hc
  rcases hc with hc | hc | hc
  · split at hc
    · cases hc
    · rcases List.mem_append.mp hc with hc | hc
      · exact userText_inner h.username h.password c hc
      · rw [List.mem_singleton.mp hc]
        exact ⟨by decide, by decide⟩
  · exact (h.framed.inner c hc).1
  · exact (portText_inner a c hc).1

/-! Reading authorities. -/

theorem splitLast_append {mark : Char} (h : mark ∉ rest) :
    Read.splitLast mark (s ++ mark :: rest) = some (s, rest) := by
  have hcontains : (s ++ mark :: rest).contains mark = true := by simp
  have hafter : ((s ++ mark :: rest).reverse.takeWhile (· ≠ mark)).reverse = rest := by
    have hrest : ∀ c ∈ rest.reverse, decide (c ≠ mark) = true := fun c hc =>
      decide_eq_true fun he => h (he ▸ List.mem_reverse.mp hc)
    have halts : Halts (fun c => decide (c ≠ mark)) (mark :: s.reverse) :=
      halts_cons.mpr (by simp)
    rw [List.reverse_append, List.reverse_cons, List.append_assoc, List.singleton_append,
      takeWhile_run hrest halts, List.reverse_reverse]
  have hlength : (s ++ mark :: rest).length - rest.length - 1 = s.length := by
    rw [List.length_append, List.length_cons]
    omega
  unfold Read.splitLast
  simp only [hcontains, hafter, hlength, List.take_left, if_true]

theorem splitLast_none {mark : Char} (h : mark ∉ s) : Read.splitLast mark s = none := by
  have hcontains : s.contains mark = false := by simpa using h
  rw [Read.splitLast, hcontains]
  rfl

/-- Where a port begins, or nothing is left. -/
def Ended (rest : List Char) : Prop := rest = [] ∨ ∃ r, rest = ':' :: r

theorem splitHost_ended (h : Ended rest) : Read.splitHost false rest = ([], rest) := by
  rcases h with rfl | ⟨r, rfl⟩
  · rfl
  · rfl

theorem splitHost_name (h : ∀ c ∈ s, c ∉ ":[]".toList) (hr : Ended rest) :
    Read.splitHost false (s ++ rest) = (s, rest) := by
  induction s with
  | nil => exact splitHost_ended hr
  | cons c s ih =>
    have hc := h c List.mem_cons_self
    have hcolon : c ≠ ':' := fun he => hc (he ▸ by decide)
    have hopen : c ≠ '[' := fun he => hc (he ▸ by decide)
    have hclose : c ≠ ']' := fun he => hc (he ▸ by decide)
    rw [List.cons_append, Read.splitHost]
    simp only [hcolon, hopen, hclose, if_false, false_and]
    rw [ih fun d hd => h d (List.mem_cons_of_mem _ hd)]

theorem splitHost_brackets (h : ∀ c ∈ s, c ≠ '[' ∧ c ≠ ']') (hr : Ended rest) :
    Read.splitHost true (s ++ ']' :: rest) = (s ++ [']'], rest) := by
  induction s with
  | nil =>
    rw [List.nil_append, Read.splitHost]
    simp [splitHost_ended hr]
  | cons c s ih =>
    obtain ⟨hopen, hclose⟩ := h c List.mem_cons_self
    rw [List.cons_append, Read.splitHost]
    simp [hopen, hclose, ih fun d hd => h d (List.mem_cons_of_mem _ hd)]

theorem Framed.splitHost (h : Framed t) (hr : Ended rest) :
    Read.splitHost false (t.toList ++ rest) = (t.toList, rest) := by
  rcases h with h | ⟨body, ht, hbody⟩
  · refine splitHost_name (fun c hc hm => (inner_of_isHostChar (h c hc)).2 ?_) hr
    have hsub : ":[]".toList ⊆ "@:[]|".toList := by decide
    exact hsub hm
  · have hplain : ∀ c ∈ body, c ≠ '[' ∧ c ≠ ']' := by
      intro c hc
      constructor <;> rintro rfl <;> exact absurd (hbody _ hc) (by decide)
    rw [ht, List.cons_append, List.append_assoc, List.singleton_append, Read.splitHost]
    simp [splitHost_brackets hplain hr]

theorem portNumber_portText
    (h : ∀ n, a.portNumber = some n → n ≤ 65535 ∧ some n ≠ defaultPort scheme) :
    Read.portNumber scheme (portText a) = .ok a.portNumber := by
  unfold portText
  cases hp : a.portNumber with
  | none => rfl
  | some n =>
    obtain ⟨hn, hd⟩ := h n hp
    have hall : (Nat.toDigits 10 n).all Numeral.isDigit = true :=
      List.all_eq_true.mpr fun c hc => Numeral.isDigit_of_mem hc
    simp only [Read.portNumber, hall, Bool.not_true, Bool.false_eq_true, if_false,
      Nat.toDigits_ne_nil, Numeral.digitsValue_eq, Nat.ofDigitChars_ten_toDigits]
    rw [if_neg (by omega), if_neg hd]

theorem user_userText (hu : KeptBy keepsUser a.username) (hp : KeptBy keepsUser a.password) :
    Read.user (userText a) = (a.username, a.password) := by
  have hname : ∀ c ∈ a.username.toList, decide (c ≠ ':') = true := fun c hc =>
    decide_eq_true (inner_of_keepsUser (hu c hc).1 (hu c hc).2).2.2
  have halts : Halts (fun c => decide (c ≠ ':'))
      (if a.password = "" then [] else ':' :: a.password.toList) := by
    split
    · exact .nil
    · exact halts_cons.mpr (by simp)
  have hpassword : (if a.password = "" then [] else ':' :: a.password.toList).drop 1 =
      a.password.toList := by
    split
    · rename_i he
      rw [he]
      rfl
    · rfl
  unfold Read.user userText
  simp only [takeWhile_run hname halts, dropWhile_run hname halts, hpassword, hu.encode, hp.encode]

/-- Reads an authority whose user is split off. -/
def authorityOf (kind : Kind) (scheme : String) (info : Option (List Char))
    (hostPort rest : List Char) : Except UrlError Authority := do
  if info.isSome ∧ hostPort = [] ∧ !(info = some [] ∧ rest = []) then throw .emptyHost
  let (host, port) := Read.splitHost false hostPort
  if kind = .special ∧ host = [] then throw .emptyHost
  let host ← readHost kind host
  if host = "" ∧ port ≠ [] then throw .emptyHost
  let p ← Read.portNumber scheme port
  let (name, password) := Read.user (info.getD [])
  return ⟨name, password, host, p⟩

theorem authority_eq (kind : Kind) (scheme : String) (s rest : List Char) :
    Read.authority kind scheme s rest = (Read.splitLast '@' s).elim
      (authorityOf kind scheme none s rest)
      (fun p => authorityOf kind scheme (some p.1) p.2 rest) := by
  unfold Read.authority
  cases kind <;> cases Read.splitLast '@' s <;> rfl

theorem Authority.Canonical.readOf (h : a.Canonical kind scheme) {info : Option (List Char)}
    (huser : Read.user (info.getD []) = (a.username, a.password))
    (hinfo : info.isSome → a.host.toList ≠ []) (rest : List Char) :
    authorityOf kind scheme info (a.host.toList ++ portText a) rest = .ok a := by
  have hempty : ¬(info.isSome ∧ a.host.toList ++ portText a = [] ∧
      !(info = some [] ∧ rest = [])) := by
    rintro ⟨hi, he, -⟩
    exact hinfo hi (List.append_eq_nil_iff.mp he).1
  have hspecial : ¬(kind = .special ∧ a.host.toList = []) := fun he => h.special he.1 he.2
  have hbare : ¬(a.host = "" ∧ portText a ≠ []) := by
    rintro ⟨hhost, hport⟩
    obtain ⟨-, -, hnone⟩ := h.bare (by rw [hhost]; rfl)
    exact hport (by rw [portText, hnone])
  unfold authorityOf
  simp only [if_neg hempty, h.framed.splitHost (portText_cases a), if_neg hspecial, h.host]
  show (if a.host = "" ∧ portText a ≠ [] then _ else _) = _
  rw [if_neg hbare, portNumber_portText h.port, huser]
  rfl

/-- An authority is read from its text. -/
theorem Authority.Canonical.read (h : a.Canonical kind scheme) (rest : List Char) :
    Read.authority kind scheme a.text.toList rest = .ok a := by
  have hat : '@' ∉ a.host.toList ++ portText a := by
    intro hm
    rcases List.mem_append.mp hm with hm | hm
    · exact (h.framed.inner _ hm).2 rfl
    · exact (portText_inner a _ hm).2 rfl
  have huser := user_userText h.username h.password
  rw [authority_eq, Authority.toList_text]
  by_cases hu : userText a = []
  · rw [if_pos hu, List.nil_append, splitLast_none hat]
    rw [hu] at huser
    exact @readOf _ _ _ h none huser (fun hi => nomatch hi) rest
  · have hne : a.host.toList ≠ [] := by
      intro he
      obtain ⟨hn, hp, -⟩ := h.bare he
      exact hu (by rw [userText, hn, hp]; rfl)
    rw [if_neg hu, List.append_assoc, List.singleton_append, splitLast_append hat]
    exact @readOf _ _ _ h (some (userText a)) huser (fun _ => hne) rest

theorem append_splitHost (inside : Bool) (s : List Char) :
    (Read.splitHost inside s).1 ++ (Read.splitHost inside s).2 = s := by
  induction s generalizing inside with
  | nil => rfl
  | cons c s ih =>
    rw [Read.splitHost]
    split
    · rfl
    · exact congrArg (c :: ·) (ih _)

theorem of_portNumber {p : Option Nat} (h : Read.portNumber scheme s = .ok p) :
    (s = [] → p = none) ∧ ∀ n, p = some n → n ≤ 65535 ∧ some n ≠ defaultPort scheme := by
  unfold Read.portNumber at h
  split at h
  · cases h
    exact ⟨fun _ => rfl, fun n hn => nomatch hn⟩
  · refine ⟨fun he => absurd he (List.cons_ne_nil _ _), fun n hn => ?_⟩
    subst hn
    simp only at h
    split at h
    · cases h
    · split at h
      · cases h
      · split at h
        · cases h
        · rename_i hle
          split at h
          · cases h
          · rename_i hdefault
            cases h
            exact ⟨Nat.not_lt.mp hle, hdefault⟩

theorem nil_of_plain (h : Host.plain s = .ok t) (ht : t.toList = []) : s = [] := by
  unfold Host.plain at h
  split at h
  · obtain ⟨body, hbody, -⟩ := Host.bracketed_self h
    rw [hbody] at ht
    cases ht
  · split at h
    · cases h
    · cases h
      rw [String.toList_ofList] at ht
      exact Percent.eq_nil_of_encode ht

theorem readHost_self (h : readHost kind s = .ok t) :
    readHost kind t.toList = .ok t ∧ Framed t ∧ (kind = .special → t.toList ≠ []) ∧
      (t.toList = [] → s = []) := by
  unfold readHost at h ⊢
  split at h
  · rename_i hk
    obtain ⟨hread, hne, hframed⟩ := Host.parse_self h
    rw [if_pos hk]
    exact ⟨hread, hframed, fun _ => hne, fun he => absurd he hne⟩
  · rename_i hk
    obtain ⟨hread, hframed⟩ := Host.plain_self h
    rw [if_neg hk]
    exact ⟨hread, hframed, fun he => absurd he hk, nil_of_plain h⟩

theorem keptBy_user (s : List Char) :
    KeptBy keepsUser (Read.user s).1 ∧ KeptBy keepsUser (Read.user s).2 :=
  ⟨keptBy_encode (by decide) (by decide +kernel) _, keptBy_encode (by decide) (by decide +kernel) _⟩

theorem canonical_of_authorityOf {info : Option (List Char)}
    (h : authorityOf kind scheme info s rest = .ok a) : a.Canonical kind scheme := by
  unfold authorityOf at h
  have hsplit := append_splitHost false s
  generalize Read.splitHost false s = pair at h hsplit
  obtain ⟨host, port⟩ := pair
  simp only at h hsplit
  split at h
  · cases h
  · rename_i hinfo
    split at h
    · cases h
    · rename_i hspecial
      obtain ⟨t, ht, h⟩ := Except.bind_eq_ok.mp h
      obtain ⟨hread, hframed, hne, hnil⟩ := readHost_self ht
      split at h
      · cases h
      · rename_i hbare
        obtain ⟨p, hp, ha⟩ := Except.bind_eq_ok.mp h
        cases ha
        obtain ⟨hnone, hport⟩ := of_portNumber hp
        refine ⟨(keptBy_user _).1, (keptBy_user _).2, hframed, hread, hne, fun he => ?_, hport⟩
        have hempty : port = [] := by
          by_contra hport
          exact hbare ⟨String.toList_eq_nil_iff.mp he, hport⟩
        have hs : s = [] := by
          rw [← hsplit, hnil he, hempty]
          rfl
        have hi : info.getD [] = [] := by
          cases info with
          | none => rfl
          | some i =>
            by_contra hi
            have hsome : ¬(some i = some [] ∧ rest = []) := fun he => hi (Option.some.inj he.1)
            exact hinfo ⟨rfl, hs, by rw [decide_eq_false hsome]; rfl⟩
        rw [hi]
        exact ⟨rfl, rfl, hnone hempty⟩

/-- Reading an authority gives one that is read as it is. -/
theorem canonical_of_authority (h : Read.authority kind scheme s rest = .ok a) :
    a.Canonical kind scheme := by
  rw [authority_eq] at h
  cases hs : Read.splitLast '@' s with
  | none =>
    rw [hs, Option.elim_none] at h
    exact canonical_of_authorityOf h
  | some p =>
    rw [hs, Option.elim_some] at h
    exact canonical_of_authorityOf h

end CloudEmulation.Url
