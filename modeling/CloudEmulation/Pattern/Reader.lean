import CloudEmulation.Pattern.NamedSet
import CloudEmulation.Pattern.Syntax
import CloudEmulation.Number.Numeral
/-!
Reading patterns. A pattern is refused as a whole: where its text is not well formed, names a
property that does not exist, nests too deeply or grows too large.
-/

namespace CloudEmulation.Pattern

/-- What flags in a pattern switch on or off. -/
structure Flags where
  ignoreCase : Bool
  multiLine : Bool
  dotAll : Bool
  unicode : Bool
  blanks : Bool
  carriage : Bool
  deriving DecidableEq, Repr

def Flags.standard : Flags := ⟨false, false, false, true, false, false⟩

/-- A part of a pattern, and how deeply it nests. -/
structure Part where
  pattern : Pattern
  depth : Nat

namespace Read

abbrev Text := List Char

/-! Blanks and comments, which count for nothing where flags say so. -/

def dropComment (s : Text) : Text := (s.dropWhile (· ≠ '\n')).drop 1

def skipBlanks : Nat → Text → Text
  | 0, s => s
  | _ + 1, [] => []
  | fuel + 1, c :: r =>
    if Text.isBlank c then skipBlanks fuel r
    else if c = '#' then skipBlanks fuel (dropComment r)
    else c :: r

def skip (blanks : Bool) (s : Text) : Text := if blanks then skipBlanks s.length s else s

/-! Numbers in escapes and counts. -/

def hexValue? (c : Char) : Option Nat :=
  if '0' ≤ c ∧ c ≤ '9' then some (c.toNat - 48)
  else if 'a' ≤ c ∧ c ≤ 'f' then some (c.toNat - 87)
  else if 'A' ≤ c ∧ c ≤ 'F' then some (c.toNat - 55)
  else none

def isScalar (n : Nat) : Bool := n < 0xD800 || (0xE000 ≤ n && n < 0x110000)

/-- Exactly `count` hexadecimal digits. -/
def hexFixed (blanks : Bool) (n : Nat) : Nat → Text → Option (Nat × Text)
  | 0, s => some (n, s)
  | count + 1, s =>
    match s with
    | [] => none
    | c :: r => do hexFixed blanks (16 * n + (← hexValue? c)) count (skip blanks r)

/-- Hexadecimal digits up to a closing brace. -/
def hexBraced (blanks : Bool) (digits n : Nat) : Nat → Text → Option (Nat × Text)
  | 0, _ => none
  | _ + 1, [] => none
  | fuel + 1, c :: r =>
    if c = '\x7d' then (if digits = 0 then none else some (n, r))
    else do hexBraced blanks (digits + 1) (16 * n + (← hexValue? c)) fuel (skip blanks r)

def decimalDigits (blanks : Bool) (digits : List Char) : Nat → Text → List Char × Text
  | 0, s => (digits, s)
  | _ + 1, [] => (digits, [])
  | fuel + 1, c :: r =>
    if Numeral.isDigit c then decimalDigits blanks (digits ++ [c]) fuel (skip blanks r)
    else (digits, c :: r)

/-- A count of at most 32 bits with blanks around it. -/
def decimal (blanks : Bool) (s : Text) : Option Nat × Bool × Text :=
  let s := s.dropWhile Text.isBlank
  let (ds, r) := decimalDigits blanks [] s.length s
  let n := Numeral.digitsValue 0 ds
  let value := if ds = [] ∨ Numeral.word32Limit < n then none else some n
  (value, ds = [], r.dropWhile Text.isBlank)

/-! Escapes. -/

inductive Atom where
  | literal (c : Char) (byte : Bool)
  | set (s : CharSet)
  | look (l : Look)

def isMeta (c : Char) : Bool := "\\.+*?()|[]\x7b\x7d^$#&-~".toList.contains c

def isEscapable (c : Char) : Bool :=
  isMeta c || (c.toNat < 128 && !c.isAlphanum && c ≠ '<' && c ≠ '>')

def wordSet (f : Flags) : CharSet := if f.unicode then .word else .asciiWord

def maybeCompl (negated : Bool) (s : CharSet) : CharSet := if negated then .compl s else s

def classEscape? (f : Flags) (c : Char) : Option CharSet :=
  let set := fun (unicode ascii : CharSet) => if f.unicode then unicode else ascii
  match c with
  | 'd' => some (set .digit .asciiDigit)
  | 'D' => some (.compl (set .digit .asciiDigit))
  | 's' => some (set .blank .asciiBlank)
  | 'S' => some (.compl (set .blank .asciiBlank))
  | 'w' => some (wordSet f)
  | 'W' => some (.compl (wordSet f))
  | _ => none

def controlEscape? (c : Char) : Option Char :=
  match c with
  | 'a' => some (Char.ofNat 7)
  | 'f' => some (Char.ofNat 12)
  | 't' => some '\t'
  | 'n' => some '\n'
  | 'r' => some '\r'
  | 'v' => some (Char.ofNat 11)
  | _ => none

def isBoundaryChar (c : Char) : Bool := c.isAlpha || c = '-'

/-- `b` alone, or with the kind of boundary in braces. -/
def boundary (f : Flags) (r : Text) : Option (Atom × Text) :=
  let w := wordSet f
  let plain := some (Atom.look (.boundary w), r)
  match r with
  | '\x7b' :: inner =>
    match skip f.blanks inner with
    | [] => none
    | c :: s =>
      if !isBoundaryChar c then plain
      else
        let name := (c :: s).takeWhile isBoundaryChar
        match (c :: s).dropWhile isBoundaryChar with
        | '\x7d' :: rest =>
          match String.ofList name with
          | "start" => some (.look (.wordStart w), rest)
          | "end" => some (.look (.wordEnd w), rest)
          | "start-half" => some (.look (.beforeWord w), rest)
          | "end-half" => some (.look (.afterWord w), rest)
          | _ => none
        | _ => none
  | _ => plain

def hexWidth (c : Char) : Nat := if c = 'x' then 2 else if c = 'u' then 4 else 8

def hexEscape (f : Flags) (kind : Char) (r : Text) : Option (Atom × Text) := do
  match skip f.blanks r with
  | [] => none
  | '\x7b' :: inner =>
    let s := skip f.blanks inner
    let (n, rest) ← hexBraced f.blanks 0 0 (s.length + 1) s
    if isScalar n then some (.literal (Char.ofNat n) false, rest) else none
  | s =>
    let (n, rest) ← hexFixed f.blanks 0 (hexWidth kind) s
    if isScalar n then some (.literal (Char.ofNat n) (kind = 'x'), rest) else none

/-- Splits a property in braces at the mark between its name and its value. -/
def propertySet? (name : Text) : Option (Bool × CharSet) :=
  let cut := fun (mark : Char) =>
    (name.takeWhile (· ≠ mark), (name.dropWhile (· ≠ mark)).drop 1)
  if name.contains '=' ∨ name.contains ':' then
    let mark := if name.contains ':' then ':' else '='
    let (p, v) := cut mark
    match p.getLast? with
    | some '!' =>
      if mark = '=' then (CharSet.valued? p.dropLast v).map (true, ·)
      else (CharSet.valued? p v).map (false, ·)
    | _ => (CharSet.valued? p v).map (false, ·)
  else (CharSet.named? name).map (false, ·)

def foldSet (f : Flags) (s : CharSet) : CharSet :=
  if f.ignoreCase then (if f.unicode then .folded s else .foldedAscii s) else s

def propertyEscape (f : Flags) (negated : Bool) (r : Text) : Option (Atom × Text) :=
  let finish := fun (p : Bool × CharSet) (rest : Text) =>
    some (Atom.set (maybeCompl (negated != p.1) (foldSet f p.2)), rest)
  if !f.unicode then none
  else
    match skip f.blanks r with
    | [] => none
    | '\x7b' :: inner =>
      match inner.dropWhile (· ≠ '\x7d') with
      | [] => none
      | _ :: rest => (propertySet? (inner.takeWhile (· ≠ '\x7d'))).bind (finish · rest)
    | c :: rest =>
      if c = '\\' then none else (propertySet? [c]).bind (finish · rest)

/-- What stands after a backslash. -/
def escape (f : Flags) (s : Text) : Option (Atom × Text) :=
  match s with
  | [] => none
  | c :: r =>
    if c.isDigit then none
    else if c = 'x' ∨ c = 'u' ∨ c = 'U' then hexEscape f c r
    else if c = 'p' ∨ c = 'P' then propertyEscape f (c = 'P') r
    else if isEscapable c then some (.literal c false, r)
    else
      match classEscape? f c, controlEscape? c with
      | some set, _ => some (.set set, r)
      | none, some x => some (.literal x false, r)
      | none, none =>
        match c with
        | 'A' => some (.look .start, r)
        | 'z' => some (.look .finish, r)
        | 'b' => boundary f r
        | 'B' => some (.look (.notBoundary (wordSet f)), r)
        | '<' => some (.look (.wordStart (wordSet f)), r)
        | '>' => some (.look (.wordEnd (wordSet f)), r)
        | _ => none

/-! Classes in brackets. -/

def classAtom (f : Flags) (s : Text) : Option (Atom × Text) :=
  match s with
  | [] => none
  | '\\' :: r => escape f r
  | c :: r => some (.literal c false, r)

def atomSet? (f : Flags) : Atom → Option CharSet
  | .literal c _ => if !f.unicode ∧ 128 ≤ c.toNat then none else some (.char c)
  | .set s => some s
  | .look _ => none

def atomChar? (f : Flags) : Atom → Option Char
  | .literal c _ => if !f.unicode ∧ 128 ≤ c.toNat then none else some c
  | _ => none

/-- One member of a class: a character, a range or a named set. -/
def classItem (f : Flags) (s : Text) : Option (CharSet × Text) := do
  let (a, r) ← classAtom f s
  match skip f.blanks r with
  | [] => none
  | '-' :: after =>
    match skip f.blanks after with
    | [] => (atomSet? f a).map (·, '-' :: after)
    | c :: more =>
      if c = ']' ∨ c = '-' then (atomSet? f a).map (·, '-' :: after)
      else
        let (b, rest) ← classAtom f (c :: more)
        let low ← atomChar? f a
        let high ← atomChar? f b
        if low.toNat ≤ high.toNat then some (.range low.toNat high.toNat, rest) else none
  | rest => (atomSet? f a).map (·, rest)

/-- A class such as `[:alpha:]`, after its first bracket. -/
def asciiClass? (s : Text) : Option (CharSet × Text) :=
  match s with
  | ':' :: r =>
    let (negated, r) := match r with
      | '^' :: r => (true, r)
      | r => (false, r)
    match r.dropWhile (· ≠ ':') with
    | ':' :: ']' :: rest =>
      (CharSet.ascii? (String.ofList (r.takeWhile (· ≠ ':')))).map fun c =>
        (maybeCompl negated c, rest)
    | _ => none
  | _ => none

/-- An operation between two sets that waits for its right side. -/
structure Pending where
  left : CharSet
  op : CharSet → CharSet → CharSet

def settle (f : Flags) (p : Option Pending) (right : CharSet) : CharSet :=
  match p with
  | none => right
  | some p => p.op (foldSet f p.left) (foldSet f right)

def operator? (a b : Char) : Option (CharSet → CharSet → CharSet) :=
  if a ≠ b then none
  else if a = '&' then some .inter
  else if a = '-' then some .diff
  else if a = '~' then some .symmDiff
  else none

/-- Hyphens at the front of a class stand for themselves, and so does a bracket in first place. -/
def classFront (f : Flags) : Nat → CharSet → Bool → Text → CharSet × Text
  | 0, set, _, s => (set, s)
  | fuel + 1, set, first, s =>
    match s with
    | '-' :: r => classFront f fuel (.union set (.char '-')) false (skip f.blanks r)
    | ']' :: r => if first then (.union set (.char ']'), skip f.blanks r) else (set, s)
    | _ => (set, s)

mutual

/-- A class after its opening bracket. -/
def openClass (f : Flags) : Nat → Text → Option (CharSet × Nat × Text)
  | 0, _ => none
  | fuel + 1, s => do
    let s := skip f.blanks s
    let (negated, s) := match s with
      | '^' :: r => (true, skip f.blanks r)
      | s => (false, s)
    let (front, s) := classFront f s.length .none true s
    let (set, depth, rest) ← classBody f fuel none front s
    let set := foldSet f set
    some (maybeCompl negated set, depth + 1, rest)

/-- The members of a class up to its closing bracket. -/
def classBody (f : Flags) : Nat → Option Pending → CharSet → Text → Option (CharSet × Nat × Text)
  | 0, _, _, _ => none
  | fuel + 1, pending, set, s =>
    match skip f.blanks s with
    | [] => none
    | '[' :: r =>
      match asciiClass? r with
      | some (c, rest) => classBody f fuel pending (.union set c) rest
      | none => do
        let (c, depth, rest) ← openClass f fuel r
        let (c', depth', rest) ← classBody f fuel pending (.union set c) rest
        some (c', max depth depth', rest)
    | ']' :: r => some (settle f pending set, 0, r)
    | a :: b :: r =>
      match operator? a b with
      | some op => classBody f fuel (some ⟨settle f pending set, op⟩) .none r
      | none => do
        let (c, rest) ← classItem f (a :: b :: r)
        classBody f fuel pending (.union set c) rest
    | s => do
      let (c, rest) ← classItem f s
      classBody f fuel pending (.union set c) rest

end

/-! Groups and flags. -/

def setFlag (f : Flags) (on : Bool) (c : Char) : Option Flags :=
  match c with
  | 'i' => some { f with ignoreCase := on }
  | 'm' => some { f with multiLine := on }
  | 's' => some { f with dotAll := on }
  | 'U' => some f
  | 'u' => some { f with unicode := on }
  | 'x' => some { f with blanks := on }
  | 'R' => some { f with carriage := on }
  | _ => none

/-- Flags up to `:` or `)`; each occurs once, and after a `-` they are switched off. -/
def flagList (f : Flags) (seen : List Char) (off dangling : Bool) :
    Text → Option (Flags × Bool × Char × Text)
  | [] => none
  | c :: r =>
    if c = ':' ∨ c = ')' then (if dangling then none else some (f, !seen.isEmpty || off, c, r))
    else if c = '-' then (if off then none else flagList f seen true true r)
    else if seen.contains c then none
    else (setFlag f (!off) c).bind fun f => flagList f (c :: seen) off false r

def isNameStart (c : Char) : Bool := c = '_' || Text.isAlphabetic c

def isNameChar (c : Char) : Bool :=
  c = '_' || c = '.' || c = '[' || c = ']' || Text.isAlphanumeric c

/-- The name of a group up to `>`. -/
def groupName (s : Text) : Option (String × Text) :=
  let name := s.takeWhile (· ≠ '>')
  match name, s.dropWhile (· ≠ '>') with
  | c :: cs, _ :: rest =>
    if isNameStart c && cs.all isNameChar then some (String.ofList name, rest) else none
  | _, _ => none

/-- What an opening parenthesis begins. -/
inductive Opening where
  | group (f : Flags) (name : Option String) (rest : Text)
  | flags (f : Flags) (rest : Text)

def opening (f : Flags) (s : Text) : Option Opening :=
  match skip f.blanks s with
  | '?' :: 'P' :: '<' :: r => named r
  | '?' :: '<' :: c :: r => if c = '=' ∨ c = '!' then none else named (c :: r)
  | '?' :: r => do
    let (g, nonEmpty, last, rest) ← flagList f [] false false r
    if last = ')' then (if nonEmpty then some (.flags g rest) else none)
    else some (.group g none rest)
  | s => some (.group f none s)
where
  named (r : Text) : Option Opening := (groupName r).map fun p => .group f (some p.1) p.2

/-! Repetition. -/

/-- A question mark after a count has no effect on what matches. -/
def dropLazy (s : Text) : Text :=
  match s with
  | '?' :: r => r
  | s => s

/-- A count after its opening brace. -/
def countBody (blanks : Bool) (s : Text) : Option (Nat × Option Nat × Text) :=
  match skip blanks s with
  | [] => none
  | s =>
    let (least, missing, r) := decimal blanks s
    match r with
    | ',' :: r =>
      if missing then none
      else do
        let least ← least
        match skip blanks r with
        | [] => none
        | '\x7d' :: rest => some (least, none, rest)
        | s =>
          let (most, _, r) := decimal blanks s
          let most ← most
          match r with
          | '\x7d' :: rest => if least ≤ most then some (least, some most, rest) else none
          | _ => none
    | '\x7d' :: rest => least.map fun n => (n, some n, rest)
    | _ => none

/-- How often the part before may occur, where a text begins with a sign of repetition; nothing
within where the sign is malformed. -/
def repetition? (blanks : Bool) (s : Text) : Option (Option (Nat × Option Nat × Text)) :=
  match s with
  | '?' :: r => some (some (0, some 1, dropLazy r))
  | '*' :: r => some (some (0, none, dropLazy r))
  | '+' :: r => some (some (1, none, dropLazy r))
  | '\x7b' :: r =>
    some ((countBody blanks r).map fun c => (c.1, c.2.1, dropLazy (skip blanks c.2.2)))
  | _ => none

/-! Alternatives, sequences and groups. -/

/-- Reading a sequence: its parts so far, the last one first; flags are parts that cannot be
repeated. -/
structure Frame where
  parts : List (Option Part)

def seqOf (parts : List Part) : Part :=
  match parts with
  | [] => ⟨.empty, 0⟩
  | [p] => p
  | p :: r =>
    ⟨r.foldl (fun a q => .seq a q.pattern) p.pattern, 1 + (parts.map Part.depth).foldl max 0⟩

/-- Flags count as parts where depth is concerned. -/
def Frame.sequence (f : Frame) : Part :=
  let parts := f.parts.reverse
  let s := seqOf (parts.filterMap id)
  if 2 ≤ parts.length ∧ (parts.filterMap id).length < 2 then { s with depth := s.depth + 1 } else s

def altOf (branches : List Part) : Part :=
  match branches with
  | [] => ⟨.empty, 0⟩
  | [p] => p
  | p :: r =>
    ⟨r.foldl (fun a q => .alt a q.pattern) p.pattern, 1 + (branches.map Part.depth).foldl max 0⟩

def repeatLast (parts : List (Option Part)) (least : Nat) (most : Option Nat) :
    Option (List (Option Part)) :=
  match parts with
  | some p :: r => some (some ⟨.times p.pattern least most, p.depth + 1⟩ :: r)
  | _ => none

def dotSet (f : Flags) : Option CharSet :=
  if !f.unicode then none
  else if f.dotAll then some .any
  else if f.carriage then some (.compl (.union (.char '\n') (.char '\r')))
  else some (.compl (.char '\n'))

def lineStart (f : Flags) : Look := if f.multiLine then .lineStart f.carriage else .start

def lineEnd (f : Flags) : Look := if f.multiLine then .lineEnd f.carriage else .finish

def literalPart (f : Flags) (c : Char) (byte : Bool) : Option Part :=
  if !f.unicode ∧ byte ∧ 128 ≤ c.toNat then none
  else some ⟨.char (foldSet f (.char c)), 0⟩

/-- Outside the reach of Unicode a set may only hold ASCII. -/
def staysAscii (s : CharSet) : Bool :=
  (List.range 128).all fun i => !s.contains (Char.ofNat (128 + i))

def atomPart (f : Flags) : Atom → Option Part
  | .literal c byte => literalPart f c byte
  | .set s => if !f.unicode ∧ !staysAscii s then none else some ⟨.char s, 0⟩
  | .look l => some ⟨.look l, 0⟩

def primitive (f : Flags) (s : Text) : Option (Part × Text) :=
  match s with
  | [] => none
  | '\\' :: r => do
    let (a, rest) ← escape f r
    some (← atomPart f a, rest)
  | '.' :: r => (dotSet f).map fun set => (⟨.char set, 0⟩, r)
  | '^' :: r => some (⟨.look (lineStart f), 0⟩, r)
  | '$' :: r => some (⟨.look (lineEnd f), 0⟩, r)
  | c :: r => (literalPart f c false).map (·, r)

/-- The result of reading alternatives: the names of groups so far, and what follows. -/
structure Outcome where
  part : Part
  names : List String
  rest : Text

/-- Reads alternatives up to a closing parenthesis or the end. -/
def alternatives (f : Flags) (names : List String) (done : List Part) (frame : Frame) :
    Nat → Text → Option Outcome
  | 0, _ => none
  | fuel + 1, s =>
    match skip f.blanks s with
    | [] => some ⟨altOf (done ++ [frame.sequence]), names, []⟩
    | ')' :: r => some ⟨altOf (done ++ [frame.sequence]), names, ')' :: r⟩
    | '|' :: r => alternatives f names (done ++ [frame.sequence]) ⟨[]⟩ fuel r
    | '(' :: r =>
      match opening f r with
      | none => none
      | some (.flags g rest) => alternatives g names done ⟨none :: frame.parts⟩ fuel rest
      | some (.group g name rest) =>
        if name.any names.contains then none
        else
          match alternatives g (name.toList ++ names) [] ⟨[]⟩ fuel rest with
          | some ⟨p, names, ')' :: rest⟩ =>
            alternatives f names done ⟨some ⟨p.pattern, p.depth + 1⟩ :: frame.parts⟩ fuel rest
          | _ => none
    | '[' :: r =>
      match openClass f fuel r with
      | some (set, depth, rest) =>
        if !f.unicode ∧ !staysAscii set then none
        else alternatives f names done ⟨some ⟨.char set, depth⟩ :: frame.parts⟩ fuel rest
      | none => none
    | s =>
      match repetition? f.blanks s with
      | some none => none
      | some (some (least, most, rest)) =>
        match repeatLast frame.parts least most with
        | some parts => alternatives f names done ⟨parts⟩ fuel rest
        | none => none
      | none =>
        match primitive f s with
        | some (p, rest) => alternatives f names done ⟨some p :: frame.parts⟩ fuel rest
        | none => none

def depthLimit : Nat := 250

end Read

/-- The pattern that a text denotes. -/
def parse? (text : String) : Option Pattern :=
  let s := text.toList
  match Read.alternatives .standard [] [] ⟨[]⟩ (2 * s.length + 2) s with
  | some ⟨p, _, []⟩ =>
    if p.depth ≤ Read.depthLimit ∧ p.pattern.weight ≤ weightLimit then some p.pattern else none
  | _ => none

end CloudEmulation.Pattern
