import CloudEmulation.Text.Percent
import CloudEmulation.Yaml.Cursor
/-!
The ways to write a scalar. In plain and quoted scalars a single line break reads as a space, and of
several breaks the first one does not count.
-/

namespace CloudEmulation.Yaml

/-- What stands between two words of a scalar. -/
structure Gap where
  spaces : List Char
  /-- The first line break. -/
  leading : List Char
  /-- All further line breaks. -/
  trailing : List Char
  broken : Bool
  deriving Repr

namespace Gap

def none : Gap := ⟨[], [], [], false⟩

/-- What a gap reads as. -/
def text (g : Gap) : List Char :=
  if !g.broken then g.spaces
  else if g.leading ≠ ['\n'] then g.leading ++ g.trailing
  else if g.trailing = [] then [' '] else g.trailing

/-- Reads blanks and line breaks. A tab must not stand in for indentation. -/
def read (indent : Option Nat) : Nat → Gap → Cursor → Option (Gap × Cursor)
  | 0, _, _ => Option.none
  | fuel + 1, g, c =>
    match c.peek? with
    | Option.none => some (g, c)
    | some d =>
      if isSpace d then
        if g.broken && d = '\t' && indent.any (c.column < ·) then Option.none
        else if g.broken then read indent fuel g (c.skip 1)
        else read indent fuel { g with spaces := g.spaces ++ [d] } (c.skip 1)
      else if isBreak d then
        let (b, c) := c.lineBreak
        if g.broken then read indent fuel { g with trailing := g.trailing ++ b } c
        else read indent fuel ⟨[], b, g.trailing, true⟩ c
      else some (g, c)

end Gap

/-! Plain scalars. -/

def isFlowMark (c : Char) : Bool := ",[]\x7b\x7d".toList.contains c

/-- The length of a word of a plain scalar. -/
def wordLength? (inFlow : Bool) : List Char → Option Nat
  | [] => some 0
  | c :: r =>
    if isSpace c || isBreak c then some 0
    else if inFlow && c = ':' && r.head?.any (fun d => isFlowMark d || d = '?') then none
    else if c = ':' && endsWord r then some 0
    else if inFlow && isFlowMark c then some 0
    else (wordLength? inFlow r).map (· + 1)

/-- Reads words and the gaps between them. The result also tells whether line breaks follow. -/
def plainWords (inFlow : Bool) (indent : Nat) :
    Nat → List Char → Gap → Cursor → Option (List Char × Bool × Cursor)
  | 0, _, _, _ => none
  | fuel + 1, text, g, c =>
    if c.atDocumentMark || c.peek? = some '#' then some (text, g.broken, c)
    else do
      let n ← wordLength? inFlow c.rest
      let text := if n = 0 then text else text ++ g.text ++ c.rest.take n
      let g := if n = 0 then g else Gap.none
      let c := c.skip n
      if c.rest.isEmpty || !c.endsWord then return (text, g.broken, c)
      let (g, c) ← Gap.read (some indent) (c.rest.length + 1) g c
      if !inFlow && c.column < indent then return (text, g.broken, c)
      plainWords inFlow indent fuel text g c

def plain? (inFlow : Bool) (indent : Nat) (c : Cursor) : Option (List Char × Bool × Cursor) :=
  plainWords inFlow indent (c.rest.length + 1) [] Gap.none c

/-! Quoted scalars. -/

def hexValue (digits : List Char) : Option Nat :=
  digits.foldlM (fun n d => (Percent.hexValue? d.toNat).map (n * 16 + ·)) 0

/-- The character of a code in `n` hexadecimal digits, and what follows. -/
def coded? (n : Nat) (r : List Char) : Option (Char × Nat) := do
  if r.length < n then none
  let v ← hexValue (r.take n)
  if 0xD800 ≤ v && v ≤ 0xDFFF || 0x10FFFF < v then none
  return (Char.ofNat v, n + 2)

def simpleEscapes : List (Char × Nat) := [
  ('0', 0), ('a', 7), ('b', 8), ('t', 9), ('\t', 9), ('n', 10), ('v', 11), ('f', 12), ('r', 13),
  ('e', 0x1B), (' ', 0x20), ('"', 0x22), ('/', 0x2F), ('\\', 0x5C), ('N', 0x85), ('_', 0xA0),
  ('L', 0x2028), ('P', 0x2029)]

/-- The character that an escape stands for, and the length of the escape. -/
def escaped? : List Char → Option (Char × Nat)
  | 'x' :: r => coded? 2 r
  | 'u' :: r => coded? 4 r
  | 'U' :: r => coded? 8 r
  | c :: _ => (simpleEscapes.lookup c).map fun n => (Char.ofNat n, 2)
  | [] => none

/-- Reads a word of a quoted scalar; it may end with an escaped line break. -/
def quotedWord (quote : Char) : Nat → List Char → Cursor → Option (List Char × Bool × Cursor)
  | 0, _, _ => none
  | fuel + 1, text, c =>
    match c.rest with
    | [] => some (text, false, c)
    | d :: r =>
      if isSpace d || isBreak d then some (text, false, c)
      else if d = quote then
        if quote = '\'' && r.head? = some quote then
          quotedWord quote fuel (text ++ [quote]) (c.skip 2)
        else some (text, false, c)
      else if d = '\\' && quote = '"' then
        if r.head?.any isBreak then some (text, true, (c.skip 1).skipBreak)
        else do
          let (e, n) ← escaped? r
          quotedWord quote fuel (text ++ [e]) (c.skip n)
      else quotedWord quote fuel (text ++ [d]) (c.skip 1)

/-- Reads words and gaps up to the closing quote. -/
def quotedWords (quote : Char) : Nat → List Char → Cursor → Option (List Char × Cursor)
  | 0, _, _ => none
  | fuel + 1, text, c =>
    if c.atDocumentMark || c.rest.isEmpty then none
    else do
      let (text, broken, c) ← quotedWord quote (c.rest.length + 1) text c
      if c.peek? = some quote then return (text, c.skip 1)
      let (g, c) ← Gap.read none (c.rest.length + 1) ⟨[], [], [], broken⟩ c
      quotedWords quote fuel (text ++ g.text) c

def quoted? (quote : Char) (c : Cursor) : Option (List Char × Cursor) :=
  quotedWords quote (c.rest.length + 1) [] (c.skip 1)

/-! Block scalars. -/

/-- What happens to the line breaks at the end of a block scalar. -/
inductive Chomping where
  | strip
  | clip
  | keep
  deriving DecidableEq, Repr

def chomping? : Char → Option Chomping
  | '+' => some .keep
  | '-' => some .strip
  | _ => none

/-- The marks after the indicator of a block scalar: chomping, and an indentation that is not 0. -/
def blockHeader? (c : Cursor) : Option (Chomping × Nat × Cursor) :=
  let sign := c.peek?.bind chomping?
  let c := if sign.isSome then c.skip 1 else c
  match c.peek? with
  | some d =>
    if d.isDigit then
      if d = '0' then none
      else
        let c := c.skip 1
        let late := if sign.isSome then none else c.peek?.bind chomping?
        let c := if late.isSome then c.skip 1 else c
        some ((sign.or late).getD .clip, d.toNat - 48, c)
    else some (sign.getD .clip, 0, c)
  | none => some (sign.getD .clip, 0, c)

/-- Reads indentation and empty lines. Where the indentation is not known yet (0), the deepest
column is told. -/
def blockBreaks (indent : Nat) : Nat → List Char → Nat → Cursor → Option (List Char × Nat × Cursor)
  | 0, _, _, _ => none
  | fuel + 1, breaks, deepest, c =>
    let blanks := (c.rest.takeWhile (· = ' ')).length
    let c := c.skip (if indent = 0 then blanks else min blanks (indent - c.column))
    let deepest := max deepest c.column
    if (indent = 0 || c.column < indent) && c.peek? = some '\t' then none
    else if c.atBreak then
      let (b, c) := c.lineBreak
      blockBreaks indent fuel (breaks ++ b) deepest c
    else some (breaks, deepest, c)

/-- What a block scalar holds so far; `leading` and `trailing` are breaks that no line follows. -/
structure BlockText where
  text : List Char
  leading : List Char
  trailing : List Char
  afterBlank : Bool
  deriving Repr

/-- The text once another line follows. A folded break between two lines that do not begin with a
blank reads as a space. -/
def BlockText.joined (b : BlockText) (folded blank : Bool) : List Char :=
  if folded && b.leading = ['\n'] && !b.afterBlank && !blank then
    b.text ++ (if b.trailing = [] then [' '] else []) ++ b.trailing
  else b.text ++ b.leading ++ b.trailing

def blockLines (folded : Bool) (indent : Nat) :
    Nat → BlockText → Cursor → Option (BlockText × Cursor)
  | 0, _, _ => none
  | fuel + 1, b, c =>
    if c.column ≠ indent || c.rest.isEmpty then some (b, c)
    else do
      let blank := c.peek?.any isSpace
      let (line, c) := c.takeWhile fun _ => true
      let (leading, c) := c.lineBreak
      let (trailing, _, c) ← blockBreaks indent (c.rest.length + 1) [] 0 c
      blockLines folded indent fuel ⟨b.joined folded blank ++ line, leading, trailing, blank⟩ c

def BlockText.chomped (b : BlockText) : Chomping → List Char
  | .strip => b.text
  | .clip => b.text ++ b.leading
  | .keep => b.text ++ b.leading ++ b.trailing

/-- A block scalar below a block that is indented by `parent`, or below none. -/
def block? (folded : Bool) (parent : Option Nat) (c : Cursor) : Option (List Char × Cursor) := do
  let (chomping, increment, c) ← blockHeader? (c.skip 1)
  let c ← c.endLine?
  let given := if increment = 0 then 0 else parent.getD 0 + increment
  let (breaks, deepest, c) ← blockBreaks given (c.rest.length + 1) [] 0 c
  let indent := if given = 0 then max deepest (max 1 (parent.elim 0 (· + 1))) else given
  let (b, c) ← blockLines folded indent (c.rest.length + 1) ⟨[], [], breaks, false⟩ c
  return (b.chomped chomping, c)

end CloudEmulation.Yaml
