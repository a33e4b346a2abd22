import CloudEmulation.Json.Basic
import CloudEmulation.Number.Numeral
import CloudEmulation.Text.Utf8
/-!
Reading JSON text. An error names the line and column where reading stopped, counted in bytes.
-/

namespace CloudEmulation.Json

inductive ReadCause where
  | endOfList | endOfObject | endOfString | endOfValue
  | expectedColon | expectedListEnd | expectedObjectEnd | expectedWord | expectedValue
  | invalidEscape | invalidNumber | numberOutOfRange
  | controlCharacter | keyNotString | loneSurrogate | brokenSurrogatePair
  | trailingComma | trailingCharacters | tooDeep
  deriving DecidableEq, Repr

def ReadCause.message : ReadCause → String
  | .endOfList => "EOF while parsing a list"
  | .endOfObject => "EOF while parsing an object"
  | .endOfString => "EOF while parsing a string"
  | .endOfValue => "EOF while parsing a value"
  | .expectedColon => "expected `:`"
  | .expectedListEnd => "expected `,` or `]`"
  | .expectedObjectEnd => "expected `,` or `\x7d`"
  | .expectedWord => "expected ident"
  | .expectedValue => "expected value"
  | .invalidEscape => "invalid escape"
  | .invalidNumber => "invalid number"
  | .numberOutOfRange => "number out of range"
  | .controlCharacter => "control character (\\u0000-\\u001F) found while parsing a string"
  | .keyNotString => "key must be a string"
  | .loneSurrogate => "lone leading surrogate in hex escape"
  | .brokenSurrogatePair => "unexpected end of hex escape"
  | .trailingComma => "trailing comma"
  | .trailingCharacters => "trailing characters"
  | .tooDeep => "recursion limit exceeded"

/-- Where reading stopped: before `rest`, or at its first character when that one was only looked
at. -/
structure ReadError where
  cause : ReadCause
  rest : List Char
  looking : Bool
  deriving DecidableEq, Repr

/-- Line and column, from 1 and 0, of an error in a text. -/
def ReadError.position (source : List Char) (e : ReadError) : Nat × Nat :=
  let done := source.take (source.length - e.rest.length)
  let line := (done.reverse.takeWhile (· ≠ '\n')).reverse
  let ahead := if e.looking ∧ e.rest ≠ [] then 1 else 0
  (1 + done.count '\n', Utf8.size line + ahead)

def ReadError.message (source : List Char) (e : ReadError) : String :=
  let (line, column) := e.position source
  e.cause.message ++ " at line " ++ toString line ++ " column " ++ toString column

namespace Read

abbrev Reading := Except ReadError

/-- Stops after what was consumed. -/
def stop (cause : ReadCause) (rest : List Char) : Reading α := .error ⟨cause, rest, false⟩

/-- Stops at a character that was only looked at. -/
def stopAt (cause : ReadCause) (rest : List Char) : Reading α := .error ⟨cause, rest, true⟩

def isSpace (c : Char) : Bool := c = ' ' || c = '\n' || c = '\t' || c = '\r'

def skip (s : List Char) : List Char := s.dropWhile isSpace

/-- The rest of a word such as `null` after its first letter. -/
def word (value : Json) : List Char → List Char → Reading (Json × List Char)
  | [], s => .ok (value, s)
  | _ :: _, [] => stop .endOfValue []
  | w :: ws, c :: r => if c = w then word value ws r else stop .expectedWord r

/-! Numbers: the leading digits that fit 64 bits, scaled by a power of ten. -/

def digitOf (c : Char) : Nat := c.toNat - 48

/-- Takes digits while the number stays within a limit. -/
def absorb (limit n : Nat) : List Char → Nat × Nat × List Char
  | [] => (n, 0, [])
  | c :: r =>
    if Numeral.isDigit c ∧ n * 10 + digitOf c ≤ limit then
      let (m, count, rest) := absorb limit (n * 10 + digitOf c) r
      (m, count + 1, rest)
    else (n, 0, c :: r)

/-- Divides by `10 ^ 308` until what is left of the exponent is a double's power of ten. -/
def shrink (d : Double) (exponent : Nat) : Nat → Double
  | 0 => d
  | fuel + 1 =>
    if exponent ≤ 308 then d.div (Double.ofDecimal false 1 exponent)
    else if d.isZero then d
    else shrink (d.div (Double.ofDecimal false 1 308)) (exponent - 308) fuel

/-- `significand * 10 ^ exponent`, scaled in double arithmetic; nothing if it is too large. -/
def scaled? (significand : Nat) (exponent : Int) : Option Double :=
  let d := Double.ofNat significand
  if 0 ≤ exponent then
    if 308 < exponent then (if d.isZero then some d else none)
    else some (d.mul (Double.ofDecimal false 1 exponent)) |>.filter Double.isFinite
  else some (shrink d exponent.natAbs 4)

def finish (negative : Bool) (significand : Nat) (exponent : Int) (rest : List Char) :
    Reading (Json × List Char) :=
  match scaled? significand exponent with
  | some d => .ok (.number (.double (if negative then d.neg else d)), rest)
  | none => stop .numberOutOfRange rest

def exponentLimit : Nat := 0x7FFFFFFF

/-- The digits after an exponent mark. Where they are too many, the number is out of range or
zero. -/
def exponentPart (negative : Bool) (significand : Nat) (exponent : Int) (s : List Char) :
    Reading (Json × List Char) :=
  let (down, ds) := Numeral.sign s
  match ds with
  | [] => stop .endOfValue []
  | c :: r =>
    if !Numeral.isDigit c then stop .invalidNumber r
    else
      let (e, _, rest) := absorb exponentLimit 0 ds
      if !rest.head?.any Numeral.isDigit then
        finish negative significand (if down then exponent - e else exponent + e) rest
      else if significand ≠ 0 ∧ !down then stop .numberOutOfRange (rest.drop 1)
      else .ok (.number (.double ⟨negative, 0⟩), rest.dropWhile Numeral.isDigit)

def isExponentMark (c : Char) : Bool := c = 'e' || c = 'E'

def afterDigits (negative : Bool) (significand : Nat) (exponent : Int) :
    List Char → Reading (Json × List Char)
  | c :: r =>
    if isExponentMark c then exponentPart negative significand exponent r
    else finish negative significand exponent (c :: r)
  | [] => finish negative significand exponent []

/-- The digits after a point. -/
def fractionPart (negative : Bool) (significand : Nat) (exponent : Int) (s : List Char) :
    Reading (Json × List Char) :=
  match s with
  | [] => stopAt .endOfValue []
  | c :: r =>
    if !Numeral.isDigit c then stopAt .invalidNumber (c :: r)
    else
      let (m, count, rest) := absorb Numeral.word64Limit significand s
      afterDigits negative m (exponent - count) (rest.dropWhile Numeral.isDigit)

def wholePart (negative : Bool) (significand : Nat) (s : List Char) : Reading (Json × List Char) :=
  let (n, _, rest) := absorb Numeral.word64Limit significand s
  match rest with
  | c :: r =>
    if Numeral.isDigit c then
      let (more, rest) := Numeral.span Numeral.isDigit rest
      match rest with
      | '.' :: r => fractionPart negative n more.length r
      | _ => afterDigits negative n more.length rest
    else if c = '.' then fractionPart negative n 0 r
    else if isExponentMark c then exponentPart negative n 0 r
    else whole n (c :: r)
  | [] => whole n []
where
  whole (n : Nat) (rest : List Char) : Reading (Json × List Char) :=
    if !negative then .ok (.number (.integer n), rest)
    else if n = 0 ∨ 0x8000000000000000 < n then
      .ok (.number (.double (Double.ofNat n).neg), rest)
    else .ok (.number (.integer (-Int.ofNat n)), rest)

def number (negative : Bool) : List Char → Reading (Json × List Char)
  | [] => stop .endOfValue []
  | '0' :: r =>
    match r with
    | c :: _ => if Numeral.isDigit c then stopAt .invalidNumber r else wholePart negative 0 r
    | [] => wholePart negative 0 r
  | c :: r =>
    if Numeral.isDigit c then wholePart negative (digitOf c) r else stop .invalidNumber r

/-! Strings. -/

def hexDigit? (c : Char) : Option Nat :=
  if '0' ≤ c ∧ c ≤ '9' then some (c.toNat - 48)
  else if 'a' ≤ c ∧ c ≤ 'f' then some (c.toNat - 87)
  else if 'A' ≤ c ∧ c ≤ 'F' then some (c.toNat - 55)
  else none

def hexFour (s : List Char) : Reading (Nat × List Char) :=
  match s with
  | a :: b :: c :: d :: r =>
    match [a, b, c, d].mapM hexDigit? with
    | some ds => .ok (ds.foldl (16 * · + ·) 0, r)
    | none => stop .invalidEscape r
  | _ => stop .endOfString []

/-- The second half of a surrogate pair. -/
def lowSurrogate (high : Nat) (s : List Char) : Reading (Char × List Char) :=
  match s with
  | [] => stop .endOfString []
  | '\\' :: [] => stop .endOfString []
  | '\\' :: 'u' :: r => do
    let (low, r) ← hexFour r
    if 0xDC00 ≤ low ∧ low ≤ 0xDFFF then
      .ok (Char.ofNat (0x10000 + (high - 0xD800) * 1024 + (low - 0xDC00)), r)
    else stop .loneSurrogate r
  | '\\' :: _ :: r => stop .brokenSurrogatePair r
  | _ :: r => stop .brokenSurrogatePair r

def escapeSequence (s : List Char) : Reading (Char × List Char) :=
  match s with
  | [] => stop .endOfString []
  | '"' :: r => .ok ('"', r)
  | '\\' :: r => .ok ('\\', r)
  | '/' :: r => .ok ('/', r)
  | 'b' :: r => .ok (Char.ofNat 8, r)
  | 'f' :: r => .ok (Char.ofNat 12, r)
  | 'n' :: r => .ok ('\n', r)
  | 'r' :: r => .ok ('\r', r)
  | 't' :: r => .ok ('\t', r)
  | 'u' :: r => do
    let (n, r) ← hexFour r
    if 0xDC00 ≤ n ∧ n ≤ 0xDFFF then stop .loneSurrogate r
    else if 0xD800 ≤ n ∧ n ≤ 0xDBFF then lowSurrogate n r
    else .ok (Char.ofNat n, r)
  | _ :: r => stop .invalidEscape r

/-- The characters up to the closing quote. -/
def stringBody : Nat → List Char → List Char → Reading (String × List Char)
  | 0, _, s => stop .endOfString s
  | _ + 1, _, [] => stop .endOfString []
  | fuel + 1, done, c :: r =>
    if c = '"' then .ok (String.ofList done.reverse, r)
    else if c = '\\' then do
      let (x, r) ← escapeSequence r
      stringBody fuel (x :: done) r
    else if c.toNat < 32 then stop .controlCharacter r
    else stringBody fuel (c :: done) r

def string (s : List Char) : Reading (String × List Char) := stringBody (s.length + 1) [] s

/-! Values: `depth` bounds how deep lists and objects nest. -/

def maxDepth : Nat := 128

mutual

def value : Nat → Nat → List Char → Reading (Json × List Char)
  | 0, _, s => stop .tooDeep s
  | fuel + 1, depth, s =>
    match skip s with
    | [] => stopAt .endOfValue []
    | c :: r =>
      if c = 'n' then word .null ['u', 'l', 'l'] r
      else if c = 't' then word (.bool true) ['r', 'u', 'e'] r
      else if c = 'f' then word (.bool false) ['a', 'l', 's', 'e'] r
      else if c = '-' then number true r
      else if Numeral.isDigit c then number false (c :: r)
      else if c = '"' then (string r).map fun p => (.string p.1, p.2)
      else if c = '[' then
        if depth ≤ 1 then stopAt .tooDeep (c :: r)
        else (items fuel (depth - 1) true r).map fun p => (.array p.1, p.2)
      else if c = '\x7b' then
        if depth ≤ 1 then stopAt .tooDeep (c :: r)
        else (members fuel (depth - 1) true [] r).map fun p => (.object p.1, p.2)
      else stopAt .expectedValue (c :: r)

def items : Nat → Nat → Bool → List Char → Reading (List Json × List Char)
  | 0, _, _, s => stop .tooDeep s
  | fuel + 1, depth, first, s =>
    match skip s with
    | [] => stopAt .endOfList []
    | c :: r =>
      if c = ']' then .ok ([], r)
      else do
        let s ← if first then pure (c :: r)
          else if c = ',' then
            match skip r with
            | [] => stopAt .endOfValue []
            | ']' :: r => (stopAt .trailingComma (']' :: r) : Reading (Json × List Char)).map (·.2)
            | s => pure s
          else (stopAt .expectedListEnd (c :: r) : Reading (Json × List Char)).map (·.2)
        let (v, s) ← value fuel depth s
        let (vs, s) ← items fuel depth false s
        return (v :: vs, s)

def members : Nat → Nat → Bool → Members → List Char → Reading (Members × List Char)
  | 0, _, _, _, s => stop .tooDeep s
  | fuel + 1, depth, first, done, s =>
    match skip s with
    | [] => stopAt .endOfObject []
    | c :: r =>
      if c = '\x7d' then .ok (done, r)
      else do
        let s ← if first then
            if c = '"' then pure r
            else (stopAt .keyNotString (c :: r) : Reading (Json × List Char)).map (·.2)
          else if c = ',' then
            match skip r with
            | [] => stopAt .endOfValue []
            | '"' :: r => pure r
            | '\x7d' :: r =>
              (stopAt .trailingComma ('\x7d' :: r) : Reading (Json × List Char)).map (·.2)
            | s => stopAt .keyNotString s
          else (stopAt .expectedObjectEnd (c :: r) : Reading (Json × List Char)).map (·.2)
        let (name, s) ← string s
        let s ← match skip s with
          | [] => stopAt .endOfObject []
          | ':' :: r => pure r
          | s => stopAt .expectedColon s
        let (v, s) ← value fuel depth s
        members fuel depth false (done.insert name v) s

end

def document (s : List Char) : Except ReadError Json := do
  let (v, r) ← value (2 * s.length + 2) maxDepth s
  match skip r with
  | [] => return v
  | s => .error ⟨.trailingCharacters, s, true⟩

end Read

/-- The value that a text holds, or why it holds none. -/
def parse (text : String) : Except String Json :=
  (Read.document text.toList).mapError (·.message text.toList)

end CloudEmulation.Json
