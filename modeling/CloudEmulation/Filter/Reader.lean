import CloudEmulation.Filter.Expression
import CloudEmulation.Pattern.Reader
import CloudEmulation.Text.Blank
import CloudEmulation.Text.Utf8
/-!
Reading filter expressions: terms joined by `AND`, by `OR`, or by nothing, which counts as `AND`.
One chain may not mix `OR` with the others. Positions in errors count bytes.
-/

namespace CloudEmulation.Filter

/-- Why reading stopped, and before which text. -/
inductive Stop where
  | at (rest : List Char)
  | key (rest : List Char)
  | ambiguous
  | pattern (text : String)
  deriving DecidableEq, Repr

namespace Read

abbrev Text := List Char

abbrev Reading := Except Stop

def isSpace (c : Char) : Bool := c = ' ' || c = '\t' || c = '\r' || c = '\n'

def skipSpace (s : Text) : Text := s.dropWhile isSpace

/-- Whether a word ends before this text. -/
def endsWord (s : Text) (closes : Char) : Bool :=
  match s with
  | [] => true
  | c :: _ => isSpace c || c = closes

/-- A word that stands alone. -/
def keyword? (word : Text) (s : Text) : Option Text :=
  if word.isPrefixOf s && endsWord (s.drop word.length) '(' then some (s.drop word.length) else none

inductive Connective where
  | all
  | any
  deriving DecidableEq, Repr

def connective (s : Text) : Connective × Text :=
  match keyword? ['A', 'N', 'D'] s, keyword? ['O', 'R'] s with
  | some r, _ => (.all, r)
  | none, some r => (.any, r)
  | none, none => (.all, s)

/-! Keys. -/

def isKeyStart (c : Char) : Bool := c.isAlpha || c = '_'

def isKeyChar (c : Char) : Bool := c.isAlphanum || c = '_'

def identifier? (s : Text) : Option (String × Text) :=
  match s with
  | c :: _ =>
    if isKeyStart c then some (String.ofList (s.takeWhile isKeyChar), s.dropWhile isKeyChar)
    else none
  | [] => none

/-- Further names after points; a point without a name stays. -/
def moreNames : Nat → Text → List String × Text
  | 0, s => ([], s)
  | fuel + 1, s =>
    match s with
    | '.' :: r =>
      match identifier? r with
      | some (name, rest) =>
        let (names, rest) := moreNames fuel rest
        (name :: names, rest)
      | none => ([], s)
    | _ => ([], s)

def key (s : Text) : Reading (FilterKey × Text) :=
  match identifier? s with
  | some (name, rest) =>
    let (names, rest) := moreNames rest.length rest
    .ok (name :: names, rest)
  | none => .error (.key s)

/-! Operators. -/

inductive Operator where
  | list (op : Comparison)
  | single (op : Comparison)
  | search (wanted : Bool)
  deriving DecidableEq, Repr

/-- The longest operator that a text begins with. -/
def operator? : Text → Option (Operator × Text)
  | ':' :: '(' :: r => some (.list .has, r)
  | '=' :: '(' :: r => some (.list .equal, r)
  | '!' :: '=' :: r => some (.single .unequal, r)
  | '!' :: '~' :: r => some (.search false, r)
  | '<' :: '=' :: r => some (.single .atMost, r)
  | '>' :: '=' :: r => some (.single .atLeast, r)
  | ':' :: r => some (.single .has, r)
  | '=' :: r => some (.single .equal, r)
  | '<' :: r => some (.single .less, r)
  | '>' :: r => some (.single .greater, r)
  | '~' :: r => some (.search true, r)
  | _ => none

def operator (s : Text) : Reading (Operator × Text) :=
  match operator? (skipSpace s) with
  | some p => .ok p
  | none => .error (.at (skipSpace s))

/-! Literals. -/

/-- The characters up to a closing quote; a backslash lets any character stand for itself. -/
def quotedBody (quote : Char) : Text → Reading (List Char × Text)
  | [] => .error (.at [])
  | '\\' :: [] => .error (.at ['\\'])
  | '\\' :: c :: r => (quotedBody quote r).map fun p => (c :: p.1, p.2)
  | c :: r => if c = quote then .ok ([], r) else (quotedBody quote r).map fun p => (c :: p.1, p.2)

def isQuote (c : Char) : Bool := c = '\'' || c = '"'

/-- A quoted text, or the characters up to one that ends a bare text. -/
def literal (ends : Char → Bool) (s : Text) : Reading (String × Text) :=
  match s with
  | [] => .error (.at [])
  | c :: r =>
    if isQuote c then (quotedBody c r).map fun p => (String.ofList p.1, p.2)
    else if ends c then .error (.at s)
    else .ok (String.ofList (s.takeWhile (!ends ·)), s.dropWhile (!ends ·))

def endsBare (c : Char) : Bool := Text.isBlank c || c = ')'

def endsItem (c : Char) : Bool := endsBare c || c = ','

def skipSeparators (s : Text) : Text := s.dropWhile fun c => Text.isBlank c || c = ','

/-- The items of a list up to its closing parenthesis. -/
def moreItems : Nat → Text → Reading (List String × Text)
  | 0, s => .error (.at s)
  | fuel + 1, s =>
    match skipSeparators s with
    | [] => .error (.at [])
    | ')' :: r => .ok ([], skipSpace r)
    | s => do
      let (v, r) ← literal endsItem s
      let (vs, r) ← moreItems fuel r
      return (v :: vs, r)

/-- At least one item, and all up to the closing parenthesis. -/
def items (s : Text) : Reading (List String × Text) := do
  let (v, r) ← literal endsItem (skipSeparators s)
  let (vs, r) ← moreItems (r.length + 1) r
  return (v :: vs, r)

/-! Terms. -/

/-- A star that stands alone. -/
def wildcard? (s : Text) : Option Text :=
  match s with
  | '*' :: r => if endsWord r ')' then some r else none
  | _ => none

/-- The pattern is anchored by its own syntax, so that it matches from the first character on. -/
def anchored (text : String) : String := "^(?:" ++ text ++ ")"

def comparison (key : FilterKey) (op : Operator) (s : Text) : Reading (Filter × Text) :=
  match op with
  | .list op => (items s).map fun p => (.anyOf key op p.1, p.2)
  | .search wanted => do
    let (v, r) ← literal endsBare (Text.trimStart s)
    match Pattern.parse? (anchored v) with
    | some p => return (.search key wanted p, r)
    | none => .error (.pattern v)
  | .single op =>
    match (if op = .has then wildcard? (Text.trimStart s) else none) with
    | some r => .ok (.defined key, r)
    | none => (literal endsBare (Text.trimStart s)).map fun p => (.compare key op p.1, p.2)

def term (s : Text) : Reading (Filter × Text) := do
  let (k, r) ← key s
  let (op, r) ← operator r
  comparison k op r

/-- What follows a minus: a key whose absence is asked for. -/
def absence (s : Text) : Reading (Filter × Text) := do
  let (k, r) ← key (skipSpace s)
  match skipSpace r with
  | ':' :: r =>
    match skipSpace r with
    | '*' :: r => return (.not (.defined k), r)
    | r => .error (.at r)
  | r => .error (.at r)

def join : Connective → Filter → Filter → Filter
  | .all => .and
  | .any => .or

mutual

/-- Terms joined by connectives, up to a closing parenthesis or the end. -/
def expression : Nat → Text → Reading (Filter × Text)
  | 0, s => .error (.at s)
  | fuel + 1, s => do
    let (first, r) ← unary fuel s
    chain fuel none first r

def chain : Nat → Option Connective → Filter → Text → Reading (Filter × Text)
  | 0, _, _, s => .error (.at s)
  | fuel + 1, before, left, s =>
    match Text.trimStart s with
    | [] => .ok (left, [])
    | ')' :: r => .ok (left, ')' :: r)
    | s =>
      let (next, after) := connective s
      if before.any (· ≠ next) then .error .ambiguous
      else do
        let (right, r) ← unary fuel after
        chain fuel (some next) (join next left right) r

def unary : Nat → Text → Reading (Filter × Text)
  | 0, s => .error (.at s)
  | fuel + 1, s =>
    match keyword? ['N', 'O', 'T'] (Text.trimStart s), Text.trimStart s with
    | some r, _ => (unary fuel r).map fun p => (.not p.1, p.2)
    | none, [] => .error (.at [])
    | none, '(' :: r => do
      let (f, r) ← expression fuel r
      match skipSpace r with
      | ')' :: r => return (f, r)
      | r => .error (.at r)
    | none, '-' :: r => absence r
    | none, s => term s

end

/-- A filter that takes up the whole text. -/
def whole (s : Text) : Reading Filter := do
  let (f, r) ← expression (2 * s.length + 2) s
  match Text.trimStart r with
  | [] => return f
  | r => .error (.at r)

/-- The error that a stop stands for, with its position in the source. -/
def located (source : Text) : Stop → ReadError
  | .at [] => .unexpectedEnd
  | .at (c :: r) => .unexpected c (Utf8.size source - Utf8.size (c :: r))
  | .key r => .expectedKey (Utf8.size source - Utf8.size r)
  | .ambiguous => .ambiguous
  | .pattern p => .invalidPattern p

end Read

/-- The filter that a text denotes. -/
def parse (text : String) : Except ReadError Filter :=
  (Read.whole text.toList).mapError (Read.located text.toList)

end CloudEmulation.Filter
