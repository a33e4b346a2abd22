import CloudEmulation.Json.Basic
import CloudEmulation.Number.Numeral
import CloudEmulation.Yaml.Node
/-!
What plain scalars mean: null, a truth value, a number, or the text they are written as. A tag may
settle which.
-/

namespace CloudEmulation.Yaml

def isNull (s : String) : Bool := s ∈ ["null", "Null", "NULL", "~"]

def bool? (s : String) : Option Bool :=
  if s ∈ ["true", "True", "TRUE"] then some true
  else if s ∈ ["false", "False", "FALSE"] then some false else none

def digitIn? (base : Nat) (c : Char) : Option Nat :=
  (Percent.hexValue? c.toNat).filter (· < base)

/-- A number in some base; nothing but digits counts. -/
def digits? (base : Nat) (s : List Char) : Option Nat :=
  if s.isEmpty then none
  else s.foldlM (fun n c => (digitIn? base c).map (n * base + ·)) 0

/-- A number behind the mark of its base. -/
def marked? : List Char → Option Nat
  | '0' :: 'x' :: r => digits? 16 r
  | '0' :: 'o' :: r => digits? 8 r
  | '0' :: 'b' :: r => digits? 2 r
  | _ => none

/-- Digits that begin with a zero are a text. -/
def isPadded (s : List Char) : Bool :=
  1 < s.length && s.head? = some '0' && s.all Numeral.isDigit

def unsigned? (s : List Char) : Option Nat :=
  (marked? s).or (if isPadded s then none else digits? 10 s)

def signed? : List Char → Option Int
  | '-' :: r => (unsigned? r).map fun n => -(n : Int)
  | '+' :: r => (unsigned? r).map fun n => (n : Int)
  | s => (unsigned? s).map fun n => (n : Int)

/-- A whole number that 128 bits hold, with a sign or without. -/
def integer? (s : List Char) : Option Int :=
  (signed? s).filter fun n =>
    -0x80000000000000000000000000000000 ≤ n ∧ n ≤ 0xFFFFFFFFFFFFFFFFFFFFFFFFFFFFFFFF

def natural? (limit : Nat) (s : String) : Option Nat :=
  match s.toList with
  | '-' :: _ => none
  | cs => ((integer? cs).map Int.toNat).filter (· ≤ limit)

/-- Infinities and what is no number have names. -/
def special? (s : String) : Option Double :=
  if s ∈ [".inf", ".Inf", ".INF", "+.inf", "+.Inf", "+.INF"] then some (.infinity false)
  else if s ∈ ["-.inf", "-.Inf", "-.INF"] then some (.infinity true)
  else if s ∈ [".nan", ".NaN", ".NAN"] then some .nan else none

def unsignedPart : List Char → List Char
  | '+' :: r => r
  | '-' :: r => r
  | s => s

def double? (s : String) : Option Double :=
  (special? s).or
    (if isPadded (unsignedPart s.toList) then none else (Numeral.double? s).filter Double.isFinite)

/-- A number as JSON, which has only finite ones. -/
def ofDouble (d : Double) : Json := if d.isFinite then .number (.double d) else .null

/-- A whole number that 64 bits hold; one that they do not hold is no value at all. -/
def ofInteger? (n : Int) : Option Json :=
  if Number.fits n then some (.ofInt n) else none

/-- A plain scalar by its form. -/
def plainValue? (s : String) : Option Json :=
  if s = "" || isNull s then some .null
  else match bool? s, integer? s.toList, double? s with
    | some b, _, _ => some (.bool b)
    | none, some n, _ => ofInteger? n
    | none, none, some d => some (ofDouble d)
    | none, none, none => some (.string s)

def core (name : String) : String := "tag:yaml.org,2002:" ++ name

def isLocal (tag : Option String) : Bool := tag.any fun t => t.toList.head? = some '!'

def scalarValue? (tag : Option String) (plain : Bool) (s : String) : Option Json :=
  match tag with
  | none => if plain then plainValue? s else some (.string s)
  | some t =>
    if t = core "bool" then (bool? s).map Json.bool
    else if t = core "int" then (integer? s.toList).bind ofInteger?
    else if t = core "float" then (double? s).map ofDouble
    else if t = core "null" then if isNull s then some .null else none
    else some (.string s)

namespace Node

/-- Collections may be nested this deep. -/
def depthLimit : Nat := 128

mutual

/-- A node as a value; tags of an application have none. -/
def value? (depth : Nat) : Node → Option Json
  | .scalar tag plain s => if isLocal tag then none else scalarValue? tag plain s
  | .sequence tag items =>
    if isLocal tag || depth = 0 then none else (values? (depth - 1) items).map .array
  | .mapping tag pairs =>
    if isLocal tag || depth = 0 then none else (members? (depth - 1) pairs).map Json.ofFields
  | .cycle => none

def values? (depth : Nat) : List Node → Option (List Json)
  | [] => some []
  | n :: r =>
    match value? depth n, values? depth r with
    | some j, some js => some (j :: js)
    | _, _ => none

/-- Only texts name members. -/
def members? (depth : Nat) : List (Node × Node) → Option (List (String × Json))
  | [] => some []
  | (k, v) :: r =>
    match value? depth k, value? depth v, members? depth r with
    | some (.string name), some j, some js => some ((name, j) :: js)
    | _, _, _ => none

end

/-- Whether nothing is written. -/
def isEmpty : Node → Bool
  | .scalar _ plain s => plain && s = ""
  | _ => false

/-- The text of a scalar, whatever it means. -/
def text? : Node → Option String
  | .scalar _ _ s => some s
  | _ => none

/-- The text of a plain scalar. -/
def plain? : Node → Option String
  | .scalar _ true s => some s
  | _ => none

def items? : Node → Option (List Node)
  | .sequence _ items => some items
  | n => if n.isEmpty then some [] else none

/-- The pairs of a mapping whose keys are scalars. -/
def fields? : Node → Option (List (String × Node))
  | .mapping _ pairs => pairs.mapM fun p => p.1.text?.map (·, p.2)
  | n => if n.isEmpty then some [] else none

def isNothing : Node → Bool
  | .scalar (some t) true s => t = core "null" && isNull s
  | .scalar none true s => s = "" || isNull s
  | _ => false

end Node

end CloudEmulation.Yaml
