import CloudEmulation.Dictionary
import CloudEmulation.Number.Shortest
/-!
JSON values. An integer that fits 64 bits, signed or unsigned, is kept as it is; every other number
is a double. The members of an object stand in the order of their names, each name once.
-/

namespace CloudEmulation

inductive Number where
  | integer (n : Int)
  | double (d : Double)
  deriving DecidableEq, Repr, Inhabited

inductive Json where
  | null
  | bool (b : Bool)
  | number (n : Number)
  | string (s : String)
  | array (items : List Json)
  | object (members : List (String × Json))
  deriving BEq, Repr, Inhabited

namespace Number

def text : Number → String
  | .integer n => toString n
  | .double d => d.text

/-- An integer keeps its exact value only within these bounds. -/
def fits (n : Int) : Bool := -0x8000000000000000 ≤ n && n ≤ 0xFFFFFFFFFFFFFFFF

end Number

namespace Json

abbrev Members := Dictionary Json

/-- An object of the given members. -/
def ofFields (fields : List (String × Json)) : Json := .object (Dictionary.ofList fields)

def ofNat (n : Nat) : Json := .number (.integer n)

def ofInt (n : Int) : Json := .number (.integer n)

def ofStrings (s : List String) : Json := .array (s.map .string)

def ofOption (f : α → Json) : Option α → Json
  | none => .null
  | some a => f a

def members? : Json → Option Members
  | .object m => some m
  | _ => none

def string? : Json → Option String
  | .string s => some s
  | _ => none

/-- The member of an object under a name. -/
def member? (j : Json) (name : String) : Option Json := j.members?.bind (Dictionary.get? · name)

end Json

end CloudEmulation
