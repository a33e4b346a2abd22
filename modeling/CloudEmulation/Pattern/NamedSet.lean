import CloudEmulation.Pattern.CharSet
import CloudEmulation.Text.Script
/-!
Sets of characters by the name of a property, a category or a script. Case, blanks, hyphens and
underscores in a name do not count.
-/

namespace CloudEmulation.CharSet

def isSeparator (c : Char) : Bool := c = ' ' || c = '_' || c = '-'

/-- A name without what does not count; a leading `is` is dropped. -/
def plainName (s : List Char) : String :=
  let lower := fun (t : List Char) =>
    (t.filter fun c => !isSeparator c && c.toNat < 128).map Char.toLower
  match s with
  | i :: t :: r =>
    if i.toLower = 'i' ∧ t.toLower = 's' then
      let rest := String.ofList (lower r)
      if rest = "c" then "isc" else rest
    else String.ofList (lower s)
  | _ => String.ofList (lower s)

def property? (name : String) : Option CharSet :=
  match name with
  | "alphabetic" | "alpha" => some .alphabetic
  | "whitespace" | "wspace" | "space" => some .blank
  | "lowercase" | "lower" => some (.table Text.Property.lowercase)
  | "uppercase" | "upper" => some (.table Text.Property.uppercase)
  | "cased" => some (.table Text.Property.cased)
  | "caseignorable" | "ci" => some (.table Text.Property.caseIgnorable)
  | "emoji" => some (.table Text.Property.emoji)
  | "math" => some (.table Text.Property.math)
  | "dash" => some (.table Text.Property.dash)
  | "hexdigit" | "hex" => some (.table Text.Property.hexDigit)
  | "asciihexdigit" | "ahex" => ascii? "xdigit"
  | "ideographic" | "ideo" => some (.table Text.Property.ideographic)
  | "diacritic" | "dia" => some (.table Text.Property.diacritic)
  | "joincontrol" | "joinc" => some (.table Text.Property.joinControl)
  | _ => Option.none

def groups : List String :=
  ["C", "L", "LC", "M", "N", "P", "S", "Z", "Cn", "Cs"]

def categoryCodes : List String := groups ++ Text.Category.tables.map (·.1.code)

def category? (name : String) : Option CharSet :=
  match name with
  | "any" => some any
  | "ascii" => some (.range 0 127)
  | "assigned" => some (.compl (.category "Cn"))
  | _ =>
    match categoryCodes.find? (fun c => c.map Char.toLower = name) with
    | some code => some (.category code)
    | Option.none => (Text.Category.names.find? (·.1 = name)).map (.category ·.2)

def script? (name : String) : Option CharSet := (Text.script? name).map .table

/-- Names that stand for a category or a property of other values, not for a yes-or-no one. -/
def reserved : List String := ["cf", "sc", "lc"]

def named? (text : List Char) : Option CharSet :=
  let name := plainName text
  let property := if name ∈ reserved then Option.none else property? name
  property <|> category? name <|> script? name

/-- The set of the characters whose property has a value. -/
def valued? (property value : List Char) : Option CharSet :=
  match plainName property with
  | "gc" | "generalcategory" => category? (plainName value)
  | "sc" | "script" | "scx" | "scriptextensions" => script? (plainName value)
  | _ => Option.none

end CloudEmulation.CharSet
