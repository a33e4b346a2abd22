import CloudEmulation.Json.Basic
import CloudEmulation.Number.Numeral
import CloudEmulation.Text.Escaped
/-!
Decoding JSON into records. Of several faults in one record the first one counts: a present field
that does not decode comes before an absent one, fields of an object count in the order of their
names and fields of a list in the order of their declaration.
-/

namespace CloudEmulation

inductive DecodeError where
  | missingField (name : String)
  | invalidType (found expected : String)
  | invalidValue (found expected : String)
  | invalidLength (length : Nat) (expected : String)
  | unknownVariant (name : String) (variants : List String)
  | unreadable (reason : String)
  deriving DecidableEq, Repr

namespace DecodeError

def ticked (s : String) : String := "`" ++ s ++ "`"

def message : DecodeError → String
  | .missingField name => "missing field " ++ ticked name
  | .invalidType found expected => "invalid type: " ++ found ++ ", expected " ++ expected
  | .invalidValue found expected => "invalid value: " ++ found ++ ", expected " ++ expected
  | .invalidLength n expected => "invalid length " ++ toString n ++ ", expected " ++ expected
  | .unknownVariant name variants =>
    "unknown variant " ++ ticked name ++ ", expected one of " ++
      ", ".intercalate (variants.map ticked)
  | .unreadable reason => reason

end DecodeError

abbrev Decoding := Except DecodeError

namespace Json

/-- What a value is called in a message. -/
def described : Json → String
  | .null => "null"
  | .bool b => "boolean " ++ DecodeError.ticked (toString b)
  | .number (.integer n) => "integer " ++ DecodeError.ticked (toString n)
  | .number (.double d) => "floating point " ++ DecodeError.ticked d.text
  | .string s => "string " ++ Text.quoted s
  | .array _ => "sequence"
  | .object _ => "map"

def mismatch (expected : String) (j : Json) : Decoding α :=
  .error (.invalidType j.described expected)

def asString : Json → Decoding String
  | .string s => .ok s
  | j => mismatch "a string" j

def asBool : Json → Decoding Bool
  | .bool b => .ok b
  | j => mismatch "a boolean" j

/-- A natural number of at most `limit`; `kind` names the bound. -/
def asNatural (kind : String) (limit : Nat) : Json → Decoding Nat
  | .number (.integer n) =>
    if 0 ≤ n ∧ n ≤ limit then .ok n.toNat
    else .error (.invalidValue (Json.ofInt n).described kind)
  | j => mismatch kind j

def asWord16 : Json → Decoding Nat := asNatural "u16" Numeral.word16Limit

def asWord32 : Json → Decoding Nat := asNatural "u32" Numeral.word32Limit

def asWord64 : Json → Decoding Nat := asNatural "u64" Numeral.word64Limit

def asSize : Json → Decoding Nat := asNatural "usize" Numeral.word64Limit

def asDouble : Json → Decoding Double
  | .number (.double d) => .ok d
  | .number (.integer n) =>
    let d := Double.ofNat n.natAbs
    .ok (if n < 0 then d.neg else d)
  | j => mismatch "f64" j

def asAny (j : Json) : Decoding Json := .ok j

/-- Null stands for nothing. -/
def asOption (decode : Json → Decoding α) : Json → Decoding (Option α)
  | .null => .ok none
  | j => (decode j).map some

def asList (decode : Json → Decoding α) : Json → Decoding (List α)
  | .array items => items.mapM decode
  | j => mismatch "a sequence" j

def asStringMap : Json → Decoding (Dictionary String)
  | .object m => do return .ofList (← m.mapM fun p => do return (p.1, ← asString p.2))
  | j => mismatch "a map" j

end Json

/-- A decoded part of a record, or a fault and its rank among those of the record. -/
inductive Ranked (α : Type) where
  | ok (a : α)
  | fault (rank : Nat) (e : DecodeError)

namespace Ranked

def pure (a : α) : Ranked α := .ok a

def map (f : α → β) : Ranked α → Ranked β
  | .ok a => .ok (f a)
  | .fault r e => .fault r e

/-- Of two faults the one of lower rank stays. -/
def seq : Ranked (α → β) → Ranked α → Ranked β
  | .ok f, .ok a => .ok (f a)
  | .ok _, .fault r e => .fault r e
  | .fault r e, .ok _ => .fault r e
  | .fault r e, .fault r' e' => if r' < r then .fault r' e' else .fault r e

instance : Applicative Ranked where
  pure := Ranked.pure
  map := Ranked.map
  seq f a := Ranked.seq f (a ())

def result : Ranked α → Decoding α
  | .ok a => .ok a
  | .fault _ e => .error e

theorem seq_eq_ok {f : Ranked (α → β)} {a : Ranked α} {b : β} :
    seq f a = .ok b ↔ ∃ g x, f = .ok g ∧ a = .ok x ∧ g x = b := by
  cases f <;> cases a <;> simp [seq]
  split <;> simp

end Ranked

inductive RecordSource where
  | members (m : Json.Members)
  | items (items : List Json)

/-- The fields of a record by declaration, and the value they are read from. -/
structure Record where
  name : String
  fields : List String
  source : RecordSource

namespace Record

def place (names : List String) (field : String) : Nat := names.idxOf field

def sortedFields (r : Record) : List String := r.fields.mergeSort (· ≤ ·)

def find? (r : Record) (field : String) : Option Json :=
  match r.source with
  | .members m => m.get? field
  | .items items => items[place r.fields field]?

def presentRank (r : Record) (field : String) : Nat :=
  match r.source with
  | .members _ => place r.sortedFields field
  | .items _ => place r.fields field

def shape (r : Record) : String :=
  let n := r.fields.length
  "struct " ++ r.name ++ " with " ++ toString n ++ (if n = 1 then " element" else " elements")

def absent (r : Record) (field : String) : Ranked α :=
  let i := place r.fields field
  match r.source with
  | .members _ => .fault (r.fields.length + i) (.missingField field)
  | .items _ => .fault i (.invalidLength i r.shape)

def present (r : Record) (field : String) (decode : Json → Decoding α) (j : Json) : Ranked α :=
  match decode j with
  | .ok a => .ok a
  | .error e => .fault (r.presentRank field) e

def required (r : Record) (field : String) (decode : Json → Decoding α) : Ranked α :=
  match r.find? field with
  | some j => r.present field decode j
  | none => r.absent field

def default (r : Record) (field : String) (decode : Json → Decoding α) (a : α) : Ranked α :=
  match r.find? field with
  | some j => r.present field decode j
  | none => .ok a

/-- A field that may be absent, or null. -/
def optional (r : Record) (field : String) (decode : Json → Decoding α) : Ranked (Option α) :=
  r.default field (Json.asOption decode) none

def text (r : Record) (field : String) : Ranked String := r.required field Json.asString

def textOr (r : Record) (field value : String) : Ranked String :=
  r.default field Json.asString value

def text? (r : Record) (field : String) : Ranked (Option String) :=
  r.optional field Json.asString

/-- The members that are no fields of the record. -/
def extra (r : Record) : Json.Members :=
  match r.source with
  | .members m => .ofList (m.without r.fields)
  | .items _ => []

/-- Reads a record from an object, or from the list of its fields. -/
def decode (name : String) (fields : List String) (build : Record → Ranked α) (j : Json) :
    Decoding α :=
  match j with
  | .object m => (build ⟨name, fields, .members m⟩).result
  | .array items => do
    let a ← (build ⟨name, fields, .items items⟩).result
    if fields.length < items.length then
      .error (.invalidLength items.length "fewer elements in array")
    else return a
  | j => Json.mismatch ("struct " ++ name) j

/-- Reads a record that keeps further members, which only an object can hold. -/
def decodeOpen (name : String) (fields : List String) (build : Record → Ranked α) (j : Json) :
    Decoding α :=
  match j with
  | .object m => (build ⟨name, fields, .members m⟩).result
  | j => Json.mismatch ("struct " ++ name) j

end Record

namespace Json

/-- How an object is made of fields in the order of their declaration: `ofFields` puts them in the
order of their names, `object` leaves them as they are. -/
abbrev Assembly := List (String × Json) → Json

/-- A field of an encoded record; without a value it is left out. -/
structure Field where
  name : String
  value : Option Json

namespace Field

def of (name : String) (j : Json) : Field := ⟨name, some j⟩

def text (name value : String) : Field := .of name (.string value)

def list (name : String) (f : α → Json) (items : List α) : Field :=
  .of name (.array (items.map f))

def of? (name : String) (f : α → Json) (a : Option α) : Field := ⟨name, a.map f⟩

def text? (name : String) (a : Option String) : Field := .of? name .string a

def map (name : String) (m : Dictionary String) : Field :=
  .of name (.object (m.mapValues .string))

/-- An empty map has no value. -/
def map? (name : String) (m : Dictionary String) : Field :=
  if m.isEmpty then ⟨name, none⟩ else .map name m

def pair? (f : Field) : Option (String × Json) := f.value.map (f.name, ·)

end Field

/-- A record as an object: its fields, then its further members. -/
def record (assemble : Assembly) (fields : List Field) (extra : Members) : Json :=
  assemble (fields.filterMap Field.pair? ++ extra)

end Json

end CloudEmulation
