import CloudEmulation.Json.Decode
import CloudEmulation.Provider
/-!
Providers as JSON. A provider is its name; an object whose only member has that name and no value
stands for it too.
-/

namespace CloudEmulation.Provider

def ofVariant (name : String) : Decoding Provider :=
  match ofName? name with
  | some p => .ok p
  | none => .error (.unknownVariant name (all.map Provider.name))

def decode : Json → Decoding Provider
  | .string s => ofVariant s
  | .object [(name, value)] => do
    let p ← ofVariant name
    match value with
    | .null => return p
    | v => Json.mismatch "unit" v
  | .object _ => .error (.invalidValue "map" "map with a single key")
  | j => Json.mismatch "string or map" j

def encode (p : Provider) : Json := .string p.name

theorem decode_encode (p : Provider) : decode p.encode = .ok p := by cases p <;> rfl

end CloudEmulation.Provider
