/-!
The providers whose compute APIs are emulated.
-/

namespace CloudEmulation

inductive Provider where
  | google
  | azure
  | oracle
  deriving DecidableEq, Repr, Inhabited

namespace Provider

def name : Provider → String
  | .google => "google"
  | .azure => "azure"
  | .oracle => "oracle"

def all : List Provider := [.google, .azure, .oracle]

def ofName? (s : String) : Option Provider := all.find? (·.name = s)

theorem ofName?_name (p : Provider) : ofName? p.name = some p := by cases p <;> rfl

end Provider

end CloudEmulation
