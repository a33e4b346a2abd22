import CloudEmulation.Http.Status
import CloudEmulation.Json.Basic
import CloudEmulation.Url.Query
/-!
Requests and responses.
-/

namespace CloudEmulation.Http

abbrev Headers := List (String × String)

def tokenMarks : List Char := "!#$%&'*+-.^_`|~".toList

def isTokenChar (c : Char) : Bool := c.isAlphanum || tokenMarks.contains c

/-- Whether a text can be a method. -/
def isMethod (s : String) : Bool := s ≠ "" && s.toList.all isTokenChar

structure Request where
  method : String
  url : Url
  headers : Headers
  body : Option Json
  deriving Repr

structure Response where
  status : Nat
  headers : Headers
  body : Option Json
  deriving Repr

/-- Names of headers are the same in any letter case. -/
def sameName (a b : String) : Bool := a.map Char.toLower = b.map Char.toLower

namespace Response

def json (status : Nat) (body : Json) : Response :=
  ⟨status, [("content-type", "application/json")], some body⟩

def withHeader (r : Response) (name value : String) : Response :=
  { r with headers := r.headers ++ [(name, value)] }

/-- The first header of a name. -/
def header? (r : Response) (name : String) : Option String :=
  (r.headers.find? fun h => sameName h.1 name).map (·.2)

def isSuccess (r : Response) : Bool := Http.isSuccess r.status

/-- A response without a body reads as null. -/
def content (r : Response) : Json := r.body.getD .null

end Response

end CloudEmulation.Http
