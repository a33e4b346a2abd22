import CloudEmulation.Text.Percent
/-!
Path templates: a segment in braces stands for any non-empty text, every other segment for itself.
Empty segments do not count.
-/

namespace CloudEmulation

inductive TemplateSegment where
  | literal (text : String)
  | param (name : String)
  deriving DecidableEq, Repr

structure PathTemplate where
  segments : List TemplateSegment
  deriving DecidableEq, Repr

abbrev Params := List (String × String)

namespace Params

/-- Of several values under one name the last one counts. -/
def get? (p : Params) (name : String) : Option String :=
  (p.reverse.find? (·.1 = name)).map (·.2)

end Params

namespace PathTemplate

/-- The non-empty segments of a path. -/
def split (path : String) : List String :=
  ((path.toList.splitOnP (· = '/')).filter (· ≠ [])).map String.ofList

def openBrace : Char := '\x7b'

def closeBrace : Char := '\x7d'

/-- A name in braces, with something between them. -/
def paramName? (s : List Char) : Option String :=
  match s with
  | b :: r =>
    if b = openBrace ∧ 2 ≤ r.length ∧ r.getLast? = some closeBrace then
      some (String.ofList r.dropLast)
    else none
  | [] => none

def segmentOf (s : String) : TemplateSegment :=
  match paramName? s.toList with
  | some name => .param name
  | none => .literal s

def parse (template : String) : PathTemplate := ⟨(split template).map segmentOf⟩

/-- The text that a segment of a path stands for, unless its bytes are no text. -/
def decodeSegment? (s : String) : Option String :=
  (Utf8.decode? (Percent.decode s.toList)).map String.ofList

/-- What a segment of a path contributes to the parameters, or nothing where it does not match. -/
def matchSegment? (t : TemplateSegment) (part : String) : Option Params :=
  match t with
  | .literal l => if l = part then some [] else none
  | .param name =>
    match decodeSegment? part with
    | some v => if v = "" then none else some [(name, v)]
    | none => none

def matchSegments? : List TemplateSegment → List String → Option Params
  | [], [] => some []
  | t :: ts, p :: ps =>
    match matchSegment? t p, matchSegments? ts ps with
    | some a, some b => some (a ++ b)
    | _, _ => none
  | _, _ => none

/-- The parameters of a path that agrees with the template segment by segment. -/
def matches? (t : PathTemplate) (path : String) : Option Params :=
  matchSegments? t.segments (split path)

end PathTemplate

end CloudEmulation
