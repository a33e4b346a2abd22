import CloudEmulation.Url.Reader
/-!
Paths grown segment by segment, each percent-encoded so that it stays one segment.
-/

namespace CloudEmulation.Url

namespace Segments

/-- An empty segment at the end, but not the only one, is taken back. -/
def dropEmptyLast (names : List String) : List String :=
  if 1 < names.length ∧ names.getLast? = some "" then names.dropLast else names

/-- Adds one segment; the root path gives way to it, and dot segments are left out. -/
def push (kind : Kind) (names : List String) (segment : String) : List String :=
  if segment = "." ∨ segment = ".." then names
  else
    let kept := segment.toList.filter (!Read.isIgnored ·)
    let name := String.ofList (Percent.encode (keepsSegment (kind ≠ .other)) kept)
    Read.walk kind (if names = [""] then [] else names) [name]

end Segments

/-- The URL of a resource below an endpoint. -/
def join (endpoint : Url) (segments : List String) : Except UrlError Url :=
  match endpoint.path with
  | .whole _ => .error .noPath
  | .segments names =>
    let push := Segments.push (kindOf endpoint.scheme)
    let grown := segments.foldl push (Segments.dropEmptyLast names)
    .ok { endpoint with path := .segments grown }

end CloudEmulation.Url
