import CloudEmulation.Url.Host
/-!
Reading a URL: components are split off, brought to normal form and percent-encoded.
-/

namespace CloudEmulation.Url

namespace Read

def isIgnored (c : Char) : Bool := c = '\t' || c = '\n' || c = '\r'

def isEdge (c : Char) : Bool := c.toNat ≤ 32

/-- Blanks and controls around the text, and tabs and line ends within it, do not count. -/
def cleaned (s : List Char) : List Char :=
  (((s.dropWhile isEdge).reverse.dropWhile isEdge).reverse).filter (!isIgnored ·)

def isSchemeChar (c : Char) : Bool := c.isAlphanum || c = '+' || c = '-' || c = '.'

def scheme? (s : List Char) : Option (String × List Char) :=
  match s with
  | [] => none
  | c :: _ =>
    let (name, r) := Numeral.span isSchemeChar s
    match r with
    | ':' :: r => if c.isAlpha then some (String.ofList (Numeral.lowerAscii name), r) else none
    | _ => none

def isSlash (kind : Kind) (c : Char) : Bool := c = '/' || (kind ≠ .other && c = '\\')

def endsAuthority (kind : Kind) (c : Char) : Bool := isSlash kind c || c = '?' || c = '#'

def splitLast (mark : Char) (s : List Char) : Option (List Char × List Char) :=
  if s.contains mark then
    let after := (s.reverse.takeWhile (· ≠ mark)).reverse
    some (s.take (s.length - after.length - 1), after)
  else none

/-- The host ends at a colon outside brackets. -/
def splitHost : Bool → List Char → List Char × List Char
  | _, [] => ([], [])
  | inside, c :: r =>
    if c = ':' ∧ !inside then ([], c :: r)
    else
      let inside := if c = '[' then true else if c = ']' then false else inside
      let (h, t) := splitHost inside r
      (c :: h, t)

def portNumber (scheme : String) (s : List Char) : Except UrlError (Option Nat) :=
  match s with
  | [] => .ok none
  | _ :: ds =>
    if !ds.all Numeral.isDigit then .error .invalidPort
    else if ds = [] then .ok none
    else
      let n := Numeral.digitsValue 0 ds
      if 65535 < n then .error .invalidPort
      else .ok (if some n = defaultPort scheme then none else some n)

def user (s : List Char) : String × String :=
  let name := s.takeWhile (· ≠ ':')
  let password := (s.dropWhile (· ≠ ':')).drop 1
  let enc := fun (t : List Char) => String.ofList (Percent.encode keepsUser t)
  (enc name, enc password)

def authority (kind : Kind) (scheme : String) (text rest : List Char) :
    Except UrlError Authority := do
  let (info, hostPort) := match splitLast '@' text with
    | none => (none, text)
    | some (i, h) => (some i, h)
  if info.isSome ∧ hostPort = [] ∧ !(info = some [] ∧ rest = []) then throw .emptyHost
  let (host, portText) := splitHost false hostPort
  if kind = .special ∧ host = [] then throw .emptyHost
  let host ← if kind = .special then Host.parse host else Host.plain host
  if host = "" ∧ portText ≠ [] then throw .emptyHost
  let p ← portNumber scheme portText
  let (name, password) := user (info.getD [])
  return ⟨name, password, host, p⟩

def isSingleDot (s : String) : Bool := s ∈ [".", "%2e", "%2E"]

def isDoubleDot (s : String) : Bool :=
  s ∈ ["..", "%2e%2e", "%2e%2E", "%2E%2e", "%2E%2E", "%2e.", "%2E.", ".%2e", ".%2E"]

/-- A letter that names a drive, with its mark. -/
def isDrive (s : String) : Bool :=
  match s.toList with
  | [c, mark] => c.isAlpha && (mark = ':' || mark = '|')
  | _ => false

/-- Takes back the last segment, unless it names a drive. -/
def takeBack (done : List String) : List String :=
  if done.getLast?.any isDrive then done else done.dropLast

/-- Adds a segment. The mark of a drive is a colon at the beginning of the path of a file. -/
def add (kind : Kind) (done : List String) (s : String) : List String :=
  if kind = .file && done.isEmpty && isDrive s then [String.ofList (s.toList.take 1 ++ [':'])]
  else done ++ [s]

/-- A double dot takes back the segment before it; a dot at the end leaves an empty segment. -/
def walk (kind : Kind) (done : List String) : List String → List String
  | [] => done
  | [s] =>
    if isDoubleDot s then takeBack done ++ [""]
    else if isSingleDot s then done ++ [""]
    else add kind done s
  | s :: r =>
    if isDoubleDot s then walk kind (takeBack done) r
    else if isSingleDot s then walk kind done r
    else walk kind (add kind done s) r

def encodePath (s : List Char) : String := String.ofList (Percent.encode keepsPath s)

/-- The segments of a path after its first slash. -/
def segments (kind : Kind) (s : List Char) : List String :=
  walk kind [] ((s.splitOnP (isSlash kind)).map encodePath)

def isTail (c : Char) : Bool := c = '?' || c = '#'

def dropSlash (kind : Kind) (s : List Char) : List Char :=
  match s with
  | c :: r => if isSlash kind c then r else s
  | [] => []

def dropEmptyFront : List String → List String
  | "" :: x :: r => dropEmptyFront (x :: r)
  | s => s

def path (kind : Kind) (s : List Char) : Path :=
  match kind with
  | .special => .segments (segments kind (dropSlash kind s))
  | .file => .segments (dropEmptyFront (segments kind (dropSlash kind s)))
  | .other => if s = [] then .segments [] else .segments (segments kind (dropSlash kind s))

def tail (kind : Kind) (s : List Char) : Option String × Option String :=
  let fragment := fun (t : List Char) => String.ofList (Percent.encode keepsFragment t)
  match s with
  | '?' :: r =>
    let query := String.ofList (Percent.encode (keepsQuery (kind ≠ .other)) (r.takeWhile (· ≠ '#')))
    match r.dropWhile (· ≠ '#') with
    | _ :: f => (some query, some (fragment f))
    | [] => (some query, none)
  | '#' :: f => (none, some (fragment f))
  | _ => (none, none)

/-- Puts the components after the authority together. -/
def assemble (kind : Kind) (scheme : String) (a : Option Authority) (s : List Char) : Url :=
  let (query, fragment) := tail kind (s.dropWhile (!isTail ·))
  ⟨scheme, a, path kind (s.takeWhile (!isTail ·)), query, fragment⟩

def afterSlashes (kind : Kind) (scheme : String) (s : List Char) : Except UrlError Url := do
  let text := s.takeWhile (!endsAuthority kind ·)
  let rest := s.dropWhile (!endsAuthority kind ·)
  let a ← authority kind scheme text rest
  return assemble kind scheme (some a) rest

/-- Whether a path begins with a drive, which a file has instead of a host. -/
def onDrive : Path → Bool
  | .segments (s :: _) => isDrive s
  | _ => false

/-- The URL of a file on a host; after a host that is a drive the path begins. -/
def hostedFile (s : List Char) : Except UrlError Url := do
  let text := s.takeWhile (!endsAuthority .file ·)
  let rest := s.dropWhile (!endsAuthority .file ·)
  let drive := isDrive (String.ofList text)
  let host ← if text = [] || drive then pure "" else Host.parse text
  let host := if host = "localhost" then "" else host
  let url := assemble .file "file" (some ⟨"", "", host, none⟩) (if drive then '/' :: s else rest)
  return if onDrive url.path then { url with authority := some ⟨"", "", "", none⟩ } else url

def localFile (s : List Char) : Except UrlError Url :=
  match s with
  | a :: b :: r =>
    if isSlash .file a && isSlash .file b then hostedFile r
    else .ok (assemble .file "file" (some ⟨"", "", "", none⟩) s)
  | s => .ok (assemble .file "file" (some ⟨"", "", "", none⟩) s)

def withoutBase (scheme : String) (s : List Char) : Except UrlError Url :=
  match s with
  | '/' :: '/' :: r => afterSlashes .other scheme r
  | '/' :: _ => .ok (assemble .other scheme none s)
  | s =>
    let (query, fragment) := tail .other (s.dropWhile (!isTail ·))
    let whole := Percent.encode (fun c => !isControl c) (s.takeWhile (!isTail ·))
    .ok ⟨scheme, none, .whole (String.ofList whole), query, fragment⟩

end Read

/-- The URL that a text denotes on its own. -/
def parse (text : String) : Except UrlError Url :=
  match Read.scheme? (Read.cleaned text.toList) with
  | none => .error .relative
  | some (scheme, s) =>
    match kindOf scheme with
    | .special => Read.afterSlashes .special scheme (s.dropWhile (Read.isSlash .special))
    | .file => Read.localFile s
    | .other => Read.withoutBase scheme s

end CloudEmulation.Url
