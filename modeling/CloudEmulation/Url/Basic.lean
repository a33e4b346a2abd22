import CloudEmulation.Text.Percent
/-!
URLs in normal form. Every component holds its encoded text.
-/

namespace CloudEmulation

inductive UrlError where
  | relative
  | emptyHost
  | invalidPort
  | invalidIPv4
  | invalidIPv6
  | invalidHostCharacter
  | invalidDomain
  | noPath
  deriving DecidableEq, Repr

def UrlError.message : UrlError → String
  | .relative => "relative URL without a base"
  | .emptyHost => "empty host"
  | .invalidPort => "invalid port number"
  | .invalidIPv4 => "invalid IPv4 address"
  | .invalidIPv6 => "invalid IPv6 address"
  | .invalidHostCharacter => "invalid domain character"
  | .invalidDomain => "invalid international domain name"
  | .noPath => "relative URL with a cannot-be-a-base base"

inductive Url.Path where
  /-- A text without structure, as in `mailto:`. -/
  | whole (text : String)
  /-- Each segment follows a slash. -/
  | segments (names : List String)
  deriving DecidableEq, Repr

structure Url.Authority where
  username : String
  password : String
  host : String
  portNumber : Option Nat
  deriving DecidableEq, Repr

structure Url where
  scheme : String
  authority : Option Url.Authority
  path : Url.Path
  query : Option String
  fragment : Option String
  deriving DecidableEq, Repr

namespace Url

def Path.text : Path → String
  | .whole t => t
  | .segments names => String.join (names.map ("/" ++ ·))

def Authority.text (a : Authority) : String :=
  let user := a.username ++ (if a.password = "" then "" else ":" ++ a.password)
  (if user = "" then "" else user ++ "@") ++ a.host ++
    (match a.portNumber with
    | none => ""
    | some p => ":" ++ toString p)

def pathText (u : Url) : String := u.path.text

/-- A path that begins with two slashes is kept apart from an authority. -/
def beforePath (u : Url) : String :=
  match u.authority, u.path with
  | some a, _ => "//" ++ a.text
  | none, .segments ("" :: _ :: _) => "/."
  | none, _ => ""

def marked (mark : String) : Option String → String
  | none => ""
  | some t => mark ++ t

def text (u : Url) : String :=
  u.scheme ++ ":" ++ u.beforePath ++ u.pathText ++ marked "?" u.query ++ marked "#" u.fragment

/-! Which schemes have an authority in every URL, and which characters each component keeps. -/

inductive Kind where
  | special
  | file
  | other
  deriving DecidableEq, Repr

def kindOf (scheme : String) : Kind :=
  if scheme ∈ ["http", "https", "ws", "wss", "ftp"] then .special
  else if scheme = "file" then .file
  else .other

def defaultPort (scheme : String) : Option Nat :=
  match scheme with
  | "http" | "ws" => some 80
  | "https" | "wss" => some 443
  | "ftp" => some 21
  | _ => none

def isControl (c : Char) : Bool := c.toNat < 32 || c.toNat = 127

def keepsFragment (c : Char) : Bool := !isControl c && !"\" <>`".toList.contains c

def keepsPath (c : Char) : Bool := keepsFragment c && !"#?\x7b\x7d".toList.contains c

def keepsSegment (special : Bool) (c : Char) : Bool :=
  keepsPath c && c ≠ '/' && c ≠ '%' && !(special && c = '\\')

def keepsUser (c : Char) : Bool := keepsPath c && !"/:;=@[\\]^|".toList.contains c

def keepsQuery (special : Bool) (c : Char) : Bool :=
  !isControl c && !"\" #<>".toList.contains c && !(special && c = '\'')

end Url

end CloudEmulation
