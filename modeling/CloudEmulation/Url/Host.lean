import CloudEmulation.Number.Numeral
import CloudEmulation.Url.Basic
import CloudEmulation.Url.Domain
/-!
Hosts: IPv6 addresses in brackets, IPv4 addresses and domain names.
-/

namespace CloudEmulation.Url.Host

def hexDigit? (c : Char) : Option Nat := Percent.hexValue? c.toNat

def ofDigits? (base : Nat) (s : List Char) : Option Nat :=
  s.foldlM (fun n c => (hexDigit? c).bind fun d => if d < base then some (base * n + d) else none) 0

/-! IPv4: up to four numbers, the last of which fills the remaining bytes. -/

def part? (s : List Char) : Option Nat :=
  match s with
  | [] => none
  | '0' :: 'x' :: r => ofDigits? 16 r
  | '0' :: 'X' :: r => ofDigits? 16 r
  | '0' :: r => ofDigits? 8 r
  | s => ofDigits? 10 s

def withoutLastEmpty (parts : List (List Char)) : List (List Char) :=
  match parts.reverse with
  | [] :: r => if r = [] then parts else r.reverse
  | _ => parts

def endsInNumber (domain : List Char) : Bool :=
  match (withoutLastEmpty (domain.splitOnP (· = '.'))).getLast? with
  | none => false
  | some l =>
    (l ≠ [] && l.all Numeral.isDigit) ||
      (match l with
      | '0' :: x :: r => (x = 'x' || x = 'X') && r.all fun c => (hexDigit? c).isSome
      | _ => false)

def ipv4Text (n : Nat) : String :=
  ".".intercalate ([n / 0x1000000, n / 0x10000 % 0x100, n / 0x100 % 0x100, n % 0x100].map toString)

def ipv4 (domain : List Char) : Except UrlError String :=
  let parts := withoutLastEmpty (domain.splitOnP (· = '.'))
  match parts.mapM part? with
  | none => .error .invalidIPv4
  | some ns =>
    let heads := ns.dropLast
    let last := ns.getLastD 0
    let room := Nat.pow 256 (5 - ns.length)
    if 4 < ns.length ∨ heads.any (255 < ·) ∨ room ≤ last then .error .invalidIPv4
    else .ok (ipv4Text (heads.foldl (256 * · + ·) 0 * room + last))

/-! IPv6: eight groups, one run of zeros may be left out, the last two may be an IPv4 address. -/

def group? (s : List Char) : Option (List Nat) :=
  if s ≠ [] ∧ s.length ≤ 4 then (ofDigits? 16 s).map ([·]) else none

def byte? (s : List Char) : Option Nat :=
  if s ≠ [] ∧ s.length ≤ 3 ∧ s.all Numeral.isDigit ∧ (s.length = 1 ∨ s.head? ≠ some '0') then
    (ofDigits? 10 s).filter (· < 256)
  else none

def embedded? (s : List Char) : Option (List Nat) :=
  match (s.splitOnP (· = '.')).mapM byte? with
  | some [a, b, c, d] => some [a * 256 + b, c * 256 + d]
  | _ => none

def groups? (s : List Char) : Option (List Nat) :=
  if s = [] then some []
  else
    let parts := s.splitOnP (· = ':')
    let last := parts.getLastD []
    (parts.dropLast.mapM group?).bind fun heads =>
      (if last.contains '.' then embedded? last else group? last).map fun t => heads.flatten ++ t

/-- Splits at the first `::`. -/
def cutDouble : List Char → List Char → Option (List Char × List Char)
  | _, [] => none
  | done, ':' :: ':' :: r => some (done.reverse, r)
  | done, c :: r => cutDouble (c :: done) r

def ipv6Groups? (s : List Char) : Option (List Nat) :=
  match cutDouble [] s with
  | none => (groups? s).filter (·.length = 8)
  | some (left, right) => do
    let l ← groups? left
    let r ← groups? right
    if left.contains '.' ∨ 7 < l.length + r.length then none
    else some (l ++ List.replicate (8 - l.length - r.length) 0 ++ r)

/-- Start and length of the first longest run of zeros. -/
def longestZeros (gs : List Nat) : Nat × Nat :=
  let runs := (List.range gs.length).map fun i => (i, ((gs.drop i).takeWhile (· = 0)).length)
  runs.foldl (fun best run => if best.2 < run.2 then run else best) (0, 0)

def hexText (n : Nat) : String := String.ofList (Nat.toDigits 16 n)

def ipv6Text (gs : List Nat) : String :=
  let (start, length) := longestZeros gs
  let join := fun (l : List Nat) => ":".intercalate (l.map hexText)
  if length < 2 then join gs
  else join (gs.take start) ++ "::" ++ join (gs.drop (start + length))

def ipv6 (s : List Char) : Except UrlError String :=
  match ipv6Groups? s with
  | some gs => .ok ("[" ++ ipv6Text gs ++ "]")
  | none => .error .invalidIPv6

/-! Domain names. -/

def forbidden : List Char := " #/:<>?@[\\]^|%".toList

def isForbidden (c : Char) : Bool := isControl c || forbidden.contains c

def domain (s : List Char) : Except UrlError String :=
  match Utf8.decode? (Percent.decode s) with
  | none => .error .invalidDomain
  | some decoded =>
    let plain := decoded.flatMap Domain.plainForm
    match Domain.labels? plain with
    | none => .error .invalidDomain
    | some labels =>
      let name := ['.'].intercalate labels
      if plain.any isForbidden then .error .invalidDomain
      else if name = [] then .error .emptyHost
      else if endsInNumber name then ipv4 name else .ok (String.ofList name)

def bracketed (s : List Char) : Except UrlError String :=
  match s.getLast? with
  | some ']' => ipv6 s.dropLast
  | _ => .error .invalidIPv6

def parse (s : List Char) : Except UrlError String :=
  match s with
  | '[' :: r => bracketed r
  | s => domain s

def forbiddenPlain : List Char := "\x00\t\n\r #/:<>?@[\\]^|".toList

/-- A host of a scheme that knows nothing about hosts. -/
def plain (s : List Char) : Except UrlError String :=
  match s with
  | '[' :: r => bracketed r
  | s =>
    if s.any forbiddenPlain.contains then .error .invalidHostCharacter
    else .ok (String.ofList (Percent.encode (fun c => !isControl c) s))

end CloudEmulation.Url.Host
