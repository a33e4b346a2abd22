import CloudEmulation.Json.Basic
/-!
JSON text: on one line without blanks, or indented by two spaces a level.
-/

namespace CloudEmulation.Json

def hexDigitLower (n : Nat) : Char := if n < 10 then Char.ofNat (48 + n) else Char.ofNat (87 + n)

/-- Quotes, backslashes and control characters are escaped; all else stands for itself. -/
def escape (c : Char) : List Char :=
  if c = '"' then ['\\', '"']
  else if c = '\\' then ['\\', '\\']
  else if c = '\n' then ['\\', 'n']
  else if c = '\r' then ['\\', 'r']
  else if c = '\t' then ['\\', 't']
  else if c.toNat = 8 then ['\\', 'b']
  else if c.toNat = 12 then ['\\', 'f']
  else if c.toNat < 32 then
    ['\\', 'u', '0', '0', hexDigitLower (c.toNat / 16), hexDigitLower (c.toNat % 16)]
  else [c]

def quote (s : String) : String := String.ofList ('"' :: s.toList.flatMap escape ++ ['"'])

mutual

/-- The text of a value on one line. -/
def compact : Json → String
  | .null => "null"
  | .bool b => if b then "true" else "false"
  | .number n => n.text
  | .string s => quote s
  | .array items => "[" ++ compactItems items ++ "]"
  | .object members => "\x7b" ++ compactMembers members ++ "\x7d"

def compactItems : List Json → String
  | [] => ""
  | [v] => compact v
  | v :: r => compact v ++ "," ++ compactItems r

def compactMembers : List (String × Json) → String
  | [] => ""
  | [(n, v)] => quote n ++ ":" ++ compact v
  | (n, v) :: r => quote n ++ ":" ++ compact v ++ "," ++ compactMembers r

end

def newline (depth : Nat) : String := "\n" ++ String.ofList (List.replicate (2 * depth) ' ')

mutual

/-- The text of a value over several lines, each level two spaces deeper. -/
def indented (depth : Nat) : Json → String
  | .null => "null"
  | .bool b => if b then "true" else "false"
  | .number n => n.text
  | .string s => quote s
  | .array items =>
    if items.isEmpty then "[]"
    else "[" ++ indentedItems (depth + 1) items ++ newline depth ++ "]"
  | .object members =>
    if members.isEmpty then "\x7b\x7d"
    else "\x7b" ++ indentedMembers (depth + 1) members ++ newline depth ++ "\x7d"

def indentedItems (depth : Nat) : List Json → String
  | [] => ""
  | [v] => newline depth ++ indented depth v
  | v :: r => newline depth ++ indented depth v ++ "," ++ indentedItems depth r

def indentedMembers (depth : Nat) : List (String × Json) → String
  | [] => ""
  | [(n, v)] => newline depth ++ quote n ++ ": " ++ indented depth v
  | (n, v) :: r =>
    newline depth ++ quote n ++ ": " ++ indented depth v ++ "," ++ indentedMembers depth r

end

end CloudEmulation.Json
