import CloudEmulation.Text.Category
import CloudEmulation.Text.Lowercase
import CloudEmulation.Url.Punycode
/-!
Domain names in the form in which they are compared: in lower case, without the characters that do
not count, and with each label that goes beyond ASCII in Punycode.
-/

namespace CloudEmulation.Url.Domain

/-- Characters that do not count. -/
def ignored : CodePoints := .ofText "
  AD 34F 180B-180D 180F 200B 2060 2064 FE00-FE0F FEFF 1BCA0-1BCA3 E0100-E01EF"

/-- Full stops and wide characters that stand for ASCII ones. -/
def narrow : CodePointMap := .ofText "3002~2FD4 FF01-FF5E~FEE0 FF61~FF33"

def plainForm (c : Char) : List Char :=
  if c.toNat < 128 then [c.toLower]
  else if ignored.contains c then []
  else Text.lowerChar (narrow.apply c)

def marks : List Text.Category := [.nonspacingMark, .spacingMark, .enclosingMark]

/-- Categories whose characters are no part of a name. -/
def unnamed : List Text.Category :=
  [.spaceSeparator, .lineSeparator, .paragraphSeparator, .control, .format, .privateUse,
    .unassigned]

def isNamed (c : Char) : Bool := c.toNat < 128 || !unnamed.contains (Text.Category.of c)

/-- A label does not begin with a mark. -/
def isLabel (s : List Char) : Bool :=
  s.all isNamed && !s.head?.any fun c => marks.contains (Text.Category.of c)

def isAscii (s : List Char) : Bool := s.all (·.toNat < 128)

def encoded : List Char := "xn--".toList

/-- A label in Punycode has to stand for one that needs it and is in plain form. -/
def isEncoding (s : List Char) : Bool :=
  match Punycode.decode? s with
  | some t => !isAscii t && isLabel t && t.flatMap plainForm = t
  | none => false

def label? (s : List Char) : Option (List Char) :=
  if encoded.isPrefixOf s then
    if isEncoding (s.drop encoded.length) then some s else none
  else if isAscii s then some s
  else if isLabel s then some (encoded ++ Punycode.encode s)
  else none

/-- The labels of a name, after all its characters are in plain form. -/
def labels? (s : List Char) : Option (List (List Char)) :=
  (s.splitOnP (· = '.')).mapM label?

end CloudEmulation.Url.Domain
