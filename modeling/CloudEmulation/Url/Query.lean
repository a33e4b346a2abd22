import CloudEmulation.Url.Reader
/-!
Query pairs: names and values joined by `=` and `&`, a blank written as `+`.
-/

namespace CloudEmulation.Url

abbrev Pairs := List (String × String)

namespace Query

/-- Splits at the first `=`; a part without one has an empty value. -/
def cutPair (s : List Char) : List Char × List Char :=
  (s.takeWhile (· ≠ '='), (s.dropWhile (· ≠ '=')).drop 1)

def plusToBlank (c : Char) : Char := if c = '+' then ' ' else c

def decodeText (s : List Char) : String :=
  String.ofList (Utf8.decodeLossy (Percent.decode (s.map plusToBlank)))

def decodePair (s : List Char) : String × String :=
  let (n, v) := cutPair s
  (decodeText n, decodeText v)

/-- The pairs of a query text; empty parts do not count. -/
def decode (query : String) : Pairs :=
  ((query.toList.splitOnP (· = '&')).filter (· ≠ [])).map decodePair

def keeps (c : Char) : Bool := c.isAlphanum || "*-._".toList.contains c

def encodeChar (c : Char) : List Char := if c = ' ' then ['+'] else Percent.encode keeps [c]

def encodeText (s : String) : List Char := s.toList.flatMap encodeChar

def encodePair (p : String × String) : String :=
  String.ofList (encodeText p.1 ++ '=' :: encodeText p.2)

def encode (pairs : Pairs) : String := "&".intercalate (pairs.map encodePair)

end Query

/-- The decoded pairs of a URL's query, in order. -/
def queryPairs (u : Url) : Pairs :=
  match u.query with
  | none => []
  | some q => Query.decode q

/-- Adds pairs at the end of the query. -/
def appendPairs (u : Url) (pairs : Pairs) : Url :=
  let added := Query.encode pairs
  let query := match u.query with
    | none => added
    | some "" => added
    | some q => if pairs = [] then q else q ++ "&" ++ added
  { u with query := some query }

def withPairs (u : Url) (pairs : Pairs) : Url := { u with query := some (Query.encode pairs) }

end CloudEmulation.Url
