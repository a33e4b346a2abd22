import CloudEmulation.Filter.Expression
import CloudEmulation.Json.Basic
import CloudEmulation.Number.Numeral
import CloudEmulation.Pattern.Matching
import CloudEmulation.Text.Alphanumeric
import CloudEmulation.Text.Lowercase
/-!
Matching resources against filters. A list matches when one of its items does; a missing value,
null and an object match no comparison.
-/

namespace CloudEmulation.Filter

/-- The value that a key leads to, through objects only. -/
def lookup (resource : Json) : FilterKey → Option Json
  | [] => some resource
  | name :: rest =>
    match resource.member? name with
    | some v => lookup v rest
    | none => none

/-! Words. -/

abbrev Word := List Char

/-- The runs of letters and digits of a text, in lower case. -/
def words (s : List Char) : List Word :=
  ((s.splitOnP (!Text.isAlphanumeric ·)).filter (· ≠ [])).map Text.lowercase

/-- Whether a list of words begins with the wanted ones; of the last one a beginning is enough
when `open` says so. -/
def beginsWith (opened : Bool) : List Word → List Word → Bool
  | [], _ => true
  | _ :: _, [] => false
  | [w], x :: _ => if opened then w.isPrefixOf x else x = w
  | w :: ws, x :: xs => x = w && beginsWith opened ws xs

/-- Whether the wanted words occur in a row. -/
def occurs (opened : Bool) (wanted : List Word) : List Word → Bool
  | [] => beginsWith opened wanted []
  | x :: xs => beginsWith opened wanted (x :: xs) || occurs opened wanted xs

def sameLetters (a b : List Char) : Bool := a.map Char.toLower = b.map Char.toLower

/-- A star at the end opens the last word; it is no part of the words. -/
def cutStar (s : List Char) : List Char × Bool :=
  match s.getLast? with
  | some '*' => (s.dropLast, true)
  | _ => (s, false)

/-- Whether a text contains the words of another; one without words has to be equal up to the case
of ASCII letters. -/
def hasWords (text expected : List Char) : Bool :=
  let (pattern, opened) := cutStar expected
  match words pattern with
  | [] => sameLetters text pattern
  | wanted => occurs opened wanted (words text)

/-! Comparisons. -/

/-- Numbers are ordered by value where both texts are numbers, and all else as text. -/
def order (text expected : String) : Ordering :=
  match Numeral.double? text, Numeral.double? expected with
  | some a, some b => (Double.order? a b).getD .eq
  | _, _ => compareOfLessAndEq text expected

/-- What a scalar is compared as: the kind decides what equality means. -/
inductive Scalar where
  | text (s : String)
  | number (n : Number)
  | bool (b : Bool)

def Scalar.shown : Scalar → String
  | .text s => s
  | .number n => n.text
  | .bool b => toString b

def Scalar.equals (a : Scalar) (expected : String) : Bool :=
  match a with
  | .text s => s = expected
  | .bool b => sameLetters (toString b).toList expected.toList
  | .number n =>
    match Numeral.double? n.text, Numeral.double? expected with
    | some x, some y => Double.equal x y
    | _, _ => n.text = expected

def Scalar.satisfies (a : Scalar) (op : Comparison) (expected : String) : Bool :=
  match op with
  | .has => hasWords a.shown.toList expected.toList
  | .equal => a.equals expected
  | .unequal => !a.equals expected
  | .less => order a.shown expected = .lt
  | .atMost => order a.shown expected ≠ .gt
  | .greater => order a.shown expected = .gt
  | .atLeast => order a.shown expected ≠ .lt

mutual

/-- Whether a value, or an item of a list at any depth, satisfies a condition on scalars. -/
def anyScalar (p : Scalar → Bool) : Json → Bool
  | .string s => p (.text s)
  | .number n => p (.number n)
  | .bool b => p (.bool b)
  | .array items => anyScalarOf p items
  | .null => false
  | .object _ => false

def anyScalarOf (p : Scalar → Bool) : List Json → Bool
  | [] => false
  | j :: r => anyScalar p j || anyScalarOf p r

end

def compares (j : Json) (op : Comparison) (value : String) : Bool :=
  anyScalar (·.satisfies op value) j

def searches (j : Json) (wanted : Bool) (pattern : Pattern) : Bool :=
  anyScalar (fun a => pattern.isMatch a.shown == wanted) j

/-- Whether a resource matches. -/
def accepts : Filter → Json → Bool
  | .compare key op value, j => (lookup j key).any (compares · op value)
  | .anyOf key op values, j => (lookup j key).any fun v => values.any (compares v op ·)
  | .search key wanted pattern, j => (lookup j key).any (searches · wanted pattern)
  | .defined key, j => (lookup j key).isSome
  | .not f, j => !accepts f j
  | .and a b, j => accepts a j && accepts b j
  | .or a b, j => accepts a j || accepts b j

end CloudEmulation.Filter
