/-!
Doubles: 64-bit binary floating-point numbers, held as their encodings. A ratio of naturals is
rounded to the nearest double, ties to the even encoding, in exact arithmetic.
-/

namespace CloudEmulation

/-- A 64-bit binary floating-point number. `magnitude` is the encoding without its sign bit, so
that of two numbers with one sign the one farther from zero has the larger magnitude. -/
structure Double where
  negative : Bool
  magnitude : Nat
  deriving DecidableEq, Repr, Inhabited

namespace Double

/-- The number of magnitudes from one power of two to the next. -/
def binade : Nat := 0x10000000000000

def infinityMagnitude : Nat := 2047 * binade

def zero : Double := ⟨false, 0⟩

def infinity (negative : Bool) : Double := ⟨negative, infinityMagnitude⟩

def nan : Double := ⟨false, infinityMagnitude + 1⟩

def isNaN (d : Double) : Bool := infinityMagnitude < d.magnitude

def isFinite (d : Double) : Bool := d.magnitude < infinityMagnitude

def isZero (d : Double) : Bool := d.magnitude = 0

def neg (d : Double) : Double := ⟨!d.negative, d.magnitude⟩

/-- Every finite double is a multiple of `1 / denominator`. -/
def denominator : Nat := Nat.pow 2 1074

/-- A finite magnitude stands for `significand * 2 ^ scale / denominator`. -/
def significand (magnitude : Nat) : Nat :=
  if magnitude < binade then magnitude else binade + magnitude % binade

def scale (magnitude : Nat) : Nat := magnitude / binade - 1

/-- What is divided by the denominator. -/
def numeratorOf (magnitude : Nat) : Nat := significand magnitude * Nat.pow 2 (scale magnitude)

def numerator (d : Double) : Nat := numeratorOf d.magnitude

/-- `n / d` to the nearest natural, a half to the even one. -/
def roundHalfEven (n d : Nat) : Nat :=
  let q := n / d
  let r := n % d
  if 2 * r < d then q else if d < 2 * r then q + 1 else if q % 2 = 0 then q else q + 1

/-- The greatest `e` with `2 ^ e ≤ n / d`, for positive `n` and `d`. -/
def floorLog2 (n d : Nat) : Int :=
  let e : Int := Int.ofNat n.log2 - Int.ofNat d.log2
  if d * Nat.pow 2 e.toNat ≤ n * Nat.pow 2 (-e).toNat then e else e - 1

/-- The magnitude nearest to `n / d`; what lies beyond the largest finite one is infinite. -/
def roundRatio (n d : Nat) : Nat :=
  if n = 0 then 0
  else
    let k := (floorLog2 n d + 1022).toNat
    min infinityMagnitude (k * binade + roundHalfEven (n * denominator) (d * Nat.pow 2 k))

def ofNat (n : Nat) : Double := ⟨false, roundRatio n 1⟩

def digitCount (n : Nat) : Nat := (Nat.toDigits 10 n).length

/-- The double nearest to `digits * 10 ^ exponent`. -/
def ofDecimal (negative : Bool) (digits : Nat) (exponent : Int) : Double :=
  let top := exponent + Int.ofNat (digitCount digits)
  if digits = 0 ∨ top < -330 then ⟨negative, 0⟩
  else if 330 < top then infinity negative
  else ⟨negative,
    roundRatio (digits * Nat.pow 10 exponent.toNat) (Nat.pow 10 (-exponent).toNat)⟩

/-- Products and quotients of finite doubles, rounded once. -/
def mul (a b : Double) : Double :=
  ⟨a.negative != b.negative, roundRatio (a.numerator * b.numerator) (denominator * denominator)⟩

def div (a b : Double) : Double :=
  ⟨a.negative != b.negative, roundRatio a.numerator b.numerator⟩

/-- The place of a number in the order of numbers; both zeros share one place. -/
def key (d : Double) : Int :=
  if d.negative then -Int.ofNat d.magnitude else Int.ofNat d.magnitude

/-- No order holds between a number and what is not one. -/
def order? (a b : Double) : Option Ordering :=
  if a.isNaN || b.isNaN then none else some (compare a.key b.key)

def equal (a b : Double) : Bool := order? a b = some .eq

end Double

end CloudEmulation
