import CloudEmulation.Number.Double
/-!
The shortest decimal text of a double: the fewest digits that read back as the same double and, of
those, the nearest ones.
-/

namespace CloudEmulation.Double

/-- The value `digits * 10 ^ exponent`. -/
structure Decimal where
  digits : Nat
  exponent : Int
  deriving DecidableEq, Repr

/-- The reals that round to a magnitude, as bounds over `4 * denominator`: the ends belong to it
exactly when the significand is even. -/
structure Interval where
  low : Nat
  high : Nat
  closed : Bool

def interval (magnitude : Nat) : Interval :=
  let m := significand magnitude
  let unit := Nat.pow 2 (scale magnitude)
  let below := if m = binade ∧ 2 * binade ≤ magnitude then 1 else 2
  ⟨(4 * m - below) * unit, (4 * m + 2) * unit, m % 2 = 0⟩

/-- Whether `n / d`, over `4 * denominator`, lies in the interval. -/
def Interval.contains (i : Interval) (n d : Nat) : Bool :=
  if i.closed then i.low * d ≤ n && n ≤ i.high * d else i.low * d < n && n < i.high * d

/-- The least `s ≤ limit` with `d ≤ n * 10 ^ s`. -/
def leadingZeros (n d : Nat) : Nat → Nat
  | 0 => 0
  | limit + 1 => if d ≤ n then 0 else 1 + leadingZeros (n * 10) d limit

/-- The greatest `t` with `10 ^ t ≤ v / denominator`, for positive `v`. -/
def floorLog10 (v : Nat) : Int :=
  let whole := v / denominator
  if whole = 0 then -Int.ofNat (leadingZeros v denominator 400)
  else Int.ofNat (digitCount whole) - 1

/-- The point of the grid of multiples of `10 ^ p` that is nearest to the value among those which
round to it; of two equally near ones the even one. -/
def nearestOnGrid (i : Interval) (v : Nat) (p : Int) : Option Nat :=
  let up := Nat.pow 10 (-p).toNat
  let down := denominator * Nat.pow 10 p.toNat
  let floor := v * up / down
  let inside := fun (c : Nat) => i.contains (4 * c * down) up
  match inside floor, inside (floor + 1) with
  | false, false => none
  | true, false => some floor
  | false, true => some (floor + 1)
  | true, true => some (roundHalfEven (v * up) down)

def shortestFrom (i : Interval) (v : Nat) (top : Int) : Nat → Nat → Decimal
  | 0, _ => ⟨v, 0⟩
  | fuel + 1, n =>
    let p := top - Int.ofNat n + 1
    match nearestOnGrid i v p with
    | some c => ⟨c, p⟩
    | none => shortestFrom i v top fuel (n + 1)

/-- The shortest decimal that rounds to a positive finite magnitude. -/
def shortest (magnitude : Nat) : Decimal :=
  let v := numeratorOf magnitude
  shortestFrom (interval magnitude) v (floorLog10 v) 17 1

/-- Trailing zeros of the digits move into the exponent. -/
def Decimal.strip (d : Decimal) : Nat → Decimal
  | 0 => d
  | fuel + 1 =>
    if d.digits % 10 = 0 ∧ d.digits ≠ 0 then
      Decimal.strip ⟨d.digits / 10, d.exponent + 1⟩ fuel
    else d

/-- Where positional notation begins and ends: `10 ^ low ≤ x < 10 ^ high`. -/
structure PositionalRange where
  low : Int
  high : Int

/-- Numbers from `0.00001` and below `10 ^ 16` are positional, with at least one decimal; others
have one digit before the point and a signed exponent. -/
def positionalRange : PositionalRange := ⟨-5, 16⟩

def zeros (n : Nat) : String := String.ofList (List.replicate n '0')

def Decimal.text (r : PositionalRange) (d : Decimal) : String :=
  let ds := Nat.toDigits 10 d.digits
  let point : Int := Int.ofNat ds.length + d.exponent
  if r.low < point ∧ point ≤ r.high then
    if 0 ≤ d.exponent then String.ofList ds ++ zeros d.exponent.toNat ++ ".0"
    else if 0 < point then
      String.ofList (ds.take point.toNat) ++ "." ++ String.ofList (ds.drop point.toNat)
    else "0." ++ zeros (-point).toNat ++ String.ofList ds
  else
    let mark := if 0 < point then "e+" else "e-"
    let fraction := if ds.length = 1 then "" else "." ++ String.ofList (ds.drop 1)
    String.ofList (ds.take 1) ++ fraction ++ mark ++ toString (point - 1).natAbs

/-- The text of a finite double. -/
def text (d : Double) : String :=
  let sign := if d.negative then "-" else ""
  if d.isZero then sign ++ "0.0"
  else sign ++ Decimal.text positionalRange ((shortest d.magnitude).strip 20)

end CloudEmulation.Double
