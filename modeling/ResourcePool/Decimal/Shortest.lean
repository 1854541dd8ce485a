import ResourcePool.Decimal.Binary64

/-!
# Shortest decimals

The decimal with the fewest digits that still rounds to a given double, and two ways of writing it.

* `Interval` holds the reals that round to a double, scaled to a common denominator.
* `shortest` tries the grids `10 ^ k` from coarse to fine and takes, on the first grid that has a
  point in the interval, the point nearest to the double.
* `Binary64.positional` writes it out in full, whatever its size.
* `Binary64.text` always shows a point or an exponent, and leaves the positional form where that
  would be too long.
-/

namespace ResourcePool

/-- A decimal magnitude `coefficient · 10 ^ power`. -/
structure Decimal where
  /-- The digits, as a number. -/
  coefficient : Nat
  /-- The power of ten that the digits are scaled by. -/
  power : Int
  deriving DecidableEq, Repr

namespace Decimal

/-! ## The reals that round to a double -/

/-- The reals that round to a double, as multiples of `2 ^ quarter`: the unit is a quarter of the
gap above the double, so that all three marks are natural numbers. -/
structure Interval where
  /-- The lower end. -/
  low : Nat
  /-- The double itself. -/
  middle : Nat
  /-- The upper end. -/
  high : Nat
  /-- The exponent of two of the unit. -/
  quarter : Int
  /-- Whether the ends round to the double as well, as they do when the significand is even. -/
  closed : Bool

/-- The interval of a positive double. Below a power of two the gap is half as wide, except at the
least exponent. -/
def Interval.ofBinary64 (x : Binary64) : Interval :=
  let narrow := x.significand = 1 <<< 52 ∧ Binary64.minExponent < x.exponent
  { low := 4 * x.significand - (if narrow then 1 else 2)
    middle := 4 * x.significand
    high := 4 * x.significand + 2
    quarter := x.exponent - 2
    closed := x.significand % 2 = 0 }

/-! ## Grids of powers of ten -/

/-- What the marks of an interval and the steps of the grid `10 ^ power` are multiplied by to become
natural numbers on one scale. -/
def scales (quarter power : Int) : Nat × Nat :=
  (Nat.pow 10 (-power).toNat <<< quarter.toNat, Nat.pow 10 power.toNat <<< (-quarter).toNat)

/-- The multiple of `10 ^ power` nearest to the double, among those that round to it. Only the two
multiples on either side of the double need be looked at, since the interval contains the double; of
two equally near ones the even one is taken. -/
def onGrid? (interval : Interval) (power : Int) : Option Decimal :=
  let (unit, step) := scales interval.quarter power
  let inside (c : Nat) : Bool :=
    if interval.closed then interval.low * unit ≤ c * step && c * step ≤ interval.high * unit
    else interval.low * unit < c * step && c * step < interval.high * unit
  let below := interval.middle * unit / step
  let twice := 2 * (interval.middle * unit)
  let halfway := (2 * below + 1) * step
  let nearBelow := twice < halfway || (twice = halfway && below % 2 = 0)
  match inside below, inside (below + 1) with
  | true, true => some ⟨if nearBelow then below else below + 1, power⟩
  | true, false => some ⟨below, power⟩
  | false, true => some ⟨below + 1, power⟩
  | false, false => none

/-- A power of ten that is certainly above the double: `0.30103` is more than the logarithm of two
to base ten. -/
def coarsestPower (x : Binary64) : Int :=
  (((x.significand.log2 : Int) + 1 + x.exponent) * 30103) / 100000 + 1

/-- **The shortest decimal of a double.** Twenty grids reach from above the double down to seventeen
significant digits, which always suffice. -/
def shortest (x : Binary64) : Decimal :=
  if x.significand = 0 then ⟨0, 0⟩
  else
    let interval := Interval.ofBinary64 x
    let grids := (List.range 20).map fun (k : Nat) => coarsestPower x - (k : Int)
    (grids.findSome? (onGrid? interval)).getD ⟨0, 0⟩

/-! ## Positional text -/

/-- The decimal written out without an exponent; a point appears only when there are places behind
it. -/
def positional (d : Decimal) : String :=
  let digits := toString d.coefficient
  if 0 ≤ d.power then
    if d.coefficient = 0 then "0" else digits ++ String.ofList (List.replicate d.power.toNat '0')
  else
    let places := (-d.power).toNat
    let padded := String.ofList (List.replicate (places + 1 - digits.length) '0') ++ digits
    let chars := padded.toList
    let split := chars.length - places
    String.ofList (chars.take split ++ '.' :: chars.drop split)

/-! ## Text with an exponent -/

/-- The power of ten that stands just above the decimal: the point comes after that many digits. -/
def magnitude (d : Decimal) : Int := (toString d.coefficient).length + d.power

/-- The decimal with one digit before the point and a signed exponent; a point appears only when
there are digits behind it. -/
def exponential (d : Decimal) : String :=
  let exponent := d.magnitude - 1
  let sign := if exponent < 0 then "-" else "+"
  let digits :=
    match (toString d.coefficient).toList with
    | first :: second :: rest => String.ofList (first :: '.' :: second :: rest)
    | digits => String.ofList digits
  digits ++ "e" ++ sign ++ toString exponent.natAbs

/-- Whether the point of a decimal falls within its first sixteen digits, or is followed by at most
four zeros: such a decimal is written without an exponent. -/
def isPlain (d : Decimal) : Bool := -5 < d.magnitude && d.magnitude ≤ 16

end Decimal

namespace Binary64

/-- The sign in front of a double, if it has one. -/
def sign (x : Binary64) : String := if x.negative then "-" else ""

/-- The plain text of a double: its shortest decimal, written out in full. -/
def positional (x : Binary64) : String := x.sign ++ (Decimal.shortest x).positional

/-- **The text of a double**, which never looks like an integer. -/
def text (x : Binary64) : String :=
  let decimal := Decimal.shortest x
  let digits :=
    if decimal.isPlain then
      if decimal.power < 0 then decimal.positional else decimal.positional ++ ".0"
    else decimal.exponential
  x.sign ++ digits

example : (ofNat (10 ^ 15)).text = "1000000000000000.0" := by decide +kernel

example : (ofNat (10 ^ 16)).text = "1e+16" := by decide +kernel

/-- Of the two decimals equally near to `2 ^ -25` the even one is taken. -/
example : (Binary64.mk false (2 ^ 52) (-77)).text = "2.9802322387695312e-8" := by decide +kernel

end Binary64

end ResourcePool
