import ResourcePool.Decimal.Binary64

/-!
# Scaling doubles by powers of ten

How a number in a text becomes a double: its digits are first rounded to a double on their own, and
that double is then multiplied or divided by powers of ten, which are doubles too. Every step rounds
to the nearest double, so that the outcome can differ from the double nearest to the number in the
last place.

* `leadingDigits` collects digits as long as the number fits into 64 bits.
* `scale?` multiplies or divides by a power of ten, in several steps where the power is very small.
-/

namespace ResourcePool

namespace Binary64

/-! ## Arithmetic -/

/-- The exact magnitude of a double as a quotient. -/
def quotient (x : Binary64) : Nat × Nat :=
  (x.significand <<< x.exponent.toNat, 1 <<< (-x.exponent).toNat)

/-- Whether a magnitude is small enough for a double, whose exponent is at most 971. -/
def isFinite (x : Binary64) : Bool := x.exponent ≤ 971

/-- The double nearest to a product; it may be too great. -/
def mul (x y : Binary64) : Binary64 :=
  let (xNum, xDen) := x.quotient
  let (yNum, yDen) := y.quotient
  ofQuotient (x.negative != y.negative) (xNum * yNum) (xDen * yDen)

/-- The double nearest to a quotient of two doubles, the second of which is not zero. -/
def div (x y : Binary64) : Binary64 :=
  let (xNum, xDen) := x.quotient
  let (yNum, yDen) := y.quotient
  ofQuotient (x.negative != y.negative) (xNum * yDen) (xDen * yNum)

/-- The double nearest to a power of ten. -/
def powerOfTen (power : Nat) : Binary64 := ofNat (Nat.pow 10 power)

/-! ## Powers of ten -/

/-- The greatest power of ten that is a double. -/
def greatestPower : Nat := 308

/-- **A double times a power of ten**, if it is not too great. A power below `-308` is divided out
in steps of `308`, until what is left is zero. -/
def scale? (x : Binary64) (power : Int) : Option Binary64 :=
  if x.significand = 0 then some x
  else if 0 ≤ power then
    if greatestPower < power then none
    else
      let product := x.mul (powerOfTen power.toNat)
      if product.isFinite then some product else none
  else if power < -greatestPower then
    (x.div (powerOfTen greatestPower)).scale? (power + greatestPower)
  else some (x.div (powerOfTen (-power).toNat))
  termination_by (-power).toNat
  decreasing_by simp only [greatestPower] at *; omega

/-! ## Digits -/

/-- The value of a decimal digit. -/
def digitValue (c : Char) : Nat := c.toNat - '0'.toNat

/-- Appends digits to a number as long as it fits into 64 bits; with it come the digits that are
left, from the first one on that does not fit. -/
def leadingDigits (number : Nat) : List Char → Nat × List Char
  | [] => (number, [])
  | c :: rest =>
    let longer := 10 * number + digitValue c
    if longer < UInt64.size then leadingDigits longer rest else (number, c :: rest)

/-- **The double that a text denotes** by the digits before and after its point and its power of
ten, if it is not too great. Digits that do not fit into 64 bits count as zeros before the point and
not at all behind it. -/
def ofText? (negative : Bool) (whole fraction : List Char) (power : Int) : Option Binary64 :=
  let (wholeNumber, zeros) := leadingDigits 0 whole
  let (number, ignored) := leadingDigits wholeNumber fraction
  let places : Nat := fraction.length - ignored.length
  let magnitude := (ofNat number).scale? (power + (zeros.length : Int) - (places : Int))
  magnitude.map fun x => { x with negative }

/-- One fifth is one place below zero: two divided by ten. -/
example : ofText? false ['0'] ['2'] 0 = some ((ofNat 2).div (ofNat 10)) := by decide +kernel

end Binary64

end ResourcePool
