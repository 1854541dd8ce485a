/-!
# Binary floating point of 64 bits

A finite double is a sign and a magnitude `significand · 2 ^ exponent`. Everything here is exact
arithmetic on natural numbers: rounding a quotient to the nearest double (ties to the even
significand), and from it the doubles nearest to a natural number and to an integer.
-/

namespace ResourcePool

/-- A finite double: `± significand · 2 ^ exponent`. -/
structure Binary64 where
  /-- Whether the number carries a minus sign; zero may carry one too. -/
  negative : Bool
  /-- The significand, below `2 ^ 53`. -/
  significand : Nat
  /-- The power of two that the significand is scaled by. -/
  exponent : Int
  deriving DecidableEq, Repr

namespace Binary64

/-- A quotient rounded to the nearest natural number, a tie going to the even neighbour. -/
def roundQuotient (num den : Nat) : Nat :=
  let quotient := num / den
  let twice := 2 * (num % den)
  if twice < den then quotient
  else if den < twice then quotient + 1
  else if quotient % 2 = 0 then quotient
  else quotient + 1

/-- The least exponent a double can have. -/
def minExponent : Int := -1074

/-- The numerator and denominator of `num / den` divided by `2 ^ exponent`. -/
def scaleDown (num den : Nat) (exponent : Int) : Nat × Nat :=
  (num <<< (-exponent).toNat, den <<< exponent.toNat)

/-- **The nearest double to a positive quotient.** The exponent is chosen so that the significand
has 53 bits, unless that exponent would be too small; a significand that rounds up to `2 ^ 53` moves
to the next exponent. -/
def ofQuotient (negative : Bool) (num den : Nat) : Binary64 :=
  if num = 0 then ⟨negative, 0, 0⟩
  else
    let guess : Int := (num.log2 : Int) - den.log2 - 52
    let scaled := scaleDown num den guess
    let fitting := if scaled.1 < scaled.2 <<< 52 then guess - 1 else guess
    let exponent := max fitting minExponent
    let exact := scaleDown num den exponent
    let significand := roundQuotient exact.1 exact.2
    if significand = 1 <<< 53 then ⟨negative, 1 <<< 52, exponent + 1⟩
    else ⟨negative, significand, exponent⟩

/-- The nearest double to a natural number. -/
def ofNat (n : Nat) : Binary64 := ofQuotient false n 1

/-- The nearest double to an integer. -/
def ofInt (n : Int) : Binary64 := ofQuotient (n < 0) n.natAbs 1

end Binary64

end ResourcePool
