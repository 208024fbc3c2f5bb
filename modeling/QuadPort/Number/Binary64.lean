/-!
# Binary floating point numbers

A finite number is a mantissa below `2 ^ 53` times a power of two not below `2 ^ (-1074)`.
`nearest` reads a decimal: the closest such number, an exact tie going to the even
mantissa, and infinity from half a unit beyond the greatest finite number on. All
arithmetic is exact, in natural numbers.
-/

namespace QuadPort

inductive Binary64
  | nan
  | infinite (negative : Bool)
  | finite (negative : Bool) (mantissa : Nat) (exponent : Int)
  deriving DecidableEq, Repr

namespace Binary64

def minExponent : Int := -1074

def maxExponent : Int := 971

/-- The quotient rounded to the nearest natural number, a tie going to the even one. -/
def roundDiv (numerator denominator : Nat) : Nat :=
  let quotient := numerator / denominator
  let twice := 2 * (numerator % denominator)
  if twice < denominator then quotient
  else if denominator < twice then quotient + 1
  else quotient + quotient % 2

/-- A fraction with its numerator and denominator multiplied by a power of a base, on the
side that makes the fraction `base ^ exponent` times as large. -/
def scale (base numerator denominator : Nat) (exponent : Int) : Nat × Nat :=
  if 0 ≤ exponent then (numerator * Nat.pow base exponent.toNat, denominator)
  else (numerator, denominator * Nat.pow base (-exponent).toNat)

/-- The exponent for which a positive fraction has a mantissa of 53 bits, unless the
fraction is too small for one. -/
def exponentOf (numerator denominator : Nat) : Int :=
  let guess : Int := (numerator.log2 : Int) - (denominator.log2 : Int) - 52
  let (n, d) := scale 2 numerator denominator (-guess)
  let exponent := if n / d < Nat.pow 2 52 then guess - 1 else guess
  max exponent minExponent

def ofFraction (negative : Bool) (numerator denominator : Nat) : Binary64 :=
  let exponent := exponentOf numerator denominator
  let (n, d) := scale 2 numerator denominator (-exponent)
  let rounded := roundDiv n d
  let (mantissa, exponent) :=
    if rounded = Nat.pow 2 53 then (Nat.pow 2 52, exponent + 1) else (rounded, exponent)
  if exponent > maxExponent then .infinite negative else .finite negative mantissa exponent

/-- The number closest to `digits * 10 ^ exponent`. Decimals far outside the range are
recognised by their number of digits, without computing the power. -/
def nearest (negative : Bool) (digits : Nat) (exponent : Int) : Binary64 :=
  let magnitude : Int := ((Nat.toDigits 10 digits).length : Int) + exponent
  if digits = 0 ∨ magnitude < -330 then .finite negative 0 minExponent
  else if magnitude > 330 then .infinite negative
  else
    let (n, d) := scale 10 digits 1 exponent
    ofFraction negative n d

end Binary64

end QuadPort
