import QuadPort.Number.Binary64

/-!
# The shortest decimal that reads back

A positive number of the binary format stands for an interval of reals, those that are
closer to it than to its neighbours; the ends belong to it when its mantissa is even. Of
the decimals in the interval the one with the fewest digits is chosen, of two with equally
many digits the closer one, the greater on a tie.

A grid of decimals with a given number of digits meets the interval exactly if one of the
two grid points around the number does, so only these two are tested.
-/

namespace QuadPort.Number.Shortest

/-- A positive rational number and the interval that rounds to it, over one denominator. -/
structure Interval where
  low : Nat
  value : Nat
  high : Nat
  denominator : Nat
  closed : Bool

def Interval.of (mantissa : Nat) (exponent : Int) : Interval :=
  let (unit, denominator) := Binary64.scale 2 1 4 exponent
  let narrow := mantissa = Nat.pow 2 52 ∧ exponent > Binary64.minExponent
  { low := (4 * mantissa - if narrow then 1 else 2) * unit
    value := 4 * mantissa * unit
    high := (4 * mantissa + 2) * unit
    denominator
    closed := mantissa % 2 = 0 }

def Interval.contains (interval : Interval) (digits : Nat) (exponent : Int) : Bool :=
  let (n, d) := Binary64.scale 10 (digits * interval.denominator) 1 exponent
  if interval.closed then interval.low * d ≤ n && n ≤ interval.high * d
  else interval.low * d < n && n < interval.high * d

/-- The least exponent of ten that makes the power greater than the interval's value. -/
def Interval.magnitude (interval : Interval) : Int :=
  let digits := fun (n : Nat) ↦ ((Nat.toDigits 10 n).length : Int)
  let guess := digits interval.value - digits interval.denominator
  let (n, d) := Binary64.scale 10 interval.denominator 1 guess
  if n ≤ interval.value * d then guess + 1 else guess

/-- The better of the two points around the value on a grid, if one is in the interval. -/
def Interval.onGrid (interval : Interval) (exponent : Int) : Option Nat :=
  let (n, d) := Binary64.scale 10 interval.value interval.denominator (-exponent)
  let below := n / d
  let above := below + 1
  match interval.contains below exponent, interval.contains above exponent with
  | true, true => if 2 * (n % d) < d then some below else some above
  | true, false => some below
  | false, true => some above
  | false, false => none

/-- Tries grids of `count` and more digits; seventeen digits always suffice. -/
def Interval.search (interval : Interval) (magnitude : Int) (count : Nat) : Nat → Nat × Int
  | 0 => (0, 0)
  | tries + 1 =>
    match interval.onGrid (magnitude - count) with
    | some digits => (digits, magnitude - count)
    | none => interval.search magnitude (count + 1) tries

def decimal (mantissa : Nat) (exponent : Int) : Nat × Int :=
  if mantissa = 0 then (0, 0)
  else
    let interval := Interval.of mantissa exponent
    interval.search interval.magnitude 1 17

def positional (digits : Nat) (exponent : Int) : List Char :=
  let written := Nat.toDigits 10 digits
  if 0 ≤ exponent then written ++ List.replicate exponent.toNat '0'
  else
    let places := (-exponent).toNat
    let padded := List.replicate (places + 1 - written.length) '0' ++ written
    let fraction := padded.drop (padded.length - places)
    padded.take (padded.length - places) ++ '.' :: fraction

def text : Binary64 → String
  | .nan => "NaN"
  | .infinite negative => if negative then "-inf" else "inf"
  | .finite negative mantissa exponent =>
    let (digits, power) := decimal mantissa exponent
    let (digits, power) :=
      if digits % 10 = 0 ∧ digits ≠ 0 then (digits / 10, power + 1) else (digits, power)
    let written := positional digits power
    let shown := if written.contains '.' then written else written ++ ['.', '0']
    String.ofList (if negative then '-' :: shown else shown)

end QuadPort.Number.Shortest
