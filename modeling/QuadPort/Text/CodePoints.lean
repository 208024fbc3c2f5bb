/-!
# Classes of code points

A class of code points is given by the code points at which membership changes, in
ascending order and beginning outside the class.
-/

namespace QuadPort.Text

/-- A class of code points: where it begins, ends, begins again and so on. -/
abbrev CodePoints := List Nat

namespace CodePoints

/-- Whether a class holds a character: an odd number of changes lies at or before it. -/
def holds (changes : CodePoints) (c : Char) : Bool :=
  (changes.takeWhile fun change ↦ change ≤ c.toNat).length % 2 == 1

end CodePoints

end QuadPort.Text
