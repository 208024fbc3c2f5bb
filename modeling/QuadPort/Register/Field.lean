/-!
# Bit fields of a register byte

A register holds several fields side by side. A field is named by its mask, the byte
with exactly the field's bits set; a value enters a field by shifting it up to the
lowest bit of the mask and leaves it by shifting down again.

Byte arithmetic is exact: a sum or product that does not fit in a byte, and a shift by
the width of a byte or more, is an `Overflow`. Bits that a smaller shift pushes out of
the byte are dropped.
-/

namespace QuadPort.Register

/-- The byte operation whose operands were too large for it. -/
inductive Overflow
  | shiftLeft
  | shiftRight
  | add
  | multiply
  deriving DecidableEq, Repr

def Overflow.message : Overflow → String
  | .shiftLeft => "attempt to shift left with overflow"
  | .shiftRight => "attempt to shift right with overflow"
  | .add => "attempt to add with overflow"
  | .multiply => "attempt to multiply with overflow"

/-! ## Exact byte arithmetic -/

def add (a b : UInt8) : Except Overflow UInt8 :=
  if a.toNat + b.toNat < 256 then .ok (a + b) else .error .add

def multiply (a b : UInt8) : Except Overflow UInt8 :=
  if a.toNat * b.toNat < 256 then .ok (a * b) else .error .multiply

/-- A byte moved up by fewer than eight places. -/
def shiftLeft (value places : UInt8) : Except Overflow UInt8 :=
  if places < 8 then .ok (value <<< places) else .error .shiftLeft

def shiftRight (value places : UInt8) : Except Overflow UInt8 :=
  if places < 8 then .ok (value >>> places) else .error .shiftRight

/-- The position of the lowest set bit, eight for the empty mask. -/
def lowestBit (mask : UInt8) : UInt8 :=
  ([0, 1, 2, 3, 4, 5, 6, 7].find? fun place ↦ (mask >>> place) &&& 1 == 1).getD 8

/-! ## Entering and leaving a field -/

/-- The value moved into the field; what does not fit in the field is cut off. -/
def insert (mask value : UInt8) : Except Overflow UInt8 := do
  let placed ← shiftLeft value (lowestBit mask)
  return placed &&& mask

def extract (mask register : UInt8) : Except Overflow UInt8 :=
  shiftRight (register &&& mask) (lowestBit mask)

/-- The register with the field replaced by the field of `value`. -/
def replace (mask register value : UInt8) : UInt8 :=
  (register &&& ~~~mask) ||| (mask &&& value)

/-! ## The fields of one channel -/

def latchMask (channel : UInt8) : Except Overflow UInt8 :=
  shiftLeft 1 channel

/-- The direction bit of a channel in the output register, set for an input. -/
def directionMask (channel : UInt8) : Except Overflow UInt8 := do
  shiftLeft 1 (← add channel 4)

def levelMask (channel : UInt8) : Except Overflow UInt8 :=
  shiftLeft 1 channel

def modeMask (channel : UInt8) : Except Overflow UInt8 := do
  shiftLeft 0b11 (← multiply 2 channel)

def limitMask (channel : UInt8) : Except Overflow UInt8 := do
  shiftLeft 0b11 (← multiply 2 channel)

end QuadPort.Register
