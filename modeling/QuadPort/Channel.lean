/-!
# Channel settings

What a channel can be asked to do: its function, the way its output stage is driven, and
the current limit of that stage. The last two are two-bit register fields and every bit
pattern stands for a setting.
-/

namespace QuadPort.Channel

inductive Function
  | output
  | input
  | highZ
  deriving DecidableEq, Repr

inductive OutputMode
  | highSide
  | highSideInrush
  | pushPullClamp
  | pushPull
  deriving DecidableEq, Repr

inductive CurrentLimit
  | milliamps600
  | milliamps130
  | milliamps300
  | milliamps1200
  deriving DecidableEq, Repr

/-! ## Functions -/

def Function.label : Function → String
  | .output => "Output"
  | .input => "Input"
  | .highZ => "HighZ"

/-- The value of the direction bit that goes with a function. -/
def Function.direction : Function → UInt8
  | .output => 0
  | .input => 1
  | .highZ => 1

/-- The output mode that a function asks for; an output keeps the mode it has. -/
def Function.mode? : Function → Option OutputMode
  | .output => none
  | .input => some .highSide
  | .highZ => some .pushPull

/-! ## Two-bit fields -/

def OutputMode.ofBits (bits : UInt8) : OutputMode :=
  match (bits &&& 0b11).toNat with
  | 0 => .highSide
  | 1 => .highSideInrush
  | 2 => .pushPullClamp
  | _ => .pushPull

def OutputMode.bits : OutputMode → UInt8
  | .highSide => 0
  | .highSideInrush => 1
  | .pushPullClamp => 2
  | .pushPull => 3

def OutputMode.label : OutputMode → String
  | .highSide => "HighSide"
  | .highSideInrush => "HighSideInrush"
  | .pushPullClamp => "PushPullClamp"
  | .pushPull => "PushPull"

@[simp] theorem OutputMode.ofBits_bits (mode : OutputMode) : ofBits mode.bits = mode := by
  cases mode <;> rfl

def CurrentLimit.ofBits (bits : UInt8) : CurrentLimit :=
  match (bits &&& 0b11).toNat with
  | 0 => .milliamps600
  | 1 => .milliamps130
  | 2 => .milliamps300
  | _ => .milliamps1200

def CurrentLimit.bits : CurrentLimit → UInt8
  | .milliamps600 => 0
  | .milliamps130 => 1
  | .milliamps300 => 2
  | .milliamps1200 => 3

def CurrentLimit.label : CurrentLimit → String
  | .milliamps600 => "Cl600"
  | .milliamps130 => "Cl130"
  | .milliamps300 => "Cl300"
  | .milliamps1200 => "Cl1200"

def CurrentLimit.milliamps : CurrentLimit → Nat
  | .milliamps600 => 600
  | .milliamps130 => 130
  | .milliamps300 => 300
  | .milliamps1200 => 1200

/-- The lowest limit, in force from the moment the chip is brought up. -/
def CurrentLimit.lowest : CurrentLimit := .milliamps130

@[simp] theorem CurrentLimit.ofBits_bits (limit : CurrentLimit) : ofBits limit.bits = limit := by
  cases limit <;> rfl

end QuadPort.Channel
