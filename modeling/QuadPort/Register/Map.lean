/-!
# The register map

The chip has four channels and thirty-two register addresses, fourteen of which carry a
name. Reading one of the four fault registers also clears it; the level register is
computed from the output latches and the field side of the inputs.
-/

namespace QuadPort.Register

def channelCount : UInt8 := 4

def channels : List UInt8 := [0, 1, 2, 3]

/-- The highest address that can be strapped on the chip's two address pins. -/
def maxChip : UInt8 := 3

/-- The highest register address that fits in a command byte. -/
def maxAddress : UInt8 := 0x1F

inductive Name
  | setOut
  | setFaultLed
  | level
  | interrupt
  | overload
  | openWire
  | shortToSupply
  | globalFault
  | config1
  | config2
  | configInput
  | configOutput
  | configLimit
  | configMask
  deriving DecidableEq, Repr

def Name.address : Name → UInt8
  | .setOut => 0x00
  | .setFaultLed => 0x01
  | .level => 0x02
  | .interrupt => 0x03
  | .overload => 0x04
  | .openWire => 0x05
  | .shortToSupply => 0x06
  | .globalFault => 0x07
  | .config1 => 0x0A
  | .config2 => 0x0B
  | .configInput => 0x0C
  | .configOutput => 0x0D
  | .configLimit => 0x0E
  | .configMask => 0x0F

def Name.all : List Name :=
  [.setOut, .setFaultLed, .level, .interrupt, .overload, .openWire, .shortToSupply,
    .globalFault, .config1, .config2, .configInput, .configOutput, .configLimit, .configMask]

/-- The fault registers, which a read clears. -/
def Name.latched : List Name :=
  [.overload, .openWire, .shortToSupply, .globalFault]

def isLatched (address : UInt8) : Bool :=
  (Name.latched.map Name.address).contains address

end QuadPort.Register
