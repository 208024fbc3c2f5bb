import QuadPort.Register.Field
import QuadPort.Text.Hex

/-!
# What can go wrong

A `Fault` is reported by the bus or by the enable line. An `Error` is what an operation
on the chip reports: a fault passed on as it came, an argument out of range, a response
whose checksum does not match, or a chip that was never brought up. Byte arithmetic that
overflows is an error value too, so that its absence can be stated.
-/

namespace QuadPort

inductive Fault
  | spi (message : String)
  | gpio (message : String)
  | device (cause : String)
  deriving DecidableEq, Repr

def Fault.message : Fault → String
  | .spi message => "SPI error: " ++ message
  | .gpio message => "GPIO error: " ++ message
  | .device cause => "I/O error: " ++ cause

/-- The cause that lies behind a fault and has a text of its own. -/
def Fault.cause? : Fault → Option String
  | .device cause => some cause
  | _ => none

inductive Argument
  | channel (index : UInt8)
  | register (address : UInt8)
  | chip (address : UInt8)
  | response (expected actual : Nat)
  | other (message : String)
  deriving DecidableEq, Repr

def Argument.message : Argument → String
  | .channel index => s!"Channel {index} out of range (0-3)"
  | .register address => s!"Register address {Text.Hex.ofByte address} out of range"
  | .chip address => s!"Chip address {address} out of range (0-3)"
  | .response expected actual =>
    s!"Response too short: expected {expected} bytes, got {actual}"
  | .other message => message

/-- What an operation on the chip reports when it does not succeed. -/
inductive Error
  | transport (fault : Fault)
  | invalidArgument (argument : Argument)
  | checksum (expected received : UInt8)
  | noDevice
  | arithmetic (overflow : Register.Overflow)
  deriving DecidableEq, Repr

def Error.message : Error → String
  | .transport fault => "Transport error: " ++ fault.message
  | .invalidArgument argument => "Invalid argument: " ++ argument.message
  | .checksum expected received =>
    s!"CRC mismatch: expected {Text.Hex.ofByte expected}, got {Text.Hex.ofByte received}"
  | .noDevice => "No such device"
  | .arithmetic overflow => overflow.message

def Error.chain : Error → List String
  | .transport fault =>
    (Error.transport fault).message :: fault.message :: fault.cause?.toList
  | error => [error.message]

end QuadPort
