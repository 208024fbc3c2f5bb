import QuadPort.Checksum
import QuadPort.Error
import QuadPort.Register.Map

/-!
# Frames

A frame is two bytes, or three when the checksum is in use. The first byte of a request
holds the chip address in its two top bits, the register address in the five bits below
and a set lowest bit for a write. The second byte is the value to write, zero for a read.
The third byte is the checksum of the first two.

Requests are built in a three-byte scratch buffer that also takes the response. Building
a request clears the buffer first, so nothing of an earlier frame is left in it.
-/

namespace QuadPort.Frame

/-- The chip address in the command byte. -/
def chipMask : UInt8 := 0b1100_0000

/-- The register address in the command byte. -/
def addressMask : UInt8 := 0b0011_1110

/-- The bit of the command byte that is set for a write. -/
def writeMask : UInt8 := 0b0000_0001

def length (checked : Bool) : Nat :=
  if checked then 3 else 2

def command (chip address : UInt8) (write : Bool) : Except Register.Overflow UInt8 := do
  let chipBits ← Register.insert chipMask chip
  let addressBits ← Register.insert addressMask address
  let writeBit ← Register.insert writeMask (if write then 1 else 0)
  return chipBits ||| addressBits ||| writeBit

def chipOf (command : UInt8) : UInt8 :=
  command >>> 6

def addressOf (command : UInt8) : UInt8 :=
  (command &&& addressMask) >>> 1

def isWrite (command : UInt8) : Bool :=
  command &&& writeMask != 0

/-! ## The scratch buffer -/

/-- The buffer in which a request is built and its response arrives. -/
structure Scratch where
  command : UInt8
  data : UInt8
  check : UInt8
  deriving DecidableEq, Repr

namespace Scratch

def zero : Scratch := ⟨0, 0, 0⟩

def bytes (scratch : Scratch) : List UInt8 :=
  [scratch.command, scratch.data, scratch.check]

/-- The buffer after a transfer: bytes that took part are replaced, the others stay. -/
def receive (scratch : Scratch) : List UInt8 → Scratch
  | [] => scratch
  | [first] => { scratch with command := first }
  | [first, second] => { scratch with command := first, data := second }
  | first :: second :: third :: _ => ⟨first, second, third⟩

def clear (scratch : Scratch) : Scratch :=
  { scratch with command := 0, data := 0, check := 0 }

/-- The buffer with the checksum of its first two bytes behind them. -/
def close (scratch : Scratch) : Scratch :=
  { scratch with check := Checksum.ofRequest scratch.command scratch.data }

end Scratch

/-! ## Requests and responses -/

def request (scratch : Scratch) (chip address value : UInt8) (write checked : Bool) :
    Except Register.Overflow Scratch := do
  let byte ← command chip address write
  let filled := { scratch.clear with command := byte, data := value }
  return if checked then filled.close else filled

def writeRequest (scratch : Scratch) (chip address value : UInt8) (checked : Bool) :
    Except Register.Overflow Scratch :=
  request scratch chip address value true checked

def readRequest (scratch : Scratch) (chip address : UInt8) (checked : Bool) :
    Except Register.Overflow Scratch :=
  request scratch chip address 0 false checked

/-- The register value in the response to a read. The checksum byte is compared whole. -/
def decode (frame : List UInt8) (checked : Bool) : Except Error UInt8 :=
  match checked, frame with
  | true, status :: data :: received :: _ =>
    let expected := Checksum.ofResponse status data
    if expected = received then .ok data else .error (.checksum expected received)
  | false, _ :: data :: _ => .ok data
  | _, _ => .error (.invalidArgument (.response (length checked) frame.length))

end QuadPort.Frame
