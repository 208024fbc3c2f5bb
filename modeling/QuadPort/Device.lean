import QuadPort.Channel
import QuadPort.Link

/-!
# The chip descriptor

A descriptor says how to talk to one chip: whether frames carry a checksum, which address
the chip is strapped to, and whether an enable line was handed over. Registers are read,
written and updated one frame at a time; an update is a read followed by a write and
writes nothing when the read is rejected.
-/

namespace QuadPort

/-- How to talk to one chip. -/
structure Device where
  checked : Bool
  chip : UInt8
  hasLine : Bool
  deriving DecidableEq, Repr

/-- The fault registers as they were read, and thereby cleared. -/
structure LatchedFaults where
  overload : UInt8
  openWire : UInt8
  shortToSupply : UInt8
  globalFault : UInt8
  deriving DecidableEq, Repr

def LatchedFaults.isClear (faults : LatchedFaults) : Bool :=
  faults.overload == 0 && faults.openWire == 0 && faults.shortToSupply == 0 &&
    faults.globalFault == 0

def LatchedFaults.label (faults : LatchedFaults) : String :=
  "FaultStatus \x7b overload: " ++ toString faults.overload.toNat ++
    ", open_wire: " ++ toString faults.openWire.toNat ++
    ", short_vdd: " ++ toString faults.shortToSupply.toNat ++
    ", global: " ++ toString faults.globalFault.toNat ++ " \x7d"

namespace Device

open Conversation Register

def label (device : Device) : String :=
  "Max14906 \x7b crc_enabled: " ++ toString device.checked ++
    ", chip_address: " ++ toString device.chip.toNat ++
    ", enable_line: " ++ toString device.hasLine ++ ", .. \x7d"

variable {σ : Type} [Link σ]

/-! ## Registers -/

/-- Accepts the addresses that fit in a command byte. -/
def checkAddress (address : UInt8) : Conversation σ Unit :=
  if address > maxAddress then throw (.invalidArgument (.register address)) else return ()

def writeRegister (device : Device) (address value : UInt8) : Conversation σ Unit := do
  checkAddress address
  let session ← get
  let scratch ← exact (Frame.writeRequest session.scratch device.chip address value device.checked)
  set { session with scratch }
  relay (transfer (Frame.length device.checked))
  report .debug .device s!"reg {Text.Hex.ofByte address} <- {Text.Hex.ofByte value}"

/-- The value in the response that the scratch buffer holds; a rejected one is logged. -/
def acceptResponse (device : Device) (address : UInt8) : Conversation σ UInt8 := do
  let session ← get
  match Frame.decode (session.scratch.bytes.take (Frame.length device.checked)) device.checked with
  | .ok value => return value
  | .error error => do
    report .warn .device s!"Read of reg {Text.Hex.ofByte address} rejected: {error.message}"
    throw error

def readRegister (device : Device) (address : UInt8) : Conversation σ UInt8 := do
  checkAddress address
  let session ← get
  let scratch ← exact (Frame.readRequest session.scratch device.chip address device.checked)
  set { session with scratch }
  relay (transfer (Frame.length device.checked))
  let value ← acceptResponse device address
  report .debug .device s!"reg {Text.Hex.ofByte address} -> {Text.Hex.ofByte value}"
  return value

/-- Replaces the bits of a register that the mask selects. -/
def updateRegister (device : Device) (address mask value : UInt8) : Conversation σ Unit := do
  let current ← readRegister device address
  writeRegister device address (replace mask current value)

/-- Reads, and thereby clears, the four fault registers. -/
def readFaults (device : Device) : Conversation σ LatchedFaults := do
  let overload ← readRegister device Name.overload.address
  let openWire ← readRegister device Name.openWire.address
  let shortToSupply ← readRegister device Name.shortToSupply.address
  let globalFault ← readRegister device Name.globalFault.address
  return { overload, openWire, shortToSupply, globalFault }

end Device

end QuadPort
