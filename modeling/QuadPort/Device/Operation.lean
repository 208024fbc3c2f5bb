import QuadPort.Device.Lifecycle
import QuadPort.Device.Snapshot

/-!
# Operations as data

Every operation on a descriptor in use is a value of `Operation`, so that runs of any
length can be written down, replayed and compared.
-/

namespace QuadPort.Device

open Channel

inductive Operation
  | writeRegister (address value : UInt8)
  | readRegister (address : UInt8)
  | updateRegister (address mask value : UInt8)
  | readFaults
  | level (channel : UInt8)
  | setLevel (channel : UInt8) (high : Bool)
  | function (channel : UInt8)
  | setFunction (channel : UInt8) (function : Function)
  | limit (channel : UInt8)
  | setLimit (channel : UInt8) (limit : CurrentLimit)
  | setUp (setup : ChannelSetup)
  | snapshot
  deriving DecidableEq, Repr

inductive Outcome
  | done
  | byte (value : UInt8)
  | level (high : Bool)
  | function (function : Function)
  | limit (limit : CurrentLimit)
  | faults (faults : LatchedFaults)
  | snapshot (snapshot : Snapshot)
  deriving DecidableEq, Repr

variable {σ : Type} [Link σ]

def perform (device : Device) : Operation → Conversation σ Outcome
  | .writeRegister address value => do
    device.writeRegister address value
    return .done
  | .readRegister address => return .byte (← device.readRegister address)
  | .updateRegister address mask value => do
    device.updateRegister address mask value
    return .done
  | .readFaults => return .faults (← device.readFaults)
  | .level channel => return .level (← device.level channel)
  | .setLevel channel high => do
    device.setLevel channel high
    return .done
  | .function channel => return .function (← device.function channel)
  | .setFunction channel function => do
    device.setFunction channel function
    return .done
  | .limit channel => return .limit (← device.limit channel)
  | .setLimit channel limit => do
    device.setLimit channel limit
    return .done
  | .setUp setup => do
    device.setUp setup
    return .done
  | .snapshot => return .snapshot (← device.snapshot)

end QuadPort.Device
