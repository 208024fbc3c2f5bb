import QuadPort.Device

/-!
# Operations on one channel

Levels, functions and current limits are fields of shared registers, so each change is an
update of one register or, for a function, of two: the output mode first, the direction
after it. High impedance is an input whose output mode is push-pull; an input whose output
mode is anything else is a plain input.
-/

namespace QuadPort.Device

open Conversation Register Channel

variable {σ : Type} [Link σ]

def checkChannel (channel : UInt8) : Conversation σ Unit :=
  if channel ≥ channelCount then throw (.invalidArgument (.channel channel)) else return ()

/-- The voltage level of a channel, whatever its function. -/
def level (device : Device) (channel : UInt8) : Conversation σ Bool := do
  checkChannel channel
  let value ← readRegister device Name.level.address
  let bit ← exact (do extract (← levelMask channel) value)
  return bit != 0

def setLevel (device : Device) (channel : UInt8) (high : Bool) : Conversation σ Unit := do
  checkChannel channel
  let mask ← exact (latchMask channel)
  updateRegister device Name.setOut.address mask (if high then mask else 0)

/-- Gives a channel its function, output mode before direction. -/
def setFunction (device : Device) (channel : UInt8) (function : Function) :
    Conversation σ Unit := do
  checkChannel channel
  let modeField ← exact (modeMask channel)
  let directionField ← exact (directionMask channel)
  match function.mode? with
  | some mode =>
    updateRegister device Name.configOutput.address modeField (← exact (insert modeField mode.bits))
  | none => pure ()
  updateRegister device Name.setOut.address directionField
    (← exact (insert directionField function.direction))
  report .debug .channel s!"Channel {channel} -> {function.label}"

/-- The function that the direction bit and the output mode of a channel amount to. -/
def function (device : Device) (channel : UInt8) : Conversation σ Function := do
  checkChannel channel
  let setOut ← readRegister device Name.setOut.address
  let direction ← exact (do extract (← directionMask channel) setOut)
  if direction == 0 then
    return .output
  let modes ← readRegister device Name.configOutput.address
  let bits ← exact (do extract (← modeMask channel) modes)
  match OutputMode.ofBits bits with
  | .pushPull => return .highZ
  | _ => return .input

def setLimit (device : Device) (channel : UInt8) (limit : CurrentLimit) :
    Conversation σ Unit := do
  checkChannel channel
  let mask ← exact (limitMask channel)
  updateRegister device Name.configLimit.address mask (← exact (insert mask limit.bits))

def limit (device : Device) (channel : UInt8) : Conversation σ CurrentLimit := do
  checkChannel channel
  let value ← readRegister device Name.configLimit.address
  let bits ← exact (do extract (← limitMask channel) value)
  return CurrentLimit.ofBits bits

end QuadPort.Device
