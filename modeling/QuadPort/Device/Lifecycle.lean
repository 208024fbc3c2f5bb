import QuadPort.Device.Channels

/-!
# Bringing a chip up and shutting it down

Bring-up drives the enable line high, clears the faults latched at power-up and puts every
channel into high impedance with the lowest current limit. It stops at the first failure
and then gives the line and the bus back.

Shutting down does not stop: every channel is put into high impedance and both handles are
given back whatever fails on the way. The first failure is reported.
-/

namespace QuadPort.Device

open Conversation Register Channel

variable {σ : Type} [Link σ]

/-! ## Bring-up -/

/-- Everything that has to succeed before a descriptor can be used. -/
def bringUp (device : Device) : Conversation σ Unit := do
  if device.chip > maxChip then
    throw (.invalidArgument (.chip device.chip))
  if device.hasLine then
    relay (setLine .high)
  let faults ← readFaults device
  if !faults.isClear then
    report .debug .device s!"Cleared power-up faults: {faults.label}"
  channels.forM fun channel ↦ do
    setFunction device channel .highZ
    setLimit device channel .lowest

/-- Gives the handles back after a failed bring-up, the enable line first. -/
def releaseHandles (device : Device) : StateM (Session σ) Unit := do
  if device.hasLine then
    if let .error fault ← releaseLine then
      note .warn .device s!"Failed to release enable line: {fault.message}"
  if let .error fault ← releaseBus then
    note .warn .device s!"Failed to release SPI bus: {fault.message}"

/-- Brings a chip up; on failure the handles are given back and the failure is reported. -/
def start (device : Device) : Conversation σ Unit := do
  modify fun session ↦ { session with scratch := .zero }
  tryCatch
    (do
      bringUp device
      let state := if device.checked then "on" else "off"
      report .info .device s!"MAX14906 initialized (chip address {device.chip}, CRC {state})")
    fun error ↦ do
      report .warn .device s!"MAX14906 init failed: {error.message}"
      (releaseHandles device : StateM (Session σ) Unit)
      throw error

/-! ## Shutting down -/

/-- Runs one step of a teardown; a failure is logged and handed back, not raised. -/
def attempt (complaint : String) (step : Conversation σ Unit) :
    StateM (Session σ) (Option Error) := do
  match ← step.run with
  | .ok () => return none
  | .error error => do
    note .warn .device s!"{complaint}: {error.message}"
    return some error

def attemptCall (complaint : String) (call : StateM (Session σ) (Except Fault Unit)) :
    StateM (Session σ) (Option Error) := do
  match ← call with
  | .ok () => return none
  | .error fault => do
    note .warn .device s!"{complaint}: {fault.message}"
    return some (.transport fault)

def teardown (device : Device) : List (StateM (Session σ) (Option Error)) :=
  (channels.map fun channel ↦
    attempt s!"Failed to put channel {channel} in high-Z" (setFunction device channel .highZ)) ++
  [attemptCall "Failed to release SPI bus" releaseBus] ++
  if device.hasLine then
    [attemptCall "Failed to float enable line" (setLine .highZ),
      attemptCall "Failed to release enable line" releaseLine]
  else []

/-- Shuts a chip down; the first of the failures is reported. -/
def shutDown (device : Device) : Conversation σ Unit := do
  let outcomes ← ((teardown device).mapM id : StateM (Session σ) (List (Option Error)))
  match outcomes.findSome? id with
  | some error => throw error
  | none => report .info .device "MAX14906 removed"

def shutDown? : Option Device → Conversation σ Unit
  | some device => shutDown device
  | none => throw .noDevice

end QuadPort.Device
