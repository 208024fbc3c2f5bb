import QuadPort.Device.Operation
import QuadPort.Proofs.Script

/-!
# Operations as scripts

Every operation on a descriptor is a script: `run_ofOperation` equates the two as
conversations over any link. The scripts are written with masks that are plain shifts and
with fields read off bit by bit, so the equation also says that no byte arithmetic of an
operation overflows.
-/

namespace QuadPort.Script

open Conversation Register Channel

/-! ## Registers -/

def readRegister (address : UInt8) : Script UInt8 :=
  .ask (.read address) .done

def writeRegister (address value : UInt8) : Script Unit :=
  .ask (.write address value) fun _ ↦ .done ()

/-- Reads a register and writes it back with the bits of the mask replaced. -/
def updateRegister (address mask value : UInt8) : Script Unit :=
  .ask (.read address) fun current ↦ writeRegister address (replace mask current value)

def readFaults : Script LatchedFaults := do
  let overload ← readRegister Name.overload.address
  let openWire ← readRegister Name.openWire.address
  let shortToSupply ← readRegister Name.shortToSupply.address
  let globalFault ← readRegister Name.globalFault.address
  return { overload, openWire, shortToSupply, globalFault }

def report (level : Log.Level) (target : Log.Target) (message : String) : Script Unit :=
  .note ⟨level, target, message⟩ (.done ())

/-! ## Channels -/

/-- A script for one of the four channels; any other channel is refused. -/
def onChannel {α : Type} (channel : UInt8) (script : Script α) : Script α :=
  if channel < channelCount then script else .fail (.invalidArgument (.channel channel))

def level (channel : UInt8) : Script Bool := onChannel channel do
  return bit (← readRegister Name.level.address) channel.toNat

def setLevel (channel : UInt8) (high : Bool) : Script Unit :=
  onChannel channel <|
    updateRegister Name.setOut.address (1 <<< channel) (if high then 1 <<< channel else 0)

/-- Gives a channel the output mode of a function, if the function asks for one. -/
def setMode (channel : UInt8) (function : Function) : Script Unit :=
  match function.mode? with
  | some mode =>
    updateRegister Name.configOutput.address (0b11 <<< (2 * channel))
      (mode.bits <<< (2 * channel))
  | none => pure ()

def setDirection (channel : UInt8) (function : Function) : Script Unit :=
  updateRegister Name.setOut.address (1 <<< (channel + 4))
    (function.direction <<< (channel + 4))

/-- Gives a channel its function, output mode before direction. -/
def setFunction (channel : UInt8) (function : Function) : Script Unit := onChannel channel do
  setMode channel function
  setDirection channel function
  report .debug .channel s!"Channel {channel} -> {function.label}"

def function (channel : UInt8) : Script Function := onChannel channel do
  let setOut ← readRegister Name.setOut.address
  if bit setOut (channel.toNat + 4) then
    let modes ← readRegister Name.configOutput.address
    return if OutputMode.ofBits (modes >>> (2 * channel)) = .pushPull then .highZ else .input
  else
    return .output

def setLimit (channel : UInt8) (limit : CurrentLimit) : Script Unit :=
  onChannel channel <|
    updateRegister Name.configLimit.address (0b11 <<< (2 * channel))
      (limit.bits <<< (2 * channel))

def limit (channel : UInt8) : Script CurrentLimit := onChannel channel do
  return CurrentLimit.ofBits ((← readRegister Name.configLimit.address) >>> (2 * channel))

/-! ## All channels -/

def setUpChannel (channel : UInt8) (function : Function) (limit : CurrentLimit) :
    Script Unit := do
  setLimit channel limit
  setFunction channel function
  report .info .monitor s!"Channel {channel}: {function.label}, limit {limit.milliamps} mA"

def setUp (setup : ChannelSetup) : Script Unit := do
  setUpChannel 0 (setup.functions.get 0) (setup.limits.get 0)
  setUpChannel 1 (setup.functions.get 1) (setup.limits.get 1)
  setUpChannel 2 (setup.functions.get 2) (setup.limits.get 2)
  setUpChannel 3 (setup.functions.get 3) (setup.limits.get 3)

/-- Reads the four levels, then the fault registers. -/
def snapshot : Script Snapshot := do
  let level0 ← level 0
  let level1 ← level 1
  let level2 ← level 2
  let level3 ← level 3
  let faults ← readFaults
  return .of level0 level1 level2 level3 faults

def ofOperation : Device.Operation → Script Device.Outcome
  | .writeRegister address value => do
    writeRegister address value
    return .done
  | .readRegister address => return .byte (← readRegister address)
  | .updateRegister address mask value => do
    updateRegister address mask value
    return .done
  | .readFaults => return .faults (← readFaults)
  | .level channel => return .level (← level channel)
  | .setLevel channel high => do
    setLevel channel high
    return .done
  | .function channel => return .function (← function channel)
  | .setFunction channel wanted => do
    setFunction channel wanted
    return .done
  | .limit channel => return .limit (← limit channel)
  | .setLimit channel wanted => do
    setLimit channel wanted
    return .done
  | .setUp setup => do
    setUp setup
    return .done
  | .snapshot => return .snapshot (← snapshot)

/-! ## The operations of a descriptor run their scripts -/

section Run

variable {σ α : Type} [Link σ] (device : Device)

@[simp] theorem run_readRegister (address : UInt8) :
    run device (readRegister address) = (device.readRegister address : Conversation σ UInt8) := by
  simp [readRegister, run, Access.perform]

@[simp] theorem run_writeRegister (address value : UInt8) :
    run device (writeRegister address value) =
      (device.writeRegister address value : Conversation σ Unit) := by
  simp [writeRegister, run, Access.perform]

@[simp] theorem run_updateRegister (address mask value : UInt8) :
    run device (updateRegister address mask value) =
      (device.updateRegister address mask value : Conversation σ Unit) := by
  simp only [updateRegister, run, Access.perform, run_writeRegister]
  rfl

@[simp] theorem run_readFaults :
    run device readFaults = (device.readFaults : Conversation σ LatchedFaults) := by
  simp only [readFaults, run_bind, run_readRegister, run_pure]
  rfl

@[simp] theorem run_report (level : Log.Level) (target : Log.Target) (message : String) :
    run device (report level target message) =
      (Conversation.report level target message : Conversation σ Unit) := by
  simp [report, run]

/-- A script for a channel starts with the check that there is such a channel. -/
theorem run_onChannel {channel : UInt8} {script : Script α} {conversation : Conversation σ α}
    (h : channel < channelCount → run device script = conversation) :
    run device (onChannel channel script) =
      (do Device.checkChannel channel; conversation : Conversation σ α) := by
  by_cases hchannel : channel < channelCount
  · have hnot : ¬ channel ≥ channelCount := UInt8.not_le.mpr hchannel
    simp [onChannel, Device.checkChannel, hchannel, hnot, h hchannel]
  · have hge : channel ≥ channelCount := UInt8.not_lt.mp hchannel
    simp only [onChannel, Device.checkChannel, if_neg hchannel, if_pos hge]
    rfl

@[simp] theorem run_level (channel : UInt8) :
    run device (level channel) = (device.level channel : Conversation σ Bool) := by
  refine run_onChannel device fun h ↦ ?_
  simp only [run_bind, run_readRegister, run_pure, extract_level h, exact_ok, pure_bind]
  congr 1
  funext value
  cases bit value channel.toNat <;> rfl

@[simp] theorem run_setLevel (channel : UInt8) (high : Bool) :
    run device (setLevel channel high) = (device.setLevel channel high : Conversation σ Unit) := by
  refine run_onChannel device fun h ↦ ?_
  rw [run_updateRegister, latchMask_eq h, exact_ok, pure_bind]

@[simp] theorem run_setFunction (channel : UInt8) (function : Function) :
    run device (setFunction channel function) =
      (device.setFunction channel function : Conversation σ Unit) := by
  refine run_onChannel device fun h ↦ ?_
  simp only [modeMask_eq h, directionMask_eq h, insert_direction h, exact_ok, pure_bind, run_bind,
    run_report, setDirection, run_updateRegister, setMode]
  cases function <;>
    simp only [Function.mode?, insert_mode h, exact_ok, pure_bind, run_updateRegister, run_pure]

@[simp] theorem run_function (channel : UInt8) :
    run device (function channel) = (device.function channel : Conversation σ Function) := by
  refine run_onChannel device fun h ↦ ?_
  simp only [run_bind, run_readRegister, extract_direction h, extract_mode h, exact_ok, pure_bind,
    ofBits_mode_and]
  congr 1
  funext setOut
  cases bit setOut (channel.toNat + 4) with
  | false => rfl
  | true =>
    simp only [if_true, run_bind, run_readRegister, run_pure]
    change _ = (device.readRegister Name.configOutput.address >>= _)
    congr 1
    funext modes
    cases OutputMode.ofBits (modes >>> (2 * channel)) <;> rfl

@[simp] theorem run_setLimit (channel : UInt8) (limit : CurrentLimit) :
    run device (setLimit channel limit) =
      (device.setLimit channel limit : Conversation σ Unit) := by
  refine run_onChannel device fun h ↦ ?_
  simp only [run_updateRegister, limitMask_eq h, insert_limit h, exact_ok, pure_bind]

@[simp] theorem run_limit (channel : UInt8) :
    run device (limit channel) = (device.limit channel : Conversation σ CurrentLimit) := by
  refine run_onChannel device fun h ↦ ?_
  simp only [run_bind, run_readRegister, run_pure, extract_limit h, exact_ok, pure_bind,
    ofBits_limit_and]

@[simp] theorem run_setUpChannel (channel : UInt8) (function : Function) (limit : CurrentLimit) :
    run device (setUpChannel channel function limit) =
      (device.setUpChannel channel function limit : Conversation σ Unit) := by
  simp only [setUpChannel, run_bind, run_setLimit, run_setFunction, run_report]
  rfl

@[simp] theorem run_setUp (setup : ChannelSetup) :
    run device (setUp setup) = (device.setUp setup : Conversation σ Unit) := by
  simp only [setUp, run_bind, run_setUpChannel]
  rfl

@[simp] theorem run_snapshot :
    run device snapshot = (device.snapshot : Conversation σ Snapshot) := by
  simp only [snapshot, run_bind, run_level, run_readFaults, run_pure]
  rfl

/-- Carrying an operation out is running its script. -/
theorem run_ofOperation (operation : Device.Operation) :
    run device (ofOperation operation) =
      (device.perform operation : Conversation σ Device.Outcome) := by
  cases operation <;>
    simp only [ofOperation, Device.perform, run_bind, run_pure, run_writeRegister,
      run_readRegister, run_updateRegister, run_readFaults, run_level, run_setLevel,
      run_function, run_setFunction, run_limit, run_setLimit, run_setUp, run_snapshot]

end Run

end QuadPort.Script
