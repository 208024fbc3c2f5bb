import QuadPort.Proofs.Simulator.RegisterFile

/-!
# The chip as a panel of channels

A panel shows what the registers mean: for each channel its output latch, its direction,
its output mode, its current limit and the voltage at its pin, and beside the channels the
four fault bytes. The channels share three registers, but changing one of them leaves the
others alone: each update of a shared register is an update of one channel of the panel.
-/

namespace QuadPort

open Register Channel

/-- What the registers and the field side say about one channel. -/
@[ext]
structure ChannelState where
  latch : Bool
  isInput : Bool
  mode : OutputMode
  limit : CurrentLimit
  pin : Bool
  deriving DecidableEq, Repr

namespace ChannelState

/-- The level of a channel: the voltage at the pin of an input, the latch of an output. -/
def level (state : ChannelState) : Bool :=
  if state.isInput then state.pin else state.latch

def function (state : ChannelState) : Function :=
  if state.isInput then if state.mode = .pushPull then .highZ else .input else .output

/-- The channel after it was given a function; an output keeps its mode. -/
def withFunction (state : ChannelState) : Function → ChannelState
  | .output => { state with isInput := false }
  | .input => { state with isInput := true, mode := .highSide }
  | .highZ => { state with isInput := true, mode := .pushPull }

end ChannelState

@[ext]
structure Panel where
  channels : Vector ChannelState 4
  faults : LatchedFaults
  deriving DecidableEq, Repr

namespace Panel

def channel (panel : Panel) (channel : Fin 4) : ChannelState :=
  panel.channels.get channel

def update (panel : Panel) (channel : Fin 4) (change : ChannelState → ChannelState) : Panel :=
  { panel with
    channels := panel.channels.set channel (change (panel.channel channel)) channel.isLt }

def clear (panel : Panel) : Panel :=
  { panel with faults := ⟨0, 0, 0, 0⟩ }

def byte (channel : Fin 4) : UInt8 :=
  UInt8.ofNat channel

@[simp]
theorem toNat_byte (channel : Fin 4) : (byte channel).toNat = channel := by
  revert channel
  decide

theorem byte_lt (channel : Fin 4) : byte channel < channelCount := by
  revert channel
  decide

theorem getElem_update (panel : Panel) (channel : Fin 4) (change : ChannelState → ChannelState)
    {index : Nat} (h : index < 4) :
    (panel.update channel change).channels[index] =
      if (channel : Nat) = index then change panel.channels[index] else panel.channels[index] := by
  rw [update, Vector.getElem_set]
  split
  · rename_i hequal
    subst hequal
    rfl
  · rfl

theorem channel_update (panel : Panel) (channel : Fin 4) (change : ChannelState → ChannelState) :
    (panel.update channel change).channel channel = change (panel.channel channel) :=
  (getElem_update panel channel change channel.isLt).trans (if_pos rfl)

/-- Two changes of one channel are one change. -/
theorem update_update (panel : Panel) (channel : Fin 4)
    (first second : ChannelState → ChannelState) :
    (panel.update channel first).update channel second = panel.update channel (second ∘ first) := by
  rw [update, channel_update]
  simp [update]

end Panel

inductive FaultRegister
  | overload
  | openWire
  | shortToSupply
  | globalFault
  deriving DecidableEq, Repr

def FaultRegister.name : FaultRegister → Name
  | .overload => .overload
  | .openWire => .openWire
  | .shortToSupply => .shortToSupply
  | .globalFault => .globalFault

def LatchedFaults.get (faults : LatchedFaults) : FaultRegister → UInt8
  | .overload => faults.overload
  | .openWire => faults.openWire
  | .shortToSupply => faults.shortToSupply
  | .globalFault => faults.globalFault

def LatchedFaults.set (faults : LatchedFaults) (register : FaultRegister) (value : UInt8) :
    LatchedFaults :=
  match register with
  | .overload => { faults with overload := value }
  | .openWire => { faults with openWire := value }
  | .shortToSupply => { faults with shortToSupply := value }
  | .globalFault => { faults with globalFault := value }

namespace RegisterFile

/-! ## The panel of a register file -/

def channel (file : RegisterFile) (channel : Fin 4) : ChannelState where
  latch := bit (file.get Name.setOut.address) channel
  isInput := bit (file.get Name.setOut.address) (channel + 4)
  mode := .ofBits (file.get Name.configOutput.address >>> (2 * Panel.byte channel))
  limit := .ofBits (file.get Name.configLimit.address >>> (2 * Panel.byte channel))
  pin := bit file.inputs channel

def faults (file : RegisterFile) : LatchedFaults where
  overload := file.get Name.overload.address
  openWire := file.get Name.openWire.address
  shortToSupply := file.get Name.shortToSupply.address
  globalFault := file.get Name.globalFault.address

/-- What a register file means. -/
def panel (file : RegisterFile) : Panel where
  channels := Vector.ofFn file.channel
  faults := file.faults

@[simp]
theorem channel_panel (file : RegisterFile) (channel : Fin 4) :
    file.panel.channel channel = file.channel channel :=
  Vector.getElem_ofFn channel.isLt

/-- A change of one channel of the panel is one of that channel in the registers. -/
theorem channel_of_panel {before after : RegisterFile} {channel : Fin 4}
    {change : ChannelState → ChannelState} (h : after.panel = before.panel.update channel change)
    (other : Fin 4) :
    after.channel other =
      if channel = other then change (before.channel other) else before.channel other := by
  have hother := congrArg (Panel.channel · other) h
  simp only [channel_panel] at hother
  rw [hother, ← channel_panel before other]
  simp only [Fin.ext_iff]
  exact Panel.getElem_update before.panel channel change other.isLt

/-- A change of one channel shows in the panel as a change of that channel. -/
theorem panel_update {before after : RegisterFile} {channel : Fin 4}
    {change : ChannelState → ChannelState}
    (hsame : after.channel channel = change (before.channel channel))
    (hother : ∀ other ≠ channel, after.channel other = before.channel other)
    (hfaults : after.faults = before.faults) :
    after.panel = before.panel.update channel change := by
  have hchannels : Vector.ofFn after.channel =
      (Vector.ofFn before.channel).set channel (change (before.channel channel)) := by
    apply Vector.ext
    intro index hindex
    rw [Vector.getElem_ofFn, Vector.getElem_set, Vector.getElem_ofFn]
    split
    · rename_i hequal
      subst hequal
      exact hsame
    · rename_i hne
      exact hother ⟨index, hindex⟩ fun hequal ↦ hne (congrArg Fin.val hequal.symm)
  simp only [panel, Panel.update, hchannels, hfaults]
  congr 2
  exact congrArg change (Vector.getElem_ofFn channel.isLt).symm

/-! ## Changes of the shared registers -/

section Change

variable (file : RegisterFile) (channel : Fin 4)

theorem channel_setOut (value : UInt8) :
    (file.set Name.setOut.address value).channel channel =
      { file.channel channel with
        latch := bit value channel, isInput := bit value (channel + 4) } := by
  simp [RegisterFile.channel, get_set, Name.address]

theorem channel_configOutput (value : UInt8) :
    (file.set Name.configOutput.address value).channel channel =
      { file.channel channel with mode := .ofBits (value >>> (2 * Panel.byte channel)) } := by
  simp [RegisterFile.channel, get_set, Name.address]

theorem channel_configLimit (value : UInt8) :
    (file.set Name.configLimit.address value).channel channel =
      { file.channel channel with limit := .ofBits (value >>> (2 * Panel.byte channel)) } := by
  simp [RegisterFile.channel, get_set, Name.address]

/-- An update of the output register shows in one channel if it shows in the bits of that
channel only. -/
theorem panel_setOut {value : UInt8} {change : ChannelState → ChannelState}
    (hsame : change (file.channel channel) =
      { file.channel channel with latch := bit value channel, isInput := bit value (channel + 4) })
    (hother : ∀ other ≠ channel, bit value other = bit (file.get Name.setOut.address) other ∧
      bit value (other + 4) = bit (file.get Name.setOut.address) (other + 4)) :
    (file.set Name.setOut.address value).panel = file.panel.update channel change := by
  refine panel_update ?_ ?_ ?_
  · rw [channel_setOut, hsame]
  · intro other hne
    rw [channel_setOut, (hother other hne).1, (hother other hne).2]
    rfl
  · simp [faults, get_set, Name.address]

theorem panel_setLatch (high : Bool) :
    (file.set Name.setOut.address (replace (1 <<< Panel.byte channel)
      (file.get Name.setOut.address) (if high then 1 <<< Panel.byte channel else 0))).panel =
      file.panel.update channel fun state ↦ { state with latch := high } := by
  have hunit := bit_unit (lt_eight (Panel.byte_lt channel))
  simp only [Panel.toNat_byte] at hunit
  have hvalue : bit (if high then 1 <<< Panel.byte channel else 0) channel = high := by
    cases high <;> simp [hunit]
  apply panel_setOut
  · simp [hunit, hvalue, RegisterFile.channel]
  · intro other hne
    have hval : (other : Nat) ≠ channel := fun hequal ↦ hne (Fin.ext hequal)
    have hoff : (other : Nat) + 4 ≠ channel := by omega
    simp [hunit, hval, hoff]

theorem panel_setDirection (function : Function) :
    (file.set Name.setOut.address (replace (1 <<< (Panel.byte channel + 4))
      (file.get Name.setOut.address) (function.direction <<< (Panel.byte channel + 4)))).panel =
      file.panel.update channel fun state ↦ { state with isInput := function ≠ .output } := by
  have hlt := add_four_lt (Panel.byte_lt channel)
  have hunit := bit_unit hlt
  simp only [toNat_add_four (Panel.byte_lt channel), Panel.toNat_byte] at hunit
  have hvalue : bit (function.direction <<< (Panel.byte channel + 4)) (channel + 4) =
      decide (function ≠ .output) := by
    rw [bit_shiftLeft _ hlt, toNat_add_four (Panel.byte_lt channel), Panel.toNat_byte, Nat.sub_self]
    have hbound : (channel : Nat) + 4 < 8 := by omega
    cases function <;> simp [hbound] <;> decide
  apply panel_setOut
  · simp [hunit, hvalue, RegisterFile.channel]
  · intro other hne
    have hval : (other : Nat) ≠ channel := fun hequal ↦ hne (Fin.ext hequal)
    have hoff : (other : Nat) ≠ channel + 4 := by omega
    simp [hunit, hval, hoff]

theorem panel_setMode (mode : OutputMode) :
    (file.set Name.configOutput.address (replace (0b11 <<< (2 * Panel.byte channel))
      (file.get Name.configOutput.address) (mode.bits <<< (2 * Panel.byte channel)))).panel =
      file.panel.update channel fun state ↦ { state with mode } := by
  have hmode : OutputMode.ofBits (replace (0b11 <<< (2 * Panel.byte channel))
      (file.get Name.configOutput.address) (mode.bits <<< (2 * Panel.byte channel)) >>>
        (2 * Panel.byte channel)) = mode := by
    rw [← ofBits_mode_and, replace_pair (Panel.byte_lt channel), ofBits_mode_and,
      OutputMode.ofBits_bits]
  refine panel_update ?_ ?_ ?_
  · rw [channel_configOutput, hmode]
  · intro other hne
    have hval : (Panel.byte other).toNat ≠ (Panel.byte channel).toNat := by
      simpa using fun hequal ↦ hne (Fin.ext hequal)
    rw [channel_configOutput, ← ofBits_mode_and,
      replace_pair_of_ne (Panel.byte_lt channel) (Panel.byte_lt other) hval, ofBits_mode_and]
    rfl
  · simp [faults, get_set, Name.address]

theorem panel_setLimit (limit : CurrentLimit) :
    (file.set Name.configLimit.address (replace (0b11 <<< (2 * Panel.byte channel))
      (file.get Name.configLimit.address) (limit.bits <<< (2 * Panel.byte channel)))).panel =
      file.panel.update channel fun state ↦ { state with limit } := by
  have hlimit : CurrentLimit.ofBits (replace (0b11 <<< (2 * Panel.byte channel))
      (file.get Name.configLimit.address) (limit.bits <<< (2 * Panel.byte channel)) >>>
        (2 * Panel.byte channel)) = limit := by
    rw [← ofBits_limit_and, replace_pair (Panel.byte_lt channel), ofBits_limit_and,
      CurrentLimit.ofBits_bits]
  refine panel_update ?_ ?_ ?_
  · rw [channel_configLimit, hlimit]
  · intro other hne
    have hval : (Panel.byte other).toNat ≠ (Panel.byte channel).toNat := by
      simpa using fun hequal ↦ hne (Fin.ext hequal)
    rw [channel_configLimit, ← ofBits_limit_and,
      replace_pair_of_ne (Panel.byte_lt channel) (Panel.byte_lt other) hval, ofBits_limit_and]
    rfl
  · simp [faults, get_set, Name.address]

/-- A fault register is a fault byte of the panel and no part of a channel. -/
theorem panel_setFault (register : FaultRegister) (value : UInt8) :
    (file.set register.name.address value).panel =
      { file.panel with faults := file.panel.faults.set register value } := by
  have hchannels : (file.set register.name.address value).channel = file.channel := by
    funext channel
    cases register <;> simp [RegisterFile.channel, get_set, FaultRegister.name, Name.address]
  have hfaults : (file.set register.name.address value).faults =
      file.faults.set register value := by
    cases register <;> simp [faults, LatchedFaults.set, get_set, FaultRegister.name, Name.address]
  simp only [panel, hchannels, hfaults]

end Change

end RegisterFile

end QuadPort
