import QuadPort.Link

/-!
# The simulated chip

A register file behind the frame format. The simulator counts the transfers clocked
through it, keeps a log of the register writes it accepted and drops requests whose
checksum is wrong. Faults can be planted: a transfer that fails, a response whose checksum
is corrupted, a register that changes.

The level register is computed when it is read: a channel that drives its output shows its
latch, the others show the voltage applied to the field side.
-/

namespace QuadPort

structure Simulator where
  registers : Vector UInt8 32
  inputs : UInt8
  checked : Bool
  chip : UInt8
  writes : List (UInt8 × UInt8)
  transfers : Nat
  checksumErrors : Nat
  failure : Option String
  corruption : Bool
  released : Bool
  deriving DecidableEq, Repr

namespace Simulator

def fresh (checked : Bool) (chip : UInt8) : Simulator where
  registers := Vector.replicate 32 0
  inputs := 0
  checked := checked
  chip := chip
  writes := []
  transfers := 0
  checksumErrors := 0
  failure := none
  corruption := false
  released := false

/-! ## Registers -/

/-- The cell of an address; addresses beyond the register file wrap around. -/
def cell (address : UInt8) : Fin 32 :=
  ⟨address.toNat % 32, Nat.mod_lt _ (by decide)⟩

def stored (simulator : Simulator) (address : UInt8) : UInt8 :=
  simulator.registers.get (cell address)

def setRegister (simulator : Simulator) (address value : UInt8) : Simulator :=
  { simulator with registers := simulator.registers.set (cell address) value }

/-- Whether a channel is high: its latch for an output, its field side for an input. -/
def isHigh (simulator : Simulator) (channel : UInt8) : Bool :=
  let setOut := simulator.stored Register.Name.setOut.address
  if (setOut >>> (channel + 4)) &&& 1 == 0 then (setOut >>> channel) &&& 1 == 1
  else (simulator.inputs >>> channel) &&& 1 == 1

/-- The computed level register: one bit for each channel. -/
def levels (simulator : Simulator) : UInt8 :=
  Register.channels.foldl
    (fun bits channel ↦ if simulator.isHigh channel then bits ||| (1 <<< channel) else bits) 0

/-- The content of a register as a look from outside shows it, without side effect. -/
def register (simulator : Simulator) (address : UInt8) : UInt8 :=
  if address = Register.Name.level.address then simulator.levels else simulator.stored address

def setInput (simulator : Simulator) (channel : UInt8) (high : Bool) :
    Except Register.Overflow Simulator := do
  let bit ← Register.shiftLeft 1 channel
  return { simulator with
    inputs := if high then simulator.inputs ||| bit else simulator.inputs &&& ~~~bit }

/-- The chip's side of a register read: fault registers are cleared by it. -/
def read (simulator : Simulator) (address : UInt8) : UInt8 × Simulator :=
  if address = Register.Name.level.address then (simulator.levels, simulator)
  else if Register.isLatched address then
    (simulator.stored address, simulator.setRegister address 0)
  else (simulator.stored address, simulator)

/-- The chip's side of a register write, which enters the write log. -/
def write (simulator : Simulator) (address value : UInt8) : Simulator :=
  { simulator.setRegister address value with
    writes := simulator.writes ++ [(address, value)] }

/-! ## Transfers -/

/-- What the chip does on a request that is addressed to it: the data byte of its
response, log records and the next state. -/
def serve (simulator : Simulator) (command data : UInt8) (intact : Bool) :
    Answer Simulator UInt8 :=
  if !intact then
    { value := 0
      log := [⟨.warn, .simulator,
        s!"Simulated MAX14906 dropped frame {Text.Hex.ofByte command} with bad CRC"⟩]
      state := { simulator with checksumErrors := simulator.checksumErrors + 1 } }
  else
    let address := Frame.addressOf command
    if Frame.isWrite command then
      { value := data
        log := [⟨.debug, .simulator,
          s!"Simulated MAX14906 write reg {Text.Hex.ofByte address} = {Text.Hex.ofByte data}"⟩]
        state := simulator.write address data }
    else
      let (value, state) := simulator.read address
      { value, log := [], state }

/-- The answer of a bus that refuses a transfer and leaves the buffer alone. -/
def refuse (simulator : Simulator) (buffer : List UInt8) (message : String) :
    Answer Simulator Reply :=
  { value := ⟨buffer, .error (.spi message)⟩, log := [], state := simulator }

/-- Clocks a buffer through the chip. A planted failure comes first, then a released bus,
a wrong length and a foreign chip address; nobody drives the response to a foreign
address, so it is all zeros. -/
def transfer (simulator : Simulator) (buffer : List UInt8) : Answer Simulator Reply :=
  let counted := { simulator with transfers := simulator.transfers + 1 }
  match simulator.failure with
  | some message => { counted with failure := none }.refuse buffer message
  | none =>
    if simulator.released then counted.refuse buffer "bus already released"
    else
      match simulator.checked, buffer with
      | false, [command, data] =>
        if Frame.chipOf command ≠ simulator.chip then
          { value := ⟨[0, 0], .ok ()⟩, log := [], state := counted }
        else
          let served := counted.serve command data true
          { value := ⟨[0, served.value], .ok ()⟩, log := served.log, state := served.state }
      | true, [command, data, check] =>
        if Frame.chipOf command ≠ simulator.chip then
          { value := ⟨[0, 0, 0], .ok ()⟩, log := [], state := counted }
        else
          let served := counted.serve command data (Checksum.ofRequest command data == check)
          let sum := Checksum.ofResponse 0 served.value
          { value := ⟨[0, served.value, if simulator.corruption then sum ^^^ 1 else sum], .ok ()⟩
            log := served.log
            state := { served.state with corruption := false } }
      | _, _ =>
        counted.refuse buffer
          s!"unexpected frame length {buffer.length} (expected {Frame.length simulator.checked})"

theorem length_transfer (simulator : Simulator) (buffer : List UInt8) :
    (simulator.transfer buffer).value.buffer.length = buffer.length := by
  unfold transfer
  repeat' split
  all_goals simp_all [refuse]

end Simulator

/-! ## The simulated enable line -/

/-- An enable line that remembers every level driven on it. -/
structure SimulatedLine where
  history : List LineLevel
  released : Bool
  deriving DecidableEq, Repr

namespace SimulatedLine

def fresh : SimulatedLine := ⟨[], false⟩

def level? (line : SimulatedLine) : Option LineLevel :=
  line.history.getLast?

/-- Drives the line, which fails once it was given back. -/
def set (line : SimulatedLine) (level : LineLevel) : Except Fault Unit × SimulatedLine :=
  if line.released then (.error (.gpio "enable line already released"), line)
  else (.ok (), { line with history := line.history ++ [level] })

def release (line : SimulatedLine) : SimulatedLine :=
  { line with released := true }

end SimulatedLine

/-! ## Both together -/

structure Simulation where
  chip : Simulator
  line : SimulatedLine
  deriving DecidableEq, Repr

def Simulation.fresh (checked : Bool) (chip : UInt8) : Simulation :=
  ⟨.fresh checked chip, .fresh⟩

instance : Link Simulation where
  transfer buffer _ simulation :=
    let answer := simulation.chip.transfer buffer
    { answer with state := { simulation with chip := answer.state } }
  length_transfer buffer _ simulation := simulation.chip.length_transfer buffer
  releaseBus simulation :=
    { value := .ok ()
      log := []
      state := { simulation with chip := { simulation.chip with released := true } } }
  setLine level simulation :=
    let (value, line) := simulation.line.set level
    { value, log := [], state := { simulation with line } }
  releaseLine simulation :=
    { value := .ok (), log := [], state := { simulation with line := simulation.line.release } }

end QuadPort
