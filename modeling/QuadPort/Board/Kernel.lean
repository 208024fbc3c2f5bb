import QuadPort.Simulator
import QuadPort.SystemError

/-!
# A board and its kernel

The board is a small computer with the simulated chip behind its SPI device nodes and a
bank of general-purpose pins. Programs reach both through kernel calls, which are recorded
in order; writes to the pins' registers go through memory and are not calls. Any call can
be made to fail with an error code until it is healed.
-/

namespace QuadPort

/-- An SPI device node: a controller and one of its chip select lines. -/
structure SpiNode where
  bus : UInt8
  select : UInt8
  deriving DecidableEq, Repr

def SpiNode.name (node : SpiNode) : String :=
  s!"spidev{node.bus}.{node.select}"

inductive SpiSetting
  | mode
  | wordSize
  | clock
  | bitOrder
  deriving DecidableEq, Repr

def SpiSetting.name : SpiSetting → String
  | .mode => "mode32"
  | .wordSize => "bits_per_word"
  | .clock => "max_speed_hz"
  | .bitOrder => "lsb_first"

def SpiSetting.unsupported (value : Nat) : SpiSetting → String
  | .mode => s!"Mode value not supported: Mode{value}"
  | .wordSize => s!"Bits per word value not supported: {value}"
  | .clock => s!"Clock speed value not supported: {value}"
  | .bitOrder =>
    "Bit order value not supported: " ++ if value = 0 then "MsbFirst" else "LsbFirst"

/-- A place where a kernel call can be made to fail. -/
inductive CallSite
  | node (spi : SpiNode)
  | pinMemory
  | memory
  | pinChip
  | setting (changed : SpiSetting)
  | message
  | chipInfo
  deriving DecidableEq, Repr

def CallSite.name : CallSite → String
  | .node spi => spi.name
  | .pinMemory => "gpiomem"
  | .memory => "mem"
  | .pinChip => "gpiochip0"
  | .setting changed => changed.name
  | .message => "message"
  | .chipInfo => "chipinfo"

/-- A kernel call with its outcome; a code stands for a failure. -/
inductive KernelCall
  | opened (path : String) (code : Option Nat)
  | configured (node : SpiNode) (setting : SpiSetting) (value : Nat)
  | failed (path : String) (site : CallSite) (code : Nat)
  | exchanged (node : SpiNode) (sent received : List UInt8)
  | refused (node : SpiNode) (sent : List UInt8) (code : Nat)
  deriving DecidableEq, Repr

def KernelCall.text : KernelCall → String
  | .opened path none => s!"open {path}"
  | .opened path (some code) => s!"open {path} !{code}"
  | .configured node setting value => s!"{node.name} {setting.name}={value}"
  | .failed path site code => s!"{path} {site.name} !{code}"
  | .exchanged node sent received =>
    s!"{node.name} message {Text.Hex.ofBytes sent} -> {Text.Hex.ofBytes received}"
  | .refused node sent code => s!"{node.name} message {Text.Hex.ofBytes sent} !{code}"

/-- A board: the chip, its nodes, its pins and what happened on them. -/
structure Board where
  chip : Simulator
  nodes : List SpiNode
  /-- The number of pins, unknown on an unknown model. -/
  pinCount : Option Nat
  /-- The function code of each pin; zero is an input, one an output. -/
  functions : UInt8 → UInt8
  /-- The levels written to the output latches, in order. -/
  driven : List (UInt8 × Bool)
  /-- The pins that are held by an open line. -/
  taken : List UInt8
  failing : List (CallSite × Nat)
  calls : List KernelCall

namespace Board

/-- How many pins the model with the given revision code has. -/
def pinCount? (revision : String) : Option Nat :=
  if revision = "a02082" then some 54
  else if revision = "c03111" then some 58
  else none

def failure? (board : Board) (site : CallSite) : Option Nat :=
  board.failing.lookup site

def heal (board : Board) (site : CallSite) : Board :=
  { board with failing := board.failing.filter fun (failing, _) ↦ failing ≠ site }

def fail (board : Board) (site : CallSite) (code : Nat) : Board :=
  { board.heal site with failing := (site, code) :: (board.heal site).failing }

def record (board : Board) (call : KernelCall) : Board :=
  { board with calls := board.calls ++ [call] }

def setFunction (board : Board) (pin code : UInt8) : Board :=
  { board with functions := fun other ↦ if other = pin then code else board.functions other }

def drive (board : Board) (pin : UInt8) (high : Bool) : Board :=
  { board with driven := board.driven ++ [(pin, high)] }

def take (board : Board) (pin : UInt8) : Board :=
  { board with taken := pin :: board.taken }

def giveBack (board : Board) (pin : UInt8) : Board :=
  { board with taken := board.taken.erase pin }

/-- Clocks one message through an open node. The chip's reply comes back; what the chip
refuses is a failed transfer. -/
def exchange (board : Board) (node : SpiNode) (sent : List UInt8) :
    Except Nat (List UInt8) × Board :=
  match board.failure? .message with
  | some code => (.error code, board.record (.failed node.name .message code))
  | none =>
    let answer := board.chip.transfer sent
    let after := { board with chip := answer.state }
    match answer.value.result with
    | .ok () => (.ok answer.value.buffer, after.record (.exchanged node sent answer.value.buffer))
    | .error _ =>
      (.error SystemError.inputOutput, after.record (.refused node sent SystemError.inputOutput))

theorem length_exchange {board state : Board} {node : SpiNode} {sent received : List UInt8}
    (h : board.exchange node sent = (.ok received, state)) : received.length = sent.length := by
  unfold exchange at h
  split at h
  · cases h
  · dsimp only at h
    split at h
    · cases h
      exact board.chip.length_transfer sent
    · cases h

end Board

/-- Programs over a board that may stop with a value of `ε`. -/
abbrev Kernel (ε : Type) := ExceptT ε (StateM Board)

namespace Kernel

/-- The text of a failed call that has no text of its own. -/
def failureText (code : Nat) : String :=
  "I/O error: " ++ SystemError.message code

/-- Opens a file; the outcome is recorded. -/
def openFile (site : CallSite) : Kernel Nat Unit := do
  let board ← get
  set (board.record (.opened site.name (board.failure? site)))
  match board.failure? site with
  | some code => throw code
  | none => return ()

/-- Opens a device node, which has to exist. -/
def openNode (node : SpiNode) : Kernel Nat Unit := do
  let board ← get
  let code :=
    match board.failure? (.node node) with
    | some code => some code
    | none => if board.nodes.contains node then none else some SystemError.noEntry
  set (board.record (.opened node.name code))
  match code with
  | some code => throw code
  | none => return ()

def configure (node : SpiNode) (setting : SpiSetting) (value : Nat) : Kernel String Unit := do
  let board ← get
  match board.failure? (.setting setting) with
  | some code =>
    set (board.record (.failed node.name (.setting setting) code))
    throw (if code = SystemError.invalidArgument then setting.unsupported value
      else failureText code)
  | none => set (board.record (.configured node setting value))

def readChipInfo : Kernel Nat Unit := do
  let board ← get
  match board.failure? .chipInfo with
  | some code =>
    set (board.record (.failed CallSite.pinChip.name .chipInfo code))
    throw code
  | none => return ()

end Kernel

end QuadPort
