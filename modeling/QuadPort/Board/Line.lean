import QuadPort.Board.Kernel

/-!
# The enable line on a pin of a board

A line claims one pin, which becomes an input. Driving a level writes the pin's output
latch before the pin becomes an output, so the pin never shows the wrong level; floating
makes it an input again. Giving the line back frees the pin and leaves its function and
latch as they are.

The pin controller is opened with the first line and stays open while any line is held.
-/

namespace QuadPort

/-- A handle on a pin used as an enable line. -/
structure PinLine where
  pin : UInt8
  held : Bool
  deriving DecidableEq, Repr

namespace PinLine

def label (line : PinLine) : String :=
  "RaspberryPiEnableLine \x7b gpio: " ++ toString line.pin.toNat ++ ", .. \x7d"

/-- Maps the pins' registers. When the pins' own device cannot be opened, the memory device
is tried, which never works here; the text tells which of the two was denied. -/
def mapRegisters : Kernel String Unit := do
  match ← (Kernel.openFile .pinMemory).run with
  | .ok () => return ()
  | .error pinCode =>
    let board ← get
    let code := (board.failure? .memory).getD SystemError.noEntry
    set (board.record (.opened CallSite.memory.name (some code)))
    throw
      (if code ≠ SystemError.accessDenied then Kernel.failureText pinCode
      else if pinCode = SystemError.accessDenied then "Permission denied: /dev/gpiomem"
      else "Permission denied: /dev/mem")

/-- Opens the pin controller unless a held line keeps it open; its number of pins. -/
def openController : Kernel String Nat := do
  let board ← get
  match board.pinCount with
  | none => throw "Unknown Raspberry Pi model"
  | some count =>
    if board.taken.isEmpty then
      mapRegisters
      (Kernel.openFile .pinChip).adapt fun code ↦
        if code = SystemError.accessDenied then "Permission denied: /dev/gpiochip0"
        else Kernel.failureText code
      Kernel.readChipInfo.adapt Kernel.failureText
    return count

def claim (count : Nat) (pin : UInt8) : Kernel String Unit := do
  let board ← get
  if pin.toNat ≥ count then
    throw s!"Pin {pin} is not available"
  if board.taken.contains pin then
    throw s!"Pin {pin} is already in use"
  set (board.take pin)

/-- Claims a pin as an enable line; the pin becomes an input. -/
def openLine (pin : UInt8) : Kernel Fault PinLine := do
  let count ← openController.adapt fun text ↦ .gpio s!"Failed to open GPIO controller: {text}"
  (claim count pin).adapt fun text ↦ .gpio s!"Failed to claim GPIO {pin}: {text}"
  modify fun board ↦ board.setFunction pin 0
  return ⟨pin, true⟩

def set (line : PinLine) (level : LineLevel) (board : Board) :
    Answer Board (Except Fault Unit) :=
  if line.held then
    { value := .ok ()
      log := [⟨.debug, .board, s!"Enable line GPIO {line.pin} -> {level.label}"⟩]
      state :=
        match level with
        | .high => (board.drive line.pin true).setFunction line.pin 1
        | .low => (board.drive line.pin false).setFunction line.pin 1
        | .highZ => board.setFunction line.pin 0 }
  else
    { value := .error (.gpio s!"GPIO {line.pin} already released"), log := [], state := board }

def release (line : PinLine) (board : Board) : PinLine × Board :=
  if line.held then ({ line with held := false }, board.giveBack line.pin) else (line, board)

end PinLine

end QuadPort
