import QuadPort.Board.Kernel

/-!
# The SPI bus of a board

A bus handle names the node it was opened on and its clock rate. Opening configures the
node for mode zero, words of eight bits and the most significant bit first. The node
deselects the chip at the end of every transfer, so the request to do so needs no action.
A released handle refuses every transfer and can be released again without effect.
-/

namespace QuadPort

/-- A handle on an SPI bus. -/
structure SpiBus where
  node : SpiNode
  clock : Nat
  held : Bool
  deriving DecidableEq, Repr

namespace SpiBus

def description (bus : SpiBus) : String :=
  s!"SPI{bus.node.bus}.{bus.node.select} @ {bus.clock} Hz"

def label (bus : SpiBus) : String :=
  "RaspberryPiSpi \x7b bus_info: \"" ++ bus.description ++ "\", .. \x7d"

/-- The node for a controller and a chip select line, if the board can have it. -/
def nodeOf (bus select : UInt8) : Except Fault SpiNode :=
  if bus > 1 then .error (.spi s!"Invalid SPI bus {bus}, only 0 and 1 are supported")
  else if select > 2 then
    .error (.spi s!"Invalid chip select {select}, only 0-2 are supported")
  else .ok ⟨bus, select⟩

def openNode (node : SpiNode) (clock : Nat) : Kernel Fault SpiBus := do
  let opening (text : String) : Fault := .spi s!"Failed to open SPI{node.bus}: {text}"
  (Kernel.openNode node).adapt fun code ↦ opening (Kernel.failureText code)
  (Kernel.configure node .mode 0).adapt opening
  (Kernel.configure node .wordSize 8).adapt opening
  (Kernel.configure node .clock clock).adapt opening
  (Kernel.configure node .bitOrder 0).adapt fun text ↦ .spi s!"Failed to set bit order: {text}"
  return ⟨node, clock, true⟩

def openBus (bus select : UInt8) (clock : Nat) (board : Board) :
    Answer Board (Except Fault SpiBus) :=
  match nodeOf bus select with
  | .error fault => { value := .error fault, log := [], state := board }
  | .ok node =>
    let (value, state) := (openNode node clock).run board
    let log :=
      match value with
      | .ok handle => [⟨.info, .board, s!"Opened {handle.description}"⟩]
      | .error _ => []
    { value, log, state }

def transfer (bus : SpiBus) (buffer : List UInt8) (board : Board) : Answer Board Reply :=
  if bus.held then
    match board.exchange bus.node buffer with
    | (.ok received, state) => { value := ⟨received, .ok ()⟩, log := [], state }
    | (.error code, state) =>
      { value := ⟨buffer, .error (.spi
          s!"Transfer on {bus.description} failed: {Kernel.failureText code}")⟩
        log := []
        state }
  else { value := ⟨buffer, .error (.spi "bus already released")⟩, log := [], state := board }

theorem length_transfer (bus : SpiBus) (buffer : List UInt8) (board : Board) :
    (bus.transfer buffer board).value.buffer.length = buffer.length := by
  unfold transfer
  split
  · split
    · next received state h => exact Board.length_exchange h
    · rfl
  · rfl

def release (bus : SpiBus) : Answer SpiBus (Except Fault Unit) :=
  { value := .ok ()
    log := if bus.held then [⟨.debug, .board, s!"Released {bus.description}"⟩] else []
    state := { bus with held := false } }

end SpiBus

end QuadPort
