import QuadPort.Board.Line
import QuadPort.Board.Spi

/-!
# A chip wired to a board

The link of a descriptor on a board: the board, a bus handle and possibly a line handle.
-/

namespace QuadPort

/-- A board with the handles that a descriptor holds on it. -/
structure Wiring where
  board : Board
  bus : SpiBus
  line : Option PinLine

namespace Wiring

def setLine (level : LineLevel) (wiring : Wiring) : Answer Wiring (Except Fault Unit) :=
  match wiring.line with
  | some line =>
    let answer := line.set level wiring.board
    { answer with state := { wiring with board := answer.state } }
  | none => { value := .ok (), log := [], state := wiring }

def releaseLine (wiring : Wiring) : Wiring :=
  match wiring.line with
  | some line =>
    let (line, board) := line.release wiring.board
    { wiring with board, line := some line }
  | none => wiring

end Wiring

instance : Link Wiring where
  transfer buffer _ wiring :=
    let answer := wiring.bus.transfer buffer wiring.board
    { answer with state := { wiring with board := answer.state } }
  length_transfer buffer _ wiring := wiring.bus.length_transfer buffer wiring.board
  releaseBus wiring :=
    let answer := wiring.bus.release
    { answer with state := { wiring with bus := answer.state } }
  setLine := Wiring.setLine
  releaseLine wiring := { value := .ok (), log := [], state := wiring.releaseLine }

end QuadPort
