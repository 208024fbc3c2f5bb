import QuadPort.Frame
import QuadPort.Log

/-!
# The link between a descriptor and its chip

A link is a bus and an enable line over a state of their own. Every call may succeed with
any bytes or fail, depending on everything that happened before, since the state is
arbitrary; a bus never changes the length of the buffer it is given.

`Session` is what one run of the program accumulates: the link's state, the scratch
buffer, every call made on the link with its answer, and the log. `Conversation` is the
monad of operations over a session; a failing operation keeps what happened before the
failure.
-/

namespace QuadPort

/-- A level driven on the enable line; `highZ` leaves it floating. -/
inductive LineLevel
  | low
  | high
  | highZ
  deriving DecidableEq, Repr

def LineLevel.label : LineLevel → String
  | .low => "Low"
  | .high => "High"
  | .highZ => "HighZ"

/-- What a call on a link leaves behind: its value, log records and the next state. -/
structure Answer (σ α : Type) where
  value : α
  log : List Log.Record
  state : σ

/-- The answer to a transfer: the bytes now in the buffer and whether it succeeded. -/
structure Reply where
  buffer : List UInt8
  result : Except Fault Unit

/-- A bus and an enable line over the state `σ`. -/
class Link (σ : Type) where
  /-- Clocks the buffer out and replaces it by the bytes clocked in. -/
  transfer : List UInt8 → Bool → σ → Answer σ Reply
  /-- A transfer keeps the length of the buffer. -/
  length_transfer : ∀ (buffer : List UInt8) (deselect : Bool) (state : σ),
    (transfer buffer deselect state).value.buffer.length = buffer.length
  /-- Gives the bus back. -/
  releaseBus : σ → Answer σ (Except Fault Unit)
  /-- Drives the enable line. -/
  setLine : LineLevel → σ → Answer σ (Except Fault Unit)
  /-- Gives the enable line back. -/
  releaseLine : σ → Answer σ (Except Fault Unit)

inductive Call
  | transfer (sent : List UInt8) (deselect : Bool) (reply : Reply)
  | releaseBus (result : Except Fault Unit)
  | setLine (level : LineLevel) (result : Except Fault Unit)
  | releaseLine (result : Except Fault Unit)

/-- What one run of the program accumulates. -/
structure Session (σ : Type) where
  link : σ
  scratch : Frame.Scratch
  calls : List Call
  log : List Log.Record

def Session.start {σ : Type} (link : σ) : Session σ :=
  { link, scratch := .zero, calls := [], log := [] }

/-- Operations over a session. -/
abbrev Conversation (σ : Type) := ExceptT Error (StateM (Session σ))

namespace Conversation

variable {σ : Type}

def note (level : Log.Level) (target : Log.Target) (message : String) :
    StateM (Session σ) Unit :=
  modify fun session ↦ { session with log := session.log ++ [⟨level, target, message⟩] }

def report (level : Log.Level) (target : Log.Target) (message : String) :
    Conversation σ Unit :=
  (note level target message : StateM (Session σ) Unit)

def relay (action : StateM (Session σ) (Except Fault Unit)) : Conversation σ Unit := do
  match ← action with
  | .ok () => return ()
  | .error fault => throw (.transport fault)

/-- The value of byte arithmetic, or the error that it overflowed. -/
def exact {α : Type} (result : Except Register.Overflow α) : Conversation σ α :=
  match result with
  | .ok value => return value
  | .error overflow => throw (.arithmetic overflow)

variable [Link σ]

/-- Clocks the first `count` bytes of the scratch buffer, then deselects the chip. -/
def transfer (count : Nat) : StateM (Session σ) (Except Fault Unit) := do
  let session ← get
  let sent := session.scratch.bytes.take count
  let answer := Link.transfer sent true session.link
  set { session with
    link := answer.state
    scratch := session.scratch.receive answer.value.buffer
    calls := session.calls ++ [Call.transfer sent true answer.value]
    log := session.log ++ answer.log }
  return answer.value.result

def releaseBus : StateM (Session σ) (Except Fault Unit) := do
  let session ← get
  let answer := Link.releaseBus session.link
  set { session with
    link := answer.state
    calls := session.calls ++ [Call.releaseBus answer.value]
    log := session.log ++ answer.log }
  return answer.value

def setLine (level : LineLevel) : StateM (Session σ) (Except Fault Unit) := do
  let session ← get
  let answer := Link.setLine level session.link
  set { session with
    link := answer.state
    calls := session.calls ++ [Call.setLine level answer.value]
    log := session.log ++ answer.log }
  return answer.value

def releaseLine : StateM (Session σ) (Except Fault Unit) := do
  let session ← get
  let answer := Link.releaseLine session.link
  set { session with
    link := answer.state
    calls := session.calls ++ [Call.releaseLine answer.value]
    log := session.log ++ answer.log }
  return answer.value

end Conversation

end QuadPort
