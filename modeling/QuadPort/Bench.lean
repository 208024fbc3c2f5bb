import QuadPort.Simulator

/-!
# The test bench

A bench is a link around the simulation that injects faults at chosen transfers. Transfers
through the bench are numbered from one. What is planned for a transfer happens in this
order: changes to the chip, then a failure or an echo in place of the chip, and after a
success a mask laid over the bytes clocked in. Of several failures or masks planned for
one transfer the last one counts.

Releasing the bus and driving or releasing the line can each be armed with one fault,
which takes the place of the call.
-/

namespace QuadPort

/-- Something that happens at one transfer. -/
inductive Disturbance
  | fail (fault : Fault)
  | echo
  | xor (mask : List UInt8)
  | setRegister (address value : UInt8)
  | setInput (channel : UInt8) (high : Bool)
  | corrupt
  deriving DecidableEq, Repr

/-- A simulation with faults to inject. -/
structure Bench where
  simulation : Simulation
  transfers : Nat
  plan : List (Nat × Disturbance)
  releaseFault : Option Fault
  setLineFault : Option Fault
  releaseLineFault : Option Fault
  deriving DecidableEq, Repr

namespace Bench

def ofSimulation (simulation : Simulation) : Bench :=
  ⟨simulation, 0, [], none, none, none⟩

/-- Plans a disturbance for the transfer that is `distance` transfers ahead. -/
def schedule (bench : Bench) (distance : Nat) (disturbance : Disturbance) : Bench :=
  { bench with plan := bench.plan ++ [(bench.transfers + distance, disturbance)] }

def planned (bench : Bench) (number : Nat) : List Disturbance :=
  bench.plan.filterMap fun (due, disturbance) ↦ if due = number then some disturbance else none

def prepare (chip : Simulator) : Disturbance → Simulator
  | .setRegister address value => chip.setRegister address value
  | .setInput channel high =>
    match chip.setInput channel high with
    | .ok changed => changed
    | .error _ => chip
  | .corrupt => { chip with corruption := true }
  | _ => chip

def failure? : Disturbance → Option Fault
  | .fail fault => some fault
  | _ => none

/-- The bytes with the mask laid over them as far as both reach. -/
def overlay : List UInt8 → List UInt8 → List UInt8
  | m :: mask, b :: buffer => (b ^^^ m) :: overlay mask buffer
  | _, buffer => buffer

@[simp] theorem length_overlay (mask buffer : List UInt8) :
    (overlay mask buffer).length = buffer.length := by
  fun_induction overlay mask buffer <;> simp_all

/-- The mask that a disturbance lays over the bytes clocked in. -/
def mask? : Disturbance → Option (List UInt8)
  | .xor mask => some mask
  | _ => none

/-- The answer of the chip, or of the fault or echo that takes its place. -/
def respond (chip : Simulator) (disturbances : List Disturbance) (buffer : List UInt8) :
    Answer Simulator Reply :=
  match disturbances.reverse.findSome? failure? with
  | some fault => { value := ⟨buffer, .error fault⟩, log := [], state := chip }
  | none =>
    if disturbances.contains .echo then { value := ⟨buffer, .ok ()⟩, log := [], state := chip }
    else chip.transfer buffer

theorem length_respond (chip : Simulator) (disturbances : List Disturbance)
    (buffer : List UInt8) :
    (respond chip disturbances buffer).value.buffer.length = buffer.length := by
  unfold respond
  split
  · rfl
  · split
    · rfl
    · exact chip.length_transfer buffer

def disturb (disturbances : List Disturbance) (reply : Reply) : Reply :=
  match reply.result, disturbances.reverse.findSome? mask? with
  | .ok (), some mask => { reply with buffer := overlay mask reply.buffer }
  | _, _ => reply

theorem length_disturb (disturbances : List Disturbance) (reply : Reply) :
    (disturb disturbances reply).buffer.length = reply.buffer.length := by
  unfold disturb
  split <;> simp

def transfer (bench : Bench) (buffer : List UInt8) : Answer Bench Reply :=
  let number := bench.transfers + 1
  let disturbances := bench.planned number
  let chip := disturbances.foldl prepare bench.simulation.chip
  let answer := respond chip disturbances buffer
  { value := disturb disturbances answer.value
    log := answer.log
    state := { bench with
      transfers := number
      plan := bench.plan.filter fun (due, _) ↦ due ≠ number
      simulation := { bench.simulation with chip := answer.state } } }

/-- An armed fault in place of a call, used up by it; else the call on the simulation. -/
def orFault (armed : Option Fault) (disarmed : Bench)
    (call : Simulation → Answer Simulation (Except Fault Unit)) :
    Answer Bench (Except Fault Unit) :=
  match armed with
  | some fault => { value := .error fault, log := [], state := disarmed }
  | none =>
    let answer := call disarmed.simulation
    { answer with state := { disarmed with simulation := answer.state } }

end Bench

instance : Link Bench where
  transfer buffer _ bench := bench.transfer buffer
  length_transfer buffer _ _ :=
    (Bench.length_disturb _ _).trans (Bench.length_respond _ _ buffer)
  releaseBus bench :=
    Bench.orFault bench.releaseFault { bench with releaseFault := none } Link.releaseBus
  setLine level bench :=
    Bench.orFault bench.setLineFault { bench with setLineFault := none } (Link.setLine level)
  releaseLine bench :=
    Bench.orFault bench.releaseLineFault { bench with releaseLineFault := none } Link.releaseLine

end QuadPort
