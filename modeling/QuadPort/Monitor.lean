import QuadPort.Config
import QuadPort.Device.Lifecycle

/-!
# The monitor

The monitor brings the chip up, sets up its channels, looks at it again and again until it
is interrupted, and shuts it down. Whatever fails on a link, both handles are given back
exactly once: by the bring-up itself, or by the shutdown that follows a failed setup or the
end of the watch. A failed look is logged and changes nothing else.

A run is written once, for any monad that can carry out its parts. `Stage` is what the program
and a run over a session alone supply differently: the program prints and waits in between.
-/

namespace QuadPort.Monitor

open Conversation

/-- Why a run failed: the step that failed and its error. A timer without a period stops
the program on the spot, with nothing given back. -/
inductive Failure
  | bringUp (error : Error)
  | setUp (error : Error)
  | shutDown (error : Error)
  | noPeriod
  | unsupported
  deriving DecidableEq, Repr

def Failure.chain : Failure → List String
  | .bringUp error => "Failed to initialize MAX14906" :: error.chain
  | .setUp error => "Failed to apply channel configuration" :: error.chain
  | .shutDown error => "Failed to remove MAX14906" :: error.chain
  | .noPeriod => ["\x60period\x60 must be non-zero."]
  | .unsupported =>
    ["raspberry-pi transport requested but the \x60raspberry-pi\x60 feature is not enabled"]

abbrev Run (σ : Type) := ExceptT Failure (StateM (Session σ))

variable {σ : Type}

def announce (message : String) : Run σ Unit :=
  (note .info .monitor message : StateM (Session σ) Unit)

/-- Where a run takes place: how its parts are carried out, and how it starts to listen for an
interruption. The action that listening gives tells whether there has been one. -/
structure Stage (σ : Type) (m : Type → Type) where
  perform : {α : Type} → StateM (Session σ) α → m α
  listen : m (m Bool)

def Stage.attempt {m : Type → Type} (stage : Stage σ m) {α : Type} (part : Run σ α) :
    ExceptT Failure m α :=
  stage.perform part.run

/-- A run over a session alone, interrupted when its link says so. -/
def Stage.ofLink (interrupted : σ → Bool) : Stage σ (StateM (Session σ)) where
  perform action := action
  listen := return do return interrupted (← get).link

variable [Link σ]

/-- Sets up the channels; when that fails the chip is shut down before the failure is
reported, and a failure of the shutdown is only logged. -/
def setUp (device : Device) (setup : ChannelSetup) : Run σ Unit := do
  match ← ((device.setUp setup).run : StateM (Session σ) (Except Error Unit)) with
  | .ok () => return ()
  | .error error => do
    match ← (device.shutDown.run : StateM (Session σ) (Except Error Unit)) with
    | .ok () => pure ()
    | .error other =>
      (note .warn .monitor
        s!"Teardown after failed channel setup also failed: {other.message}" :
        StateM (Session σ) Unit)
    throw (.setUp error)

def begin (config : Config) : Run σ Device := do
  let device : Device := ⟨config.device.checked, config.device.chip, config.enable.isSome⟩
  device.start.adapt Failure.bringUp
  setUp device config.channels
  if config.monitor.interval = 0 then
    throw .noPeriod
  announce s!"Polling every {config.monitor.interval} ms, press Ctrl+C to exit"
  return device

/-- One look at the chip; it is logged if it shows something else than the last one. -/
def look (device : Device) (last : Option Snapshot) :
    StateM (Session σ) (Option Snapshot) := do
  match ← (device.snapshot.run : StateM (Session σ) (Except Error Snapshot)) with
  | .ok snapshot =>
    if last = some snapshot then return last
    note .info .monitor s!"Levels {snapshot.levelsLabel}"
    if !snapshot.faults.isClear then
      note .warn .monitor s!"Latched faults {snapshot.faults.label}"
    return some snapshot
  | .error error => do
    note .warn .monitor s!"Poll failed: {error.message}"
    return last

def finish (device : Device) : Run σ Unit := do
  announce "Received Ctrl+C, shutting down..."
  device.shutDown.adapt Failure.shutDown
  announce "All channels in high-Z, bye"

/-! ## Whole runs -/

namespace Stage

variable {m : Type → Type} [Monad m] (stage : Stage σ m)

/-- Looks at the chip until the run is interrupted, at most as often as given. -/
@[specialize] def watch (interrupted : m Bool) (device : Device) (last : Option Snapshot) :
    Nat → m Unit
  | 0 => return ()
  | looks + 1 => do
    let shown ← stage.perform (look device last)
    if ← interrupted then return ()
    watch interrupted device shown looks

@[specialize] def run (config : Config) (looks : Nat) : ExceptT Failure m Unit := do
  let device ← stage.attempt (begin config)
  let interrupted ← stage.listen
  stage.watch interrupted device none looks
  stage.attempt (finish device)

/-- A run over the configured transport, of which only the simulated one is there. -/
@[specialize] def runConfigured (config : Config) (looks : Nat) : ExceptT Failure m Unit :=
  match config.monitor.transport with
  | .simulated => stage.run config looks
  | .raspberryPi => throw .unsupported

end Stage

def watch (device : Device) (interrupted : σ → Bool) (last : Option Snapshot) (looks : Nat) :
    StateM (Session σ) Unit :=
  (Stage.ofLink interrupted).watch (return interrupted (← get).link) device last looks

def run (config : Config) (interrupted : σ → Bool) (looks : Nat) : Run σ Unit :=
  (Stage.ofLink interrupted).run config looks

def runConfigured (config : Config) (interrupted : σ → Bool) (looks : Nat) : Run σ Unit :=
  (Stage.ofLink interrupted).runConfigured config looks

end QuadPort.Monitor
