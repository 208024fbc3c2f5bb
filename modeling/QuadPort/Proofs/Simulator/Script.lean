import QuadPort.Proofs.Script.Operation
import QuadPort.Proofs.Simulator.Access

/-!
# Scripts on the simulated chip

A script carried out over a simulator that is ready is a function of that simulator alone:
`serve`. What happens between operations is a step of the bench: a register is overwritten
or a voltage applied. `play_runAll` turns a run of operations and such steps over a session
into a run of plain functions.
-/

namespace QuadPort

open Conversation Register Simulator

/-! ## One script -/

/-- What a script comes to on a simulator that is ready, and the simulator after it. -/
def Script.serve {α : Type} : Script α → Simulator → Except Error α × Simulator
  | .done value, simulator => (.ok value, simulator)
  | .fail error, simulator => (.error error, simulator)
  | .ask access next, simulator =>
    if access.address ≤ maxAddress then
      serve (next (simulator.access access).1) (simulator.access access).2
    else (.error (.invalidArgument (.register access.address)), simulator)
  | .note _ next, simulator => serve next simulator

namespace Script

variable {α β : Type} {device : Device}

@[simp]
theorem serve_pure (value : α) (simulator : Simulator) :
    serve (pure value) simulator = (.ok value, simulator) := rfl

@[simp]
theorem serve_bind (script : Script α) (next : α → Script β) (simulator : Simulator) :
    serve (script >>= next) simulator =
      match serve script simulator with
      | (.ok value, after) => serve (next value) after
      | (.error error, after) => (.error error, after) := by
  change serve (script.bind next) simulator = _
  induction script generalizing simulator with
  | done value => rfl
  | fail error => rfl
  | ask access rest ih =>
    simp only [bind, serve]
    split
    · exact ih _ _
    · rfl
  | note record rest ih => exact ih simulator

section Registers

variable {address : UInt8} (h : address ≤ maxAddress) (simulator : Simulator)

include h

theorem serve_readRegister :
    (readRegister address).serve simulator =
      (.ok (simulator.access (.read address)).1, (simulator.access (.read address)).2) :=
  if_pos h

theorem serve_writeRegister (value : UInt8) :
    (writeRegister address value).serve simulator =
      (.ok (), (simulator.access (.write address value)).2) :=
  if_pos h

theorem serve_updateRegister (mask value : UInt8) :
    (updateRegister address mask value).serve simulator =
      (.ok (), ((simulator.access (.read address)).2.access
        (.write address (replace mask (simulator.access (.read address)).1 value))).2) :=
  (if_pos h).trans (serve_writeRegister h _ _)

end Registers

theorem ready_serve {simulator : Simulator} (script : Script α) (h : Ready device simulator) :
    Ready device (serve script simulator).2 := by
  induction script generalizing simulator with
  | done | fail => exact h
  | ask access next ih =>
    simp only [Script.serve]
    split
    · exact ih _ (h.access access)
    · exact h
  | note record next ih => exact ih h

/-- Carrying a script out over the simulation is serving it. -/
theorem enact_run (script : Script α) (session : Session Simulation)
    (h : Ready device session.link.chip) :
    (enact (script.run device) session).1 = (serve script session.link.chip).1 ∧
      (enact (script.run device) session).2.link =
        { session.link with chip := (serve script session.link.chip).2 } := by
  induction script generalizing session with
  | done value => exact ⟨rfl, rfl⟩
  | fail error => exact ⟨rfl, rfl⟩
  | note record next ih => exact ih { session with
      log := session.log ++ [⟨record.level, record.target, record.message⟩] } h
  | ask access next ih =>
    by_cases haddress : access.address ≤ maxAddress
    · obtain ⟨scratch, log, hperform⟩ := Access.enact_perform device access session haddress
      obtain ⟨reply, records, htransfer, hverdict⟩ := transfer_frame h haddress
      have hlink : Link.transfer (access.frame device) true session.link =
          ⟨reply, records, { session.link with chip := (session.link.chip.access access).2 }⟩ := by
        change ({ session.link.chip.transfer (access.frame device) with state := _ } :
          Answer Simulation Reply) = _
        rw [htransfer]
      rw [hlink, hverdict] at hperform
      rw [run, enact_bind, hperform, serve, if_pos haddress]
      exact ih _ _ (h.access access)
    · have hlt := UInt8.not_le.mp haddress
      rw [run, enact_bind, Access.enact_perform_refused device access session hlt, serve,
        if_neg haddress]
      exact ⟨rfl, rfl⟩

end Script

/-! ## Runs -/

/-- A step of a run: an operation of the descriptor, or something that happens to the chip. -/
inductive Event
  | operate (operation : Device.Operation)
  | setRegister (address value : UInt8)
  | setInput (channel : UInt8) (high : Bool)
  deriving DecidableEq, Repr

namespace Event

/-- What happens to the chip; a channel beyond the eight bits of the field side is refused. -/
def disturb (simulator : Simulator) : Event → Simulator
  | .operate _ => simulator
  | .setRegister address value => simulator.setRegister address value
  | .setInput channel high =>
    match simulator.setInput channel high with
    | .ok changed => changed
    | .error _ => simulator

def carryOut (device : Device) (event : Event) :
    StateM (Session Simulation) (Option (Except Error Device.Outcome)) :=
  match event with
  | .operate operation => do return some (← (device.perform operation).run)
  | _ => do
    modify fun session ↦
      { session with link := { session.link with chip := event.disturb session.link.chip } }
    return none

/-- Carries events out one after the other; the results are those of the operations. -/
def runAll (device : Device) :
    List Event → StateM (Session Simulation) (List (Except Error Device.Outcome))
  | [] => return []
  | event :: events => do
    let result ← event.carryOut device
    let results ← runAll device events
    return result.toList ++ results

def serve (simulator : Simulator) :
    Event → Option (Except Error Device.Outcome) × Simulator
  | .operate operation =>
    let (result, after) := (Script.ofOperation operation).serve simulator
    (some result, after)
  | event => (none, event.disturb simulator)

def serveAll (simulator : Simulator) :
    List Event → List (Except Error Device.Outcome) × Simulator
  | [] => ([], simulator)
  | event :: events =>
    let (result, next) := event.serve simulator
    let (results, after) := serveAll next events
    (result.toList ++ results, after)

variable {device : Device}

def drivenInputs (inputs channel : UInt8) (high : Bool) : UInt8 :=
  if channel < 8 then
    if high then inputs ||| (1 <<< channel) else inputs &&& ~~~(1 <<< channel)
  else inputs

theorem disturb_setInput (simulator : Simulator) (channel : UInt8) (high : Bool) :
    disturb simulator (.setInput channel high) =
      { simulator with inputs := drivenInputs simulator.inputs channel high } := by
  by_cases h : channel < 8 <;>
    simp only [disturb, Simulator.setInput, shiftLeft, drivenInputs, h, if_true, if_false] <;> rfl

theorem serve_setInput (simulator : Simulator) (channel : UInt8) (high : Bool) :
    (setInput channel high).serve simulator =
      (none, { simulator with inputs := drivenInputs simulator.inputs channel high }) :=
  congrArg (Prod.mk none) (disturb_setInput simulator channel high)

theorem ready_disturb {simulator : Simulator} (h : Ready device simulator) (event : Event) :
    Ready device (event.disturb simulator) := by
  cases event with
  | operate operation => exact h
  | setRegister address value => exact h.setRegister address value
  | setInput channel high =>
    rw [disturb_setInput]
    exact ⟨⟨h.checked, h.chip, h.failure, h.corruption⟩, h.strapped, h.released⟩

theorem ready_serve {simulator : Simulator} (h : Ready device simulator) (event : Event) :
    Ready device (event.serve simulator).2 := by
  cases event with
  | operate operation => exact Script.ready_serve _ h
  | setRegister address value => exact ready_disturb h (.setRegister address value)
  | setInput channel high => exact ready_disturb h (.setInput channel high)

theorem ready_serveAll {simulator : Simulator} (h : Ready device simulator)
    (events : List Event) : Ready device (serveAll simulator events).2 := by
  induction events generalizing simulator with
  | nil => exact h
  | cons event events ih => exact ih (ready_serve h event)

/-- Carrying an event out over the simulation is serving it. -/
theorem play_carryOut (event : Event) (session : Session Simulation)
    (h : Ready device session.link.chip) :
    (play (event.carryOut device) session).1 = (event.serve session.link.chip).1 ∧
      (play (event.carryOut device) session).2.link =
        { session.link with chip := (event.serve session.link.chip).2 } := by
  cases event with
  | operate operation =>
    obtain ⟨hresult, hlink⟩ := Script.enact_run (Script.ofOperation operation) session h
    rw [Script.run_ofOperation] at hresult hlink
    exact ⟨congrArg some hresult, hlink⟩
  | setRegister address value => exact ⟨rfl, rfl⟩
  | setInput channel high => exact ⟨rfl, rfl⟩

/-- A run over the simulation is a run of plain functions on the chip. -/
theorem play_runAll (events : List Event) (session : Session Simulation)
    (h : Ready device session.link.chip) :
    (play (runAll device events) session).1 = (serveAll session.link.chip events).1 ∧
      (play (runAll device events) session).2.link =
        { session.link with chip := (serveAll session.link.chip events).2 } := by
  induction events generalizing session with
  | nil => exact ⟨rfl, rfl⟩
  | cons event events ih =>
    obtain ⟨hresult, hlink⟩ := play_carryOut event session h
    have hready := ready_serve h event
    have hrest := ih (play (event.carryOut device) session).2 (by rw [hlink]; exact hready)
    rw [hlink] at hrest
    simp only [runAll, serveAll, play_bind, play_pure]
    exact ⟨by rw [hresult, hrest.1], hrest.2⟩

end Event

end QuadPort
