import QuadPort.Proofs.Simulator.RegisterFile

/-!
# Runs of register operations

Seen through a descriptor, a simulated chip is a plain register file. Frames, checksums and
the chip address do not show: reading, writing and updating registers does to the simulator
what it does to a `RegisterFile`, over runs of any length and whatever happens to the chip
in between.
-/

namespace QuadPort.RegisterFile

open Conversation Register

inductive Step
  | write (address value : UInt8)
  | read (address : UInt8)
  | update (address mask value : UInt8)
  | setRegister (address value : UInt8)
  | setInput (channel : UInt8) (high : Bool)
  deriving DecidableEq, Repr

/-- What a step comes to, the accesses it makes and the file after it. -/
structure Reaction where
  result : Option (Except Error Device.Outcome)
  accesses : List Access
  file : RegisterFile

def refusal (file : RegisterFile) (address : UInt8) : Reaction :=
  ⟨some (.error (.invalidArgument (.register address))), [], file⟩

def react (file : RegisterFile) : Step → Reaction
  | .write address value =>
    if address ≤ 0x1F then ⟨some (.ok .done), [.write address value], file.set address value⟩
    else file.refusal address
  | .read address =>
    if address ≤ 0x1F then
      ⟨some (.ok (.byte (file.look address))), [.read address], file.afterRead address⟩
    else file.refusal address
  | .update address mask value =>
    let updated := (file.look address &&& ~~~mask) ||| (value &&& mask)
    if address ≤ 0x1F then
      ⟨some (.ok .done), [.read address, .write address updated],
        (file.afterRead address).set address updated⟩
    else file.refusal address
  | .setRegister address value => ⟨none, [], file.set address value⟩
  | .setInput channel high =>
    ⟨none, [], { file with inputs := Event.drivenInputs file.inputs channel high }⟩

def Step.event : Step → Event
  | .write address value => .operate (.writeRegister address value)
  | .read address => .operate (.readRegister address)
  | .update address mask value => .operate (.updateRegister address mask value)
  | .setRegister address value => .setRegister address value
  | .setInput channel high => .setInput channel high

def reactAll (file : RegisterFile) :
    List Step → List (Except Error Device.Outcome) × List Access × RegisterFile
  | [] => ([], [], file)
  | step :: steps =>
    let reaction := file.react step
    let (results, accesses, last) := reactAll reaction.file steps
    (reaction.result.toList ++ results, reaction.accesses ++ accesses, last)

/-! ## Steps of the simulator -/

section Simulator

variable (simulator : Simulator)

/-- What accesses leave in the counters of a simulator. -/
structure Tally (before after : Simulator) (accesses : List Access) : Prop where
  writes : after.writes = before.writes ++
    accesses.filterMap fun
      | .write address value => some (address, value)
      | .read _ => none
  transfers : after.transfers = before.transfers + accesses.length
  checksumErrors : after.checksumErrors = before.checksumErrors

theorem Tally.none (before : Simulator) : Tally before before [] :=
  ⟨(List.append_nil _).symm, rfl, rfl⟩

theorem Tally.append {before between after : Simulator} {first rest : List Access}
    (hfirst : Tally before between first) (hrest : Tally between after rest) :
    Tally before after (first ++ rest) where
  writes := by
    rw [hrest.writes, hfirst.writes, List.append_assoc, List.filterMap_append]
  transfers :=
    calc
      after.transfers
      _ = before.transfers + first.length + rest.length := by
        rw [hrest.transfers, hfirst.transfers]
      _ = before.transfers + (first ++ rest).length := by
        rw [List.length_append, Nat.add_assoc]
  checksumErrors := hrest.checksumErrors.trans hfirst.checksumErrors

theorem tally_access (access : Access) : Tally simulator (simulator.access access).2 [access] := by
  cases access with
  | write address value => exact ⟨rfl, rfl, rfl⟩
  | read address =>
    have hread : ∃ registers, (simulator.access (.read address)).2 =
        { simulator.counted with registers } := by
      simp only [Simulator.access, Simulator.read]
      split
      · exact ⟨_, rfl⟩
      · split <;> exact ⟨_, rfl⟩
    obtain ⟨registers, hread⟩ := hread
    rw [hread]
    exact ⟨(List.append_nil _).symm, rfl, rfl⟩

/-- An operation whose first access has no register is refused and changes nothing. -/
theorem serve_refused (access : Access) {operation : Device.Operation}
    {next : UInt8 → Script Device.Outcome} (h : ¬ access.address ≤ maxAddress)
    (hscript : Script.ofOperation operation = .ask access next) :
    (Event.operate operation).serve simulator =
      (some (.error (.invalidArgument (.register access.address))), simulator) := by
  simp only [Event.serve, hscript, Script.serve, if_neg h]

/-- A step on the simulator is the same step on its register file. -/
theorem serve_react (step : Step) :
    (step.event.serve simulator).1 = (simulator.file.react step).result ∧
      (step.event.serve simulator).2.file = (simulator.file.react step).file ∧
      Tally simulator (step.event.serve simulator).2 (simulator.file.react step).accesses := by
  cases step with
  | write address value =>
    by_cases h : address ≤ 0x1F
    · simp only [Step.event, Event.serve, Script.ofOperation, Script.serve_bind,
        Script.serve_writeRegister h, Script.serve_pure, react, if_pos h]
      exact ⟨trivial, rfl, tally_access simulator (.write address value)⟩
    · rw [Step.event, serve_refused simulator (.write address value) h rfl, react, if_neg h]
      exact ⟨rfl, rfl, .none simulator⟩
  | read address =>
    obtain ⟨hvalue, hfile⟩ := access_read_eq simulator address
    by_cases h : address ≤ 0x1F
    · simp only [Step.event, Event.serve, Script.ofOperation, Script.serve_bind,
        Script.serve_readRegister h, Script.serve_pure, react, if_pos h, hvalue]
      exact ⟨trivial, hfile, tally_access simulator (.read address)⟩
    · rw [Step.event, serve_refused simulator (.read address) h rfl, react, if_neg h]
      exact ⟨rfl, rfl, .none simulator⟩
  | update address mask value =>
    obtain ⟨hvalue, hfile⟩ := access_read_eq simulator address
    have hupdated : replace mask (simulator.file.look address) value =
        (simulator.file.look address &&& ~~~mask) ||| (value &&& mask) := by
      rw [replace, UInt8.and_comm mask value]
    by_cases h : address ≤ 0x1F
    · have htally := (tally_access simulator (.read address)).append
        (tally_access (simulator.access (.read address)).2
          (.write address (replace mask (simulator.access (.read address)).1 value)))
      simp only [Step.event, Event.serve, Script.ofOperation, Script.serve_bind,
        Script.serve_updateRegister h, Script.serve_pure, react, if_pos h, hvalue, hupdated]
        at htally ⊢
      refine ⟨trivial, ?_, htally⟩
      rw [← hfile]
      rfl
    · rw [Step.event, serve_refused simulator (.read address) h rfl, react, if_neg h]
      exact ⟨rfl, rfl, .none simulator⟩
  | setRegister address value => exact ⟨rfl, rfl, (List.append_nil _).symm, rfl, rfl⟩
  | setInput channel high =>
    rw [Step.event, Event.serve_setInput]
    exact ⟨rfl, rfl, (List.append_nil _).symm, rfl, rfl⟩

/-- A run on the simulator is the same run on its register file. -/
theorem serveAll_reactAll (steps : List Step) (simulator : Simulator) :
    (Event.serveAll simulator (steps.map Step.event)).1 = (simulator.file.reactAll steps).1 ∧
      (Event.serveAll simulator (steps.map Step.event)).2.file =
        (simulator.file.reactAll steps).2.2 ∧
      Tally simulator (Event.serveAll simulator (steps.map Step.event)).2
        (simulator.file.reactAll steps).2.1 := by
  induction steps generalizing simulator with
  | nil => exact ⟨rfl, rfl, .none simulator⟩
  | cons step steps ih =>
    obtain ⟨hresult, hfile, htally⟩ := serve_react simulator step
    obtain ⟨hresults, hlast, htallies⟩ := ih (step.event.serve simulator).2
    rw [hfile] at hresults hlast htallies
    simp only [List.map_cons, Event.serveAll, reactAll]
    exact ⟨by rw [hresult, hresults], hlast, htally.append htallies⟩

end Simulator

/-! ## Runs of a descriptor -/

/-- Over runs of any length a simulator that is ready for a descriptor is a register file:
the results, the bytes, the accesses counted and logged, and what every register shows to
a look from outside and to the next read. -/
theorem runAll_refines_registerFile (device : Device) (session : Session Simulation)
    (hready : Simulator.Ready device session.link.chip) (steps : List Step) :
    let run := play (Event.runAll device (steps.map Step.event)) session
    let expected := session.link.chip.file.reactAll steps
    run.1 = expected.1 ∧ run.2.link.chip.file = expected.2.2 ∧
      Tally session.link.chip run.2.link.chip expected.2.1 ∧
      ∀ address ≤ 0x1F, run.2.link.chip.register address = expected.2.2.look address ∧
        (enact (device.readRegister address) run.2).1 = .ok (expected.2.2.look address) := by
  intro run expected
  obtain ⟨hserved, hlink⟩ := Event.play_runAll (steps.map Step.event) session hready
  obtain ⟨hexpected, hfile, htally⟩ := serveAll_reactAll steps session.link.chip
  have hafter := Event.ready_serveAll hready (steps.map Step.event)
  have hchip : run.2.link.chip =
      (Event.serveAll session.link.chip (steps.map Step.event)).2 := congrArg Simulation.chip hlink
  rw [← hchip] at hfile htally hafter
  have hresults : run.1 = expected.1 :=
    calc
      run.1 = (Event.serveAll session.link.chip (steps.map Step.event)).1 := hserved
      _ = expected.1 := hexpected
  refine ⟨hresults, hfile, htally, ?_⟩
  intro address haddress
  have hread : (enact (device.readRegister address) run.2).1 =
      .ok (run.2.link.chip.file.look address) := by
    rw [← Script.run_readRegister, (Script.enact_run _ run.2 hafter).1,
      Script.serve_readRegister haddress, (access_read_eq run.2.link.chip address).1]
  constructor
  · rw [register_eq, hfile]
  · rw [hread, hfile]

/-- A fault register is cleared by the read of an update and then takes what it writes. -/
theorem fresh_runs_on_registerFile :
    let device : Device := ⟨true, 2, false⟩
    let session := Session.start (Simulation.fresh true 2)
    let steps := [Step.setRegister 0x24 0x0F, .update 4 0x3C 0x30, .read 4, .read 4,
      .write 0x20 1, .write 0 0xF1, .setInput 3 true, .read 2]
    Simulator.Ready device session.link.chip ∧
      (play (Event.runAll device (steps.map Step.event)) session).1 =
        [.ok .done, .ok (.byte 0x33), .ok (.byte 0), .error (.invalidArgument (.register 0x20)),
          .ok .done, .ok (.byte 0x08)] := by
  intro device session steps
  have hready : Simulator.Ready device session.link.chip :=
    ⟨⟨rfl, rfl, rfl, rfl⟩, by decide, rfl⟩
  exact ⟨hready, (runAll_refines_registerFile device session hready steps).1.trans (by decide)⟩

end QuadPort.RegisterFile
