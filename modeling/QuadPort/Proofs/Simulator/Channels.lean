import QuadPort.Proofs.Simulator.BringUp

/-!
# Runs of channel operations

Once a chip has been brought up, a run of channel operations, readings of the fault bytes
and snapshots is a run on the panel: whatever voltages are applied and whatever faults are
latched in between, every operation succeeds with what the panel says and leaves the panel
that it says.
-/

namespace QuadPort.Panel

open Conversation Register Channel

/-- The panel with a voltage applied or taken away. The field side has eight bits, of which
the lower four are the pins of the channels. -/
def setInput (panel : Panel) (channel : UInt8) (high : Bool) : Panel :=
  if h : channel.toNat < 4 then
    panel.update ⟨channel.toNat, h⟩ fun state ↦ { state with pin := high }
  else panel

/-- A step of a run: an operation on one of the four channels or on all of them, a voltage
applied to the field side or a byte latched in a fault register. -/
inductive Step
  | level (channel : Fin 4)
  | setLevel (channel : Fin 4) (high : Bool)
  | function (channel : Fin 4)
  | setFunction (channel : Fin 4) (function : Function)
  | limit (channel : Fin 4)
  | setLimit (channel : Fin 4) (limit : CurrentLimit)
  | readFaults
  | snapshot
  | setInput (channel : UInt8) (high : Bool)
  | setFault (register : FaultRegister) (value : UInt8)
  deriving DecidableEq, Repr

def react (panel : Panel) : Step → Option Device.Outcome × Panel
  | .level channel => (some (.level (panel.channel channel).level), panel)
  | .setLevel channel high =>
    (some .done, panel.update channel fun state ↦ { state with latch := high })
  | .function channel => (some (.function (panel.channel channel).function), panel)
  | .setFunction channel wanted =>
    (some .done, panel.update channel fun state ↦ state.withFunction wanted)
  | .limit channel => (some (.limit (panel.channel channel).limit), panel)
  | .setLimit channel wanted =>
    (some .done, panel.update channel fun state ↦ { state with limit := wanted })
  | .readFaults => (some (.faults panel.faults), panel.clear)
  | .snapshot =>
    (some (.snapshot ⟨panel.channels.map ChannelState.level, panel.faults⟩), panel.clear)
  | .setInput channel high => (none, panel.setInput channel high)
  | .setFault register value =>
    (none, { panel with faults := panel.faults.set register value })

def Step.event : Step → Event
  | .level channel => .operate (.level (byte channel))
  | .setLevel channel high => .operate (.setLevel (byte channel) high)
  | .function channel => .operate (.function (byte channel))
  | .setFunction channel wanted => .operate (.setFunction (byte channel) wanted)
  | .limit channel => .operate (.limit (byte channel))
  | .setLimit channel wanted => .operate (.setLimit (byte channel) wanted)
  | .readFaults => .operate .readFaults
  | .snapshot => .operate .snapshot
  | .setInput channel high => .setInput channel high
  | .setFault register value => .setRegister register.name.address value

def reactAll (panel : Panel) : List Step → List Device.Outcome × Panel
  | [] => ([], panel)
  | step :: steps =>
    let (outcome, next) := panel.react step
    let (outcomes, last) := reactAll next steps
    (outcome.toList ++ outcomes, last)

/-! ## Steps of the simulator -/

theorem bit_drivenInputs (inputs channel : UInt8) (high : Bool) {place : Nat} (h : place < 8) :
    bit (Event.drivenInputs inputs channel high) place =
      if place = channel.toNat then high else bit inputs place := by
  unfold Event.drivenInputs
  by_cases hchannel : channel < 8
  · rw [if_pos hchannel]
    cases high <;> by_cases hplace : place = channel.toNat <;>
      simp [bit_unit hchannel, hplace, h]
  · have hge : 8 ≤ channel.toNat := UInt8.le_iff_toNat_le.mp (UInt8.not_lt.mp hchannel)
    have hne : place ≠ channel.toNat := by omega
    rw [if_neg hchannel, if_neg hne]

/-- A voltage on the field side is the pin of one channel. -/
theorem panel_setInput (file : RegisterFile) (channel : UInt8) (high : Bool) :
    ({ file with inputs := Event.drivenInputs file.inputs channel high } : RegisterFile).panel =
      file.panel.setInput channel high := by
  have hpin : ∀ other : Fin 4,
      RegisterFile.channel
          { file with inputs := Event.drivenInputs file.inputs channel high } other =
        { file.channel other with
          pin := if (other : Nat) = channel.toNat then high else bit file.inputs other } := by
    intro other
    rw [← bit_drivenInputs file.inputs channel high (by omega)]
    rfl
  unfold setInput
  split
  · rename_i hchannel
    refine RegisterFile.panel_update ?_ ?_ rfl
    · rw [hpin, if_pos rfl]
    · intro other hne
      have hval : (other : Nat) ≠ channel.toNat := fun hequal ↦ hne (Fin.ext hequal)
      rw [hpin, if_neg hval]
      rfl
  · rename_i hchannel
    have hsame : RegisterFile.channel
        { file with inputs := Event.drivenInputs file.inputs channel high } = file.channel := by
      funext other
      have hval : (other : Nat) ≠ channel.toNat := by omega
      rw [hpin, if_neg hval]
      rfl
    simp only [RegisterFile.panel, hsame]
    rfl

/-- An operation whose script shows an outcome. -/
theorem serve_operate {operation : Device.Operation} {outcome : Device.Outcome} {panel : Panel}
    {simulator : Simulator}
    (h : (Script.ofOperation operation).Shows simulator.file outcome panel) :
    ((Event.operate operation).serve simulator).1 = some (.ok outcome) ∧
      ((Event.operate operation).serve simulator).2.file.panel = panel := by
  obtain ⟨hvalue, hfile⟩ := Script.serve_apply (Script.ofOperation operation) simulator
  obtain ⟨hok, hpanel⟩ := h
  have hresult : ((Script.ofOperation operation).serve simulator).1 = .ok outcome := by
    rw [hvalue, hok]
  refine ⟨congrArg some hresult, ?_⟩
  rw [← hpanel, ← hfile]
  rfl

/-- A step on the simulator is the same step on its panel. -/
theorem serve_react (simulator : Simulator) (step : Step) :
    (step.event.serve simulator).1 = (simulator.file.panel.react step).1.map .ok ∧
      (step.event.serve simulator).2.file.panel = (simulator.file.panel.react step).2 := by
  cases step with
  | level channel =>
    apply serve_operate
    exact (Script.Shows.level channel simulator.file).bind fun _ ↦ .pure _
  | setLevel channel high =>
    apply serve_operate
    exact (Script.Shows.setLevel channel simulator.file high).bind fun _ ↦ .pure _
  | function channel =>
    apply serve_operate
    exact (Script.Shows.function channel simulator.file).bind fun _ ↦ .pure _
  | setFunction channel wanted =>
    apply serve_operate
    exact (Script.Shows.setFunction channel simulator.file wanted).bind fun _ ↦ .pure _
  | limit channel =>
    apply serve_operate
    exact (Script.Shows.limit channel simulator.file).bind fun _ ↦ .pure _
  | setLimit channel wanted =>
    apply serve_operate
    exact (Script.Shows.setLimit channel simulator.file wanted).bind fun _ ↦ .pure _
  | readFaults =>
    apply serve_operate
    exact (Script.Shows.readFaults simulator.file).bind fun _ ↦ .pure _
  | snapshot =>
    apply serve_operate
    exact (Script.Shows.snapshot simulator.file).bind fun _ ↦ .pure _
  | setInput channel high =>
    rw [Step.event, Event.serve_setInput]
    exact ⟨rfl, panel_setInput simulator.file channel high⟩
  | setFault register value =>
    exact ⟨rfl, RegisterFile.panel_setFault simulator.file register value⟩

/-- A run on the simulator is the same run on its panel. -/
theorem serveAll_reactAll (steps : List Step) (simulator : Simulator) :
    (Event.serveAll simulator (steps.map Step.event)).1 =
        (simulator.file.panel.reactAll steps).1.map .ok ∧
      (Event.serveAll simulator (steps.map Step.event)).2.file.panel =
        (simulator.file.panel.reactAll steps).2 := by
  induction steps generalizing simulator with
  | nil => exact ⟨rfl, rfl⟩
  | cons step steps ih =>
    obtain ⟨hresult, hpanel⟩ := serve_react simulator step
    obtain ⟨hresults, hlast⟩ := ih (step.event.serve simulator).2
    rw [hpanel] at hresults hlast
    simp only [List.map_cons, Event.serveAll, reactAll]
    refine ⟨?_, hlast⟩
    rw [hresult, hresults, List.map_append]
    cases (simulator.file.panel.react step).1 <;> rfl

/-! ## Runs of a descriptor -/

/-- After a start that succeeds, runs of any length are runs on the panel: every operation
succeeds with the outcome that the panel gives, and the panel is always the view of the
registers and of the field side. -/
theorem runAll_refines_panel (device : Device) (session : Session Simulation)
    (hmatches : Simulator.Matches device session.link.chip)
    (hstart : (enact device.start session).1 = .ok ()) (steps : List Step) :
    let started := (enact device.start session).2
    let run := play (Event.runAll device (steps.map Step.event)) started
    let expected := started.link.chip.file.panel.reactAll steps
    run.1 = expected.1.map .ok ∧ run.2.link.chip.file.panel = expected.2 := by
  intro started run expected
  have hready := (Device.prepared_of_start hmatches hstart).ready
  obtain ⟨hserved, hlink⟩ := Event.play_runAll (steps.map Step.event) started hready
  obtain ⟨houtcomes, hpanel⟩ := serveAll_reactAll steps started.link.chip
  constructor
  · calc
      run.1 = (Event.serveAll started.link.chip (steps.map Step.event)).1 := hserved
      _ = expected.1.map .ok := houtcomes
  · have hchip : run.2.link.chip =
        (Event.serveAll started.link.chip (steps.map Step.event)).2 :=
      congrArg Simulation.chip hlink
    rw [hchip]
    exact hpanel

/-- An output that is switched on and a fault that is latched, read and gone. -/
theorem fresh_runs_on_panel :
    let device : Device := ⟨true, 2, true⟩
    let session := Session.start (Simulation.fresh true 2)
    let steps := [Step.setLevel 1 true, .level 1, .setFunction 1 .output, .level 1, .function 0,
      .setFault .openWire 0x20, .readFaults, .readFaults]
    Simulator.Matches device session.link.chip ∧ (enact device.start session).1 = .ok () ∧
      (play (Event.runAll device (steps.map Step.event)) (enact device.start session).2).1 =
        [.ok .done, .ok (.level false), .ok .done, .ok (.level true), .ok (.function .highZ),
          .ok (.faults ⟨0, 0x20, 0, 0⟩), .ok (.faults ⟨0, 0, 0, 0⟩)] := by
  intro device session steps
  have hmatches : Simulator.Matches device session.link.chip := ⟨rfl, rfl, rfl, rfl⟩
  have hstart : (enact device.start session).1 = .ok () :=
    Device.start_succeeds ⟨hmatches, by decide, rfl⟩ rfl
  have hrun := (runAll_refines_panel device session hmatches hstart steps).1
  rw [(Device.prepared_of_start hmatches hstart).panel] at hrun
  exact ⟨hmatches, hstart, hrun.trans (by decide +kernel)⟩

end QuadPort.Panel
