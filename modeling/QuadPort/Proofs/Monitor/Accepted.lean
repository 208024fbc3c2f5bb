import QuadPort.Board.Spi
import QuadPort.CommandLine
import QuadPort.Proofs.Config.Rules
import QuadPort.Proofs.Monitor
import QuadPort.Proofs.Program.Life
import QuadPort.Proofs.Simulator.SetUp

/-!
# Accepted configurations run

The ranges of a configuration are checked when it is read, those of a descriptor when it is
started, those of a bus when it is opened. A configuration that the first check lets through
passes the others: over the simulated chip that it asks for, a descriptor starts, its channels are
set up, any number of questions about them are answered as configured, and the shutdown floats all
channels and gives everything back.
-/

namespace QuadPort

open Conversation Register Channel

inductive Inquiry
  | function (channel : Fin 4)
  | limit (channel : Fin 4)
  | snapshot
  deriving DecidableEq, Repr

namespace Inquiry

def operation : Inquiry → Device.Operation
  | .function channel => .function (Panel.byte channel)
  | .limit channel => .limit (Panel.byte channel)
  | .snapshot => .snapshot

/-- The answer of an idle chip: what was set up, low levels and no fault. -/
def answer (setup : ChannelSetup) : Inquiry → Device.Outcome
  | .function channel => .function (setup.functions.get channel)
  | .limit channel => .limit (setup.limits.get channel)
  | .snapshot => .snapshot ⟨Vector.replicate 4 false, ⟨0, 0, 0, 0⟩⟩

end Inquiry

/-! ## Panels that are set up -/

/-- Nothing drives a channel high and no fault is latched. -/
structure Panel.Idle (panel : Panel) : Prop where
  latch : ∀ channel, (panel.channel channel).latch = false
  pin : ∀ channel, (panel.channel channel).pin = false
  faults : panel.faults = ⟨0, 0, 0, 0⟩

namespace Panel.Idle

variable {panel : Panel} (h : panel.Idle) (setup : ChannelSetup)

include h

theorem levels_setUp :
    (panel.setUp setup).channels.map ChannelState.level = Vector.replicate 4 false := by
  apply Vector.ext
  intro index hindex
  rw [Vector.getElem_map, Vector.getElem_replicate]
  have hchannel := panel.channel_setUp setup ⟨index, hindex⟩
  refine (congrArg ChannelState.level hchannel).trans ?_
  exact ChannelState.level_withFunction _ _ (h.latch _) (h.pin _)

/-- An idle chip that is set up answers every question as configured, and stays as it is. -/
theorem shows_answer (inquiry : Inquiry) (file : RegisterFile)
    (hfile : file.panel = panel.setUp setup) :
    (Script.ofOperation inquiry.operation).Shows file (inquiry.answer setup)
      (panel.setUp setup) := by
  cases inquiry with
  | function channel =>
    have hfunction := Script.Shows.function channel file
    rw [hfile, panel.channel_setUp, ChannelState.function_setUp] at hfunction
    exact hfunction.bind fun _ ↦ .pure _
  | limit channel =>
    have hlimit := Script.Shows.limit channel file
    rw [hfile, panel.channel_setUp, ChannelState.limit_setUp] at hlimit
    exact hlimit.bind fun _ ↦ .pure _
  | snapshot =>
    have hsnapshot := Script.Shows.snapshot file
    have hfaults : (panel.setUp setup).faults = ⟨0, 0, 0, 0⟩ := h.faults
    have hclear : (panel.setUp setup).clear = panel.setUp setup := by
      rw [Panel.clear, ← hfaults]
    rw [hfile, h.levels_setUp, hclear, hfaults] at hsnapshot
    exact hsnapshot.bind fun _ ↦ .pure _

end Panel.Idle

/-- A bring-up of a fresh chip leaves it idle. -/
theorem Simulator.idle_fresh (checked : Bool) (chip : UInt8) :
    (Simulator.fresh checked chip).file.panel.prepared.Idle := by
  have hall : ∀ channel, ((Simulator.fresh false 0).file.panel.prepared.channel channel).latch =
      false ∧ ((Simulator.fresh false 0).file.panel.prepared.channel channel).pin = false := by
    decide +kernel
  exact ⟨fun channel ↦ (hall channel).1, fun channel ↦ (hall channel).2, rfl⟩

/-! ## Runs -/

namespace Request

variable {device : Device} {panel : Panel} {line : SimulatedLine} {session : Session Simulation}

/-- An idle chip that is set up answers any number of questions, and then shuts down. -/
theorem runAll_inquiries (hpanel : panel.Idle) (setup : ChannelSetup)
    (h : session.link.Shows device (panel.setUp setup) line) (hline : line.released = false)
    (asked : List Inquiry) :
    ∃ after, play (runAll (some device)
        (asked.map (fun inquiry ↦ .operate inquiry.operation) ++ [.shutDown])) session =
          ((none, asked.map (fun inquiry ↦ .ok (inquiry.answer setup)) ++ [.ok .done]), after) ∧
      after.link.Off (panel.setUp setup).floated
        (if device.hasLine then ⟨line.history ++ [.highZ], true⟩ else line) := by
  induction asked generalizing session with
  | nil =>
    obtain ⟨after, hshutDown, hoff⟩ := Device.enact_shutDown_shows h hline
    refine ⟨after, ?_, hoff⟩
    have hlast : play (carryOut (some device) .shutDown) session = ((none, .ok .done), after) := by
      simp only [carryOut, play_bind, play_run, Device.shutDown?, hshutDown]
      rfl
    simp only [List.map_nil, List.nil_append, runAll, play_bind, hlast, play_pure]
  | cons inquiry asked ih =>
    obtain ⟨middle, hanswer, hshows⟩ := Script.enact_shows h (hpanel.shows_answer setup inquiry)
    rw [Script.run_ofOperation] at hanswer
    obtain ⟨after, hrest, hoff⟩ := ih hshows
    refine ⟨after, ?_, hoff⟩
    have hfirst : play (carryOut (some device) (.operate inquiry.operation)) session =
        ((some device, .ok (inquiry.answer setup)), middle) := by
      simp only [carryOut, play_bind, play_run, hanswer, play_pure]
    simp only [List.map_cons, List.cons_append, runAll, play_bind, hfirst, hrest, play_pure]

/-- The life of a descriptor over the chip that a configuration asks for: it starts, sets up the
channels, asks, and shuts down. -/
theorem runAll_configured (config : Config) (hstrapped : config.device.chip ≤ maxChip)
    (asked : List Inquiry) :
    ∃ (panel : Panel) (last : Session Simulation),
      play (runAll none (life (Monitor.descriptor config)
        (.setUp config.channels :: asked.map Inquiry.operation)))
          (.start (CommandLine.simulation config)) =
        ((none, .ok .done :: .ok .done ::
          (asked.map (fun inquiry ↦ .ok (inquiry.answer config.channels)) ++ [.ok .done])), last) ∧
      last.link.Off panel.floated
        (if config.enable.isSome then ⟨[.high, .highZ], true⟩ else .fresh) := by
  let device := Monitor.descriptor config
  let fresh := Simulator.fresh config.device.checked config.device.chip
  let panel := fresh.file.panel.prepared
  have hfresh : (Session.start (CommandLine.simulation config)).link.Shows device
      fresh.file.panel .fresh := ⟨⟨⟨rfl, rfl, rfl, rfl⟩, hstrapped, rfl⟩, rfl, rfl⟩
  obtain ⟨started, hstart, hstarted⟩ := Device.enact_start_shows hfresh rfl
  have hscript : ∀ file : RegisterFile, file.panel = panel →
      (Script.ofOperation (.setUp config.channels)).Shows file .done
        (panel.setUp config.channels) := by
    intro file hpanel
    have hsetUp := Script.Shows.setUp config.channels file
    rw [hpanel] at hsetUp
    exact hsetUp.bind fun _ ↦ .pure _
  obtain ⟨ready, hsetUp, hready⟩ := Script.enact_shows hstarted hscript
  rw [Script.run_ofOperation] at hsetUp
  have hheld : (if device.hasLine then (⟨[.high], false⟩ : SimulatedLine) else .fresh).released =
      false := by
    split <;> rfl
  obtain ⟨last, hrest, hoff⟩ := runAll_inquiries
    (Simulator.idle_fresh config.device.checked config.device.chip) config.channels hready hheld
    asked
  have hfirst : play (carryOut none (.start device)) (.start (CommandLine.simulation config)) =
      ((some device, .ok .done), started) := by
    simp only [carryOut, play_bind, play_run, hstart]
    rfl
  have hsecond : play (carryOut (some device) (.operate (.setUp config.channels))) started =
      ((some device, .ok .done), ready) := by
    simp only [carryOut, play_bind, play_run, hsetUp, play_pure]
  have hline : ∀ held : Bool, (if held then
      ⟨(if held then ⟨[.high], false⟩ else SimulatedLine.fresh).history ++ [.highZ], true⟩
      else if held then ⟨[.high], false⟩ else SimulatedLine.fresh) =
        if held then ⟨[.high, .highZ], true⟩ else SimulatedLine.fresh := by
    decide
  refine ⟨panel.setUp config.channels, last, ?_, ?_⟩
  · change play (runAll none (life device _)) _ = _
    simp only [life, List.map_cons, List.cons_append, List.map_map, Function.comp_def, runAll,
      play_bind, hfirst, hsecond, hrest, play_pure]
  · rw [← hline]
    exact hoff

end Request

/-- A bus whose numbers are in range is opened on the node that they name. -/
theorem SpiBus.value_openBus {bus select : UInt8} {node : SpiNode}
    (h : nodeOf bus select = .ok node) (clock : Nat) (board : Board) :
    (openBus bus select clock board).value = ((openNode node clock).run board).1 := by
  unfold openBus
  rw [h]
  rfl

/-- A text that is accepted describes a run that succeeds. Over the fresh chip it asks for, a
descriptor starts, its channels are set up, every question is answered as configured, and the
shutdown floats all channels and gives back the bus and the line, if there is one. A bus of a board
is opened on the node that the text names. -/
theorem Config.run_of_parse {text : String} {config : Config}
    (h : Config.parse text = .ok config) (asked : List Inquiry) :
    (∃ last : Session Simulation,
      play (Request.runAll none (Request.life (Monitor.descriptor config)
        (.setUp config.channels :: asked.map Inquiry.operation)))
          (.start (CommandLine.simulation config)) =
        ((none, .ok .done :: .ok .done ::
          (asked.map (fun inquiry ↦ .ok (inquiry.answer config.channels)) ++ [.ok .done])), last) ∧
      (∀ channel, (last.link.chip.file.channel channel).function = .highZ) ∧
      last.link.chip.released = true ∧
      last.link.line = if config.enable.isSome then ⟨[.high, .highZ], true⟩ else .fresh) ∧
    SpiBus.nodeOf config.spi.bus config.spi.select = .ok ⟨config.spi.bus, config.spi.select⟩ ∧
    ∀ clock board, (SpiBus.openBus config.spi.bus config.spi.select clock board).value =
      ((SpiBus.openNode ⟨config.spi.bus, config.spi.select⟩ clock).run board).1 := by
  have hkept := kept_of_parse h
  have hstrapped : config.device.chip ≤ maxChip := UInt8.le_iff_toNat_le.mpr (hkept .chip)
  have hbus : ¬ config.spi.bus > 1 := UInt8.not_lt.mpr (UInt8.le_iff_toNat_le.mpr (hkept .bus))
  have hselect : ¬ config.spi.select > 2 :=
    UInt8.not_lt.mpr (UInt8.le_iff_toNat_le.mpr (hkept .select))
  have hnode : SpiBus.nodeOf config.spi.bus config.spi.select =
      .ok ⟨config.spi.bus, config.spi.select⟩ := by
    rw [SpiBus.nodeOf, if_neg hbus, if_neg hselect]
  obtain ⟨panel, last, hrun, hoff⟩ := Request.runAll_configured config hstrapped asked
  have hfloated : ∀ channel, (last.link.chip.file.channel channel).function = .highZ := by
    intro channel
    rw [← RegisterFile.channel_panel, hoff.panel, Panel.channel_floated,
      ChannelState.function_withFunction]
  exact ⟨⟨last, hrun, hfloated, hoff.released, hoff.line⟩, hnode, SpiBus.value_openBus hnode⟩

namespace Config

/-- A text with an enable line that leaves the rest of the bus and of the log to the defaults. -/
def sketch : String :=
  "[device]\nchip_address = 2\n[spi]\nbus = 1\n[enable]\npin = 25\n[channels]\n" ++
    "functions = [\"output\", \"input\", \"high_z\", \"output\"]\n[monitor]\n[logging]\n"

def sketched : Config where
  device := ⟨true, 2⟩
  spi := ⟨1, 0, 1000000⟩
  enable := some ⟨25⟩
  channels := ⟨#v[.output, .input, .highZ, .output], Vector.replicate 4 .lowest⟩
  monitor := ⟨.simulated, 500⟩
  logging := ⟨"info", ""⟩

/-- Two questions and a look between setup and shutdown. -/
theorem run_of_sketch :
    Config.parse sketch = .ok sketched ∧
      (∃ last : Session Simulation,
        play (Request.runAll none (Request.life (Monitor.descriptor sketched)
          (.setUp sketched.channels ::
            [Inquiry.function 1, .limit 3, .snapshot].map Inquiry.operation)))
            (.start (CommandLine.simulation sketched)) =
          ((none, [.ok .done, .ok .done, .ok (.function .input), .ok (.limit .milliamps130),
            .ok (.snapshot ⟨Vector.replicate 4 false, ⟨0, 0, 0, 0⟩⟩), .ok .done]), last) ∧
        last.link.line = ⟨[.high, .highZ], true⟩) ∧
      SpiBus.nodeOf 1 0 = .ok ⟨1, 0⟩ := by
  have hparse : Config.parse sketch = .ok sketched := by decide +kernel
  obtain ⟨⟨last, hrun, -, -, hline⟩, hnode, -⟩ :=
    run_of_parse hparse [.function 1, .limit 3, .snapshot]
  exact ⟨hparse, ⟨last, hrun, hline⟩, hnode⟩

end Config

end QuadPort
