import QuadPort.Proofs.Lifecycle
import QuadPort.Proofs.Simulator.Operation

/-!
# Bringing up the simulated chip

A bring-up that succeeds leaves a simulator that is ready for the descriptor, with every
channel in high impedance at the lowest limit and no fault latched. It does succeed when
the chip is strapped and wired as the descriptor says and nothing was given back before.
-/

namespace QuadPort

open Conversation Register Channel

/-- The channel that a bring-up leaves: its latch and its pin stay as they are. -/
def ChannelState.prepared (state : ChannelState) : ChannelState :=
  { state with isInput := true, mode := .pushPull, limit := .lowest }

def Panel.prepared (panel : Panel) : Panel where
  channels := panel.channels.map ChannelState.prepared
  faults := ⟨0, 0, 0, 0⟩

/-- A change made to each of the four channels, one after the other. -/
theorem Panel.foldl_update_each (panel : Panel) (change : Fin 4 → ChannelState → ChannelState) :
    [0, 1, 2, 3].foldl (fun panel channel ↦ panel.update channel (change channel)) panel =
      { panel with
        channels := Vector.ofFn fun channel ↦ change channel (panel.channel channel) } := by
  apply Panel.ext
  · apply Vector.ext
    intro index hindex
    simp only [List.foldl_cons, List.foldl_nil, Panel.getElem_update _ _ _ hindex,
      Vector.getElem_ofFn]
    have hcases : index = 0 ∨ index = 1 ∨ index = 2 ∨ index = 3 := by omega
    rcases hcases with rfl | rfl | rfl | rfl <;> rfl
  · rfl

/-- The same change made to each of the four channels. -/
theorem Panel.foldl_update (panel : Panel) (change : ChannelState → ChannelState) :
    [0, 1, 2, 3].foldl (fun panel channel ↦ panel.update channel change) panel =
      { panel with channels := panel.channels.map change } := by
  have hchannels : Vector.ofFn (fun channel ↦ change (panel.channel channel)) =
      panel.channels.map change := by
    apply Vector.ext
    intro index hindex
    rw [Vector.getElem_ofFn, Vector.getElem_map]
    rfl
  rw [Panel.foldl_update_each panel fun _ ↦ change, hchannels]

namespace Script.Shows

/-- The same change made to one channel after the other. -/
theorem forM {step : UInt8 → Script Unit} {change : ChannelState → ChannelState}
    (h : ∀ channel file, Shows (step (Panel.byte channel)) file ()
      (file.panel.update channel change)) (channels : List (Fin 4)) (file : RegisterFile) :
    Shows ((channels.map Panel.byte).forM step) file ()
      (channels.foldl (fun panel channel ↦ panel.update channel change) file.panel) := by
  induction channels generalizing file with
  | nil => exact .pure () rfl
  | cons channel channels ih =>
    refine (h channel file).bind fun after hafter ↦ ?_
    rw [List.foldl_cons, ← hafter]
    exact ih after

theorem prepareChannel (channel : Fin 4) (file : RegisterFile) :
    Shows (prepareChannel (Panel.byte channel)) file ()
      (file.panel.update channel ChannelState.prepared) := by
  refine (setFunction channel file .highZ).bind fun after hafter ↦ ?_
  have hlimit := setLimit channel after .lowest
  rw [hafter, Panel.update_update] at hlimit
  exact hlimit

theorem reportCleared (faults : LatchedFaults) (file : RegisterFile) :
    Shows (reportCleared faults) file () file.panel := by
  unfold Script.reportCleared
  split
  · exact .report _ _ _ rfl
  · exact .pure () rfl

theorem prepare (file : RegisterFile) : Shows prepare file () file.panel.prepared := by
  refine (readFaults file).bind fun first hfirst ↦ ?_
  refine (reportCleared file.panel.faults first).bind fun second hsecond ↦ ?_
  have hall := forM prepareChannel [0, 1, 2, 3] second
  rw [hsecond, hfirst, Panel.foldl_update] at hall
  exact hall

end Script.Shows

/-! ## Over the simulation -/

/-- The chip is ready for the descriptor and shows the panel, and the line is as given. -/
structure Simulation.Shows (device : Device) (panel : Panel) (line : SimulatedLine)
    (simulation : Simulation) : Prop where
  ready : Simulator.Ready device simulation.chip
  panel : simulation.chip.file.panel = panel
  line : simulation.line = line

section Simulation

variable {α : Type} {device : Device} {panel : Panel} {line : SimulatedLine}
  {session : Session Simulation}

/-- A script that shows a value on every file with the panel comes to it over the simulation. -/
theorem Script.enact_shows {script : Script α} {value : α} {last : Panel}
    (h : session.link.Shows device panel line)
    (hscript : ∀ file : RegisterFile, file.panel = panel → script.Shows file value last) :
    ∃ after, enact (script.run device) session = (.ok value, after) ∧
      after.link.Shows device last line := by
  obtain ⟨hready, hpanel, hline⟩ := h
  obtain ⟨hresult, hlink⟩ := enact_run script session hready
  obtain ⟨hvalue, hfile⟩ := serve_apply script session.link.chip
  obtain ⟨hok, hlast⟩ := hscript session.link.chip.file hpanel
  refine ⟨(enact (script.run device) session).2, Prod.ext ?_ rfl, ?_⟩
  · calc
      (enact (script.run device) session).1 = (script.serve session.link.chip).1 := hresult
      _ = (script.apply session.link.chip.file).1 := hvalue
      _ = .ok value := hok
  · rw [hlink]
    refine ⟨ready_serve script hready, ?_, hline⟩
    calc
      (script.serve session.link.chip).2.file.panel =
          (script.apply session.link.chip.file).2.panel := congrArg _ hfile
      _ = last := hlast

/-- Driving the line of a simulation adds to its history unless it was given back. -/
theorem play_setLine_eq (level : LineLevel) (hline : session.link.line.released = false) :
    ∃ after, play (setLine level) session = (.ok (), after) ∧
      after.link =
        { session.link with line := ⟨session.link.line.history ++ [level], false⟩ } := by
  have hset : session.link.line.set level =
      (.ok (), ⟨session.link.line.history ++ [level], false⟩) := by
    simp [SimulatedLine.set, hline]
  have hanswer : Link.setLine level session.link =
      ⟨.ok (), [],
        { session.link with line := ⟨session.link.line.history ++ [level], false⟩ }⟩ := by
    simp only [Link.setLine, hset]
  simp only [setLine, play_bind, play_get, hanswer]
  exact ⟨_, rfl, rfl⟩

theorem Simulation.Shows.setLine (level : LineLevel) (h : session.link.Shows device panel line)
    (hline : line.released = false) :
    ∃ after, play (setLine level) session = (.ok (), after) ∧
      after.link.Shows device panel ⟨line.history ++ [level], false⟩ := by
  obtain ⟨hready, hpanel, rfl⟩ := h
  obtain ⟨after, hset, hafter⟩ := play_setLine_eq level hline
  refine ⟨after, hset, ?_⟩
  rw [hafter]
  exact ⟨hready, hpanel, rfl⟩

end Simulation

namespace Device

variable {device : Device}

theorem chip_setLine (level : LineLevel) (session : Session Simulation) :
    (play (setLine level) session).2.link.chip = session.link.chip := by
  change ((Link.setLine level session.link : Answer Simulation _).state).chip = _
  unfold Link.setLine
  rfl

/-- A bus that was given back carries no access. -/
theorem enact_run_released {α : Type} (access : Access) {next : UInt8 → Script α}
    {session : Session Simulation} (haddress : access.address ≤ maxAddress)
    (hfailure : session.link.chip.failure = none) (hreleased : session.link.chip.released = true) :
    (enact ((Script.ask access next).run device) session).1 =
      .error (.transport (.spi "bus already released")) := by
  obtain ⟨scratch, log, hperform⟩ := Access.enact_perform device access session haddress
  have hreply : (Link.transfer (access.frame device) true session.link).value =
      ⟨access.frame device, .error (.spi "bus already released")⟩ := by
    change (session.link.chip.transfer (access.frame device)).value = _
    simp only [Simulator.transfer, hfailure, hreleased, if_true]
    rfl
  rw [Script.run, enact_bind, hperform, hreply]
  rfl

/-- What a script or a bring-up leaves of a chip when it succeeds. -/
structure Prepared (device : Device) (before after : Simulator) : Prop where
  ready : Simulator.Ready device after
  panel : after.file.panel = before.file.panel.prepared

/-- A chip is prepared whenever its bus was not given back. -/
theorem enact_prepare_shows {panel : Panel} {line : SimulatedLine} {session : Session Simulation}
    (h : session.link.Shows device panel line) :
    ∃ after, enact (Script.prepare.run device) session = (.ok (), after) ∧
      after.link.Shows device panel.prepared line :=
  Script.enact_shows h fun file hpanel ↦ hpanel ▸ Script.Shows.prepare file

theorem prepared_of_ok (session : Session Simulation) (hstrapped : device.chip ≤ maxChip)
    (hmatches : Simulator.Matches device session.link.chip)
    (hok : (enact (Script.prepare.run device) session).1 = .ok ()) :
    Prepared device session.link.chip
      (enact (Script.prepare.run device) session).2.link.chip := by
  cases hreleased : session.link.chip.released with
  | false =>
    have hshows : session.link.Shows device session.link.chip.file.panel session.link.line :=
      ⟨⟨hmatches, hstrapped, hreleased⟩, rfl, rfl⟩
    obtain ⟨after, hprepare, hafter⟩ := enact_prepare_shows hshows
    rw [hprepare]
    exact ⟨hafter.ready, hafter.panel⟩
  | true =>
    have hfailed : (enact (Script.prepare.run device) session).1 =
        .error (.transport (.spi "bus already released")) :=
      enact_run_released (.read Name.overload.address) (by decide) hmatches.failure hreleased
    cases hfailed.symm.trans hok

/-- A bring-up that succeeds over the simulation has prepared the chip. -/
theorem prepared_of_bringUp (session : Session Simulation)
    (hmatches : Simulator.Matches device session.link.chip)
    (hok : (enact device.bringUp session).1 = .ok ()) :
    Prepared device session.link.chip (enact device.bringUp session).2.link.chip := by
  rw [bringUp_eq] at hok ⊢
  by_cases hchip : maxChip < device.chip
  · rw [if_pos hchip] at hok
    cases hok
  · rw [if_neg hchip] at hok ⊢
    have hstrapped := UInt8.not_lt.mp hchip
    cases hline : device.hasLine with
    | false =>
      rw [hline] at hok
      exact prepared_of_ok session hstrapped hmatches hok
    | true =>
      rw [hline, if_pos rfl, enact_bind, enact_relay] at hok
      rw [if_pos rfl, enact_bind, enact_relay]
      have hsame := chip_setLine .high session
      generalize play (setLine .high) session = answer at *
      obtain ⟨result, after⟩ := answer
      cases result with
      | error fault => cases hok
      | ok =>
        have hprepared := prepared_of_ok after hstrapped (hsame ▸ hmatches) hok
        simp only at hsame
        rw [← hsame]
        exact hprepared

/-- A start that succeeds over the simulation has prepared the chip. -/
theorem prepared_of_start {session : Session Simulation}
    (hmatches : Simulator.Matches device session.link.chip)
    (hok : (enact device.start session).1 = .ok ()) :
    Prepared device session.link.chip (enact device.start session).2.link.chip := by
  have hstart := enact_start device session
  have hprepared := fun hbringUp ↦
    prepared_of_bringUp { session with scratch := .zero } hmatches hbringUp
  cases hbringUp : enact device.bringUp { session with scratch := .zero } with
  | mk result after =>
    rw [hbringUp] at hstart hprepared
    cases result with
    | error error =>
      obtain ⟨log, hstart⟩ := hstart
      rw [hstart] at hok
      cases hok
    | ok =>
      obtain ⟨log, hstart⟩ := hstart
      rw [hstart]
      exact hprepared rfl

/-- A start over a simulation on which nothing was given back succeeds and prepares the chip. -/
theorem enact_start_shows {panel : Panel} {line : SimulatedLine} {session : Session Simulation}
    (h : session.link.Shows device panel line) (hline : line.released = false) :
    ∃ after, enact device.start session = (.ok (), after) ∧
      after.link.Shows device panel.prepared
        (if device.hasLine then ⟨line.history ++ [.high], false⟩ else line) := by
  have hcleared : { session with scratch := .zero : Session Simulation }.link.Shows
      device panel line := h
  have hbringUp : ∃ after,
      enact device.bringUp { session with scratch := .zero } = (.ok (), after) ∧
        after.link.Shows device panel.prepared
          (if device.hasLine then ⟨line.history ++ [.high], false⟩ else line) := by
    rw [bringUp_eq, if_neg (UInt8.not_lt.mpr h.ready.strapped)]
    split
    · obtain ⟨driven, hdrive, hdriven⟩ := hcleared.setLine .high hline
      rw [enact_bind, enact_relay, hdrive]
      exact enact_prepare_shows hdriven
    · exact enact_prepare_shows hcleared
  obtain ⟨after, henact, hafter⟩ := hbringUp
  have hstart := enact_start device session
  rw [henact] at hstart
  obtain ⟨log, hstart⟩ := hstart
  exact ⟨_, hstart, hafter.ready, hafter.panel, hafter.line⟩

/-- A start over a simulation on which nothing was given back succeeds. -/
theorem start_succeeds {session : Session Simulation}
    (hready : Simulator.Ready device session.link.chip)
    (hline : session.link.line.released = false) :
    (enact device.start session).1 = .ok () := by
  obtain ⟨after, hstart, -⟩ := enact_start_shows ⟨hready, rfl, rfl⟩ hline
  rw [hstart]

end Device

end QuadPort
