import QuadPort.Proofs.Simulator.Panel

/-!
# Channel operations on a panel

`Shows` says what a script comes to on a register file and what panel it leaves behind. It
composes along sequencing, so the operations on channels, the readings of the fault bytes
and the snapshot are each put together from single accesses.
-/

namespace QuadPort.Script

open Register Channel

variable {α β : Type}

/-- On the file the script succeeds with the value and leaves the panel behind. -/
def Shows (script : Script α) (file : RegisterFile) (value : α) (panel : Panel) : Prop :=
  (script.apply file).1 = .ok value ∧ (script.apply file).2.panel = panel

namespace Shows

theorem pure {file : RegisterFile} {panel : Panel} (value : α) (h : file.panel = panel) :
    Shows (pure value) file value panel :=
  ⟨rfl, h⟩

theorem report {file : RegisterFile} {panel : Panel} (level : Log.Level) (target : Log.Target)
    (message : String) (h : file.panel = panel) :
    Shows (report level target message) file () panel :=
  ⟨rfl, h⟩

/-- A script in which the second part continues from any file with the panel of the first. -/
theorem bind {script : Script α} {next : α → Script β} {file : RegisterFile} {value : α}
    {result : β} {panel last : Panel} (h : Shows script file value panel)
    (hnext : ∀ after : RegisterFile, after.panel = panel → Shows (next value) after result last) :
    Shows (script >>= next) file result last := by
  obtain ⟨hvalue, hpanel⟩ := h
  unfold Shows
  rw [apply_bind]
  cases happly : script.apply file with
  | mk outcome after =>
    rw [happly] at hvalue hpanel
    subst hvalue
    exact hnext after hpanel

theorem onChannel {script : Script α} {file : RegisterFile} {value : α} {panel : Panel}
    (channel : Fin 4) (h : Shows script file value panel) :
    Shows (onChannel (Panel.byte channel) script) file value panel := by
  rw [Script.onChannel, if_pos (Panel.byte_lt channel)]
  exact h

/-- A read of a register that no read changes. -/
theorem readRegister {address : UInt8} (h : address ≤ maxAddress)
    (hplain : ¬ (4 ≤ address ∧ address ≤ 7)) (file : RegisterFile) :
    Shows (readRegister address) file (file.look address) file.panel := by
  unfold Shows
  rw [apply_readRegister h, RegisterFile.afterRead, if_neg hplain]
  exact ⟨rfl, rfl⟩

/-- An update of a register that is stored and that no read changes. -/
theorem updateRegister {address : UInt8} (h : address ≤ maxAddress) (hstored : address ≠ 2)
    (hplain : ¬ (4 ≤ address ∧ address ≤ 7)) (mask value : UInt8) (file : RegisterFile) :
    Shows (updateRegister address mask value) file ()
      (file.set address (replace mask (file.get address) value)).panel := by
  have hread : ∀ file : RegisterFile, file.look address = file.get address ∧
      file.afterRead address = file :=
    fun file ↦ ⟨if_neg hstored, if_neg hplain⟩
  unfold Shows
  rw [apply_updateRegister h hread]
  exact ⟨rfl, rfl⟩

/-- A read of a fault register, which it clears. -/
theorem readFault (register : FaultRegister) (file : RegisterFile) :
    Shows (Script.readRegister register.name.address) file (file.panel.faults.get register)
      { file.panel with faults := file.panel.faults.set register 0 } := by
  have haddress : register.name.address ≤ maxAddress := by
    cases register <;> decide
  have hlatched : 4 ≤ register.name.address ∧ register.name.address ≤ 7 := by
    cases register <;> decide
  unfold Shows
  rw [apply_readRegister haddress, RegisterFile.afterRead, if_pos hlatched,
    RegisterFile.panel_setFault]
  refine ⟨?_, rfl⟩
  cases register <;> rfl

/-! ## One channel -/

section Channel

variable (channel : Fin 4) (file : RegisterFile)

theorem level : Shows (level (Panel.byte channel)) file
    (file.panel.channel channel).level file.panel := by
  refine .onChannel channel ((readRegister (by decide) (by decide) file).bind fun after hafter ↦ ?_)
  have hbit : bit (file.look Name.level.address) (Panel.byte channel).toNat =
      (file.panel.channel channel).level := by
    rw [Panel.toNat_byte, RegisterFile.channel_panel]
    refine (RegisterFile.bit_level file (by omega)).trans ?_
    rw [decide_eq_true channel.isLt, Bool.true_and]
    rfl
  rw [hbit]
  exact .pure _ hafter

theorem setLevel (high : Bool) : Shows (setLevel (Panel.byte channel) high) file ()
    (file.panel.update channel fun state ↦ { state with latch := high }) := by
  rw [← RegisterFile.panel_setLatch]
  exact .onChannel channel (updateRegister (by decide) (by decide) (by decide) _ _ file)

theorem setMode (mode : OutputMode) :
    Shows (Script.updateRegister Name.configOutput.address (0b11 <<< (2 * Panel.byte channel))
      (mode.bits <<< (2 * Panel.byte channel))) file ()
      (file.panel.update channel fun state ↦ { state with mode }) := by
  rw [← RegisterFile.panel_setMode]
  exact updateRegister (by decide) (by decide) (by decide) _ _ file

theorem setDirection (function : Function) :
    Shows (setDirection (Panel.byte channel) function) file ()
      (file.panel.update channel fun state ↦ { state with isInput := function ≠ .output }) := by
  rw [← RegisterFile.panel_setDirection]
  exact updateRegister (by decide) (by decide) (by decide) _ _ file

theorem setFunction (function : Function) :
    Shows (setFunction (Panel.byte channel) function) file ()
      (file.panel.update channel fun state ↦ state.withFunction function) := by
  refine .onChannel channel ?_
  cases function with
  | output =>
    refine bind (.pure () rfl) fun first hfirst ↦ ?_
    rw [← hfirst]
    exact (setDirection channel first .output).bind fun last hlast ↦ .report _ _ _ hlast
  | input =>
    refine (setMode channel file .highSide).bind fun first hfirst ↦
      (setDirection channel first .input).bind fun last hlast ↦ .report _ _ _ ?_
    rw [hlast, hfirst, Panel.update_update]
    rfl
  | highZ =>
    refine (setMode channel file .pushPull).bind fun first hfirst ↦
      (setDirection channel first .highZ).bind fun last hlast ↦ .report _ _ _ ?_
    rw [hlast, hfirst, Panel.update_update]
    rfl

theorem function : Shows (function (Panel.byte channel)) file
    (file.panel.channel channel).function file.panel := by
  refine .onChannel channel ((readRegister (by decide) (by decide) file).bind fun first hfirst ↦ ?_)
  have hdirection : bit (file.look Name.setOut.address) ((Panel.byte channel).toNat + 4) =
      (file.panel.channel channel).isInput := by
    rw [Panel.toNat_byte, RegisterFile.channel_panel]
    rfl
  rw [hdirection]
  cases hinput : (file.panel.channel channel).isInput with
  | false =>
    have hfunction : (file.panel.channel channel).function = .output := by
      rw [ChannelState.function, hinput]
      rfl
    rw [hfunction]
    exact .pure _ hfirst
  | true =>
    refine (readRegister (by decide) (by decide) first).bind fun last hlast ↦ ?_
    have hmode : OutputMode.ofBits
        (first.look Name.configOutput.address >>> (2 * Panel.byte channel)) =
          (file.panel.channel channel).mode := by
      rw [← hfirst, RegisterFile.channel_panel]
      rfl
    rw [hmode, ChannelState.function, hinput]
    exact .pure _ (hlast.trans hfirst)

theorem setLimit (limit : CurrentLimit) : Shows (setLimit (Panel.byte channel) limit) file ()
    (file.panel.update channel fun state ↦ { state with limit }) := by
  rw [← RegisterFile.panel_setLimit]
  exact .onChannel channel (updateRegister (by decide) (by decide) (by decide) _ _ file)

theorem limit : Shows (limit (Panel.byte channel)) file
    (file.panel.channel channel).limit file.panel := by
  refine .onChannel channel ((readRegister (by decide) (by decide) file).bind fun after hafter ↦ ?_)
  have hlimit : CurrentLimit.ofBits
      (file.look Name.configLimit.address >>> (2 * Panel.byte channel)) =
        (file.panel.channel channel).limit := by
    rw [RegisterFile.channel_panel]
    rfl
  rw [hlimit]
  exact .pure _ hafter

end Channel

/-! ## All channels -/

/-- Reading the fault bytes clears them and nothing else. -/
theorem readFaults (file : RegisterFile) :
    Shows readFaults file file.panel.faults file.panel.clear := by
  refine (readFault .overload file).bind fun first hfirst ↦ ?_
  refine (readFault .openWire first).bind fun second hsecond ↦ ?_
  refine (readFault .shortToSupply second).bind fun third hthird ↦ ?_
  refine (readFault .globalFault third).bind fun last hlast ↦ ?_
  rw [hthird, hsecond, hfirst] at hlast
  rw [hthird, hsecond, hfirst]
  exact .pure _ hlast

/-- A snapshot shows the four levels and the fault bytes, and clears the latter. -/
theorem snapshot (file : RegisterFile) : Shows snapshot file
    { levels := file.panel.channels.map ChannelState.level, faults := file.panel.faults }
    file.panel.clear := by
  refine (level 0 file).bind fun first hfirst ↦ ?_
  refine (level 1 first).bind fun second hsecond ↦ ?_
  refine (level 2 second).bind fun third hthird ↦ ?_
  refine (level 3 third).bind fun fourth hfourth ↦ ?_
  refine (readFaults fourth).bind fun last hlast ↦ ?_
  rw [hfourth, hthird, hsecond, hfirst] at hlast ⊢
  have hlevels : file.panel.channels.map ChannelState.level =
      #v[file.panel.channels[0].level, file.panel.channels[1].level,
        file.panel.channels[2].level, file.panel.channels[3].level] := by
    apply Vector.ext
    intro index hindex
    have hcases : index = 0 ∨ index = 1 ∨ index = 2 ∨ index = 3 := by omega
    rcases hcases with rfl | rfl | rfl | rfl <;> simp
  rw [hlevels]
  exact .pure _ hlast

end Shows

end QuadPort.Script
