import QuadPort.Proofs.Simulator.Panel
import QuadPort.Proofs.Simulator.Tasks

/-!
# Tasks that turn no output on

The tasks that float a channel and those of a bring-up never turn an input into an output and
never change an output latch. Below is also what they leave behind: a bring-up a byte in every
register, and an attempt to float a channel a direction that depends on its result alone.
-/

namespace QuadPort

open Register Channel

namespace RegisterFile

/-! ## Quiet tasks -/

/-- No output latch has changed and no input has become an output. -/
def Quiet (before after : RegisterFile) : Prop :=
  ∀ channel : Fin 4, (after.channel channel).latch = (before.channel channel).latch ∧
    ((before.channel channel).isInput → (after.channel channel).isInput)

variable {before after : RegisterFile}

theorem Quiet.refl (file : RegisterFile) : Quiet file file :=
  fun _ ↦ ⟨rfl, id⟩

/-- Latches and directions are bits of one register. -/
theorem Quiet.of_get (h : after.get Name.setOut.address = before.get Name.setOut.address) :
    Quiet before after := by
  intro channel
  simp only [RegisterFile.channel, h]
  exact ⟨trivial, id⟩

theorem quiet_afterRead {address : UInt8} (haddress : address ≤ maxAddress) (file : RegisterFile) :
    Quiet file (file.afterRead address) := by
  apply Quiet.of_get
  rw [get_afterRead haddress (by decide), if_neg]
  rintro ⟨rfl, hrange, -⟩
  exact absurd hrange (by decide)

end RegisterFile

namespace Task

open RegisterFile

/-- A task that a register file of whatever content does not notice on its outputs. -/
def Quiet (task : Task) : Prop :=
  ∀ file : RegisterFile, RegisterFile.Quiet file (file.done task)

theorem plain_mode (channel : UInt8) (mode : OutputMode) : (update (.mode channel mode)).Plain := by
  change Name.configOutput.address ≤ maxAddress ∧ Ordinary Name.configOutput.address
  decide

theorem plain_direction (channel : UInt8) (function : Function) :
    (update (.direction channel function)).Plain := by
  change Name.setOut.address ≤ maxAddress ∧ Ordinary Name.setOut.address
  decide

theorem plain_limit (channel : UInt8) (limit : CurrentLimit) :
    (update (.limit channel limit)).Plain := by
  change Name.configLimit.address ≤ maxAddress ∧ Ordinary Name.configLimit.address
  decide

theorem plain_latch (channel : UInt8) (high : Bool) : (update (.latch channel high)).Plain := by
  change Name.setOut.address ≤ maxAddress ∧ Ordinary Name.setOut.address
  decide

/-- A task on another register than that of latches and directions. -/
theorem quiet_of_address_ne {task : Task} (h : task.Plain)
    (hne : task.address ≠ Name.setOut.address) : task.Quiet := by
  intro file
  apply Quiet.of_get
  rw [get_done h (by decide), if_neg hne]

theorem quiet_direction {channel : UInt8} (hchannel : channel < channelCount) :
    (update (.direction channel .highZ)).Quiet := by
  intro file other
  have haddress : Name.setOut.address ≤ maxAddress := by decide
  have hsame : (update (.direction channel .highZ)).address = Name.setOut.address := rfl
  have hget := get_done (plain_direction channel .highZ) haddress file
  rw [if_pos hsame] at hget
  have hunit := bit_unit (add_four_lt hchannel)
  have hlatch : (other : Nat) ≠ (channel + 4).toNat := by
    rw [toNat_add_four hchannel]
    omega
  have hbits (place : Nat) : bit (byte (file.get Name.setOut.address)
      (update (.direction channel .highZ))) place =
        if place = (channel + 4).toNat then true else bit (file.get Name.setOut.address) place := by
    rw [byte, Update.bit_apply]
    simp only [Update.direction, Function.direction, hunit, decide_eq_true_eq]
    split <;> simp_all
  simp only [RegisterFile.channel, hget, hbits, if_neg hlatch, true_and]
  intro hinput
  split
  · rfl
  · exact hinput

/-- The steps of quiet tasks are quiet. -/
theorem Step.quiet {tasks : List Task} {before after : RegisterFile} (h : Step tasks before after)
    (htasks : ∀ task ∈ tasks, task.Plain ∧ task.Quiet) : RegisterFile.Quiet before after := by
  rcases h with rfl | ⟨task, hmem, rfl | rfl⟩
  · exact .refl _
  · exact quiet_afterRead (htasks task hmem).1.address_le before
  · exact (htasks task hmem).2 before

theorem quiet_floating {channel : UInt8} (hchannel : channel < channelCount) :
    ∀ task ∈ (Update.function channel .highZ).map update, task.Plain ∧ task.Quiet := by
  have hmode := plain_mode channel .pushPull
  have hne : Name.configOutput.address ≠ Name.setOut.address := by decide
  have htasks : (Update.function channel .highZ).map update =
      [update (.mode channel .pushPull), update (.direction channel .highZ)] := rfl
  rw [htasks]
  refine List.forall_mem_cons.mpr ⟨⟨hmode, quiet_of_address_ne hmode hne⟩, ?_⟩
  exact List.forall_mem_singleton.mpr ⟨plain_direction channel .highZ, quiet_direction hchannel⟩

theorem quiet_prepare : ∀ task ∈ prepare, task.Plain ∧ task.Quiet := by
  refine List.forall_mem_append.mpr ⟨?_, ?_⟩
  · have hlatched : ∀ name ∈ Name.latched, name.address ≤ maxAddress := by decide
    refine List.forall_mem_map.mpr fun name hmem ↦ ⟨hlatched name hmem, fun file ↦ ?_⟩
    exact quiet_afterRead (hlatched name hmem) file
  · intro task hmem
    obtain ⟨channel, hchannel, htask⟩ := List.mem_flatMap.mp hmem
    rw [prepareChannel, List.map_append] at htask
    rcases List.mem_append.mp htask with hfloating | hlimit
    · exact quiet_floating (lt_of_mem_channels channel hchannel) task hfloating
    · rw [List.mem_singleton.mp hlimit]
      have hplain := plain_limit channel .lowest
      have hne : Name.configLimit.address ≠ Name.setOut.address := by decide
      exact ⟨hplain, quiet_of_address_ne hplain hne⟩

end Task

namespace RegisterFile

/-! ## What bring-up leaves -/

def preparedByte (address current : UInt8) : UInt8 :=
  if address = Name.setOut.address then 0xF0 ||| (current &&& 0x0F)
  else if address = Name.configOutput.address then 0xFF
  else if address = Name.configLimit.address then 0x55
  else if isLatched address then 0
  else current

def preparing (address : UInt8) : List Task :=
  if address = Name.setOut.address then
    channels.map fun channel ↦ .update (.direction channel .highZ)
  else if address = Name.configOutput.address then
    channels.map fun channel ↦ .update (.mode channel .pushPull)
  else if address = Name.configLimit.address then
    channels.map fun channel ↦ .update (.limit channel .lowest)
  else if isLatched address then [.read address]
  else []

theorem filter_prepare {address : UInt8} (h : address ≤ maxAddress) :
    (Task.prepare.filter fun task ↦ task.address = address) = preparing address := by
  have hall : ∀ address : Fin 32,
      (Task.prepare.filter fun task ↦ task.address = UInt8.ofNat address) =
        preparing (UInt8.ofNat address) := by
    decide +kernel
  exact of_forall_fin (P := fun address ↦
    (Task.prepare.filter fun task ↦ task.address = address) = preparing address) hall
    (toNat_lt_of_le_maxAddress h)

theorem foldl_preparing (address current : UInt8) :
    (preparing address).foldl Task.byte current = preparedByte address current := by
  have hall : ∀ name ∈ [Name.setOut, .configOutput, .configLimit], ∀ current : Fin 256,
      (preparing name.address).foldl Task.byte (UInt8.ofNat current) =
        preparedByte name.address (UInt8.ofNat current) := by
    decide +kernel
  have hshared (name : Name) (hmem : name ∈ [Name.setOut, .configOutput, .configLimit]) :
      (preparing name.address).foldl Task.byte current = preparedByte name.address current :=
    of_forall_fin (P := fun current ↦
      (preparing name.address).foldl Task.byte current = preparedByte name.address current)
      (hall name hmem) current.toNat_lt
  by_cases hsetOut : address = Name.setOut.address
  · rw [hsetOut]
    exact hshared .setOut (by decide)
  by_cases hmodes : address = Name.configOutput.address
  · rw [hmodes]
    exact hshared .configOutput (by decide)
  by_cases hlimits : address = Name.configLimit.address
  · rw [hlimits]
    exact hshared .configLimit (by decide)
  simp only [preparing, preparedByte, if_neg hsetOut, if_neg hmodes, if_neg hlimits]
  split
  · rename_i hlatched
    exact if_pos ((isLatched_iff address).mp hlatched)
  · rfl

/-- What a bring-up leaves in the registers. -/
theorem get_prepare {address : UInt8} (h : address ≤ maxAddress) (file : RegisterFile) :
    (file.line Task.prepare).get address = preparedByte address (file.get address) := by
  rw [get_line (fun task hmem ↦ (Task.quiet_prepare task hmem).1) h, filter_prepare h,
    foldl_preparing]

/-- Once all channels are inputs the level register shows the field side. -/
theorem level_prepare (file : RegisterFile) :
    (file.line Task.prepare).level = file.inputs &&& 0x0F := by
  have hmask : ∀ place < 8, bit 0x0F place = decide (place < 4) := by decide
  have hhigh : ∀ place < 8, bit 0xF0 place = decide (4 ≤ place) := by decide
  have haddress : Name.setOut.address ≤ maxAddress := by decide
  have hsetOut := get_prepare haddress file
  rw [preparedByte, if_pos rfl] at hsetOut
  apply ext_bit
  intro place hplace
  rw [bit_level _ hplace, hsetOut, inputs_line, bit_and, hmask place hplace]
  by_cases hlow : place < 4
  · have hdirection :
        bit (0xF0 ||| (file.get Name.setOut.address &&& 0x0F)) (place + 4) = true := by
      rw [bit_or, hhigh (place + 4) (by omega)]
      simp
    simp [hdirection, hlow]
  · simp [hlow]

/-! ## One channel after an update -/

section Channel

variable (file : RegisterFile) (channel other : Fin 4)

theorem channel_done_mode (mode : OutputMode) :
    (file.done (.update (.mode (Panel.byte channel) mode))).channel other =
      if channel = other then { file.channel other with mode } else file.channel other := by
  rw [done_update (Task.plain_mode _ mode).2]
  exact channel_of_panel (panel_setMode file channel mode) other

theorem channel_done_direction (function : Function) :
    (file.done (.update (.direction (Panel.byte channel) function))).channel other =
      if channel = other then { file.channel other with isInput := function ≠ .output }
      else file.channel other := by
  rw [done_update (Task.plain_direction _ function).2]
  exact channel_of_panel (panel_setDirection file channel function) other

theorem channel_done_limit (limit : CurrentLimit) :
    (file.done (.update (.limit (Panel.byte channel) limit))).channel other =
      if channel = other then { file.channel other with limit } else file.channel other := by
  rw [done_update (Task.plain_limit _ limit).2]
  exact channel_of_panel (panel_setLimit file channel limit) other

theorem channel_done_latch (high : Bool) :
    (file.done (.update (.latch (Panel.byte channel) high))).channel other =
      if channel = other then { file.channel other with latch := high }
      else file.channel other := by
  rw [done_update (Task.plain_latch _ high).2]
  exact channel_of_panel (panel_setLatch file channel high) other

end Channel

/-! ## What floating a channel leaves -/

/-- A channel after an attempt to float it: it floats, or it has the direction it had. -/
def Settled (channel : Fin 4) (before after : RegisterFile) : Except Error Unit → Prop
  | .ok () => (after.channel channel).isInput ∧ (after.channel channel).mode = .pushPull
  | .error _ => (after.channel channel).isInput = (before.channel channel).isInput

theorem Settled.congr {channel : Fin 4} {before before' after after' : RegisterFile}
    {result : Except Error Unit} (h : Settled channel before after result)
    (hbefore : before'.channel channel = before.channel channel)
    (hafter : after'.channel channel = after.channel channel) :
    Settled channel before' after' result := by
  cases result <;> simpa only [Settled, hbefore, hafter] using h

/-- An attempt to float a channel settles that channel and leaves the others alone. The direction
is the last task, so an attempt that failed leaves it as it was. -/
theorem settled_of_left {channel : Fin 4} {before after : RegisterFile}
    {result : Except Error Unit}
    (h : Task.Left ((Update.function (Panel.byte channel) .highZ).map .update) before after
      result) :
    Settled channel before after result ∧
      ∀ other ≠ channel, after.channel other = before.channel other := by
  have htasks : (Update.function (Panel.byte channel) .highZ).map Task.update =
      [.update (.mode (Panel.byte channel) .pushPull),
        .update (.direction (Panel.byte channel) .highZ)] := rfl
  rw [htasks] at h
  cases result with
  | ok =>
    have hafter : after = before.line _ := h
    rw [hafter]
    refine ⟨?_, fun other hne ↦ ?_⟩
    · simp [Settled, channel_done_mode, channel_done_direction]
    · simp [channel_done_mode, channel_done_direction, hne.symm]
  | error error =>
    have hfile : after = before ∨
        after = before.done (.update (.mode (Panel.byte channel) .pushPull)) := by
      obtain ⟨front, task, back, hsplit, hafter⟩ := h
      rcases front with _ | ⟨first, _ | ⟨second, front⟩⟩
      · obtain ⟨rfl, -⟩ := List.cons.inj hsplit
        rw [Task.address, afterRead_ordinary (Task.plain_mode _ .pushPull).2, or_self] at hafter
        exact .inl hafter
      · obtain ⟨rfl, hrest⟩ := List.cons.inj hsplit
        obtain ⟨rfl, -⟩ := List.cons.inj hrest
        rw [Task.address, afterRead_ordinary (Task.plain_direction _ .highZ).2, or_self] at hafter
        exact .inr hafter
      · simp at hsplit
    rcases hfile with rfl | rfl
    · exact ⟨rfl, fun _ _ ↦ rfl⟩
    · refine ⟨?_, fun other hne ↦ ?_⟩
      · simp [Settled, channel_done_mode]
      · rw [channel_done_mode, if_neg hne.symm]

end RegisterFile

end QuadPort
