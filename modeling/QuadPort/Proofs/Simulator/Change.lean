import QuadPort.Proofs.Simulator.Disrupted
import QuadPort.Proofs.Simulator.Quiet
import QuadPort.Proofs.Simulator.SetUp

/-!
# Changes of a channel that may fail midway

A change of the function of a channel writes two registers, and between the two writes the
channel has the mode of one function and the direction of another. It still reads as one of the
two functions: the mode is written first and only tells inputs apart, so a channel that is an
output keeps being one, and a channel that is an input already has the function that was asked
for. Whatever is lost on the cable, a change leaves the old or the new, and nothing else.
-/

namespace QuadPort

open Conversation Register Channel

/-! ## Lines of updates of one channel -/

namespace Task

variable {channel : Fin 4} {tasks : List Task} {before after : RegisterFile}

/-- A plain task on an ordinary register that leaves all channels but one alone. -/
structure Local (channel : Fin 4) (task : Task) : Prop where
  plain : task.Plain
  ordinary : RegisterFile.Ordinary task.address
  others : ∀ (file : RegisterFile) (other : Fin 4), other ≠ channel →
    (file.done task).channel other = file.channel other

theorem local_mode (channel : Fin 4) (mode : OutputMode) :
    Local channel (update (.mode (Panel.byte channel) mode)) where
  plain := plain_mode _ mode
  ordinary := (plain_mode (Panel.byte channel) mode).2
  others file other hne := by rw [RegisterFile.channel_done_mode, if_neg hne.symm]

theorem local_direction (channel : Fin 4) (function : Function) :
    Local channel (update (.direction (Panel.byte channel) function)) where
  plain := plain_direction _ function
  ordinary := (plain_direction (Panel.byte channel) function).2
  others file other hne := by rw [RegisterFile.channel_done_direction, if_neg hne.symm]

theorem local_limit (channel : Fin 4) (limit : CurrentLimit) :
    Local channel (update (.limit (Panel.byte channel) limit)) where
  plain := plain_limit _ limit
  ordinary := (plain_limit (Panel.byte channel) limit).2
  others file other hne := by rw [RegisterFile.channel_done_limit, if_neg hne.symm]

theorem local_latch (channel : Fin 4) (high : Bool) :
    Local channel (update (.latch (Panel.byte channel) high)) where
  plain := plain_latch _ high
  ordinary := (plain_latch (Panel.byte channel) high).2
  others file other hne := by rw [RegisterFile.channel_done_latch, if_neg hne.symm]

theorem local_function (channel : Fin 4) (function : Function) :
    ∀ task ∈ (Update.function (Panel.byte channel) function).map update, Local channel task := by
  refine List.forall_mem_map.mpr (List.forall_mem_append.mpr ⟨?_, ?_⟩)
  · intro change hmem
    obtain ⟨mode, -, rfl⟩ := Option.map_eq_some_iff.mp (Option.mem_toList.mp hmem)
    exact local_mode channel mode
  · exact List.forall_mem_singleton.mpr (local_direction channel function)

theorem Reached.channel_ne (h : Reached tasks before after)
    (hlocal : ∀ task ∈ tasks, Local channel task) {other : Fin 4} (hne : other ≠ channel) :
    after.channel other = before.channel other := by
  induction h with
  | start => rfl
  | done _ ih =>
    rw [ih fun task hmem ↦ hlocal task (.tail _ hmem), (hlocal _ (.head _)).others _ _ hne]

/-- A channel whose function was changed up to some point has the old function or the new one. With
the mode alone an input has the new one, and an output is still an output. -/
theorem Reached.function {wanted : Function}
    (h : Reached ((Update.function (Panel.byte channel) wanted).map update) before after) :
    (after.channel channel).latch = (before.channel channel).latch ∧
      (after.channel channel).limit = (before.channel channel).limit ∧
        ((after.channel channel).function = (before.channel channel).function ∨
          (after.channel channel).function = wanted) := by
  cases wanted with
  | output =>
    have htasks : (Update.function (Panel.byte channel) .output).map update =
        [update (.direction (Panel.byte channel) .output)] := rfl
    rw [htasks, cons_iff, nil_iff] at h
    rcases h with rfl | rfl
    · exact ⟨rfl, rfl, .inl rfl⟩
    · simp [RegisterFile.channel_done_direction, ChannelState.function]
  | input | highZ =>
    rw [show (Update.function _ _).map update = [_, _] from rfl, cons_iff, cons_iff, nil_iff] at h
    rcases h with rfl | rfl | rfl
    · exact ⟨rfl, rfl, .inl rfl⟩
    · cases hinput : (before.channel channel).isInput <;>
        simp [RegisterFile.channel_done_mode, ChannelState.function, hinput]
    · simp [RegisterFile.channel_done_mode, RegisterFile.channel_done_direction,
        ChannelState.function]

end Task

/-- The whole line gives the channel its function. -/
theorem RegisterFile.channel_line_function (file : RegisterFile) (channel : Fin 4)
    (wanted : Function) :
    (file.line ((Update.function (Panel.byte channel) wanted).map .update)).channel channel =
      (file.channel channel).withFunction wanted := by
  cases wanted <;>
    simp [Update.function, Function.mode?, channel_done_mode, channel_done_direction,
      ChannelState.withFunction]

/-! ## Changes over a disrupted cable -/

/-- What a change of one channel leaves alone: the other channels, every register but those that
it writes, and the field side. -/
structure RegisterFile.Spared (channel : Fin 4) (written : List Name)
    (before after : RegisterFile) : Prop where
  channels : ∀ other ≠ channel, after.channel other = before.channel other
  registers : ∀ address ≤ maxAddress, (∀ name ∈ written, name.address ≠ address) →
    after.get address = before.get address
  inputs : after.inputs = before.inputs

/-- A change of one channel, in one register, that came to a result: the channel is as it was or
changed, and it is changed if the result is a success. -/
structure RegisterFile.Changed (channel : Fin 4) (written : Name)
    (change : ChannelState → ChannelState) (before after : RegisterFile)
    (result : Except Error Unit) : Prop where
  spared : Spared channel [written] before after
  state : after.channel channel = before.channel channel ∨
    after.channel channel = change (before.channel channel)
  done : result = .ok () → after.channel channel = change (before.channel channel)

/-- A change of the function of a channel that came to a result: the channel reads as the old or
as the wanted function, and as the wanted one if the result is a success. -/
structure Device.Refunctioned (device : Device) (channel : Fin 4) (wanted : Function)
    (before after : Simulator) (result : Except Error Unit) : Prop where
  spared : RegisterFile.Spared channel [.configOutput, .setOut] before.file after.file
  latch : (after.file.channel channel).latch = (before.file.channel channel).latch
  limit : (after.file.channel channel).limit = (before.file.channel channel).limit
  function : device.functionOf after channel = device.functionOf before channel ∨
    device.functionOf after channel = .ok wanted
  done : result = .ok () → device.functionOf after channel = .ok wanted

namespace Script

variable {device : Device} {session : Session Cable} {script : Script Unit}
  {channel : Fin 4} {written : List Name}

/-- A script of local tasks over a disrupted cable. -/
theorem enact_local {tasks : List Task} (hfollows : Follows script tasks)
    (hlocal : ∀ task ∈ tasks, Task.Local channel task)
    (hwritten : ∀ task ∈ tasks, ∃ name ∈ written, task.address = name.address)
    (h : Cable.Disrupted device session.link) :
    let after := enact (script.run device) session
    Cable.Disrupted device after.2.link ∧
      RegisterFile.Spared channel written session.link.chip.file after.2.link.chip.file ∧
      Task.Reached tasks session.link.chip.file after.2.link.chip.file ∧
      (after.1 = .ok () → after.2.link.chip.file = session.link.chip.file.line tasks) := by
  intro after
  obtain ⟨hafter, -, hreached, hok⟩ := enact_reached hfollows
    (fun task hmem ↦ ⟨(hlocal task hmem).plain, (hlocal task hmem).ordinary⟩) h
  refine ⟨hafter, ⟨fun other hne ↦ hreached.channel_ne hlocal hne, ?_, hreached.inputs_eq⟩,
    hreached, hok⟩
  intro address haddress hother
  refine hreached.get_eq (fun task hmem ↦ (hlocal task hmem).plain) haddress fun task hmem ↦ ?_
  obtain ⟨name, hname, hsame⟩ := hwritten task hmem
  rw [hsame]
  exact hother name hname

/-- A script that is one local update over a disrupted cable. -/
theorem enact_changed {update : Update} {name : Name} {change : ChannelState → ChannelState}
    (hfollows : Follows script [.update update]) (hlocal : Task.Local channel (.update update))
    (hname : update.address = name.address)
    (hchange : ∀ file : RegisterFile,
      (file.done (.update update)).channel channel = change (file.channel channel))
    (h : Cable.Disrupted device session.link) :
    let after := enact (script.run device) session
    RegisterFile.Changed channel name change session.link.chip.file after.2.link.chip.file
      after.1 := by
  intro after
  have hwritten : ∀ task ∈ [Task.update update], ∃ other ∈ [name], task.address = other.address :=
    List.forall_mem_singleton.mpr ⟨name, .head _, hname⟩
  obtain ⟨-, hspared, hreached, hok⟩ :=
    enact_local hfollows (List.forall_mem_singleton.mpr hlocal) hwritten h
  have hdone : ∀ file : RegisterFile, file = session.link.chip.file.done (.update update) →
      file.channel channel = change (session.link.chip.file.channel channel) := by
    rintro file rfl
    exact hchange _
  refine ⟨hspared, ?_, fun hsuccess ↦ hdone _ (hok hsuccess)⟩
  rw [Task.Reached.cons_iff, Task.Reached.nil_iff] at hreached
  exact hreached.imp (congrArg (RegisterFile.channel · channel)) (hdone _)

end Script

namespace Device

variable {device : Device} {session : Session Cable}

/-- A change of the function over a disrupted cable. -/
theorem refunctioned_of_disrupted (h : Cable.Disrupted device session.link) (channel : Fin 4)
    (wanted : Function) :
    let after := enact (device.setFunction (Panel.byte channel) wanted) session
    device.Refunctioned channel wanted session.link.chip after.2.link.chip after.1 := by
  intro after
  have hwritten : ∀ task ∈ (Update.function (Panel.byte channel) wanted).map Task.update,
      ∃ name ∈ [Name.configOutput, .setOut], task.address = name.address := by
    cases wanted <;>
      simp [Update.function, Function.mode?, Task.address, Update.mode, Update.direction]
  obtain ⟨hafter, hspared, hreached, hok⟩ := Script.enact_local
    (.setFunction (Panel.byte_lt channel) wanted) (Task.local_function channel wanted) hwritten h
  rw [Script.run_setFunction] at hafter hspared hreached hok
  obtain ⟨hlatch, hlimit, hfunction⟩ := hreached.function
  have hold := functionOf_eq h.wired channel
  have hnew : device.functionOf after.2.link.chip channel = _ := functionOf_eq hafter.wired channel
  refine ⟨hspared, hlatch, hlimit, ?_, fun hsuccess ↦ ?_⟩
  · rw [hold, hnew]
    exact hfunction.imp (congrArg _) (congrArg _)
  · rw [hnew, hok hsuccess, RegisterFile.channel_line_function, ChannelState.function_withFunction]

/-- A change of a channel, at the end of whatever lost transfers, lost replies and damaged
checksums make of it, leaves the other channels and registers alone. The channel has its old or its
new function, latch or limit, and the new one if the change succeeded. -/
theorem change_old_or_new (h : Cable.Disrupted device session.link) (channel : Fin 4) :
    let before := session.link.chip
    (∀ wanted,
      let after := enact (device.setFunction (Panel.byte channel) wanted) session
      device.Refunctioned channel wanted before after.2.link.chip after.1) ∧
    (∀ high,
      let after := enact (device.setLevel (Panel.byte channel) high) session
      RegisterFile.Changed channel .setOut ({ · with latch := high }) before.file
        after.2.link.chip.file after.1) ∧
    (∀ limit,
      let after := enact (device.setLimit (Panel.byte channel) limit) session
      RegisterFile.Changed channel .configLimit ({ · with limit := limit }) before.file
        after.2.link.chip.file after.1) := by
  have hchannel := Panel.byte_lt channel
  refine ⟨refunctioned_of_disrupted h channel, fun high ↦ ?_, fun limit ↦ ?_⟩
  · rw [← Script.run_setLevel]
    refine Script.enact_changed (.setLevel hchannel high) (Task.local_latch channel high) rfl
      (fun file ↦ ?_) h
    rw [RegisterFile.channel_done_latch, if_pos rfl]
  · rw [← Script.run_setLimit]
    refine Script.enact_changed (.setLimit hchannel limit) (Task.local_limit channel limit) rfl
      (fun file ↦ ?_) h
    rw [RegisterFile.channel_done_limit, if_pos rfl]

/-- A chip with two outputs on a cable that loses the reply to the first write. -/
def interrupting : Cable where
  simulation := ⟨(Simulator.fresh true 2).setRegister Name.setOut.address 0x03, .fresh⟩
  hazards := [none, some (.unanswered (.spi "lost"))]

/-- A second channel that was to float got the mode of a floating input, but it still is the output
that it was. -/
theorem interrupting_changes_mode_only :
    Cable.Disrupted ⟨true, 2, true⟩ (Session.start interrupting).link ∧
      ∃ result after,
        enact (setFunction ⟨true, 2, true⟩ (Panel.byte 1) .highZ) (.start interrupting) =
          (result, after) ∧
        Refunctioned ⟨true, 2, true⟩ 1 .highZ interrupting.chip after.link.chip result ∧
        result = .error (.transport (.spi "lost")) ∧
        (interrupting.chip.file.channel 1).mode = .highSide ∧
        (after.link.chip.file.channel 1).mode = .pushPull ∧
        functionOf ⟨true, 2, true⟩ after.link.chip 1 = .ok .output := by
  have hdisrupted : Cable.Disrupted ⟨true, 2, true⟩ (Session.start interrupting).link := by
    refine ⟨⟨by decide, rfl, rfl⟩, ?_⟩
    intro hazard hmem cause hcause
    rcases List.mem_pair.mp hmem with rfl | rfl
    · cases hcause
    · cases hcause
      trivial
  exact ⟨hdisrupted, _, _, (Prod.eta _).symm, (change_old_or_new hdisrupted 1).1 .highZ,
    by decide +kernel⟩

end Device

end QuadPort
