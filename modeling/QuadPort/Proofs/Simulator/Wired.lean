import QuadPort.Proofs.Script
import QuadPort.Proofs.Simulator.RegisterFile

/-!
# An access on a chip in any state

A chip that is set up for a descriptor may be in any state: a failure may be planted in it, its
bus may have been given back, and its next checksum may be corrupted. It refuses the frame of an
access and changes no register, or it carries the access out and answers with the value. A
corrupted checksum makes the descriptor reject the answer but does not undo the access.
-/

namespace QuadPort

open Register

/-- What an exchange did to the registers: nothing if the transfer failed, and otherwise what
its access does, with the value in the second byte of the response. -/
def Exchange.Did (exchange : Exchange) (before after : RegisterFile) : Prop :=
  match exchange.reply.result with
  | .ok () => after = (before.access exchange.access).2 ∧
      exchange.reply.buffer[1]? = some (before.access exchange.access).1
  | .error _ => after = before

namespace Simulator

variable {device : Device} {simulator : Simulator}

structure Wired (device : Device) (simulator : Simulator) : Prop where
  strapped : device.chip ≤ maxChip
  chip : simulator.chip = device.chip
  checked : simulator.checked = device.checked

theorem transfer_failing {message : String} (h : simulator.failure = some message)
    (buffer : List UInt8) : simulator.transfer buffer =
      { simulator.counted with failure := none }.refuse buffer message := by
  unfold transfer
  rw [h]
  rfl

theorem transfer_released (hfailure : simulator.failure = none) (h : simulator.released = true)
    (buffer : List UInt8) :
    simulator.transfer buffer = simulator.counted.refuse buffer "bus already released" := by
  cases simulator
  cases hfailure
  cases h
  rfl

theorem Wired.read (h : Wired device simulator) (address : UInt8) :
    Wired device (simulator.read address).2 := by
  unfold Simulator.read
  split
  · exact h
  · split
    · exact ⟨h.strapped, h.chip, h.checked⟩
    · exact h

theorem Wired.access (h : Wired device simulator) (access : Access) :
    Wired device (simulator.access access).2 := by
  have hcounted : Wired device simulator.counted := ⟨h.strapped, h.chip, h.checked⟩
  cases access with
  | read address => exact hcounted.read address
  | write address value => exact ⟨h.strapped, h.chip, h.checked⟩

/-- The frame of an access that no failure keeps from the chip. -/
theorem transfer_served {access : Access} (h : Wired device simulator)
    (haddress : access.address ≤ maxAddress) (hfailure : simulator.failure = none)
    (hreleased : simulator.released = false) :
    ∃ check log after, simulator.transfer (access.frame device) =
        ⟨⟨0 :: (simulator.file.access access).1 :: check, .ok ()⟩, log, after⟩ ∧
      Wired device after ∧ after.file = (simulator.file.access access).2 := by
  have hown : Frame.chipOf (access.command device) = simulator.chip :=
    (Access.chipOf_command h.strapped haddress).trans h.chip.symm
  obtain ⟨log, hserve⟩ := serve_command simulator h.strapped haddress
  obtain ⟨hvalue, hfile⟩ := RegisterFile.access_eq simulator access
  have hwired := h.access access
  cases hdevice : device.checked with
  | false =>
    have hframe : access.frame device = [access.command device, access.data] := by
      simp [Access.frame, hdevice]
    refine ⟨[], log, _, ?_, hwired, hfile⟩
    rw [hframe, transfer_plain hfailure hreleased (h.checked.trans hdevice) hown, hserve, hvalue]
  | true =>
    have hframe : access.frame device = [access.command device, access.data,
        Checksum.ofRequest (access.command device) access.data] := by
      simp [Access.frame, hdevice]
    have hintact (sum : UInt8) : (sum == sum) = true := beq_self_eq_true sum
    rw [hframe, transfer_own hfailure hreleased (h.checked.trans hdevice) _ hown, hintact, hserve,
      hvalue]
    exact ⟨_, _, _, rfl, ⟨hwired.strapped, hwired.chip, hwired.checked⟩, hfile⟩

/-- The frame of an access does nothing or what the access does. -/
theorem transfer_did {access : Access} (h : Wired device simulator)
    (haddress : access.address ≤ maxAddress) :
    ∃ reply log after, simulator.transfer (access.frame device) = ⟨reply, log, after⟩ ∧
      Wired device after ∧ Exchange.Did ⟨access, reply⟩ simulator.file after.file := by
  have hcounted : Wired device simulator.counted := ⟨h.strapped, h.chip, h.checked⟩
  cases hfailure : simulator.failure with
  | some message =>
    rw [transfer_failing hfailure]
    exact ⟨_, _, _, rfl, ⟨h.strapped, h.chip, h.checked⟩, rfl⟩
  | none =>
    cases hreleased : simulator.released with
    | true =>
      rw [transfer_released hfailure hreleased]
      exact ⟨_, _, _, rfl, hcounted, rfl⟩
    | false =>
      obtain ⟨check, log, after, htransfer, hwired, hfile⟩ :=
        transfer_served h haddress hfailure hreleased
      exact ⟨_, log, after, htransfer, hwired, hfile, rfl⟩

end Simulator

end QuadPort
