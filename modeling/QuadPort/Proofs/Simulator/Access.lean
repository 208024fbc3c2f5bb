import QuadPort.Proofs.Wire.Access
import QuadPort.Simulator

/-!
# Accesses to the simulated chip

A simulator that is ready for a descriptor takes the frame of an access apart into the
access again, and its response is accepted. `transfer_frame` says so: one transfer of the
frame brings back what `access` says and leaves the simulator that it says.
-/

namespace QuadPort.Simulator

open Register

/-- The simulator uses the frames and the chip address of a descriptor, and no fault is
planted. -/
structure Matches (device : Device) (simulator : Simulator) : Prop where
  checked : simulator.checked = device.checked
  chip : simulator.chip = device.chip
  failure : simulator.failure = none
  corruption : simulator.corruption = false

structure Ready (device : Device) (simulator : Simulator) : Prop
    extends Matches device simulator where
  strapped : device.chip ≤ maxChip
  released : simulator.released = false

def counted (simulator : Simulator) : Simulator :=
  { simulator with transfers := simulator.transfers + 1 }

def access (simulator : Simulator) : Access → UInt8 × Simulator
  | .read address => simulator.counted.read address
  | .write address value => (value, simulator.counted.write address value)

variable {device : Device} {simulator : Simulator}

/-! ## Reading and writing leave the wiring alone -/

theorem Ready.setRegister (h : Ready device simulator) (address value : UInt8) :
    Ready device (simulator.setRegister address value) :=
  ⟨⟨h.checked, h.chip, h.failure, h.corruption⟩, h.strapped, h.released⟩

theorem Ready.counted (h : Ready device simulator) : Ready device simulator.counted :=
  ⟨⟨h.checked, h.chip, h.failure, h.corruption⟩, h.strapped, h.released⟩

theorem Ready.read (h : Ready device simulator) (address : UInt8) :
    Ready device (simulator.read address).2 := by
  unfold Simulator.read
  split
  · exact h
  · split
    · exact h.setRegister address 0
    · exact h

theorem Ready.write (h : Ready device simulator) (address value : UInt8) :
    Ready device (simulator.write address value) :=
  ⟨⟨h.checked, h.chip, h.failure, h.corruption⟩, h.strapped, h.released⟩

/-- An access to a simulator that is ready leaves it ready. -/
theorem Ready.access (h : Ready device simulator) (access : Access) :
    Ready device (simulator.access access).2 := by
  cases access with
  | read address => exact h.counted.read address
  | write address value => exact h.counted.write address value

/-! ## The frame of an access -/

/-- The chip takes the command byte apart into the access that it was made from. -/
theorem serve_command (simulator : Simulator) (hstrapped : device.chip ≤ maxChip)
    {access : Access} (haddress : access.address ≤ maxAddress) :
    ∃ log, simulator.counted.serve (access.command device) access.data true =
      ⟨(simulator.access access).1, log, (simulator.access access).2⟩ := by
  have hat := Access.addressOf_command hstrapped haddress
  have hkind := Access.isWrite_command device access
  cases access with
  | read address =>
    simp only [Access.address] at hat
    simp only [serve, hat, hkind, Access.isWrite]
    exact ⟨_, rfl⟩
  | write address value =>
    simp only [Access.address] at hat
    simp only [serve, hat, hkind, Access.isWrite]
    exact ⟨_, rfl⟩

/-- The response of the chip is accepted by the descriptor that it was made for. -/
theorem verdict_response (simulator : Simulator) (device : Device) (access : Access) :
    access.verdict device ⟨[0, (simulator.access access).1] ++
      if device.checked then [Checksum.ofResponse 0 (simulator.access access).1] else [],
      .ok ()⟩ = .ok (simulator.access access).1 := by
  cases access with
  | read address =>
    cases hchecked : device.checked <;> simp [Access.verdict, Frame.decode, hchecked]
  | write address value => rfl

/-- Nobody drives the response to a frame for another chip. -/
theorem transfer_other (hfailure : simulator.failure = none)
    (hreleased : simulator.released = false) {command : UInt8} {rest : List UInt8}
    (hlength : (command :: rest).length = Frame.length simulator.checked)
    (hother : Frame.chipOf command ≠ simulator.chip) :
    simulator.transfer (command :: rest) =
      { value := ⟨List.replicate (command :: rest).length 0, .ok ()⟩
        log := []
        state := simulator.counted } := by
  obtain ⟨_, _, checked, _, _, _, _, _, _, _⟩ := simulator
  cases hfailure
  cases hreleased
  match checked, rest, hlength with
  | false, [_], _ => exact if_pos hother
  | true, [_, _], _ => exact if_pos hother

/-- Without checksums the chip answers the command and the data byte. -/
theorem transfer_plain (hfailure : simulator.failure = none)
    (hreleased : simulator.released = false) (hchecked : simulator.checked = false)
    {command data : UInt8} (hown : Frame.chipOf command = simulator.chip) :
    simulator.transfer [command, data] =
      { value := ⟨[0, (simulator.counted.serve command data true).value], .ok ()⟩
        log := (simulator.counted.serve command data true).log
        state := (simulator.counted.serve command data true).state } := by
  have hforeign : ¬ Frame.chipOf command ≠ simulator.chip := not_not_intro hown
  cases simulator
  simp only at hfailure hreleased hchecked
  subst hfailure hreleased hchecked
  exact if_neg hforeign

/-- With checksums the chip compares the third byte with the checksum of the first two. -/
theorem transfer_own (hfailure : simulator.failure = none)
    (hreleased : simulator.released = false) (hchecked : simulator.checked = true)
    {command data : UInt8} (check : UInt8) (hown : Frame.chipOf command = simulator.chip) :
    simulator.transfer [command, data, check] =
      let served := simulator.counted.serve command data (Checksum.ofRequest command data == check)
      let sum := Checksum.ofResponse 0 served.value
      { value := ⟨[0, served.value, if simulator.corruption then sum ^^^ 1 else sum], .ok ()⟩
        log := served.log
        state := { served.state with corruption := false } } := by
  have hforeign : ¬ Frame.chipOf command ≠ simulator.chip := not_not_intro hown
  cases simulator
  simp only at hfailure hreleased hchecked
  subst hfailure hreleased hchecked
  exact if_neg hforeign

/-- With checksums the chip answers if the third byte is that of the first two. -/
theorem transfer_intact (hfailure : simulator.failure = none)
    (hreleased : simulator.released = false) (hcorruption : simulator.corruption = false)
    (hchecked : simulator.checked = true) {command data : UInt8}
    (hown : Frame.chipOf command = simulator.chip) :
    simulator.transfer [command, data, Checksum.ofRequest command data] =
      { value := ⟨[0, (simulator.counted.serve command data true).value,
          Checksum.ofResponse 0 (simulator.counted.serve command data true).value], .ok ()⟩
        log := (simulator.counted.serve command data true).log
        state := { (simulator.counted.serve command data true).state with
          corruption := false } } := by
  have hintact : (Checksum.ofRequest command data == Checksum.ofRequest command data) = true :=
    beq_self_eq_true _
  rw [transfer_own hfailure hreleased hchecked _ hown, hintact, hcorruption]
  rfl

/-- The frame of an access does what the access does, and the response brings its value back. -/
theorem transfer_frame_eq (h : Ready device simulator) {access : Access}
    (haddress : access.address ≤ maxAddress) :
    ∃ log, simulator.transfer (access.frame device) =
      ⟨⟨[0, (simulator.access access).1] ++
        if device.checked then [Checksum.ofResponse 0 (simulator.access access).1] else [], .ok ()⟩,
        log, (simulator.access access).2⟩ := by
  have hown : Frame.chipOf (access.command device) = simulator.chip :=
    (Access.chipOf_command h.strapped haddress).trans h.chip.symm
  obtain ⟨log, hserve⟩ := serve_command simulator h.strapped haddress
  have hclean := (h.access access).corruption
  refine ⟨log, ?_⟩
  cases hdevice : device.checked with
  | false =>
    have hchecked := h.checked.trans hdevice
    have hframe : access.frame device = [access.command device, access.data] := by
      simp [Access.frame, hdevice]
    rw [hframe, transfer_plain h.failure h.released hchecked hown, hserve]
    rfl
  | true =>
    have hchecked := h.checked.trans hdevice
    have hframe : access.frame device = [access.command device, access.data,
        Checksum.ofRequest (access.command device) access.data] := by
      simp [Access.frame, hdevice]
    rw [hframe, transfer_intact h.failure h.released h.corruption hchecked hown, hserve]
    rw [← hclean]
    rfl

/-- The frame of an access does what the access does. -/
theorem transfer_frame (h : Ready device simulator) {access : Access}
    (haddress : access.address ≤ maxAddress) :
    ∃ reply log, simulator.transfer (access.frame device) =
        ⟨reply, log, (simulator.access access).2⟩ ∧
      access.verdict device reply = .ok (simulator.access access).1 := by
  obtain ⟨log, htransfer⟩ := transfer_frame_eq h haddress
  exact ⟨_, log, htransfer, verdict_response simulator device access⟩

end QuadPort.Simulator
