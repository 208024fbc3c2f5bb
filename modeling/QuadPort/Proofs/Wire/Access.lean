import QuadPort.Device
import QuadPort.Proofs.Conversation
import QuadPort.Proofs.Register.Bit

/-!
# Register accesses on the wire

An access reads or writes one register. Its frame is a function of the descriptor and of
the access alone: whatever the scratch buffer held before, the bytes clocked out for an
access are `Access.frame`. `enact_perform` says what carrying an access out does to a
session over any link: one transfer of that frame, and a verdict that depends on the reply only.
-/

namespace QuadPort

open Conversation Register

/-- A response is accepted if its checksum byte is the checksum of the other two. -/
theorem Frame.decode_checked (status data check : UInt8) : decode [status, data, check] true =
    if Checksum.ofResponse status data = check then .ok data
    else .error (.checksum (Checksum.ofResponse status data) check) := rfl

inductive Access
  | read (address : UInt8)
  | write (address value : UInt8)
  deriving DecidableEq, Repr

namespace Access

def address : Access → UInt8
  | .read address => address
  | .write address _ => address

def isWrite : Access → Bool
  | .read _ => false
  | .write _ _ => true

/-- The value to write, zero for a read. -/
def data : Access → UInt8
  | .read _ => 0
  | .write _ value => value

def command (device : Device) (access : Access) : UInt8 :=
  (device.chip <<< 6) ||| (access.address <<< 1) ||| (if access.isWrite then 1 else 0)

def frame (device : Device) (access : Access) : List UInt8 :=
  access.command device :: access.data ::
    if device.checked then [Checksum.ofRequest (access.command device) access.data] else []

/-- What an access comes to, given the reply to its frame. -/
def verdict (device : Device) (access : Access) (reply : Reply) : Except Error UInt8 :=
  match reply.result, access with
  | .error fault, _ => .error (.transport fault)
  | .ok (), .read _ => Frame.decode reply.buffer device.checked
  | .ok (), .write _ value => .ok value

/-! ## The command byte -/

section Command

variable {device : Device} {access : Access} (hchip : device.chip ≤ maxChip)
  (haddress : access.address ≤ maxAddress)

include hchip haddress

/-- What holds of the command byte for every chip, every address and both kinds of access
holds of the command byte of an access. -/
theorem command_of_forall {P : UInt8 → UInt8 → Bool → UInt8 → Prop}
    (h : ∀ (chip : Fin 4) (address : Fin 32) (write : Bool),
      P (UInt8.ofNat chip) (UInt8.ofNat address) write
        ((UInt8.ofNat chip <<< 6) ||| (UInt8.ofNat address <<< 1) ||| (if write then 1 else 0))) :
    P device.chip access.address access.isWrite (access.command device) := by
  have hchip' : device.chip.toNat < 4 :=
    Nat.lt_succ_of_le (UInt8.le_iff_toNat_le.mp hchip)
  have hcommand := h ⟨_, hchip'⟩ ⟨_, toNat_lt_of_le_maxAddress haddress⟩ access.isWrite
  rwa [UInt8.ofNat_toNat, UInt8.ofNat_toNat] at hcommand

/-- The command byte as a number: its three fields do not overlap. -/
theorem toNat_command : (access.command device).toNat =
    64 * device.chip.toNat + 2 * access.address.toNat + access.isWrite.toNat :=
  command_of_forall hchip haddress
    (P := fun chip address write command ↦
      command.toNat = 64 * chip.toNat + 2 * address.toNat + write.toNat) (by decide)

theorem chipOf_command : Frame.chipOf (access.command device) = device.chip :=
  command_of_forall hchip haddress
    (P := fun chip _ _ command ↦ Frame.chipOf command = chip) (by decide)

theorem addressOf_command : Frame.addressOf (access.command device) = access.address :=
  command_of_forall hchip haddress
    (P := fun _ address _ command ↦ Frame.addressOf command = address) (by decide)

end Command

/-- The lowest bit of the command byte marks a write for any chip and any register. -/
theorem isWrite_command (device : Device) (access : Access) :
    Frame.isWrite (access.command device) = access.isWrite := by
  have hmark : access.command device &&& Frame.writeMask = if access.isWrite then 1 else 0 := by
    apply ext_bit
    intro place _
    have hmask : bit Frame.writeMask place = decide (place = 0) := bit_one place
    by_cases hplace : place = 0
    · subst hplace
      simp [command, hmask, bit_shiftLeft]
    · cases access.isWrite <;> simp [hmask, hplace, bit_one]
  unfold Frame.isWrite
  rw [hmark]
  cases access.isWrite <;> rfl

variable {σ : Type} [Link σ]

/-- Carries an access out; a write hands back the value written. -/
def perform (device : Device) : Access → Conversation σ UInt8
  | .read address => device.readRegister address
  | .write address value => do
    device.writeRegister address value
    return value

/-! ## The request in the scratch buffer -/

theorem insert_chip (chip : UInt8) : Register.insert Frame.chipMask chip = .ok (chip <<< 6) := by
  rw [insert_eq (by decide)]
  congr 1
  apply ext_bit
  intro place hplace
  have hmask : ∀ place < 8, bit Frame.chipMask place = decide (6 ≤ place) := by decide
  have hlow : lowestBit Frame.chipMask = 6 := by decide
  have hsix : (6 : UInt8).toNat = 6 := rfl
  calc
    bit ((chip <<< lowestBit Frame.chipMask) &&& Frame.chipMask) place
    _ = (bit (chip <<< 6) place && decide (6 ≤ place)) := by rw [hlow, bit_and, hmask _ hplace]
    _ = bit (chip <<< 6) place := by
      rw [bit_shiftLeft_of_lt _ (by decide) hplace, hsix]
      by_cases habove : 6 ≤ place <;> simp [habove]

theorem insert_address {address : UInt8} (h : address ≤ maxAddress) :
    Register.insert Frame.addressMask address = .ok (address <<< 1) := by
  rw [insert_eq (by decide)]
  congr 1
  have hall : ∀ address : Fin 32,
      (UInt8.ofNat address <<< lowestBit Frame.addressMask) &&& Frame.addressMask =
        UInt8.ofNat address <<< 1 := by
    decide
  exact of_forall_fin (P := fun address ↦
    (address <<< lowestBit Frame.addressMask) &&& Frame.addressMask = address <<< 1) hall
    (toNat_lt_of_le_maxAddress h)

theorem insert_write (write : Bool) :
    Register.insert Frame.writeMask (if write then 1 else 0) = .ok (if write then 1 else 0) := by
  cases write <;> rfl

/-- The scratch buffer with the request for an access in it. -/
def request (device : Device) (access : Access) : Frame.Scratch where
  command := access.command device
  data := access.data
  check := if device.checked then Checksum.ofRequest (access.command device) access.data else 0

theorem take_bytes_request (device : Device) (access : Access) :
    (access.request device).bytes.take (Frame.length device.checked) = access.frame device := by
  cases hchecked : device.checked <;>
    simp [request, frame, Frame.Scratch.bytes, Frame.length, hchecked]

theorem frame_request_eq (scratch : Frame.Scratch) (device : Device) (access : Access)
    (h : access.address ≤ maxAddress) :
    Frame.request scratch device.chip access.address access.data access.isWrite device.checked =
      .ok (access.request device) := by
  have hcommand : Frame.command device.chip access.address access.isWrite =
      .ok (access.command device) := by
    simp only [Frame.command, insert_chip, insert_address h, insert_write]
    rfl
  simp only [Frame.request, hcommand]
  unfold request
  cases device.checked <;> rfl

theorem length_frame (device : Device) (access : Access) :
    (access.frame device).length = Frame.length device.checked := by
  cases hchecked : device.checked <;> simp [frame, Frame.length, hchecked]

theorem take_bytes_receive (scratch : Frame.Scratch) (checked : Bool) (buffer : List UInt8)
    (h : buffer.length = Frame.length checked) :
    (scratch.receive buffer).bytes.take (Frame.length checked) = buffer := by
  match checked, buffer, h with
  | false, [_, _], _ => rfl
  | true, [_, _, _], _ => rfl

/-! ## Carrying an access out -/

theorem enact_perform_refused (device : Device) (access : Access) (session : Session σ)
    (h : maxAddress < access.address) :
    enact (access.perform device) session =
      (.error (.invalidArgument (.register access.address)), session) := by
  cases access <;>
    simp_all [perform, address, Device.readRegister, Device.writeRegister, Device.checkAddress]

theorem play_transfer (device : Device) (access : Access) (session : Session σ) :
    play (transfer (Frame.length device.checked))
        { session with scratch := access.request device } =
      ((Link.transfer (access.frame device) true session.link).value.result,
        { link := (Link.transfer (access.frame device) true session.link).state
          scratch := (access.request device).receive
            (Link.transfer (access.frame device) true session.link).value.buffer
          calls := session.calls ++ [.transfer (access.frame device) true
            (Link.transfer (access.frame device) true session.link).value]
          log := session.log ++ (Link.transfer (access.frame device) true session.link).log }) := by
  rw [← take_bytes_request]
  rfl

omit [Link σ] in
theorem enact_acceptResponse (device : Device) (address : UInt8) (session : Session σ) :
    ∃ log, enact (device.acceptResponse address) session =
      (Frame.decode (session.scratch.bytes.take (Frame.length device.checked)) device.checked,
        { session with log }) := by
  simp only [Device.acceptResponse, enact_bind, enact_get]
  cases Frame.decode (session.scratch.bytes.take (Frame.length device.checked)) device.checked with
  | ok value => exact ⟨session.log, rfl⟩
  | error error => exact ⟨_, rfl⟩

/-- An access is one transfer of its frame; what it comes to depends on the reply alone. The request
is formed from the scratch buffer, which does not show in it. -/
theorem enact_perform (device : Device) (access : Access) (session : Session σ)
    (h : access.address ≤ maxAddress) :
    ∃ scratch log, enact (access.perform device) session =
      (access.verdict device (Link.transfer (access.frame device) true session.link).value,
        { link := (Link.transfer (access.frame device) true session.link).state
          scratch
          calls := session.calls ++ [.transfer (access.frame device) true
            (Link.transfer (access.frame device) true session.link).value]
          log }) := by
  have hrequest := frame_request_eq session.scratch device access h
  have htransfer := play_transfer device access session
  have hlength := Link.length_transfer (access.frame device) true session.link
  rw [length_frame] at hlength
  have hreceived := take_bytes_receive (access.request device) device.checked _ hlength
  have hnot : ¬ maxAddress < access.address := UInt8.not_lt.mpr h
  generalize Link.transfer (access.frame device) true session.link = answer at *
  cases access with
  | read address =>
    simp only [Access.address, data, isWrite] at hrequest hnot
    simp only [perform, Device.readRegister, Device.checkAddress, gt_iff_lt, if_neg hnot,
      enact_bind, enact_pure, enact_get, enact_set, enact_relay, Frame.readRequest, hrequest,
      exact_ok, htransfer]
    obtain ⟨⟨buffer, result⟩, log, state⟩ := answer
    cases result with
    | error fault => exact ⟨_, _, rfl⟩
    | ok =>
      simp only [mapError_ok, verdict]
      obtain ⟨after, haccept⟩ := enact_acceptResponse device address _
      rw [haccept, hreceived]
      cases Frame.decode buffer device.checked with
      | error error => exact ⟨_, _, rfl⟩
      | ok value => exact ⟨_, _, rfl⟩
  | write address value =>
    simp only [Access.address, data, isWrite] at hrequest hnot
    simp only [perform, Device.writeRegister, Device.checkAddress, gt_iff_lt, if_neg hnot,
      enact_bind, enact_pure, enact_get, enact_set, enact_relay, Frame.writeRequest, hrequest,
      exact_ok, htransfer]
    obtain ⟨⟨buffer, result⟩, log, state⟩ := answer
    cases result with
    | error fault => exact ⟨_, _, rfl⟩
    | ok => exact ⟨_, _, rfl⟩

end Access

end QuadPort
