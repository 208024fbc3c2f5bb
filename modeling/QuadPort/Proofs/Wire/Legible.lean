import QuadPort.Proofs.Wire.Access

/-!
# What is read of a response

Of the response to a read a descriptor looks at the data byte, and with checksums also at the six
low bits of the status byte and at the checksum. It looks at nothing in the response to a write,
and at nothing that a failed transfer leaves in the buffer. Replies that agree in what is looked
at come to the same verdict.
-/

namespace QuadPort

open Register

namespace Checksum

/-- Bits above the lowest ones are not fed. -/
theorem lowBits_and (byte mask : UInt8) (count : Nat)
    (hmask : ∀ place < count, mask.toNat.testBit place = true) :
    lowBits (byte &&& mask) count = lowBits byte count := by
  induction count with
  | zero => rfl
  | succ count ih =>
    have hhead : (byte &&& mask).toNat.testBit count = byte.toNat.testBit count := by
      rw [UInt8.toNat_and, Nat.testBit_and, hmask count count.lt_succ_self, Bool.and_true]
    calc
      lowBits (byte &&& mask) (count + 1)
      _ = (byte &&& mask).toNat.testBit count :: lowBits (byte &&& mask) count := rfl
      _ = byte.toNat.testBit count :: lowBits byte count := by
        rw [hhead, ih fun place hplace ↦ hmask place (Nat.lt_succ_of_lt hplace)]

/-- The checksum of a response does not cover the two top bits of the status byte. -/
theorem ofResponse_and (status data : UInt8) :
    ofResponse (status &&& 0x3F) data = ofResponse status data := by
  unfold ofResponse
  rw [lowBits_and status 0x3F 6 (by decide)]

end Checksum

/-- What is looked at in the response to a read. -/
def Frame.legible : List UInt8 → List UInt8
  | [_, data] => [data]
  | [status, data, check] => [status &&& 0x3F, data, check]
  | _ => []

/-- Responses that agree in what is looked at are decoded alike. -/
theorem Frame.decode_eq_of_legible {checked : Bool} {first second : List UInt8}
    (hfirst : first.length = length checked) (hsecond : second.length = length checked)
    (h : legible first = legible second) : decode first checked = decode second checked := by
  match checked, first, second, hfirst, hsecond with
  | false, [_, data], [_, other], _, _ =>
    have hdata : data = other := List.head_eq_of_cons_eq h
    exact congrArg Except.ok hdata
  | true, [status, data, check], [status', data', check'], _, _ =>
    simp only [legible, List.cons.injEq, and_true] at h
    obtain ⟨hstatus, rfl, rfl⟩ := h
    have hexpected : Checksum.ofResponse status data = Checksum.ofResponse status' data := by
      rw [← Checksum.ofResponse_and status, hstatus, Checksum.ofResponse_and]
    rw [decode_checked, decode_checked, hexpected]

/-- Replies to the same frame that agree in their result and, if the frame is a read that went
through, in what is looked at. -/
structure Reply.Alike (sent : List UInt8) (first second : Reply) : Prop where
  result : first.result = second.result
  legible : ∀ command ∈ sent.head?, Frame.isWrite command = false → first.result = .ok () →
    Frame.legible first.buffer = Frame.legible second.buffer

/-- Replies that agree in what is looked at come to the same verdict. -/
theorem Access.verdict_eq_of_alike {device : Device} {access : Access} {first second : Reply}
    (h : Reply.Alike (access.frame device) first second)
    (hfirst : first.buffer.length = Frame.length device.checked)
    (hsecond : second.buffer.length = Frame.length device.checked) :
    access.verdict device first = access.verdict device second := by
  obtain ⟨buffer, result⟩ := first
  obtain ⟨buffer', _⟩ := second
  obtain ⟨rfl, hlegible⟩ := h
  cases result with
  | error fault => rfl
  | ok =>
    cases access with
    | write address value => rfl
    | read address =>
      have hread := isWrite_command device (.read address)
      exact Frame.decode_eq_of_legible hfirst hsecond (hlegible _ rfl hread rfl)

end QuadPort
