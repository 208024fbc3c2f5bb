import QuadPort.Checksum
import QuadPort.Proofs.Register.Bit

/-!
# The checksum is linear

A division by a polynomial is linear in exclusive or: feeding a message on which an error was
laid gives the register of the message with the register of the error laid on it, the latter
from a start value of zero. What an error does to the checksum of a frame is therefore a
function of the error alone, its syndrome.
-/

namespace QuadPort.Checksum

open Register

/-! ## One shift -/

/-- A term that is taken or left out. -/
theorem select_bne (first second : Bool) (term : UInt8) :
    (if first != second then term else 0) =
      (if first then term else 0) ^^^ (if second then term else 0) := by
  cases first <;> cases second <;> simp

theorem step_eq (register : UInt8) (bit : Bool) :
    step register bit = ((register <<< 1) &&& 0x1F) ^^^
      (if bit != Register.bit register 4 then polynomial else 0) := by
  have htop : ((register >>> 4) &&& 1 == 1) = Register.bit register 4 := by
    have hfour : (4 : UInt8).toNat = 4 := rfl
    rw [shiftRight_and_one (by decide), hfour]
    cases Register.bit register 4 <;> rfl
  unfold step
  rw [htop]
  cases bit != Register.bit register 4 <;> simp

theorem step_lt (register : UInt8) (bit : Bool) : (step register bit).toNat < 32 := by
  have hshifted : ((register <<< 1) &&& 0x1F).toNat < 32 :=
    Nat.lt_succ_of_le Nat.and_le_right
  simp only [step]
  split
  · rw [UInt8.toNat_xor]
    exact Nat.xor_lt_two_pow (show _ < 2 ^ 5 from hshifted) (by decide)
  · exact hshifted

theorem alignedStep_eq (register : UInt8) :
    alignedStep register = (register <<< 1) ^^^
      (if bit register 7 then polynomial <<< 3 else 0) := by
  have htop : ∀ register : Fin 256,
      (UInt8.ofNat register &&& 0x80 != 0) = bit (UInt8.ofNat register) 7 := by
    decide +kernel
  have hregister := of_forall_fin (P := fun register ↦ (register &&& 0x80 != 0) = bit register 7)
    htop register.toNat_lt
  unfold alignedStep
  rw [hregister]
  cases bit register 7 <;> simp

theorem xor_and (left right mask : UInt8) :
    (left ^^^ right) &&& mask = (left &&& mask) ^^^ (right &&& mask) := by
  apply ext_bit
  intro place _
  calc
    bit ((left ^^^ right) &&& mask) place
    _ = ((bit left place != bit right place) && bit mask place) := by rw [bit_and, bit_xor]
    _ = ((bit left place && bit mask place) != (bit right place && bit mask place)) := by
      cases bit mask place <;> simp
    _ = bit ((left &&& mask) ^^^ (right &&& mask)) place := by rw [bit_xor, bit_and, bit_and]

theorem step_xor (left right : UInt8) (first second : Bool) :
    step (left ^^^ right) (first != second) = step left first ^^^ step right second := by
  have hbits : ((first != second) != (bit left 4 != bit right 4)) =
      ((first != bit left 4) != (second != bit right 4)) := by
    cases first <;> cases second <;> cases bit left 4 <;> cases bit right 4 <;> rfl
  calc
    step (left ^^^ right) (first != second)
    _ = ((((left <<< 1) ^^^ (right <<< 1)) &&& 0x1F) ^^^
          (if (first != bit left 4) != (second != bit right 4) then polynomial else 0)) := by
      rw [step_eq, bit_xor, hbits, UInt8.shiftLeft_xor]
    _ = ((left <<< 1) &&& (0x1F : UInt8)) ^^^ ((right <<< 1) &&& (0x1F : UInt8)) ^^^
          ((if first != bit left 4 then polynomial else 0) ^^^
            (if second != bit right 4 then polynomial else 0)) := by
      rw [xor_and, select_bne]
    _ = step left first ^^^ step right second := by
      rw [step_eq, step_eq]
      ac_rfl

theorem alignedStep_xor (left right : UInt8) :
    alignedStep (left ^^^ right) = alignedStep left ^^^ alignedStep right := by
  calc
    alignedStep (left ^^^ right)
    _ = ((left <<< 1) ^^^ (right <<< 1)) ^^^ ((if bit left 7 then polynomial <<< 3 else 0) ^^^
          (if bit right 7 then polynomial <<< 3 else 0)) := by
      rw [alignedStep_eq, bit_xor, select_bne, UInt8.shiftLeft_xor]
    _ = alignedStep left ^^^ alignedStep right := by
      rw [alignedStep_eq, alignedStep_eq]
      ac_rfl

/-! ## Bits and bytes -/

theorem feed_xor {first second : List Bool} (h : first.length = second.length)
    (left right : UInt8) :
    feed (left ^^^ right) (List.zipWith (· != ·) first second) =
      feed left first ^^^ feed right second := by
  induction first generalizing left right second with
  | nil =>
    rw [List.length_nil, eq_comm, List.length_eq_zero_iff] at h
    rw [h]
    rfl
  | cons bit first ih =>
    cases second with
    | nil => cases h
    | cons other second =>
      have hrest := ih (Nat.succ.inj h) (step left bit) (step right other)
      rw [← step_xor] at hrest
      exact hrest

theorem length_lowBits (byte : UInt8) (count : Nat) : (lowBits byte count).length = count := by
  induction count with
  | zero => rfl
  | succ count ih => rw [lowBits, List.length_cons, ih]

theorem lowBits_xor (left right : UInt8) (count : Nat) :
    lowBits (left ^^^ right) count =
      List.zipWith (· != ·) (lowBits left count) (lowBits right count) := by
  induction count with
  | zero => rfl
  | succ count ih =>
    calc
      lowBits (left ^^^ right) (count + 1)
      _ = bit (left ^^^ right) count :: lowBits (left ^^^ right) count := rfl
      _ = (bit left count != bit right count) ::
            List.zipWith (· != ·) (lowBits left count) (lowBits right count) := by
        rw [bit_xor, ih]
      _ = List.zipWith (· != ·) (lowBits left (count + 1)) (lowBits right (count + 1)) := rfl

theorem alignedShifts_xor (left right : UInt8) (count : Nat) :
    alignedShifts (left ^^^ right) count =
      alignedShifts left count ^^^ alignedShifts right count := by
  induction count generalizing left right with
  | zero => rfl
  | succ count ih =>
    calc
      alignedShifts (left ^^^ right) (count + 1)
      _ = alignedShifts (alignedStep left ^^^ alignedStep right) count := by
        rw [alignedShifts, alignedStep_xor]
      _ = alignedShifts left (count + 1) ^^^ alignedShifts right (count + 1) := ih _ _

/-- The table holds eight shifts of every aligned register. -/
theorem feedByte_eq (register byte : UInt8) :
    feedByte register byte = alignedShifts ((register <<< 3) ^^^ byte) 8 >>> 3 := by
  have hentry : ∀ entry : Fin 256, table.get entry = alignedShifts (UInt8.ofNat entry) 8 :=
    fun entry ↦ Vector.getElem_ofFn entry.isLt
  rw [feedByte, hentry, UInt8.ofNat_toNat]

theorem feedByte_xor (left right first second : UInt8) :
    feedByte (left ^^^ right) (first ^^^ second) =
      feedByte left first ^^^ feedByte right second := by
  have hsum : (left <<< 3) ^^^ (right <<< 3) ^^^ (first ^^^ second) =
      ((left <<< 3) ^^^ first) ^^^ ((right <<< 3) ^^^ second) := by
    ac_rfl
  calc
    feedByte (left ^^^ right) (first ^^^ second)
    _ = alignedShifts (((left <<< 3) ^^^ first) ^^^ ((right <<< 3) ^^^ second)) 8 >>> 3 := by
      rw [feedByte_eq, UInt8.shiftLeft_xor, hsum]
    _ = (alignedShifts ((left <<< 3) ^^^ first) 8 >>> 3) ^^^
          (alignedShifts ((right <<< 3) ^^^ second) 8 >>> 3) := by
      rw [alignedShifts_xor, UInt8.shiftRight_xor]
    _ = feedByte left first ^^^ feedByte right second := by
      rw [feedByte_eq, feedByte_eq]

/-! ## Syndromes -/

/-- What an error on the first two bytes of a request does to their checksum. -/
def requestSyndrome (command data : UInt8) : UInt8 :=
  feed (feedByte (feedByte 0 command) data) padding

def responseSyndrome (status data : UInt8) : UInt8 :=
  feed (feedByte (feed 0 (lowBits status 6)) data) padding

/-- The padding is the same with and without an error. -/
theorem feed_padding_xor (left right : UInt8) :
    feed (left ^^^ right) padding = feed left padding ^^^ feed right padding := by
  have hlength : padding.length = padding.length := rfl
  exact feed_xor hlength left right

theorem ofRequest_xor (command data command' data' : UInt8) :
    ofRequest (command ^^^ command') (data ^^^ data') =
      ofRequest command data ^^^ requestSyndrome command' data' := by
  have hstart : start = start ^^^ 0 := UInt8.xor_zero.symm
  calc
    ofRequest (command ^^^ command') (data ^^^ data')
    _ = feed (feedByte (feedByte (start ^^^ 0) (command ^^^ command')) (data ^^^ data'))
          padding := by
      rw [← hstart]
      rfl
    _ = feed (feedByte (feedByte start command) data ^^^ feedByte (feedByte 0 command') data')
          padding := by
      rw [feedByte_xor, feedByte_xor]
    _ = ofRequest command data ^^^ requestSyndrome command' data' := feed_padding_xor _ _

theorem ofResponse_xor (status data status' data' : UInt8) :
    ofResponse (status ^^^ status') (data ^^^ data') =
      ofResponse status data ^^^ responseSyndrome status' data' := by
  have hstart : start = start ^^^ 0 := UInt8.xor_zero.symm
  have hlength : (lowBits status 6).length = (lowBits status' 6).length := by
    rw [length_lowBits, length_lowBits]
  calc
    ofResponse (status ^^^ status') (data ^^^ data')
    _ = feed (feedByte (feed (start ^^^ 0) (lowBits (status ^^^ status') 6)) (data ^^^ data'))
          padding := by
      rw [← hstart]
      rfl
    _ = feed (feedByte (feed start (lowBits status 6)) data ^^^
          feedByte (feed 0 (lowBits status' 6)) data') padding := by
      rw [lowBits_xor, feed_xor hlength, feedByte_xor]
    _ = ofResponse status data ^^^ responseSyndrome status' data' := feed_padding_xor _ _

end QuadPort.Checksum
