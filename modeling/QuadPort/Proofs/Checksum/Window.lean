import QuadPort.Proofs.Checksum.Linear

/-!
# The windows of requests and responses

The table works on a register that is aligned to the top of a byte, with the bits that are still
to be fed behind it, and eight shifts feed all of them. Feeding a byte is therefore feeding its
eight bits, so a checksum is one run of bits from the start value. The run of a request has the two
top bits of the first byte in front of what the run of a response with the same bytes has. These two
bits take the register away from its start value, whatever they are, and registers that differ stay
apart through equal bits. No two bytes have the same checksum in both directions.
-/

namespace QuadPort.Checksum

open Register

/-! ## Runs of bits -/

theorem feed_append (register : UInt8) (first rest : List Bool) :
    feed register (first ++ rest) = feed (feed register first) rest :=
  List.foldl_append

theorem feed_lt {register : UInt8} (h : register.toNat < 32) (bits : List Bool) :
    (feed register bits).toNat < 32 := by
  induction bits generalizing register with
  | nil => exact h
  | cons bit bits ih => exact ih (step_lt register bit)

/-! ## Aligned registers -/

/-- A shift of the aligned register loses what a step of the register loses. -/
theorem shiftLeft_three_one (register : UInt8) :
    register <<< 3 <<< 1 = ((register <<< 1) &&& 0x1F) <<< 3 := by
  have hone : (1 : UInt8).toNat = 1 := rfl
  have hthree : (3 : UInt8).toNat = 3 := rfl
  have hfive : ∀ place < 8, bit 0x1F place = decide (place < 5) := by decide
  apply ext_bit
  intro place hplace
  have hone' : place - 1 < 8 := Nat.lt_of_le_of_lt (Nat.sub_le place 1) hplace
  have hthree' : place - 3 < 8 := Nat.lt_of_le_of_lt (Nat.sub_le place 3) hplace
  calc
    bit (register <<< 3 <<< 1) place
    _ = (decide (1 ≤ place) && (decide (3 ≤ place - 1) && bit register (place - 1 - 3))) := by
      rw [bit_shiftLeft_of_lt _ (by decide) hplace, hone,
        bit_shiftLeft_of_lt _ (by decide) hone', hthree]
    _ = (decide (3 ≤ place) && ((decide (1 ≤ place - 3) && bit register (place - 3 - 1)) &&
          decide (place - 3 < 5))) := by
      by_cases hfour : 4 ≤ place
      · obtain ⟨rest, rfl⟩ := Nat.exists_eq_add_of_le hfour
        have hrest : 4 + rest - 1 - 3 = rest ∧ 4 + rest - 3 - 1 = rest := by omega
        rw [hrest.1, hrest.2]
        grind
      · have hlow : ¬3 ≤ place - 1 ∧ ¬(3 ≤ place ∧ 1 ≤ place - 3) := by omega
        grind
    _ = bit (((register <<< 1) &&& 0x1F) <<< 3) place := by
      rw [bit_shiftLeft_of_lt _ (by decide) hplace, hthree, bit_and,
        bit_shiftLeft_of_lt _ (by decide) hthree', hone, hfive _ hthree']

/-- The bits that are not fed yet lie behind the register, and each shift feeds the top one. -/
theorem alignedStep_aligned (register laid : UInt8) :
    alignedStep ((register <<< 3) ^^^ laid) =
      (step register (bit laid 7) <<< 3) ^^^ (laid <<< 1) := by
  have htop : bit (register <<< 3) 7 = bit register 4 := bit_shiftLeft register (by decide) 7
  have hfeedback : ∀ carry : Bool, (if carry then polynomial else 0) <<< 3 =
      if carry then polynomial <<< 3 else 0 := by decide
  calc
    alignedStep ((register <<< 3) ^^^ laid)
    _ = (register <<< 3 <<< 1) ^^^ (laid <<< 1) ^^^
          (if bit register 4 != bit laid 7 then polynomial <<< 3 else 0) := by
      rw [alignedStep_eq, bit_xor, htop, UInt8.shiftLeft_xor]
    _ = (((register <<< 1) &&& 0x1F) <<< 3) ^^^ (laid <<< 1) ^^^
          ((if bit laid 7 != bit register 4 then polynomial else 0) <<< 3) := by
      rw [shiftLeft_three_one, hfeedback, bne_comm]
    _ = (step register (bit laid 7) <<< 3) ^^^ (laid <<< 1) := by
      rw [step_eq, UInt8.shiftLeft_xor]
      ac_rfl

/-- The aligned register is the register with the bits behind it that are still to be fed. -/
theorem alignedShifts_aligned {count : Nat} (hcount : count ≤ 8) (register byte : UInt8)
    {laid : UInt8}
    (hlaid : ∀ place < 8, bit laid place =
      (decide (8 ≤ place + count) && bit byte (place + count - 8))) :
    alignedShifts ((register <<< 3) ^^^ laid) count =
      feed register (lowBits byte count) <<< 3 := by
  induction count generalizing register laid with
  | zero =>
    have hnone : laid = 0 := by
      apply ext_bit
      intro place hplace
      rw [hlaid place hplace, decide_eq_false (by omega), Bool.false_and, bit_zero]
    rw [hnone, UInt8.xor_zero]
    rfl
  | succ count ih =>
    have hone : (1 : UInt8).toNat = 1 := rfl
    have htop : bit laid 7 = bit byte count := by
      have hplace : 7 + (count + 1) - 8 = count := by omega
      rw [hlaid 7 (by decide), hplace, decide_eq_true (by omega), Bool.true_and]
    have hrest : ∀ place < 8, bit (laid <<< 1) place =
        (decide (8 ≤ place + count) && bit byte (place + count - 8)) := by
      intro place hplace
      rw [bit_shiftLeft_of_lt _ (by decide) hplace, hone]
      cases place with
      | zero =>
        rw [decide_eq_false (by omega), decide_eq_false (by omega), Bool.false_and, Bool.false_and]
      | succ place =>
        have hsum : place + 1 + count = place + (count + 1) := by omega
        calc
          (decide (1 ≤ place + 1) && bit laid (place + 1 - 1))
          _ = bit laid place := by
            rw [decide_eq_true (Nat.le_add_left 1 place), Bool.true_and, Nat.add_sub_cancel]
          _ = (decide (8 ≤ place + 1 + count) && bit byte (place + 1 + count - 8)) := by
            rw [hlaid place (by omega), hsum]
    calc
      alignedShifts ((register <<< 3) ^^^ laid) (count + 1)
      _ = alignedShifts ((step register (bit byte count) <<< 3) ^^^ (laid <<< 1)) count := by
        rw [alignedShifts, alignedStep_aligned, htop]
      _ = feed (step register (bit byte count)) (lowBits byte count) <<< 3 :=
        ih (Nat.le_of_succ_le hcount) _ hrest
      _ = feed register (lowBits byte (count + 1)) <<< 3 := rfl

/-- Feeding a byte by the table is feeding its eight bits. -/
theorem feedByte_eq_feed {register : UInt8} (h : register.toNat < 32) (byte : UInt8) :
    feedByte register byte = feed register (lowBits byte 8) := by
  have hlaid : ∀ place < 8, bit byte place =
      (decide (8 ≤ place + 8) && bit byte (place + 8 - 8)) := by
    intro place _
    rw [decide_eq_true (Nat.le_add_left 8 place), Nat.add_sub_cancel, Bool.true_and]
  have hdown : ∀ register : Fin 32,
      UInt8.ofNat register <<< 3 >>> 3 = UInt8.ofNat register := by
    decide
  have hfed := of_forall_fin (P := fun register ↦ register <<< 3 >>> 3 = register) hdown
    (feed_lt h (lowBits byte 8))
  rw [feedByte_eq, alignedShifts_aligned (Nat.le_refl 8) register byte hlaid, hfed]

/-! ## Checksums as one run -/

section Run

variable {register : UInt8} (h : register.toNat < 32)

include h

theorem feed_data (data : UInt8) :
    feed (feedByte register data) padding = feed register (lowBits data 8 ++ padding) := by
  rw [feedByte_eq_feed h, feed_append]

theorem feed_request (command data : UInt8) :
    feed (feedByte (feedByte register command) data) padding =
      feed register (lowBits command 8 ++ (lowBits data 8 ++ padding)) :=
  calc
    feed (feedByte (feedByte register command) data) padding
    _ = feed (feedByte (feed register (lowBits command 8)) data) padding := by
      rw [feedByte_eq_feed h]
    _ = feed (feed register (lowBits command 8)) (lowBits data 8 ++ padding) :=
      feed_data (feed_lt h _) data
    _ = feed register (lowBits command 8 ++ (lowBits data 8 ++ padding)) :=
      (feed_append _ _ _).symm

theorem feed_response (status data : UInt8) :
    feed (feedByte (feed register (lowBits status 6)) data) padding =
      feed register (lowBits status 6 ++ (lowBits data 8 ++ padding)) :=
  calc
    feed (feedByte (feed register (lowBits status 6)) data) padding
    _ = feed (feed register (lowBits status 6)) (lowBits data 8 ++ padding) :=
      feed_data (feed_lt h _) data
    _ = feed register (lowBits status 6 ++ (lowBits data 8 ++ padding)) :=
      (feed_append _ _ _).symm

end Run

theorem ofRequest_eq_feed (command data : UInt8) :
    ofRequest command data = feed start (lowBits command 8 ++ (lowBits data 8 ++ padding)) :=
  feed_request (by decide) command data

theorem ofResponse_eq_feed (status data : UInt8) :
    ofResponse status data = feed start (lowBits status 6 ++ (lowBits data 8 ++ padding)) :=
  feed_response (by decide) status data

theorem requestSyndrome_eq_feed (command data : UInt8) :
    requestSyndrome command data = feed 0 (lowBits command 8 ++ (lowBits data 8 ++ padding)) :=
  feed_request (by decide) command data

theorem responseSyndrome_eq_feed (status data : UInt8) :
    responseSyndrome status data = feed 0 (lowBits status 6 ++ (lowBits data 8 ++ padding)) :=
  feed_response (by decide) status data

/-- A checksum fits in five bits. -/
theorem ofResponse_lt (status data : UInt8) : (ofResponse status data).toNat < 32 := by
  have hstart : start.toNat < 32 := by decide
  rw [ofResponse_eq_feed]
  exact feed_lt hstart _

theorem ofResponse_zero_ne : ofResponse 0 0 ≠ 0 := by
  rw [ofResponse_eq_feed]
  decide +kernel

/-! ## Registers that differ -/

theorem step_injective {left right : UInt8} (hleft : left.toNat < 32) (hright : right.toNat < 32)
    {bit : Bool} (h : step left bit = step right bit) : left = right := by
  have hall : ∀ register : Fin 32, step (UInt8.ofNat register) false = 0 →
      UInt8.ofNat register = 0 := by
    decide
  have hlt : (left ^^^ right).toNat < 32 := by
    rw [UInt8.toNat_xor]
    exact Nat.xor_lt_two_pow (show _ < 2 ^ 5 from hleft) hright
  have hdifference : step (left ^^^ right) false = 0 := by
    have hxor := step_xor left right bit bit
    rwa [h, UInt8.xor_self, bne_self_eq_false] at hxor
  have hzero := of_forall_fin (P := fun register ↦ step register false = 0 → register = 0)
    hall hlt hdifference
  exact UInt8.xor_eq_zero_iff.mp hzero

/-- Registers that differ stay apart through equal bits. -/
theorem feed_injective {left right : UInt8} (hleft : left.toNat < 32) (hright : right.toNat < 32)
    {bits : List Bool} (h : feed left bits = feed right bits) : left = right := by
  induction bits generalizing left right with
  | nil => exact h
  | cons bit bits ih =>
    exact step_injective hleft hright (ih (step_lt left bit) (step_lt right bit) h)

/-- Two bits take the register away from its start value, whatever comes after them. -/
theorem feed_two_ne (first second : Bool) (rest : List Bool) :
    feed start (first :: second :: rest) ≠ feed start rest := by
  have hmoved : ∀ first second : Bool, step (step start first) second ≠ start := by decide
  have hstart : start.toNat < 32 := by decide
  have htwo : feed start (first :: second :: rest) =
      feed (step (step start first) second) rest := rfl
  rw [htwo]
  exact fun hsame ↦ hmoved first second (feed_injective (step_lt _ _) hstart hsame)

/-- No two bytes have the same checksum in both directions. -/
theorem ofRequest_ne_ofResponse (command data : UInt8) :
    ofRequest command data ≠ ofResponse command data := by
  have hwindow : lowBits command 8 =
      bit command 7 :: bit command 6 :: lowBits command 6 := by
    rw [lowBits, lowBits]
    rfl
  rw [ofRequest_eq_feed, ofResponse_eq_feed, hwindow, List.cons_append, List.cons_append]
  exact feed_two_ne _ _ _

end QuadPort.Checksum
