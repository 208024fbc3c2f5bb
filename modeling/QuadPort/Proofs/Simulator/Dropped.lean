import QuadPort.Proofs.Wire.Damage

/-!
# Damaged requests

The checksum of a request covers all of its command byte, the chip address included. A damage that
reaches the chip address makes the request one for another chip, and the chip looks no further. Any
other damage is a matter of the checksum. An odd number of flips, flips close together, a flip in
the top of the checksum byte and all pairs of flips but five are found by one or the other, and the
chip does nothing then but count the transfer and, for a request that is still its own, the error.
-/

namespace QuadPort

open Register Checksum

namespace Damage

/-- The checksum of a request covers the position. -/
def Coded (position : Nat) : Prop :=
  position < 24 ∧ (position < 5 ∨ 8 ≤ position)

def HitsChip (damage : Damage) : Prop :=
  damage.flips 22 = true ∨ damage.flips 23 = true

instance (damage : Damage) : Decidable damage.HitsChip :=
  inferInstanceAs (Decidable (_ ∨ _))

/-- A damage that a request never gets through with unnoticed: an odd number of flips, a flip in
the top of the checksum byte, flips within five neighbouring positions, or two flips that are none
of the pairs of the lowest bit of the checksum with the highest of the data and of the other bits
of the checksum with the low bits of the command. -/
inductive Evident (damage : Damage) : Prop
  | odd (h : Odd ((List.range 24).countP damage.flips))
  | top {position : Nat} (hfrom : 5 ≤ position) (hposition : position < 8)
    (hflip : damage.flips position = true)
  | burst {first : Nat}
    (hburst : ∀ position, Coded position → damage.flips position = true →
      first ≤ position ∧ position < first + 5)
    (hflip : ∃ position, Coded position ∧ damage.flips position = true)
  | pair {left right : Nat} (hlt : left < right) (hright : right < 24)
    (hflips : ∀ position < 24,
      damage.flips position = true ↔ position = left ∨ position = right)
    (hother : (left, right) ∉ [(0, 15), (1, 16), (2, 17), (3, 18), (4, 19)])

variable {damage : Damage}

/-- The chip address of a command byte is in the two highest positions. -/
theorem chipOf_first : Frame.chipOf damage.first = 0 ↔ ¬damage.HitsChip := by
  have hsix : (6 : UInt8) < 8 := by decide
  have hbit : ∀ place, bit (Frame.chipOf damage.first) place = bit damage.first (6 + place) :=
    bit_shiftRight damage.first hsix
  have hlow : damage.flips 22 = bit damage.first 6 := damage.flips_first (show 6 < 8 by decide)
  have hhigh : damage.flips 23 = bit damage.first 7 := damage.flips_first (show 7 < 8 by decide)
  have hspared : ¬damage.HitsChip ↔
      bit damage.first 6 = false ∧ bit damage.first 7 = false := by
    rw [HitsChip, hlow, hhigh, not_or, Bool.not_eq_true, Bool.not_eq_true]
  rw [hspared]
  constructor
  · intro hzero
    constructor
    · rw [← hbit 0, hzero, bit_zero]
    · rw [← hbit 1, hzero, bit_zero]
  · rintro ⟨hfirst, hsecond⟩
    apply ext_bit
    intro place _
    rw [hbit, bit_zero]
    match place with
    | 0 => exact hfirst
    | 1 => exact hsecond
    | place + 2 => exact bit_of_le _ (by omega)

/-- The checksum of a request misses a damage exactly if it leaves no residue. -/
theorem requestSyndrome_eq_iff : requestSyndrome damage.first damage.data = damage.check ↔
    damage.KeepsTop ∧ residue damage.flips 24 = 0 := by
  have hzero : (0 : UInt8).toNat < 32 := by decide
  rw [requestSyndrome_eq_feed, eq_check_iff (feed_lt hzero _)]
  exact and_congr_right fun hkeeps ↦ by rw [← residue_flips hkeeps (Nat.le_refl 8)]

/-- The checksum finds an evident damage unless it reaches the chip address. Two flips cancel at a
distance of fifteen. Of these nine pairs five are excepted, three reach the top of the checksum
byte, and one, the lowest bit of the data with the highest of the command, the chip address. -/
theorem Evident.requestSyndrome_ne (h : damage.Evident) (hspared : ¬damage.HitsChip) :
    requestSyndrome damage.first damage.data ≠ damage.check := by
  intro hmissed
  obtain ⟨hkeeps, hzero⟩ := requestSyndrome_eq_iff.mp hmissed
  cases h with
  | odd h => exact residue_ne_zero_of_odd h hzero
  | @top position hfrom hposition hflip =>
    rw [hkeeps position hposition hfrom] at hflip
    exact Bool.false_ne_true hflip
  | burst hburst hflip => exact hkeeps.residue_ne_zero hburst hflip hzero
  | @pair left right hlt hright hflips hother =>
    rw [residue_pair hlt hright hflips, UInt8.xor_eq_zero_iff, power_eq_power_iff] at hzero
    obtain rfl : right = left + 15 := by omega
    have htop : ¬(5 ≤ left ∧ left < 8) := by
      rintro ⟨hfrom, hleft⟩
      have hflip := (hflips left (hlt.trans hright)).mpr (.inl rfl)
      rw [hkeeps left hleft hfrom] at hflip
      exact Bool.false_ne_true hflip
    have hchip : left ≠ 8 := by
      rintro rfl
      exact hspared (.inr ((hflips 23 hright).mpr (.inr rfl)))
    have hlow : ¬ left < 5 := by
      intro hleft
      have hall : ∀ left < 5,
          (left, left + 15) ∈ [(0, 15), (1, 16), (2, 17), (3, 18), (4, 19)] := by decide
      exact hother (hall left hleft)
    omega

end Damage

namespace Simulator

/-- A valid request for the chip that is evidently damaged on its way succeeds as a transfer and is
not carried out. In any state of a chip that takes transfers and checks them, registers, inputs
and the log of writes stay what they were. The error is counted exactly if the damage spared the
chip address; otherwise nothing but the transfer is. -/
theorem transfer_evident {simulator : Simulator} (hfailure : simulator.failure = none)
    (hreleased : simulator.released = false) (hchecked : simulator.checked = true)
    {command : UInt8} (hown : Frame.chipOf command = simulator.chip) (data : UInt8)
    {damage : Damage} (hdamage : damage.Evident) :
    let answer := simulator.transfer
      (Bench.overlay damage.masks [command, data, Checksum.ofRequest command data])
    answer.value.result = .ok () ∧
      answer.state = { simulator with
        transfers := simulator.transfers + 1
        checksumErrors := if damage.HitsChip then simulator.checksumErrors
          else simulator.checksumErrors + 1
        corruption := if damage.HitsChip then simulator.corruption else false } := by
  intro answer
  have hanswer : answer = simulator.transfer [command ^^^ damage.first, data ^^^ damage.data,
      Checksum.ofRequest command data ^^^ damage.check] := rfl
  have hchip : Frame.chipOf (command ^^^ damage.first) =
      simulator.chip ^^^ Frame.chipOf damage.first := by
    rw [Frame.chipOf_xor, hown]
  by_cases hhit : damage.HitsChip
  · have hother : Frame.chipOf (command ^^^ damage.first) ≠ simulator.chip := by
      rw [hchip]
      intro hsame
      have hzero := (UInt8.xor_right_inj simulator.chip).mp (hsame.trans UInt8.xor_zero.symm)
      exact Damage.chipOf_first.mp hzero hhit
    have hlength : [command ^^^ damage.first, data ^^^ damage.data,
        Checksum.ofRequest command data ^^^ damage.check].length =
          Frame.length simulator.checked := by
      rw [hchecked]
      rfl
    rw [hanswer, transfer_other hfailure hreleased hlength hother, if_pos hhit, if_pos hhit]
    exact ⟨rfl, rfl⟩
  · have hstill : Frame.chipOf (command ^^^ damage.first) = simulator.chip := by
      rw [hchip, Damage.chipOf_first.mpr hhit, UInt8.xor_zero]
    have hwrong : Checksum.ofRequest (command ^^^ damage.first) (data ^^^ damage.data) ≠
        Checksum.ofRequest command data ^^^ damage.check := by
      rw [Checksum.ofRequest_xor]
      intro hsame
      exact hdamage.requestSyndrome_ne hhit ((UInt8.xor_right_inj _).mp hsame)
    rw [hanswer, transfer_dropped hfailure hreleased hchecked hstill hwrong, if_neg hhit,
      if_neg hhit]
    exact ⟨rfl, rfl⟩

/-- The checksum does not find the pair of the lowest bit of the data and the highest bit of the
chip address. A read of latched faults with these two flipped is for another chip. -/
theorem transfer_evident_elsewhere :
    let simulator : Simulator :=
      { (fresh true 2).setRegister Name.overload.address 0x0F with corruption := true }
    let damage : Damage := ⟨0x80, 0x01, 0⟩
    let answer := simulator.transfer
      (Bench.overlay damage.masks [0x88, 0, Checksum.ofRequest 0x88 0])
    Frame.chipOf 0x88 = simulator.chip ∧ damage.Evident ∧
      Checksum.requestSyndrome damage.first damage.data = damage.check ∧
      answer.value.result = .ok () ∧ answer.state = { simulator with transfers := 1 } := by
  intro simulator damage answer
  have hflips : ∀ position < 24,
      damage.flips position = true ↔ position = 8 ∨ position = 23 := by
    decide
  have hevident : damage.Evident := .pair (by decide) (by decide) hflips (by decide)
  have hmissed : Checksum.requestSyndrome damage.first damage.data = damage.check := by
    simp only [Checksum.requestSyndrome, Checksum.feedByte_eq]
    decide +kernel
  have hhit : damage.HitsChip := by decide
  have hown : Frame.chipOf 0x88 = simulator.chip := by decide
  obtain ⟨hresult, hstate⟩ := @transfer_evident simulator rfl rfl rfl _ hown 0 _ hevident
  rw [if_pos hhit, if_pos hhit] at hstate
  exact ⟨hown, hevident, hmissed, hresult, hstate⟩

end Simulator

end QuadPort
