import QuadPort.Proofs.Register.Bit
import QuadPort.Simulator

/-!
# The level register

The level register is computed channel by channel. Read bit by bit it is the field side
where the direction bit is set and the output latch where it is not.
-/

namespace QuadPort.Simulator

open Register

def levelBit (simulator : Simulator) (channel : Nat) : Bool :=
  if bit (simulator.stored Name.setOut.address) (channel + 4) then bit simulator.inputs channel
  else bit (simulator.stored Name.setOut.address) channel

theorem isHigh_eq {channel : UInt8} (h : channel < channelCount) (simulator : Simulator) :
    simulator.isHigh channel = simulator.levelBit channel.toNat := by
  simp only [isHigh, levelBit, shiftRight_and_one (add_four_lt h), toNat_add_four h,
    shiftRight_and_one (lt_eight h)]
  cases bit (simulator.stored Name.setOut.address) (channel.toNat + 4) <;>
    cases bit (simulator.stored Name.setOut.address) channel.toNat <;>
    cases bit simulator.inputs channel.toNat <;> rfl

/-- Bits gathered channel by channel. -/
theorem bit_gather (isSet : UInt8 → Bool) {list : List UInt8} (h : ∀ channel ∈ list, channel < 8)
    (bits : UInt8) (place : Nat) :
    bit (list.foldl
        (fun bits channel ↦ if isSet channel then bits ||| (1 <<< channel) else bits) bits) place =
      (bit bits place ||
        list.any fun channel ↦ isSet channel && decide (place = channel.toNat)) := by
  induction list generalizing bits with
  | nil => simp
  | cons channel list ih =>
    have hhead : bit (if isSet channel then bits ||| (1 <<< channel) else bits) place =
        (bit bits place || isSet channel && decide (place = channel.toNat)) := by
      cases isSet channel with
      | false => simp
      | true => rw [if_pos rfl, bit_or, bit_unit (h channel List.mem_cons_self), Bool.true_and]
    calc
      bit ((channel :: list).foldl
        (fun bits channel ↦ if isSet channel then bits ||| (1 <<< channel) else bits) bits) place
      _ = (bit (if isSet channel then bits ||| (1 <<< channel) else bits) place ||
            list.any fun channel ↦ isSet channel && decide (place = channel.toNat)) :=
        ih (fun other hother ↦ h other (List.mem_cons_of_mem _ hother)) _
      _ = (bit bits place || (channel :: list).any fun channel ↦
            isSet channel && decide (place = channel.toNat)) := by
        rw [hhead, List.any_cons, Bool.or_assoc]

/-- The bits of the level register. -/
theorem bit_levels (simulator : Simulator) (place : Nat) :
    bit simulator.levels place = (decide (place < 4) && simulator.levelBit place) := by
  have hall := lt_of_mem_channels
  have hlevels := bit_gather simulator.isHigh
    (fun channel hchannel ↦ lt_eight (hall channel hchannel)) 0 place
  rw [bit_zero, Bool.false_or] at hlevels
  rw [levels, hlevels]
  simp only [channels, List.any_cons, List.any_nil, Bool.or_false,
    isHigh_eq (hall 0 (by decide)), isHigh_eq (hall 1 (by decide)),
    isHigh_eq (hall 2 (by decide)), isHigh_eq (hall 3 (by decide))]
  by_cases hplace : place < 4
  · have hplaces : place = 0 ∨ place = 1 ∨ place = 2 ∨ place = 3 := by omega
    rcases hplaces with rfl | rfl | rfl | rfl <;> simp
  · have hzero : place ≠ 0 := by omega
    have hone : place ≠ 1 := by omega
    have htwo : place ≠ 2 := by omega
    have hthree : place ≠ 3 := by omega
    simp [hplace, hzero, hone, htwo, hthree]

end QuadPort.Simulator
