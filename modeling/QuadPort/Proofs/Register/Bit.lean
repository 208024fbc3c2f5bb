import QuadPort.Channel
import QuadPort.Register.Field
import QuadPort.Register.Map

/-!
# Registers bit by bit

A register is known by its eight bits. Replacing a field takes the bits inside the mask
from the new value and all others from the register. The masks of the four channels never
overflow; each covers the bits that belong to its channel and no others.
-/

namespace QuadPort.Register

open Channel

/-- The bit of a register at a place, counted from the lowest. -/
def bit (value : UInt8) (place : Nat) : Bool :=
  value.toNat.testBit place

theorem bit_eq_getLsbD (value : UInt8) (place : Nat) :
    bit value place = value.toBitVec.getLsbD place := rfl

theorem bit_of_le (value : UInt8) {place : Nat} (h : 8 ≤ place) : bit value place = false := by
  rw [bit_eq_getLsbD]
  exact BitVec.getLsbD_of_ge _ _ h

/-- Registers with the same eight bits are equal. -/
theorem ext_bit {left right : UInt8} (h : ∀ place < 8, bit left place = bit right place) :
    left = right :=
  UInt8.toBitVec_inj.mp (BitVec.eq_of_getLsbD_eq h)

@[simp] theorem bit_zero (place : Nat) : bit 0 place = false := by
  simp [bit]

@[simp] theorem bit_and (left right : UInt8) (place : Nat) :
    bit (left &&& right) place = (bit left place && bit right place) := by
  simp [bit]

@[simp] theorem bit_or (left right : UInt8) (place : Nat) :
    bit (left ||| right) place = (bit left place || bit right place) := by
  simp [bit]

@[simp] theorem bit_xor (left right : UInt8) (place : Nat) :
    bit (left ^^^ right) place = (bit left place != bit right place) := by
  simp [bit]

@[simp] theorem bit_not (value : UInt8) (place : Nat) :
    bit (~~~value) place = (decide (place < 8) && !bit value place) := by
  simp [bit_eq_getLsbD]

theorem bit_shiftRight (value : UInt8) {places : UInt8} (h : places < 8) (place : Nat) :
    bit (value >>> places) place = bit value (places.toNat + place) := by
  have hmod : places.toNat % 8 = places.toNat :=
    Nat.mod_eq_of_lt (UInt8.lt_iff_toNat_lt.mp h)
  simp [bit, UInt8.toNat_shiftRight, hmod]

theorem bit_shiftLeft (value : UInt8) {places : UInt8} (h : places < 8) (place : Nat) :
    bit (value <<< places) place = (decide (place < 8) &&
      (decide (places.toNat ≤ place) && bit value (place - places.toNat))) := by
  have hmod : places.toNat % 8 = places.toNat :=
    Nat.mod_eq_of_lt (UInt8.lt_iff_toNat_lt.mp h)
  calc
    bit (value <<< places) place
    _ = (value.toNat <<< places.toNat % 2 ^ 8).testBit place := by
      rw [bit, UInt8.toNat_shiftLeft, hmod]
    _ = (decide (place < 8) && (value.toNat <<< places.toNat).testBit place) :=
      Nat.testBit_mod_two_pow _ _ _
    _ = (decide (place < 8) &&
        (decide (places.toNat ≤ place) && bit value (place - places.toNat))) := by
      rw [Nat.testBit_shiftLeft]
      rfl

theorem bit_shiftLeft_of_lt (value : UInt8) {places : UInt8} (h : places < 8) {place : Nat}
    (hplace : place < 8) : bit (value <<< places) place =
      (decide (places.toNat ≤ place) && bit value (place - places.toNat)) := by
  rw [bit_shiftLeft value h, decide_eq_true hplace, Bool.true_and]

/-- A replaced field takes its bits from the value, the rest of the register stays. -/
@[simp] theorem bit_replace (mask register value : UInt8) (place : Nat) :
    bit (replace mask register value) place =
      if bit mask place then bit value place else bit register place := by
  simp only [replace, bit_or, bit_and, bit_not]
  by_cases h : place < 8
  · cases bit mask place <;> simp [h]
  · simp [bit_of_le _ (Nat.not_lt.mp h)]

/-! ## Fields of one and of two bits -/

theorem bit_one (place : Nat) : bit 1 place = decide (place = 0) := by
  have hlow : ∀ place < 8, bit 1 place = decide (place = 0) := by decide
  by_cases hplace : place < 8
  · exact hlow place hplace
  · rw [bit_of_le _ (Nat.not_lt.mp hplace), eq_comm, decide_eq_false_iff_not]
    omega

theorem bit_three (place : Nat) : bit 0b11 place = decide (place = 0 ∨ place = 1) := by
  have hlow : ∀ place < 8, bit 0b11 place = decide (place = 0 ∨ place = 1) := by decide
  by_cases hplace : place < 8
  · exact hlow place hplace
  · rw [bit_of_le _ (Nat.not_lt.mp hplace), eq_comm, decide_eq_false_iff_not]
    omega

/-- The mask of a single bit. -/
theorem bit_unit {places : UInt8} (h : places < 8) (place : Nat) :
    bit (1 <<< places) place = decide (place = places.toNat) := by
  have hlt : places.toNat < 8 := UInt8.lt_iff_toNat_lt.mp h
  rw [bit_shiftLeft _ h, bit_one, ← Bool.decide_and, ← Bool.decide_and, decide_eq_decide]
  omega

/-- The mask of a single bit selects nothing where that bit is not set. -/
theorem and_unit_eq_zero {places : UInt8} (h : places < 8) (value : UInt8) :
    value &&& (1 <<< places) = 0 ↔ bit value places.toNat = false := by
  constructor
  · intro hzero
    have hbit := bit_and value (1 <<< places) places.toNat
    rw [hzero, bit_zero, bit_unit h, decide_eq_true rfl, Bool.and_true] at hbit
    exact hbit.symm
  · intro hbit
    apply ext_bit
    intro place _
    rw [bit_and, bit_unit h, bit_zero]
    by_cases hplace : place = places.toNat
    · simp [hplace, hbit]
    · simp [hplace]

theorem and_unit_bne_zero {places : UInt8} (h : places < 8) (value : UInt8) :
    (value &&& (1 <<< places) != 0) = bit value places.toNat := by
  rw [Bool.eq_iff_iff, bne_iff_ne, Ne, and_unit_eq_zero h, Bool.not_eq_false]

/-- The mask of two neighbouring bits. -/
theorem bit_pair {places : UInt8} (h : places < 7) (place : Nat) :
    bit (0b11 <<< places) place =
      decide (place = places.toNat ∨ place = places.toNat + 1) := by
  have hlt : places.toNat < 7 := UInt8.lt_iff_toNat_lt.mp h
  rw [bit_shiftLeft _ (UInt8.lt_trans h (by decide)), bit_three, ← Bool.decide_and,
    ← Bool.decide_and, decide_eq_decide]
  omega

theorem shiftRight_and_one {places : UInt8} (h : places < 8) (value : UInt8) :
    (value >>> places) &&& 1 = if bit value places.toNat then 1 else 0 := by
  apply ext_bit
  intro place _
  rw [bit_and, bit_shiftRight _ h, bit_one]
  cases hbit : bit value places.toNat <;> by_cases hzero : place = 0 <;> simp_all [bit_one]

theorem insert_eq {mask : UInt8} (h : lowestBit mask < 8) (value : UInt8) :
    insert mask value = .ok ((value <<< lowestBit mask) &&& mask) := by
  simp only [insert, shiftLeft, if_pos h]
  rfl

theorem extract_eq {mask : UInt8} (h : lowestBit mask < 8) (register : UInt8) :
    extract mask register = .ok ((register &&& mask) >>> lowestBit mask) := by
  simp only [extract, shiftRight, if_pos h]

/-- What holds of every byte below a bound holds of a byte that is below it. -/
theorem of_forall_fin {P : UInt8 → Prop} {bound : Nat}
    (h : ∀ index : Fin bound, P (UInt8.ofNat index)) {value : UInt8}
    (hlt : value.toNat < bound) : P value := by
  have hvalue := h ⟨value.toNat, hlt⟩
  rwa [UInt8.ofNat_toNat] at hvalue

theorem lowestBit_unit {places : UInt8} (h : places < 8) :
    lowestBit (1 <<< places) = places := by
  have hall : ∀ place : Fin 8, lowestBit (1 <<< UInt8.ofNat place) = UInt8.ofNat place := by
    decide
  exact of_forall_fin (P := fun places ↦ lowestBit (1 <<< places) = places) hall
    (UInt8.lt_iff_toNat_lt.mp h)

theorem lowestBit_pair {places : UInt8} (h : places < 7) :
    lowestBit (0b11 <<< places) = places := by
  have hall : ∀ place : Fin 7, lowestBit (0b11 <<< UInt8.ofNat place) = UInt8.ofNat place := by
    decide
  exact of_forall_fin (P := fun places ↦ lowestBit (0b11 <<< places) = places) hall
    (UInt8.lt_iff_toNat_lt.mp h)

/-- A field of one bit holds that bit. -/
theorem extract_unit {places : UInt8} (h : places < 8) (register : UInt8) :
    extract (1 <<< places) register = .ok (if bit register places.toNat then 1 else 0) := by
  have hmask : ((1 : UInt8) <<< places) >>> places = 1 := by
    apply ext_bit
    intro place _
    rw [bit_shiftRight _ h, bit_unit h, bit_one, decide_eq_decide]
    omega
  calc
    extract (1 <<< places) register
    _ = .ok ((register &&& (1 <<< places)) >>> places) := by
      rw [extract_eq (by rwa [lowestBit_unit h]), lowestBit_unit h]
    _ = .ok ((register >>> places) &&& 1) := by rw [UInt8.shiftRight_and, hmask]
    _ = .ok (if bit register places.toNat then 1 else 0) := by rw [shiftRight_and_one h]

/-- A field of two bits holds the two bits at its lower end. -/
theorem extract_pair {places : UInt8} (h : places < 7) (register : UInt8) :
    extract (0b11 <<< places) register = .ok ((register >>> places) &&& 0b11) := by
  have hlt : places < 8 := UInt8.lt_trans h (by decide)
  have hmask : ((0b11 : UInt8) <<< places) >>> places = 0b11 := by
    apply ext_bit
    intro place _
    rw [bit_shiftRight _ hlt, bit_pair h, bit_three, decide_eq_decide]
    omega
  calc
    extract (0b11 <<< places) register
    _ = .ok ((register &&& (0b11 <<< places)) >>> places) := by
      rw [extract_eq (by rwa [lowestBit_pair h]), lowestBit_pair h]
    _ = .ok ((register >>> places) &&& 0b11) := by rw [UInt8.shiftRight_and, hmask]

/-! ## The fields of one channel -/

theorem channel_cases {channel : UInt8} (h : channel < channelCount) :
    channel = 0 ∨ channel = 1 ∨ channel = 2 ∨ channel = 3 := by
  have hlt : channel.toNat < 4 := UInt8.lt_iff_toNat_lt.mp h
  simp only [← UInt8.toNat_inj, UInt8.toNat_ofNat]
  omega

theorem lt_of_mem_channels : ∀ channel ∈ channels, channel < channelCount := by
  simp [channels, channelCount]

/-- A register address has five bits. -/
theorem toNat_lt_of_le_maxAddress {address : UInt8} (h : address ≤ maxAddress) :
    address.toNat < 32 :=
  Nat.lt_succ_of_le (UInt8.le_iff_toNat_le.mp h)

section Channel

variable {channel : UInt8} (h : channel < channelCount)

include h

theorem toNat_lt_four : channel.toNat < 4 :=
  UInt8.lt_iff_toNat_lt.mp h

theorem lt_eight : channel < 8 :=
  UInt8.lt_trans h (by decide)

theorem add_four_lt : channel + 4 < 8 := by
  rcases channel_cases h with rfl | rfl | rfl | rfl <;> decide

theorem toNat_add_four : (channel + 4).toNat = channel.toNat + 4 := by
  rcases channel_cases h with rfl | rfl | rfl | rfl <;> rfl

theorem two_mul_lt : 2 * channel < 7 := by
  rcases channel_cases h with rfl | rfl | rfl | rfl <;> decide

theorem toNat_two_mul : (2 * channel).toNat = 2 * channel.toNat := by
  rcases channel_cases h with rfl | rfl | rfl | rfl <;> rfl

theorem latchMask_eq : latchMask channel = .ok (1 <<< channel) := by
  rcases channel_cases h with rfl | rfl | rfl | rfl <;> rfl

theorem directionMask_eq : directionMask channel = .ok (1 <<< (channel + 4)) := by
  rcases channel_cases h with rfl | rfl | rfl | rfl <;> rfl

theorem levelMask_eq : levelMask channel = .ok (1 <<< channel) :=
  latchMask_eq h

theorem modeMask_eq : modeMask channel = .ok (0b11 <<< (2 * channel)) := by
  rcases channel_cases h with rfl | rfl | rfl | rfl <;> rfl

theorem limitMask_eq : limitMask channel = .ok (0b11 <<< (2 * channel)) :=
  modeMask_eq h

theorem insert_direction (function : Function) :
    insert (1 <<< (channel + 4)) function.direction =
      .ok (function.direction <<< (channel + 4)) := by
  rcases channel_cases h with rfl | rfl | rfl | rfl <;> cases function <;> rfl

theorem insert_mode (mode : OutputMode) :
    insert (0b11 <<< (2 * channel)) mode.bits = .ok (mode.bits <<< (2 * channel)) := by
  rcases channel_cases h with rfl | rfl | rfl | rfl <;> cases mode <;> rfl

theorem insert_limit (limit : CurrentLimit) :
    insert (0b11 <<< (2 * channel)) limit.bits = .ok (limit.bits <<< (2 * channel)) := by
  rcases channel_cases h with rfl | rfl | rfl | rfl <;> cases limit <;> rfl

theorem extract_level (register : UInt8) : (do extract (← levelMask channel) register) =
    .ok (if bit register channel.toNat then 1 else 0) := by
  rw [levelMask_eq h]
  exact extract_unit (lt_eight h) register

theorem extract_direction (register : UInt8) : (do extract (← directionMask channel) register) =
    .ok (if bit register (channel.toNat + 4) then 1 else 0) := by
  rw [directionMask_eq h, ← toNat_add_four h]
  exact extract_unit (add_four_lt h) register

theorem extract_mode (register : UInt8) : (do extract (← modeMask channel) register) =
    .ok ((register >>> (2 * channel)) &&& 0b11) := by
  rw [modeMask_eq h]
  exact extract_pair (two_mul_lt h) register

theorem extract_limit (register : UInt8) : (do extract (← limitMask channel) register) =
    .ok ((register >>> (2 * channel)) &&& 0b11) :=
  extract_mode h register

/-- Replacing a field of two bits gives it the two lowest bits of the value. -/
theorem replace_pair (register value : UInt8) :
    (replace (0b11 <<< (2 * channel)) register (value <<< (2 * channel)) >>> (2 * channel)) &&&
      0b11 = value &&& 0b11 := by
  have hlt : 2 * channel < 8 := UInt8.lt_trans (two_mul_lt h) (by decide)
  have hfour := toNat_lt_four h
  apply ext_bit
  intro place _
  calc
    bit ((replace (0b11 <<< (2 * channel)) register (value <<< (2 * channel)) >>> (2 * channel)) &&&
      0b11) place
    _ = (bit (replace (0b11 <<< (2 * channel)) register (value <<< (2 * channel)))
          (2 * channel.toNat + place) && decide (place = 0 ∨ place = 1)) := by
      rw [bit_and, bit_shiftRight _ hlt, bit_three, toNat_two_mul h]
    _ = (bit (value <<< (2 * channel)) (2 * channel.toNat + place) &&
          decide (place = 0 ∨ place = 1)) := by
      rw [bit_replace, bit_pair (two_mul_lt h), toNat_two_mul h]
      by_cases hlow : place = 0 ∨ place = 1 <;> simp [hlow]
    _ = (bit value place && decide (place = 0 ∨ place = 1)) := by
      rw [bit_shiftLeft _ hlt, toNat_two_mul h]
      by_cases hlow : place = 0 ∨ place = 1
      · have hbound : 2 * channel.toNat + place < 8 := by omega
        simp [hbound]
      · simp [hlow]
    _ = bit (value &&& 0b11) place := by rw [bit_and, bit_three]

/-- Replacing a field of two bits leaves the field of any other channel alone. -/
theorem replace_pair_of_ne {other : UInt8} (hother : other < channelCount)
    (hne : other.toNat ≠ channel.toNat) (register value : UInt8) :
    (replace (0b11 <<< (2 * channel)) register value >>> (2 * other)) &&& 0b11 =
      (register >>> (2 * other)) &&& 0b11 := by
  have hlt : 2 * other < 8 := UInt8.lt_trans (two_mul_lt hother) (by decide)
  apply ext_bit
  intro place _
  calc
    bit ((replace (0b11 <<< (2 * channel)) register value >>> (2 * other)) &&& 0b11) place
    _ = (bit (replace (0b11 <<< (2 * channel)) register value) (2 * other.toNat + place) &&
          decide (place = 0 ∨ place = 1)) := by
      rw [bit_and, bit_shiftRight _ hlt, bit_three, toNat_two_mul hother]
    _ = (bit register (2 * other.toNat + place) && decide (place = 0 ∨ place = 1)) := by
      rw [bit_replace, bit_pair (two_mul_lt h), toNat_two_mul h]
      by_cases hlow : place = 0 ∨ place = 1
      · have hout : ¬ (2 * other.toNat + place = 2 * channel.toNat ∨
            2 * other.toNat + place = 2 * channel.toNat + 1) := by omega
        simp [hout]
      · simp [hlow]
    _ = bit ((register >>> (2 * other)) &&& 0b11) place := by
      rw [bit_and, bit_shiftRight _ hlt, bit_three, toNat_two_mul hother]

end Channel

@[simp] theorem ofBits_mode_and (bits : UInt8) :
    OutputMode.ofBits (bits &&& 0b11) = OutputMode.ofBits bits := by
  simp only [OutputMode.ofBits, UInt8.and_assoc, UInt8.and_self]

@[simp] theorem ofBits_limit_and (bits : UInt8) :
    CurrentLimit.ofBits (bits &&& 0b11) = CurrentLimit.ofBits bits := by
  simp only [CurrentLimit.ofBits, UInt8.and_assoc, UInt8.and_self]

end QuadPort.Register
