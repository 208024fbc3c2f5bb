import Mathlib.Algebra.Group.Nat.Even
import Mathlib.Data.Nat.Periodic
import QuadPort.Proofs.Checksum.Window

/-!
# Residues of flipped bits

A frame and its checksum are one word, whose positions are counted from the lowest bit of the
checksum byte. Division by the polynomial leaves a residue of every position, the register that
a single one becomes after as many shifts, and the residue of several flipped positions is the
exclusive or of theirs. What the shift register makes of the bytes of a word is this residue,
so a checksum misses an error exactly if the residue of the error is zero.

Three facts about residues say which errors these can be. Every position has a residue with an
odd number of ones. Flips within five neighbouring positions have the residue of some nonzero
register that was shifted. The residues of positions repeat after fifteen.
-/

namespace QuadPort.Checksum

open Register

/-! ## Shifts -/

/-- A register after shifts with nothing fed. -/
def shifted (register : UInt8) (count : Nat) : UInt8 :=
  feed register (List.replicate count false)

theorem shifted_succ (register : UInt8) (count : Nat) :
    shifted register (count + 1) = shifted (step register false) count := rfl

theorem shifted_zero (count : Nat) : shifted 0 count = 0 := by
  induction count with
  | zero => rfl
  | succ count ih => rwa [shifted_succ, show step 0 false = 0 by decide]

theorem shifted_xor (left right : UInt8) (count : Nat) :
    shifted (left ^^^ right) count = shifted left count ^^^ shifted right count := by
  have hlength : (List.replicate count false).length = (List.replicate count false).length := rfl
  have hfeed := feed_xor hlength left right
  rwa [List.zipWith_replicate, Nat.min_self, bne_self_eq_false] at hfeed

/-- A register only adds its own shifts to what is fed. -/
theorem feed_eq_shifted (register : UInt8) (bits : List Bool) :
    feed register bits = shifted register bits.length ^^^ feed 0 bits := by
  have hclear : List.zipWith (· != ·) (List.replicate bits.length false) bits = bits := by
    induction bits with
    | nil => rfl
    | cons bit bits ih =>
      calc
        List.zipWith (· != ·) (List.replicate (bit :: bits).length false) (bit :: bits)
        _ = (false != bit) :: List.zipWith (· != ·) (List.replicate bits.length false) bits := rfl
        _ = bit :: bits := by rw [ih, Bool.false_bne]
  have hlength : (List.replicate bits.length false).length = bits.length := List.length_replicate
  have hfeed := feed_xor hlength register 0
  rwa [hclear, UInt8.xor_zero] at hfeed

/-- The residue of a position. -/
def power : Nat → UInt8
  | 0 => 1
  | position + 1 => step (power position) false

theorem power_lt (position : Nat) : (power position).toNat < 32 := by
  cases position with
  | zero => decide
  | succ position => exact step_lt _ _

theorem shifted_power (position count : Nat) :
    shifted (power position) count = power (position + count) := by
  induction count generalizing position with
  | zero => rfl
  | succ count ih =>
    calc
      shifted (power position) (count + 1)
      _ = shifted (power (position + 1)) count := shifted_succ _ _
      _ = power (position + 1 + count) := ih _
      _ = power (position + (count + 1)) := by rw [Nat.add_right_comm, Nat.add_assoc]

/-! ## Flipped positions -/

/-- The residue of the flipped positions below a bound. -/
def residue (flips : Nat → Bool) : Nat → UInt8
  | 0 => 0
  | position + 1 => residue flips position ^^^ (if flips position then power position else 0)

variable {flips other : Nat → Bool} {bound : Nat}

theorem residue_lt (flips : Nat → Bool) (bound : Nat) : (residue flips bound).toNat < 32 := by
  have hnone : (0 : UInt8).toNat < 32 := by decide
  induction bound with
  | zero => exact hnone
  | succ position ih =>
    have hterm : (if flips position then power position else 0).toNat < 32 := by
      split
      · exact power_lt position
      · exact hnone
    rw [residue, UInt8.toNat_xor]
    exact Nat.xor_lt_two_pow (show _ < 2 ^ 5 from ih) hterm

theorem residue_congr (h : ∀ position < bound, flips position = other position) :
    residue flips bound = residue other bound := by
  induction bound with
  | zero => rfl
  | succ position ih =>
    rw [residue, residue, h position position.lt_succ_self,
      ih fun lower hlower ↦ h lower (Nat.lt_succ_of_lt hlower)]

theorem residue_clear (h : ∀ position < bound, flips position = false) :
    residue flips bound = 0 := by
  induction bound with
  | zero => rfl
  | succ position ih =>
    calc
      residue flips (position + 1)
      _ = 0 ^^^ (if false then power position else 0) := by
        rw [residue, h position position.lt_succ_self,
          ih fun lower hlower ↦ h lower (Nat.lt_succ_of_lt hlower)]
      _ = 0 := by rw [if_neg Bool.false_ne_true, UInt8.zero_xor]

/-- Positions above a place have the residues of as many positions from zero, shifted. -/
theorem residue_add (flips : Nat → Bool) (place count : Nat) :
    residue flips (place + count) =
      residue flips place ^^^ shifted (residue (fun position ↦ flips (place + position)) count)
        place := by
  induction count with
  | zero =>
    have hnone : residue (fun position ↦ flips (place + position)) 0 = 0 := rfl
    rw [hnone, shifted_zero, UInt8.xor_zero, Nat.add_zero]
  | succ count ih =>
    have hterm : shifted (if flips (place + count) then power count else 0) place =
        if flips (place + count) then power (place + count) else 0 := by
      split
      · rw [shifted_power, Nat.add_comm]
      · exact shifted_zero place
    calc
      residue flips (place + count + 1)
      _ = residue flips (place + count) ^^^
            (if flips (place + count) then power (place + count) else 0) := rfl
      _ = residue flips place ^^^
            (shifted (residue (fun position ↦ flips (place + position)) count) place ^^^
              shifted (if flips (place + count) then power count else 0) place) := by
        rw [ih, hterm, UInt8.xor_assoc]
      _ = residue flips place ^^^
            shifted (residue (fun position ↦ flips (place + position)) (count + 1)) place := by
        rw [← shifted_xor, residue]

theorem residue_add_clear {place : Nat} (h : ∀ position, place ≤ position → flips position = false)
    (count : Nat) : residue flips (place + count) = residue flips place := by
  rw [residue_add, residue_clear fun position _ ↦ h _ (Nat.le_add_right place position),
    shifted_zero, UInt8.xor_zero]

/-- Positions flipped twice are not flipped. -/
theorem residue_bne (flips other : Nat → Bool) (bound : Nat) :
    residue (fun position ↦ flips position != other position) bound =
      residue flips bound ^^^ residue other bound := by
  induction bound with
  | zero => exact UInt8.xor_self.symm
  | succ position ih =>
    calc
      residue (fun position ↦ flips position != other position) (position + 1)
      _ = (residue flips position ^^^ residue other position) ^^^
            ((if flips position then power position else 0) ^^^
              (if other position then power position else 0)) := by
        rw [residue, ih, select_bne]
      _ = residue flips (position + 1) ^^^ residue other (position + 1) := by
        rw [residue, residue]
        ac_rfl

theorem residue_single {position : Nat} (h : position < bound) :
    residue (fun place ↦ decide (place = position)) bound = power position := by
  obtain ⟨rest, rfl⟩ := Nat.exists_eq_add_of_lt h
  have hbelow : residue (fun place ↦ decide (place = position)) position = 0 :=
    residue_clear fun place hplace ↦ decide_eq_false hplace.ne
  have habove : ∀ place, position + 1 ≤ place → decide (place = position) = false :=
    fun place hplace ↦ decide_eq_false (Nat.ne_of_gt hplace)
  calc
    residue (fun place ↦ decide (place = position)) (position + rest + 1)
    _ = residue (fun place ↦ decide (place = position)) (position + 1) := by
      rw [Nat.add_right_comm, residue_add_clear habove]
    _ = 0 ^^^ power position := by
      rw [residue, hbelow, decide_eq_true rfl, if_pos rfl]
    _ = power position := UInt8.zero_xor

/-- Positions that fit in a register are their own residue. -/
theorem bit_residue (hbound : bound ≤ 5) (place : Nat) :
    bit (residue flips bound) place = (decide (place < bound) && flips place) := by
  have hunit : ∀ position < 5, power position = 1 <<< UInt8.ofNat position := by decide
  induction bound with
  | zero =>
    rw [residue, bit_zero, decide_eq_false (Nat.not_lt_zero place), Bool.false_and]
  | succ position ih =>
    have hposition : position < 5 := hbound
    have hsmall : UInt8.ofNat position < 8 := by
      have hall : ∀ position < 5, UInt8.ofNat position < 8 := by decide
      exact hall position hposition
    have hplaces : (UInt8.ofNat position).toNat = position := by
      have hall : ∀ position < 5, (UInt8.ofNat position).toNat = position := by decide
      exact hall position hposition
    have hterm : bit (if flips position then power position else 0) place =
        (decide (place = position) && flips position) := by
      cases flips position with
      | false => rw [if_neg Bool.false_ne_true, bit_zero, Bool.and_false]
      | true => rw [if_pos rfl, hunit position hposition, bit_unit hsmall, hplaces, Bool.and_true]
    rw [residue, bit_xor, ih (Nat.le_of_succ_le hbound), hterm]
    rcases Nat.lt_trichotomy place position with hlt | rfl | hgt
    · simp [hlt, hlt.ne, Nat.lt_succ_of_lt hlt]
    · simp
    · simp [hgt.not_gt, hgt.ne', Nat.not_lt.mpr (Nat.succ_le_of_lt hgt)]

/-! ## Words -/

/-- The bits of a byte in front of a run: if the run and what is laid on its checksum leave the
residue of the positions below the byte, the longer run leaves that of the positions up to it. -/
theorem residue_lowBits {rest : List Bool} {laid byte : UInt8}
    (hrest : residue flips (rest.length + 5) = feed 0 rest ^^^ laid) {count : Nat}
    (hbyte : ∀ place < count, flips (rest.length + 5 + place) = bit byte place) :
    residue flips (rest.length + 5 + count) = feed 0 (lowBits byte count ++ rest) ^^^ laid := by
  have hone : ∀ one : Bool, step 0 one = if one then power 5 else 0 := by decide
  induction count with
  | zero => exact hrest
  | succ count ih =>
    have hlength : (lowBits byte count ++ rest).length = rest.length + count := by
      rw [List.length_append, length_lowBits, Nat.add_comm]
    have hterm : shifted (step 0 (bit byte count)) (rest.length + count) =
        if bit byte count then power (rest.length + 5 + count) else 0 := by
      rw [hone]
      split
      · rw [shifted_power, Nat.add_right_comm, Nat.add_comm 5]
      · exact shifted_zero _
    calc
      residue flips (rest.length + 5 + count + 1)
      _ = feed 0 (lowBits byte count ++ rest) ^^^ laid ^^^
          (if bit byte count then power (rest.length + 5 + count) else 0) := by
        rw [residue, ih fun place hplace ↦ hbyte place (Nat.lt_succ_of_lt hplace),
          hbyte count count.lt_succ_self]
      _ = feed (step 0 (bit byte count)) (lowBits byte count ++ rest) ^^^ laid := by
        rw [feed_eq_shifted (step 0 _), hlength, hterm]
        ac_rfl
      _ = feed 0 (lowBits byte (count + 1) ++ rest) ^^^ laid := rfl

/-! ## Odd numbers of flips -/

/-- Whether an odd number of the lowest `count` bits of a register are ones. -/
def parity (register : UInt8) : Nat → Bool
  | 0 => false
  | count + 1 => bit register count != parity register count

theorem parity_xor (left right : UInt8) (count : Nat) :
    parity (left ^^^ right) count = (parity left count != parity right count) := by
  induction count with
  | zero => rfl
  | succ count ih =>
    calc
      parity (left ^^^ right) (count + 1)
      _ = ((bit left count != bit right count) != (parity left count != parity right count)) := by
        rw [parity, bit_xor, ih]
      _ = (parity left (count + 1) != parity right (count + 1)) := by
        rw [parity, parity]
        cases bit left count <;> cases bit right count <;> simp

/-- The polynomial has an even number of terms, so a shift keeps the parity. -/
theorem parity_step {register : UInt8} (h : register.toNat < 32) :
    parity (step register false) 5 = parity register 5 := by
  have hall : ∀ register : Fin 32,
      parity (step (UInt8.ofNat register) false) 5 = parity (UInt8.ofNat register) 5 := by
    decide
  exact of_forall_fin (P := fun register ↦ parity (step register false) 5 = parity register 5)
    hall h

theorem parity_power (position : Nat) : parity (power position) 5 = true := by
  induction position with
  | zero => decide
  | succ position ih =>
    calc
      parity (power (position + 1)) 5
      _ = parity (power position) 5 := parity_step (power_lt position)
      _ = true := ih

theorem parity_residue (flips : Nat → Bool) (bound : Nat) :
    parity (residue flips bound) 5 = decide (Odd ((List.range bound).countP flips)) := by
  have hnone : parity 0 5 = false := by decide
  induction bound with
  | zero =>
    rw [residue, hnone, List.range_zero, List.countP_nil, decide_eq_false (by decide)]
  | succ position ih =>
    have hterm : parity (if flips position then power position else 0) 5 = flips position := by
      cases flips position with
      | false => exact hnone
      | true => exact parity_power position
    have hcount : (List.range (position + 1)).countP flips =
        (List.range position).countP flips + if flips position then 1 else 0 := by
      rw [List.range_succ, List.countP_append, List.countP_singleton]
    calc
      parity (residue flips (position + 1)) 5
      _ = (decide (Odd ((List.range position).countP flips)) != flips position) := by
        rw [residue, parity_xor, ih, hterm]
      _ = decide (Odd ((List.range (position + 1)).countP flips)) := by
        rw [hcount]
        cases flips position with
        | false => simp
        | true => rw [if_pos rfl, Bool.bne_true, ← decide_not, decide_eq_decide, Nat.odd_add_one]

theorem residue_ne_zero_of_odd (h : Odd ((List.range bound).countP flips)) :
    residue flips bound ≠ 0 := by
  intro hzero
  have hparity := parity_residue flips bound
  rw [hzero, decide_eq_true h] at hparity
  exact absurd hparity (by decide)

/-! ## Bursts -/

/-- Flips within five neighbouring positions do not cancel. Cut off at the bound, the pattern is
clear outside the burst, so that both ends of the sum can be moved. -/
theorem residue_ne_zero_of_burst {first : Nat}
    (hburst : ∀ position < bound, flips position = true → first ≤ position ∧ position < first + 5)
    (hflip : ∃ position < bound, flips position = true) : residue flips bound ≠ 0 := by
  let cut : Nat → Bool := fun position ↦ decide (position < bound) && flips position
  have hbelow : ∀ position < first, cut position = false := by
    intro position hposition
    by_contra hcut
    obtain ⟨hbound, hflip⟩ := Bool.and_eq_true_iff.mp (Bool.not_eq_false _ ▸ hcut)
    exact absurd (hburst position (of_decide_eq_true hbound) hflip).1 (Nat.not_le.mpr hposition)
  have hbeyond : ∀ position, first + 5 ≤ position → cut position = false := by
    intro position hposition
    by_contra hcut
    obtain ⟨hbound, hflip⟩ := Bool.and_eq_true_iff.mp (Bool.not_eq_false _ ▸ hcut)
    exact absurd (hburst position (of_decide_eq_true hbound) hflip).2 (Nat.not_lt.mpr hposition)
  have hover : ∀ position, bound ≤ position → cut position = false := by
    intro position hposition
    exact Bool.and_eq_false_imp.mpr fun hlt ↦
      absurd (of_decide_eq_true hlt) (Nat.not_lt.mpr hposition)
  have hresidue : residue flips bound =
      shifted (residue (fun place ↦ cut (first + place)) 5) first := by
    calc
      residue flips bound
      _ = residue cut bound := by
        refine residue_congr fun position hposition ↦ ?_
        rw [show cut position = (decide (position < bound) && flips position) from rfl,
          decide_eq_true hposition, Bool.true_and]
      _ = residue cut (bound + (first + 5)) := (residue_add_clear hover _).symm
      _ = residue cut (first + 5) := by rw [Nat.add_comm, residue_add_clear hbeyond]
      _ = shifted (residue (fun place ↦ cut (first + place)) 5) first := by
        rw [residue_add, residue_clear hbelow, UInt8.zero_xor]
  obtain ⟨position, hposition, hflip⟩ := hflip
  obtain ⟨hfirst, hlast⟩ := hburst position hposition hflip
  have hbit : bit (residue (fun place ↦ cut (first + place)) 5) (position - first) = true := by
    have hplace : first + (position - first) = position := Nat.add_sub_cancel' hfirst
    rw [bit_residue le_rfl, hplace, decide_eq_true (Nat.sub_lt_left_of_lt_add hfirst hlast),
      Bool.true_and]
    exact Bool.and_eq_true_iff.mpr ⟨decide_eq_true hposition, hflip⟩
  intro hzero
  rw [hresidue, ← shifted_zero first] at hzero
  rw [feed_injective (residue_lt _ _) (by decide) hzero, bit_zero] at hbit
  exact Bool.false_ne_true hbit

/-! ## Pairs -/

theorem periodic_power : Function.Periodic power 15 := by
  intro position
  induction position with
  | zero => decide +kernel
  | succ position ih =>
    calc
      power (position + 1 + 15)
      _ = step (power (position + 15)) false := by rw [Nat.add_right_comm, power]
      _ = power (position + 1) := by rw [ih, power]

/-- Two positions have the same residue if and only if they are a multiple of fifteen apart. -/
theorem power_eq_power_iff (left right : Nat) :
    power left = power right ↔ left % 15 = right % 15 := by
  have hall : ∀ left < 15, ∀ right < 15, power left = power right → left = right := by
    decide +kernel
  rw [← periodic_power.map_mod_nat left, ← periodic_power.map_mod_nat right]
  constructor
  · exact hall _ (Nat.mod_lt _ (by decide)) _ (Nat.mod_lt _ (by decide))
  · exact congrArg power

theorem residue_pair {left right : Nat} (hlt : left < right) (hright : right < bound)
    (hflips : ∀ position < bound, flips position = true ↔ position = left ∨ position = right) :
    residue flips bound = power left ^^^ power right := by
  have hpair : ∀ position < bound,
      flips position = (decide (position = left) != decide (position = right)) := by
    intro position hposition
    have hone : ¬(position = left ∧ position = right) :=
      fun ⟨hleft, hright⟩ ↦ absurd (hleft.symm.trans hright) hlt.ne
    rw [Bool.eq_iff_iff, hflips position hposition, bne_iff_ne, ne_eq, decide_eq_decide]
    tauto
  calc
    residue flips bound
    _ = residue (fun position ↦ decide (position = left) != decide (position = right)) bound :=
      residue_congr hpair
    _ = residue (fun position ↦ decide (position = left)) bound ^^^
          residue (fun position ↦ decide (position = right)) bound := residue_bne _ _ _
    _ = power left ^^^ power right := by
      rw [residue_single (hlt.trans hright), residue_single hright]

end QuadPort.Checksum
