import QuadPort.Proofs.Checksum.Residue
import QuadPort.Proofs.Simulator.Cable
import QuadPort.Proofs.Wire.Legible

/-!
# Damaged frames

A damage flips bits of a frame of three bytes. Its positions are counted through the checksum
byte, the data byte and the first byte. The checksum of a response covers the five low bits of the
checksum byte, the data byte and the six low bits of the status byte, and the three top bits of
the checksum byte have to be zero. Whether a response is still accepted is a matter of the damage
alone, and the residues of its positions decide it.
-/

namespace QuadPort

open Register Checksum

/-- The bits that are flipped in the three bytes of a frame. -/
structure Damage where
  first : UInt8
  data : UInt8
  check : UInt8
  deriving DecidableEq, Repr

namespace Damage

def masks (damage : Damage) : List UInt8 :=
  [damage.first, damage.data, damage.check]

def flips (damage : Damage) (position : Nat) : Bool :=
  match position / 8 with
  | 0 => bit damage.check (position % 8)
  | 1 => bit damage.data (position % 8)
  | 2 => bit damage.first (position % 8)
  | _ => false

variable (damage : Damage)

theorem flips_check {place : Nat} (h : place < 8) :
    damage.flips place = bit damage.check place := by
  have hbyte : place / 8 = 0 := Nat.div_eq_of_lt h
  simp only [flips, hbyte, Nat.mod_eq_of_lt h]

theorem flips_data {place : Nat} (h : place < 8) :
    damage.flips (8 + place) = bit damage.data place := by
  have hbyte : (8 + place) / 8 = 1 := by omega
  have hplace : (8 + place) % 8 = place := by omega
  simp only [flips, hbyte, hplace]

theorem flips_first {place : Nat} (h : place < 8) :
    damage.flips (16 + place) = bit damage.first place := by
  have hbyte : (16 + place) / 8 = 2 := by omega
  have hplace : (16 + place) % 8 = place := by omega
  simp only [flips, hbyte, hplace]

/-- None of the three top bits of the checksum byte is flipped. -/
def KeepsTop : Prop :=
  ∀ position < 8, 5 ≤ position → damage.flips position = false

variable {damage}

/-- The flipped positions of the checksum byte are the flips of the checksum. -/
theorem residue_check (h : damage.KeepsTop) : residue damage.flips 8 = damage.check &&& 0x1F := by
  have hfive : ∀ place < 8, bit 0x1F place = decide (place < 5) := by decide
  have hlow : residue damage.flips 5 = damage.check &&& 0x1F := by
    apply ext_bit
    intro place hplace
    calc
      bit (residue damage.flips 5) place
      _ = (decide (place < 5) && bit damage.check place) := by
        rw [bit_residue le_rfl, damage.flips_check hplace]
      _ = bit (damage.check &&& 0x1F) place := by
        rw [bit_and, hfive place hplace, Bool.and_comm]
  have htop : residue (fun place ↦ damage.flips (5 + place)) 3 = 0 :=
    residue_clear fun place hplace ↦ h _ (Nat.add_lt_add_left hplace 5) (Nat.le_add_right 5 place)
  calc
    residue damage.flips (5 + 3)
    _ = residue damage.flips 5 ^^^ shifted (residue (fun place ↦ damage.flips (5 + place)) 3) 5 :=
      residue_add damage.flips 5 3
    _ = damage.check &&& 0x1F := by rw [htop, shifted_zero, UInt8.xor_zero, hlow]

/-- The residue of a damage that flips bits of the first byte up to a place only. -/
theorem residue_flips (h : damage.KeepsTop) {count : Nat} (hcount : count ≤ 8) :
    residue damage.flips (16 + count) =
      feed 0 (lowBits damage.first count ++ (lowBits damage.data 8 ++ padding)) ^^^
        (damage.check &&& 0x1F) := by
  have hpadding : feed 0 padding = 0 := by decide
  have hcheck : residue damage.flips (padding.length + 5) =
      feed 0 padding ^^^ (damage.check &&& 0x1F) := by
    rw [hpadding, UInt8.zero_xor]
    exact residue_check h
  have hdata : residue damage.flips (padding.length + 5 + 8) =
      feed 0 (lowBits damage.data 8 ++ padding) ^^^ (damage.check &&& 0x1F) :=
    residue_lowBits hcheck fun place hplace ↦ damage.flips_data hplace
  have hlength : padding.length + 5 + 8 = (lowBits damage.data 8 ++ padding).length + 5 := by
    rw [List.length_append, length_lowBits]
    rfl
  rw [hlength] at hdata
  have hbyte : ∀ place < count,
      damage.flips ((lowBits damage.data 8 ++ padding).length + 5 + place) =
        bit damage.first place := by
    rw [← hlength]
    exact fun place hplace ↦ damage.flips_first (hplace.trans_le hcount)
  have hfirst := residue_lowBits hdata hbyte
  rwa [← hlength] at hfirst

/-- A damage makes the same change to a checksum and to the checksum byte if it keeps the top of
that byte and leaves no residue. -/
theorem eq_check_iff {syndrome : UInt8} (hlt : syndrome.toNat < 32) :
    syndrome = damage.check ↔
      damage.KeepsTop ∧ syndrome ^^^ (damage.check &&& 0x1F) = 0 := by
  have hfive : ∀ place < 8, bit 0x1F place = decide (place < 5) := by decide
  have hmask : ∀ byte : UInt8, byte &&& 0x1F = byte ↔
      ∀ position < 8, 5 ≤ position → bit byte position = false := by
    intro byte
    constructor
    · intro hsame position hposition hfrom
      rw [← hsame, bit_and, hfive position hposition, decide_eq_false (Nat.not_lt.mpr hfrom),
        Bool.and_false]
    · intro hclear
      apply ext_bit
      intro place hplace
      rw [bit_and, hfive place hplace]
      by_cases hlow : place < 5
      · rw [decide_eq_true hlow, Bool.and_true]
      · rw [hclear place hplace (Nat.not_lt.mp hlow), Bool.false_and]
  have hkeeps : damage.KeepsTop ↔ damage.check &&& 0x1F = damage.check := by
    rw [hmask]
    exact forall₂_congr fun position hposition ↦ by rw [damage.flips_check hposition]
  rw [hkeeps, UInt8.xor_eq_zero_iff]
  constructor
  · rintro rfl
    have hsyndrome : damage.check &&& 0x1F = damage.check := by
      apply UInt8.toNat_inj.mp
      rw [UInt8.toNat_and]
      exact (Nat.and_two_pow_sub_one_eq_mod _ 5).trans (Nat.mod_eq_of_lt hlt)
    exact ⟨hsyndrome, hsyndrome.symm⟩
  · rintro ⟨hcheck, hsyndrome⟩
    rw [hsyndrome, hcheck]

/-- Flips close together leave a residue if none of them is in the top of the checksum byte. -/
theorem KeepsTop.residue_ne_zero (h : damage.KeepsTop) {bound first : Nat}
    (hburst : ∀ position, position < bound ∧ (position < 5 ∨ 8 ≤ position) →
      damage.flips position = true → first ≤ position ∧ position < first + 5)
    (hflip : ∃ position, (position < bound ∧ (position < 5 ∨ 8 ≤ position)) ∧
      damage.flips position = true) : residue damage.flips bound ≠ 0 := by
  have hcovered : ∀ position < bound, damage.flips position = true →
      position < bound ∧ (position < 5 ∨ 8 ≤ position) := by
    intro position hposition hflipped
    refine ⟨hposition, ?_⟩
    by_contra hnot
    have hbetween : 5 ≤ position ∧ position < 8 := by omega
    rw [h position hbetween.2 hbetween.1] at hflipped
    exact Bool.false_ne_true hflipped
  obtain ⟨position, hposition, hflipped⟩ := hflip
  have hwithin : ∀ position < bound, damage.flips position = true →
      first ≤ position ∧ position < first + 5 :=
    fun position hposition hflipped ↦
      hburst position (hcovered position hposition hflipped) hflipped
  exact residue_ne_zero_of_burst hwithin ⟨position, hposition.1, hflipped⟩

/-! ## Responses -/

variable (damage)

def Covered (position : Nat) : Prop :=
  position < 22 ∧ (position < 5 ∨ 8 ≤ position)

/-- A response is still accepted with the damage. -/
def Passes : Prop :=
  responseSyndrome damage.first damage.data = damage.check

instance : Decidable damage.Passes :=
  inferInstanceAs (Decidable (_ = _))

variable {damage}

theorem passes_iff : damage.Passes ↔ damage.KeepsTop ∧ residue damage.flips 22 = 0 := by
  have hzero : (0 : UInt8).toNat < 32 := by decide
  rw [Passes, responseSyndrome_eq_feed, eq_check_iff (feed_lt hzero _)]
  exact and_congr_right fun hkeeps ↦ by rw [← residue_flips hkeeps (by decide : 6 ≤ 8)]

theorem not_passes_of_odd (h : Odd ((List.range 22).countP damage.flips)) : ¬damage.Passes :=
  fun hpasses ↦ residue_ne_zero_of_odd h (passes_iff.mp hpasses).2

theorem not_passes_of_burst {first : Nat}
    (hburst : ∀ position, Covered position → damage.flips position = true →
      first ≤ position ∧ position < first + 5)
    (hflip : ∃ position, Covered position ∧ damage.flips position = true) : ¬damage.Passes := by
  intro hpasses
  obtain ⟨hkeeps, hzero⟩ := passes_iff.mp hpasses
  exact hkeeps.residue_ne_zero hburst hflip hzero

/-- Two flips cancel if they are fifteen positions apart; there is no room for a larger multiple. -/
theorem passes_pair_iff {left right : Nat} (hlt : left < right) (hleft : Covered left)
    (hright : Covered right)
    (hflips : ∀ position < 22, damage.flips position = true ↔ position = left ∨ position = right) :
    damage.Passes ↔ right = left + 15 := by
  have hkeeps : damage.KeepsTop := by
    intro position hposition hfrom
    have hneither : ¬(position = left ∨ position = right) := by
      have := hleft.2
      have := hright.2
      omega
    exact Bool.eq_false_iff.mpr fun hflip ↦
      hneither ((hflips position (hposition.trans (by decide))).mp hflip)
  rw [passes_iff, residue_pair hlt hright.1 hflips, UInt8.xor_eq_zero_iff, power_eq_power_iff]
  have hroom : left % 15 = right % 15 ↔ right = left + 15 := by
    have := hright.1
    omega
  rw [hroom]
  exact and_iff_right hkeeps

/-- The pairs of covered positions that are fifteen apart: the lowest bit of the checksum with the
highest of the data, and the other bits of the checksum with the low bits of the status. -/
theorem apart_iff {left right : Nat} (hleft : Covered left) (hright : Covered right) :
    right = left + 15 ↔ (left, right) ∈ [(0, 15), (1, 16), (2, 17), (3, 18), (4, 19)] := by
  have hleft' := hleft.2
  have hright' := hright.1
  simp only [List.mem_cons, Prod.mk.injEq, List.not_mem_nil, or_false]
  omega

end Damage

namespace Frame

/-- The two top bits of the status byte are not looked at in any frame. -/
theorem decode_overlay_idle {damage : Damage}
    (h : ∀ position < 22, damage.flips position = false) (frame : List UInt8) :
    decode (Bench.overlay damage.masks frame) true = decode frame true := by
  have hcheck : damage.check = 0 := by
    apply ext_bit
    intro place hplace
    rw [← damage.flips_check hplace, h place (hplace.trans (by decide)), bit_zero]
  have hdata : damage.data = 0 := by
    apply ext_bit
    intro place hplace
    rw [← damage.flips_data hplace, h _ (by omega), bit_zero]
  have hfirst : lowBits damage.first 6 = lowBits 0 6 := by
    have hsix : ∀ place < 8, bit 0x3F place = decide (place < 6) := by decide
    have hzero : damage.first &&& 0x3F = 0 := by
      apply ext_bit
      intro place hplace
      rw [bit_and, hsix place hplace, bit_zero]
      by_cases hlow : place < 6
      · rw [← damage.flips_first hplace, h _ (by omega), Bool.false_and]
      · rw [decide_eq_false hlow, Bool.and_false]
    rw [← lowBits_and damage.first 0x3F 6 (by decide), hzero]
  match frame with
  | [] | [_] => rfl
  | [status, data] => rfl
  | status :: data :: check :: rest =>
    have hsyndrome : responseSyndrome damage.first damage.data = 0 := by
      rw [responseSyndrome, hfirst, hdata]
      decide +kernel
    have hsame : Checksum.ofResponse (status ^^^ damage.first) data =
        Checksum.ofResponse status data := by
      have hxor := Checksum.ofResponse_xor status data damage.first damage.data
      rwa [hsyndrome, hdata, UInt8.xor_zero, UInt8.xor_zero] at hxor
    simp only [Damage.masks, Bench.overlay, hdata, hcheck, UInt8.xor_zero, decode, hsame]

/-- A damaged response is accepted or not by its damage alone, whatever the response. It is
rejected if the damage reaches the top of the checksum byte, if it flips an odd number of bits, or
if its flips lie close together, and a pair of flips is missed at a distance of fifteen only. -/
theorem decode_damaged {status data check value : UInt8}
    (haccepted : decode [status, data, check] true = .ok value) (damage : Damage) :
    decode (Bench.overlay damage.masks [status, data, check]) true =
        (if damage.Passes then .ok (value ^^^ damage.data)
          else .error (.checksum
            (Checksum.ofResponse (status ^^^ damage.first) (data ^^^ damage.data))
            (check ^^^ damage.check))) ∧
      (damage.Passes → damage.KeepsTop) ∧
      (Odd ((List.range 22).countP damage.flips) → ¬damage.Passes) ∧
      (∀ first,
        (∀ position, Damage.Covered position → damage.flips position = true →
          first ≤ position ∧ position < first + 5) →
        (∃ position, Damage.Covered position ∧ damage.flips position = true) →
          ¬damage.Passes) ∧
      (∀ left right, left < right → Damage.Covered left → Damage.Covered right →
        (∀ position < 22,
          damage.flips position = true ↔ position = left ∨ position = right) →
          (damage.Passes ↔ right = left + 15) ∧
            (right = left + 15 ↔
              (left, right) ∈ [(0, 15), (1, 16), (2, 17), (3, 18), (4, 19)])) ∧
      ((∀ position < 22, damage.flips position = false) →
        ∀ frame, decode (Bench.overlay damage.masks frame) true = decode frame true) := by
  have hframe : Checksum.ofResponse status data = check ∧ data = value := by
    rw [decode_checked] at haccepted
    split at haccepted
    · exact ⟨‹_›, Except.ok.inj haccepted⟩
    · cases haccepted
  obtain ⟨rfl, rfl⟩ := hframe
  refine ⟨?_, fun hpasses ↦ (Damage.passes_iff.mp hpasses).1, Damage.not_passes_of_odd,
    fun _ ↦ Damage.not_passes_of_burst, fun left right hlt hleft hright hflips ↦ ?_,
    decode_overlay_idle⟩
  · rw [Checksum.ofResponse_xor]
    exact decode_overlay status data damage.first damage.data damage.check
  · exact ⟨Damage.passes_pair_iff hlt hleft hright hflips, Damage.apart_iff hleft hright⟩

/-- Flips of the lowest bit of the checksum and of the highest bit of the data pass for another
value. -/
theorem decode_damaged_pair :
    let damage : Damage := ⟨0, 0x80, 1⟩
    let response := [0, 0, Checksum.ofResponse 0 0]
    decode response true = .ok 0 ∧ damage.Passes ∧
      decode (Bench.overlay damage.masks response) true = .ok 0x80 := by
  intro damage response
  have haccepted : decode response true = .ok 0 := by
    rw [decode_checked, if_pos rfl]
  have hflips : ∀ position < 22,
      damage.flips position = true ↔ position = 0 ∨ position = 15 := by
    decide
  obtain ⟨hdecode, -, -, -, hpairs, -⟩ := decode_damaged haccepted damage
  have hpasses : damage.Passes :=
    (hpairs 0 15 (by decide) ⟨by decide, by decide⟩ ⟨by decide, by decide⟩ hflips).1.mpr rfl
  have hvalue : 0 ^^^ damage.data = 0x80 := by decide
  rw [if_pos hpasses, hvalue] at hdecode
  exact ⟨haccepted, hpasses, hdecode⟩

end Frame

end QuadPort
