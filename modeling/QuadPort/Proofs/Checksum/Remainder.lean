import Mathlib.Algebra.CharP.Two
import Mathlib.Algebra.Field.ZMod
import Mathlib.Algebra.Polynomial.Div
import Mathlib.Tactic.ComputeDegree
import QuadPort.Proofs.Checksum.Window

/-!
# Checksums as remainders

A run of bits is a polynomial over the field with two elements, its last bit the constant term,
and a register is the polynomial of its five bits. Feeding one bit multiplies the register by `X`,
adds the bit at `X ^ 5` and takes the remainder by `X ^ 5 + X ^ 4 + X ^ 2 + 1`. A message of any
length is therefore divided by this polynomial, and a message that is followed by its own checksum
leaves nothing.
-/

namespace QuadPort.Checksum

open Polynomial Register

/-! ## Bits as coefficients -/

noncomputable def divisor : (ZMod 2)[X] :=
  X ^ 5 + X ^ 4 + X ^ 2 + 1

/-- A run of bits as a polynomial; its first bit has the highest power. -/
noncomputable def bitsPolynomial : List Bool → (ZMod 2)[X]
  | [] => 0
  | bit :: bits => (if bit then X ^ bits.length else 0) + bitsPolynomial bits

noncomputable def registerPolynomial (register : UInt8) : (ZMod 2)[X] :=
  bitsPolynomial (lowBits register 5)

theorem monic_divisor : divisor.Monic := by
  unfold divisor
  monicity!

theorem degree_divisor : divisor.degree = 5 := by
  unfold divisor
  compute_degree!

/-- A term that is taken or left out, in characteristic two. -/
theorem select_bne_add (first second : Bool) (term : (ZMod 2)[X]) :
    (if first != second then term else 0) =
      (if first then term else 0) + (if second then term else 0) := by
  cases first <;> cases second <;> simp [CharTwo.add_self_eq_zero]

theorem bitsPolynomial_bne {first second : List Bool} (h : first.length = second.length) :
    bitsPolynomial (List.zipWith (· != ·) first second) =
      bitsPolynomial first + bitsPolynomial second := by
  induction first generalizing second with
  | nil =>
    rw [List.length_nil, eq_comm, List.length_eq_zero_iff] at h
    rw [h]
    exact (add_zero _).symm
  | cons bit first ih =>
    cases second with
    | nil => cases h
    | cons other second =>
      have hrest := Nat.succ.inj h
      have hlength : (List.zipWith (· != ·) first second).length = first.length := by
        rw [List.length_zipWith, ← hrest, Nat.min_self]
      calc
        bitsPolynomial (List.zipWith (· != ·) (bit :: first) (other :: second))
        _ = (if bit != other then X ^ first.length else 0) +
            bitsPolynomial (List.zipWith (· != ·) first second) := by
          rw [List.zipWith_cons_cons, bitsPolynomial, hlength]
        _ = (if bit then X ^ first.length else 0) + (if other then X ^ second.length else 0) +
            (bitsPolynomial first + bitsPolynomial second) := by
          rw [select_bne_add, ih hrest, hrest]
        _ = bitsPolynomial (bit :: first) + bitsPolynomial (other :: second) := by
          rw [bitsPolynomial, bitsPolynomial]
          ring

/-- The coefficients of the low bits of a byte are these bits. -/
theorem coeff_bitsPolynomial (byte : UInt8) (count place : Nat) :
    (bitsPolynomial (lowBits byte count)).coeff place =
      if place < count ∧ bit byte place then 1 else 0 := by
  induction count with
  | zero => simp [lowBits, bitsPolynomial]
  | succ count ih =>
    calc
      (bitsPolynomial (lowBits byte (count + 1))).coeff place
      _ = (if bit byte count then X ^ count else 0 : (ZMod 2)[X]).coeff place +
          (bitsPolynomial (lowBits byte count)).coeff place := by
        rw [lowBits, bitsPolynomial, coeff_add, length_lowBits]
        rfl
      _ = (if bit byte count then if place = count then 1 else 0 else 0) +
          (if place < count ∧ bit byte place then 1 else 0) := by
        rw [ih, apply_ite (coeff · place), coeff_X_pow, coeff_zero]
      _ = if place < count + 1 ∧ bit byte place then 1 else 0 := by
        by_cases hplace : place = count
        · subst hplace
          simp
        · have hbelow : place < count + 1 ↔ place < count := by omega
          simp [hplace, hbelow]

theorem degree_registerPolynomial_lt (register : UInt8) :
    (registerPolynomial register).degree < divisor.degree := by
  rw [degree_divisor, registerPolynomial]
  refine (degree_lt_iff_coeff_zero _ 5).mpr fun place hplace ↦ ?_
  rw [coeff_bitsPolynomial, if_neg fun h ↦ absurd h.1 (Nat.not_lt.mpr hplace)]

theorem registerPolynomial_xor (left right : UInt8) :
    registerPolynomial (left ^^^ right) = registerPolynomial left + registerPolynomial right := by
  have hlength : (lowBits left 5).length = (lowBits right 5).length := by
    rw [length_lowBits, length_lowBits]
  rw [registerPolynomial, lowBits_xor, bitsPolynomial_bne hlength]
  rfl

theorem registerPolynomial_zero : registerPolynomial 0 = 0 := by
  ext place
  rw [registerPolynomial, coeff_bitsPolynomial, bit_zero]
  simp

/-- A register is known by its polynomial. -/
theorem registerPolynomial_injective {left right : UInt8} (hleft : left.toNat < 32)
    (hright : right.toNat < 32) (h : registerPolynomial left = registerPolynomial right) :
    left = right := by
  have hhigh : ∀ register : UInt8, register.toNat < 32 → ∀ place, 5 ≤ place →
      bit register place = false := fun register hregister place hplace ↦
    Nat.testBit_lt_two_pow (hregister.trans_le (Nat.pow_le_pow_right Nat.zero_lt_two hplace))
  apply ext_bit
  intro place _
  by_cases hplace : place < 5
  · have hcoeff := congrArg (coeff · place) h
    simp only [registerPolynomial, coeff_bitsPolynomial, hplace, true_and] at hcoeff
    cases hl : bit left place <;> cases hr : bit right place <;> simp_all
  · rw [hhigh left hleft place (Nat.not_lt.mp hplace), hhigh right hright place
      (Nat.not_lt.mp hplace)]

/-! ## Feeding is dividing -/

/-- The feedback byte is the divisor without its leading term. -/
theorem registerPolynomial_polynomial : registerPolynomial polynomial = X ^ 5 + divisor := by
  have hbits : lowBits polynomial 5 = [true, false, true, false, true] := by decide
  calc
    registerPolynomial polynomial
    _ = X ^ 4 + X ^ 2 + 1 := by
      rw [registerPolynomial, hbits]
      simp [bitsPolynomial, add_assoc]
    _ = X ^ 5 + X ^ 5 + (X ^ 4 + X ^ 2 + 1) := by
      rw [CharTwo.add_self_eq_zero, zero_add]
    _ = X ^ 5 + divisor := by
      rw [divisor]
      ring

/-- A bit behind the others moves them up. -/
theorem bitsPolynomial_concat (bits : List Bool) (last : Bool) :
    bitsPolynomial (bits ++ [last]) = bitsPolynomial bits * X + (if last then 1 else 0) := by
  induction bits with
  | nil => simp [bitsPolynomial]
  | cons bit bits ih =>
    calc
      bitsPolynomial (bit :: bits ++ [last])
      _ = (if bit then X ^ (bits.length + 1) else 0) + bitsPolynomial (bits ++ [last]) := by
        rw [List.cons_append, bitsPolynomial, List.length_append, List.length_singleton]
      _ = (if bit then X ^ bits.length else 0) * X +
          (bitsPolynomial bits * X + (if last then 1 else 0)) := by
        rw [ih, pow_succ, ite_mul, zero_mul]
      _ = bitsPolynomial (bit :: bits) * X + (if last then 1 else 0) := by
        rw [bitsPolynomial]
        ring

/-- A register that is moved up loses its top bit. -/
theorem lowBits_moved (register : UInt8) :
    lowBits ((register <<< 1) &&& 0x1F) 5 = lowBits register 4 ++ [false] := by
  have hone : (1 : UInt8).toNat = 1 := rfl
  have hfive : ∀ place < 8, bit 0x1F place = decide (place < 5) := by decide
  have hlowest : bit ((register <<< 1) &&& 0x1F) 0 = false := by
    rw [bit_and, bit_shiftLeft _ (by decide), hone]
    simp
  have hmoved : ∀ place < 4,
      bit ((register <<< 1) &&& 0x1F) (place + 1) = bit register place := by
    intro place hplace
    have height : place + 1 < 8 := by omega
    calc
      bit ((register <<< 1) &&& 0x1F) (place + 1)
      _ = (bit (register <<< 1) (place + 1) && bit 0x1F (place + 1)) := bit_and _ _ _
      _ = bit (register <<< 1) (place + 1) := by
        rw [hfive _ height, decide_eq_true (Nat.succ_lt_succ hplace), Bool.and_true]
      _ = (decide (1 ≤ place + 1) && bit register place) :=
        bit_shiftLeft_of_lt register (by decide) height
      _ = bit register place := by
        rw [decide_eq_true (Nat.le_add_left 1 place), Bool.true_and]
  calc
    lowBits ((register <<< 1) &&& 0x1F) 5
    _ = [bit ((register <<< 1) &&& 0x1F) 4, bit ((register <<< 1) &&& 0x1F) 3,
          bit ((register <<< 1) &&& 0x1F) 2, bit ((register <<< 1) &&& 0x1F) 1,
          bit ((register <<< 1) &&& 0x1F) 0] := rfl
    _ = [bit register 3, bit register 2, bit register 1, bit register 0, false] := by
      rw [hmoved 3 (by decide), hmoved 2 (by decide), hmoved 1 (by decide), hmoved 0 (by decide),
        hlowest]
    _ = lowBits register 4 ++ [false] := rfl

theorem registerPolynomial_mul_X (register : UInt8) :
    registerPolynomial register * X =
      registerPolynomial ((register <<< 1) &&& 0x1F) + (if bit register 4 then X ^ 5 else 0) := by
  calc
    registerPolynomial register * X
    _ = ((if bit register 4 then X ^ 4 else 0) + bitsPolynomial (lowBits register 4)) * X := rfl
    _ = bitsPolynomial (lowBits register 4) * X + (if bit register 4 then X ^ 5 else 0) := by
      rw [add_mul, ite_mul, zero_mul, ← pow_succ, add_comm]
    _ = bitsPolynomial (lowBits register 4 ++ [false]) + (if bit register 4 then X ^ 5 else 0) := by
      rw [bitsPolynomial_concat, if_neg Bool.false_ne_true, add_zero]
    _ = registerPolynomial ((register <<< 1) &&& 0x1F) +
        (if bit register 4 then X ^ 5 else 0) := by
      rw [registerPolynomial, lowBits_moved]

theorem registerPolynomial_step (register : UInt8) (fed : Bool) :
    registerPolynomial (step register fed) =
      (registerPolynomial register * X + (if fed then X ^ 5 else 0)) %ₘ divisor := by
  have hcarry : ∀ carry : Bool, registerPolynomial (if carry then polynomial else 0) +
      divisor * (if carry then 1 else 0) = if carry then X ^ 5 else 0 := by
    intro carry
    cases carry with
    | false => simp [registerPolynomial_zero]
    | true =>
      calc
        registerPolynomial polynomial + divisor * 1
        _ = X ^ 5 + (divisor + divisor) := by
          rw [registerPolynomial_polynomial, mul_one, add_assoc]
        _ = X ^ 5 := by rw [CharTwo.add_self_eq_zero, add_zero]
  have hquotient : registerPolynomial (step register fed) +
      divisor * (if fed != bit register 4 then 1 else 0) =
        registerPolynomial register * X + (if fed then X ^ 5 else 0) := by
    calc
      registerPolynomial (step register fed) + divisor * (if fed != bit register 4 then 1 else 0)
      _ = registerPolynomial ((register <<< 1) &&& 0x1F) +
          (if fed != bit register 4 then X ^ 5 else 0) := by
        rw [step_eq, registerPolynomial_xor, add_assoc, hcarry]
      _ = registerPolynomial ((register <<< 1) &&& 0x1F) +
          ((if fed then X ^ 5 else 0) + (if bit register 4 then X ^ 5 else 0)) := by
        rw [select_bne_add]
      _ = registerPolynomial register * X + (if fed then X ^ 5 else 0) := by
        rw [registerPolynomial_mul_X]
        ring
  exact (div_modByMonic_unique _ _ monic_divisor
    ⟨hquotient, degree_registerPolynomial_lt _⟩).2.symm

/-- A message of any length is divided. One more bit replaces what is shifted by its remainder,
which makes no difference later. -/
theorem registerPolynomial_feed (register : UInt8) (bits : List Bool) :
    registerPolynomial (feed register bits) =
      (registerPolynomial register * X ^ bits.length + bitsPolynomial bits * X ^ 5) %ₘ divisor := by
  induction bits generalizing register with
  | nil =>
    calc
      registerPolynomial (feed register [])
      _ = registerPolynomial register %ₘ divisor :=
        ((modByMonic_eq_self_iff monic_divisor).mpr (degree_registerPolynomial_lt _)).symm
      _ = (registerPolynomial register * X ^ 0 + 0 * X ^ 5) %ₘ divisor := by
        rw [pow_zero, mul_one, zero_mul, add_zero]
  | cons fed bits ih =>
    have hstep := dvd_modByMonic_sub
      (registerPolynomial register * X + (if fed then X ^ 5 else 0)) divisor
    rw [← registerPolynomial_step] at hstep
    have hhead : (if fed then X ^ bits.length else 0) * X ^ 5 =
        (if fed then (X : (ZMod 2)[X]) ^ 5 else 0) * X ^ bits.length := by
      cases fed <;> simp [mul_comm]
    calc
      registerPolynomial (feed register (fed :: bits))
      _ = registerPolynomial (feed (step register fed) bits) := rfl
      _ = (registerPolynomial (step register fed) * X ^ bits.length +
          bitsPolynomial bits * X ^ 5) %ₘ divisor := ih _
      _ = (registerPolynomial register * X ^ (fed :: bits).length +
          bitsPolynomial (fed :: bits) * X ^ 5) %ₘ divisor := by
        have hdifference : (registerPolynomial (step register fed) -
            (registerPolynomial register * X + (if fed then X ^ 5 else 0))) * X ^ bits.length =
              registerPolynomial (step register fed) * X ^ bits.length +
                bitsPolynomial bits * X ^ 5 -
                  (registerPolynomial register * X ^ (fed :: bits).length +
                    bitsPolynomial (fed :: bits) * X ^ 5) := by
          rw [bitsPolynomial, List.length_cons, add_mul, hhead]
          ring
        exact modByMonic_eq_of_dvd_sub monic_divisor (hdifference ▸ hstep.mul_right _)

/-! ## Messages -/

/-- The table feeds any number of bytes as their bits, the highest of each first. -/
theorem foldl_feedByte {register : UInt8} (h : register.toNat < 32) (bytes : List UInt8) :
    bytes.foldl feedByte register = feed register (bytes.flatMap (lowBits · 8)) := by
  induction bytes generalizing register with
  | nil => rfl
  | cons byte bytes ih =>
    calc
      (byte :: bytes).foldl feedByte register
      _ = bytes.foldl feedByte (feed register (lowBits byte 8)) := by
        rw [List.foldl_cons, feedByte_eq_feed h]
      _ = feed (feed register (lowBits byte 8)) (bytes.flatMap (lowBits · 8)) :=
        ih (feed_lt h _)
      _ = feed register ((byte :: bytes).flatMap (lowBits · 8)) := by
        rw [List.flatMap_cons, feed_append]

/-- A register is used up by its own bits. -/
theorem feed_lowBits_self {register : UInt8} (h : register.toNat < 32) :
    feed register (lowBits register 5) = 0 := by
  have hzero : registerPolynomial (feed register (lowBits register 5)) = 0 :=
    calc
      registerPolynomial (feed register (lowBits register 5))
      _ = (registerPolynomial register * X ^ 5 +
          registerPolynomial register * X ^ 5) %ₘ divisor := by
        rw [registerPolynomial_feed, length_lowBits, ← registerPolynomial]
      _ = 0 := by rw [CharTwo.add_self_eq_zero, zero_modByMonic]
  exact registerPolynomial_injective (feed_lt h _) (by decide)
    (hzero.trans registerPolynomial_zero.symm)

/-- From any register of five bits, feeding bytes by the table is feeding their bits one by one,
and what a message leaves in the register is a remainder: of the start value in front of the
message, with five more places behind it. A message that is followed by its own checksum leaves
nothing. The checksums of both directions are such remainders. -/
theorem feed_is_remainder {register : UInt8} (h : register.toNat < 32) :
    (∀ bytes : List UInt8,
      bytes.foldl feedByte register = feed register (bytes.flatMap (lowBits · 8)) ∧
        (bytes.foldl feedByte register).toNat < 32) ∧
    (∀ bits : List Bool,
      (feed register bits).toNat < 32 ∧
      registerPolynomial (feed register bits) =
        (registerPolynomial register * X ^ bits.length + bitsPolynomial bits * X ^ 5) %ₘ
          divisor ∧
      feed register (bits ++ lowBits (feed register bits) 5) = 0) ∧
    ∀ first data : UInt8,
      (ofRequest first data).toNat < 32 ∧
      registerPolynomial (ofRequest first data) =
        (registerPolynomial start * X ^ 19 +
          bitsPolynomial (lowBits first 8 ++ (lowBits data 8 ++ [false, false, false])) * X ^ 5) %ₘ
            divisor ∧
      (ofResponse first data).toNat < 32 ∧
      registerPolynomial (ofResponse first data) =
        (registerPolynomial start * X ^ 17 +
          bitsPolynomial (lowBits first 6 ++ (lowBits data 8 ++ [false, false, false])) * X ^ 5) %ₘ
            divisor := by
  have hstart : start.toNat < 32 := by decide
  have hwindow (first data : UInt8) (count : Nat) :
      (lowBits first count ++ (lowBits data 8 ++ padding)).length = count + 11 := by
    rw [List.length_append, List.length_append, length_lowBits, length_lowBits]
    rfl
  refine ⟨fun bytes ↦ ?_, fun bits ↦ ⟨feed_lt h bits, registerPolynomial_feed register bits, ?_⟩,
    fun first data ↦ ⟨?_, ?_, ofResponse_lt first data, ?_⟩⟩
  · rw [foldl_feedByte h]
    exact ⟨rfl, feed_lt h _⟩
  · rw [feed_append, feed_lowBits_self (feed_lt h bits)]
  · rw [ofRequest_eq_feed]
    exact feed_lt hstart _
  · rw [ofRequest_eq_feed, registerPolynomial_feed, hwindow]
    rfl
  · rw [ofResponse_eq_feed, registerPolynomial_feed, hwindow]
    rfl

/-- The request that writes ones to the output modes has the checksum eight, so `X ^ 3` is what its
bits leave behind the start value, and its own checksum behind them leaves nothing. -/
theorem feed_is_remainder_of_write :
    let bits := lowBits 0x1B 8 ++ (lowBits 0xFF 8 ++ [false, false, false])
    start.toNat < 32 ∧
      [0x1B, 0xFF].foldl feedByte start = feed start (lowBits 0x1B 8 ++ lowBits 0xFF 8) ∧
      feed start bits = 8 ∧ ofRequest 0x1B 0xFF = 8 ∧
      X ^ 3 = (registerPolynomial start * X ^ 19 + bitsPolynomial bits * X ^ 5) %ₘ divisor ∧
      feed start (bits ++ lowBits 8 5) = 0 := by
  intro bits
  have hstart : start.toNat < 32 := by decide
  obtain ⟨hbytes, hbits, hframes⟩ := feed_is_remainder hstart
  have hfeed : feed start bits = 8 := by decide +kernel
  have hrequest : ofRequest 0x1B 0xFF = 8 := (ofRequest_eq_feed 0x1B 0xFF).trans hfeed
  have height : registerPolynomial 8 = X ^ 3 := by
    have hlow : lowBits 8 5 = [false, true, false, false, false] := by decide
    rw [registerPolynomial, hlow]
    simp [bitsPolynomial]
  obtain ⟨-, hremainder, -⟩ := hframes 0x1B 0xFF
  obtain ⟨-, -, hown⟩ := hbits bits
  rw [hrequest, height] at hremainder
  rw [hfeed] at hown
  exact ⟨hstart, (hbytes [0x1B, 0xFF]).1, hfeed, hrequest, hremainder, hown⟩

end QuadPort.Checksum
