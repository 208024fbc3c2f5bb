import QuadPort.Proofs.Simulator.Levels
import QuadPort.Proofs.Simulator.Traffic

/-!
# A transfer step by step

The transfer of the simulated chip takes its buffer apart by shape and finds a register modulo
the size of the register file, so it has no way to look outside of either. Here is the same
transfer as a sequence of small steps that may fail: a byte that the buffer does not have, a
register that the file does not have, and byte arithmetic that overflows. None of them does.
`guardedTransfer_eq` says that the guards are idle: for every chip and every buffer the two come
to the same answer.
-/

namespace QuadPort

open Register

/-- Why a step of a transfer cannot be carried out. -/
inductive Outside
  | byte (index : Nat)
  | register (address : UInt8)
  | arithmetic (overflow : Overflow)
  deriving DecidableEq, Repr

/-! ## The fields of a command byte -/

namespace Frame

theorem addressOf_lt (command : UInt8) : (addressOf command).toNat < 32 := by
  have haddress : (addressOf command).toNat = (command.toNat &&& addressMask.toNat) / 2 := by
    rw [addressOf, UInt8.toNat_shiftRight, UInt8.toNat_and, Nat.shiftRight_eq_div_pow]
    rfl
  have hmask : command.toNat &&& addressMask.toNat ≤ 62 := Nat.and_le_right
  omega

/-- The field of the chip address is at the top, so nothing is left to mask out. -/
theorem extract_chip (command : UInt8) : extract chipMask command = .ok (chipOf command) := by
  have hlow : lowestBit chipMask = 6 := by decide
  have hmask : ∀ place < 2, bit chipMask (6 + place) = true := by decide
  rw [extract_eq (by decide), hlow, chipOf]
  congr 1
  apply ext_bit
  intro place _
  rw [bit_shiftRight _ (by decide), bit_shiftRight _ (by decide), bit_and]
  change (bit command (6 + place) && bit chipMask (6 + place)) = bit command (6 + place)
  by_cases hplace : place < 2
  · rw [hmask place hplace, Bool.and_true]
  · rw [bit_of_le command (by omega), Bool.false_and]

theorem extract_address (command : UInt8) :
    extract addressMask command = .ok (addressOf command) := by
  have hlow : lowestBit addressMask = 1 := by decide
  rw [extract_eq (by decide), hlow, addressOf]

end Frame

namespace Outside

/-! ## Single steps -/

def exactly {α : Type} (result : Except Overflow α) : Except Outside α :=
  result.mapError .arithmetic

def byteAt (buffer : List UInt8) (index : Nat) : Except Outside UInt8 :=
  match buffer[index]? with
  | some value => .ok value
  | none => .error (.byte index)

def putByte (buffer : List UInt8) (index : Nat) (value : UInt8) : Except Outside (List UInt8) :=
  if index < buffer.length then .ok (buffer.set index value) else .error (.byte index)

end Outside

namespace Simulator

open Outside

def registerAt (simulator : Simulator) (address : UInt8) : Except Outside UInt8 :=
  if h : address.toNat < 32 then .ok (simulator.registers.get ⟨address.toNat, h⟩)
  else .error (.register address)

def putRegister (simulator : Simulator) (address value : UInt8) : Except Outside Simulator :=
  if h : address.toNat < 32 then
    .ok { simulator with registers := simulator.registers.set address.toNat value h }
  else .error (.register address)

variable (simulator : Simulator)

theorem registerAt_eq {address : UInt8} (h : address.toNat < 32) :
    simulator.registerAt address = .ok (simulator.stored address) := by
  have hcell : cell address = ⟨address.toNat, h⟩ := Fin.ext (Nat.mod_eq_of_lt h)
  rw [registerAt, dif_pos h, stored, hcell]

theorem putRegister_eq {address : UInt8} (h : address.toNat < 32) (value : UInt8) :
    simulator.putRegister address value = .ok (simulator.setRegister address value) := by
  have hcell : (cell address).val = address.toNat := Nat.mod_eq_of_lt h
  simp only [putRegister, dif_pos h, setRegister, hcell]

/-! ## The level register -/

def guardedHigh (setOut channel : UInt8) : Except Overflow Bool := do
  if setOut &&& (← directionMask channel) = 0 then
    return setOut &&& (← latchMask channel) != 0
  else
    return simulator.inputs &&& (← shiftLeft 1 channel) != 0

/-- The bits gathered so far with the bit of one more channel. -/
def guardedGather (setOut bits channel : UInt8) : Except Outside UInt8 := do
  if ← exactly (simulator.guardedHigh setOut channel) then
    return bits ||| (← exactly (levelMask channel))
  else
    return bits

def guardedLevels : Except Outside UInt8 := do
  let setOut ← simulator.registerAt Name.setOut.address
  channels.foldlM (simulator.guardedGather setOut) 0

theorem guardedHigh_eq {channel : UInt8} (h : channel < channelCount) :
    simulator.guardedHigh (simulator.stored Name.setOut.address) channel =
      .ok (simulator.isHigh channel) := by
  rw [isHigh_eq h, levelBit, guardedHigh, directionMask_eq h, latchMask_eq h]
  simp only [shiftLeft, if_pos (lt_eight h), bind, Except.bind, and_unit_eq_zero (add_four_lt h),
    toNat_add_four h, and_unit_bne_zero (lt_eight h)]
  cases bit (simulator.stored Name.setOut.address) (channel.toNat + 4) <;> rfl

theorem guardedGather_eq {channel : UInt8} (h : channel < channelCount) (bits : UInt8) :
    simulator.guardedGather (simulator.stored Name.setOut.address) bits channel =
      .ok (if simulator.isHigh channel then bits ||| (1 <<< channel) else bits) := by
  rw [guardedGather, simulator.guardedHigh_eq h, levelMask_eq h]
  cases simulator.isHigh channel <;> rfl

theorem guardedLevels_eq : simulator.guardedLevels = .ok simulator.levels := by
  have hgather (list : List UInt8) (hlist : ∀ channel ∈ list, channel < channelCount)
      (bits : UInt8) :
      list.foldlM (simulator.guardedGather (simulator.stored Name.setOut.address)) bits =
        .ok (list.foldl (fun bits channel ↦
          if simulator.isHigh channel then bits ||| (1 <<< channel) else bits) bits) := by
    induction list generalizing bits with
    | nil => rfl
    | cons channel list ih =>
      rw [List.foldlM_cons, simulator.guardedGather_eq (hlist channel List.mem_cons_self)]
      exact ih (fun other hother ↦ hlist other (List.mem_cons_of_mem _ hother)) _
  have hsetOut : Name.setOut.address.toNat < 32 := by decide
  rw [guardedLevels, simulator.registerAt_eq hsetOut]
  exact hgather channels lt_of_mem_channels 0

/-! ## Serving a request -/

def guardedRead (address : UInt8) : Except Outside (UInt8 × Simulator) :=
  if address = Name.level.address then do
    return (← simulator.guardedLevels, simulator)
  else do
    let value ← simulator.registerAt address
    if isLatched address then return (value, ← simulator.putRegister address 0)
    else return (value, simulator)

def guardedWrite (address value : UInt8) : Except Outside Simulator := do
  let written ← simulator.putRegister address value
  return { written with writes := simulator.writes ++ [(address, value)] }

theorem guardedRead_eq {address : UInt8} (h : address.toNat < 32) :
    simulator.guardedRead address = .ok (simulator.read address) := by
  unfold guardedRead read
  split
  · rw [simulator.guardedLevels_eq]
    rfl
  · rw [simulator.registerAt_eq h, simulator.putRegister_eq h]
    simp only [bind, Except.bind]
    split <;> rfl

theorem guardedWrite_eq {address : UInt8} (h : address.toNat < 32) (value : UInt8) :
    simulator.guardedWrite address value = .ok (simulator.write address value) := by
  rw [guardedWrite, simulator.putRegister_eq h]
  rfl

/-- Whether the buffer carries the checksum of its request, if there is to be one. -/
def guardedIntact (buffer : List UInt8) : Except Outside Bool := do
  if simulator.checked then
    return Checksum.ofRequest (← byteAt buffer 0) (← byteAt buffer 1) == (← byteAt buffer 2)
  else
    return true

def guardedServe (buffer : List UInt8) (command address : UInt8) (intact : Bool) :
    Except Outside (Answer Simulator UInt8) :=
  if !intact then
    return {
      value := 0
      log := [⟨.warn, .simulator,
        s!"Simulated MAX14906 dropped frame {Text.Hex.ofByte command} with bad CRC"⟩]
      state := { simulator with checksumErrors := simulator.checksumErrors + 1 } }
  else if Frame.isWrite command then do
    let data ← byteAt buffer 1
    return {
      value := data
      log := [⟨.debug, .simulator,
        s!"Simulated MAX14906 write reg {Text.Hex.ofByte address} = {Text.Hex.ofByte data}"⟩]
      state := ← simulator.guardedWrite address data }
  else do
    let (value, state) ← simulator.guardedRead address
    return { value, log := [], state }

theorem guardedServe_eq (command data : UInt8) (rest : List UInt8) (intact : Bool) :
    simulator.guardedServe (command :: data :: rest) command (Frame.addressOf command) intact =
      .ok (simulator.serve command data intact) := by
  have haddress := Frame.addressOf_lt command
  unfold guardedServe serve
  rw [simulator.guardedRead_eq haddress]
  simp only [byteAt, List.getElem?_cons_succ, List.getElem?_cons_zero, bind, Except.bind,
    simulator.guardedWrite_eq haddress]
  split
  · rfl
  · split <;> rfl

/-- The answer of the chip, written over the request. -/
def guardedRespond (buffer : List UInt8) (served : Answer Simulator UInt8) :
    Except Outside (Answer Simulator Reply) := do
  let cleared ← putByte buffer 0 0
  let filled ← putByte cleared 1 served.value
  if simulator.checked then
    let sum := Checksum.ofResponse (← byteAt filled 0) (← byteAt filled 1)
    let closed ← putByte filled 2 (if simulator.corruption then sum ^^^ 1 else sum)
    return {
      value := ⟨closed, .ok ()⟩
      log := served.log
      state := { served.state with corruption := false } }
  else
    return { value := ⟨filled, .ok ()⟩, log := served.log, state := served.state }

theorem guardedRespond_plain (hchecked : simulator.checked = false) (command data : UInt8)
    (served : Answer Simulator UInt8) : simulator.guardedRespond [command, data] served =
      .ok { value := ⟨[0, served.value], .ok ()⟩, log := served.log, state := served.state } := by
  rw [guardedRespond, hchecked]
  rfl

theorem guardedRespond_closed (hchecked : simulator.checked = true) (command data check : UInt8)
    (served : Answer Simulator UInt8) :
    simulator.guardedRespond [command, data, check] served =
      let sum := Checksum.ofResponse 0 served.value
      .ok { value := ⟨[0, served.value, if simulator.corruption then sum ^^^ 1 else sum], .ok ()⟩
            log := served.log
            state := { served.state with corruption := false } } := by
  rw [guardedRespond, hchecked]
  rfl

/-! ## A transfer -/

/-- Clocks a buffer through the chip, one guarded step after the other. -/
def guardedTransfer (buffer : List UInt8) : Except Outside (Answer Simulator Reply) :=
  match simulator.failure with
  | some message => .ok ({ simulator.counted with failure := none }.refuse buffer message)
  | none =>
    if simulator.released then .ok (simulator.counted.refuse buffer "bus already released")
    else if buffer.length ≠ Frame.length simulator.checked then
      .ok (simulator.counted.refuse buffer
        s!"unexpected frame length {buffer.length} (expected {Frame.length simulator.checked})")
    else do
      let command ← byteAt buffer 0
      let chip ← exactly (extract Frame.chipMask command)
      let address ← exactly (extract Frame.addressMask command)
      if chip ≠ simulator.chip then
        return {
          value := ⟨List.replicate buffer.length 0, .ok ()⟩
          log := []
          state := simulator.counted }
      else
        let intact ← simulator.guardedIntact buffer
        simulator.guardedRespond buffer
          (← simulator.counted.guardedServe buffer command address intact)

section Frame

variable (hfailure : simulator.failure = none) (hreleased : simulator.released = false)

include hfailure hreleased

/-- A buffer of the right length has a first byte, which holds the two addresses. -/
theorem guardedTransfer_cons {command : UInt8} {rest : List UInt8}
    (hlength : (command :: rest).length = Frame.length simulator.checked) :
    simulator.guardedTransfer (command :: rest) =
      if Frame.chipOf command ≠ simulator.chip then
        .ok { value := ⟨List.replicate (command :: rest).length 0, .ok ()⟩
              log := []
              state := simulator.counted }
      else (do
        let intact ← simulator.guardedIntact (command :: rest)
        let served ← simulator.counted.guardedServe (command :: rest) command
          (Frame.addressOf command) intact
        simulator.guardedRespond (command :: rest) served) := by
  have hnot : ¬ (command :: rest).length ≠ Frame.length simulator.checked := not_not_intro hlength
  rw [guardedTransfer, hfailure, hreleased]
  simp only [Bool.false_eq_true, if_false, if_neg hnot, Frame.extract_chip, Frame.extract_address]
  rfl

/-- A frame for the chip has one more byte, and a third one if it carries a checksum. -/
theorem guardedTransfer_own {command : UInt8} {rest : List UInt8}
    (hlength : (command :: rest).length = Frame.length simulator.checked)
    (hown : Frame.chipOf command = simulator.chip) :
    simulator.guardedTransfer (command :: rest) =
      .ok (simulator.transfer (command :: rest)) := by
  rw [simulator.guardedTransfer_cons hfailure hreleased hlength, if_neg (not_not_intro hown)]
  cases hchecked : simulator.checked with
  | false =>
    rw [hchecked] at hlength
    match rest, hlength with
    | [data], _ =>
      have hintact : simulator.guardedIntact [command, data] = .ok true := by
        rw [guardedIntact, hchecked]
        rfl
      rw [hintact, transfer_plain hfailure hreleased hchecked hown]
      simp only [bind, Except.bind, guardedServe_eq, simulator.guardedRespond_plain hchecked]
  | true =>
    rw [hchecked] at hlength
    match rest, hlength with
    | [data, check], _ =>
      have hintact : simulator.guardedIntact [command, data, check] =
          .ok (Checksum.ofRequest command data == check) := by
        rw [guardedIntact, hchecked]
        rfl
      rw [hintact, transfer_own hfailure hreleased hchecked check hown]
      simp only [bind, Except.bind, guardedServe_eq, simulator.guardedRespond_closed hchecked]

end Frame

/-- For every chip and every buffer, no step of a transfer looks outside of the buffer or of the
register file, and none overflows. -/
theorem guardedTransfer_eq (buffer : List UInt8) :
    simulator.guardedTransfer buffer = .ok (simulator.transfer buffer) := by
  cases hfailure : simulator.failure with
  | some message =>
    rw [guardedTransfer, hfailure, transfer_failing hfailure]
  | none =>
    cases hreleased : simulator.released with
    | true =>
      rw [guardedTransfer, hfailure, hreleased, transfer_released hfailure hreleased]
      rfl
    | false =>
      by_cases hlength : buffer.length = Frame.length simulator.checked
      · have hpos : 0 < buffer.length := by
          rw [hlength]
          cases simulator.checked <;> decide
        obtain ⟨command, rest, rfl⟩ := List.exists_cons_of_length_pos hpos
        by_cases hown : Frame.chipOf command = simulator.chip
        · exact simulator.guardedTransfer_own hfailure hreleased hlength hown
        · rw [simulator.guardedTransfer_cons hfailure hreleased hlength, if_pos hown,
            transfer_other hfailure hreleased hlength hown]
      · rw [guardedTransfer, hfailure, hreleased, transfer_misshapen hfailure hreleased hlength]
        exact if_pos hlength

end Simulator

end QuadPort
