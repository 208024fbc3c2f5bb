import QuadPort.Proofs.Simulator.Levels
import QuadPort.Proofs.Simulator.Script

/-!
# The chip as a register file

Behind its frames a simulated chip is thirty-two bytes and the voltages on its field side.
`RegisterFile` is just these, with the level register as one formula. Reading and writing
a simulator is reading and writing its file, and so is carrying a script out.
-/

namespace QuadPort

open Conversation Register

/-- Thirty-two bytes and the voltages on the field side. -/
structure RegisterFile where
  bytes : Vector UInt8 32
  inputs : UInt8
  deriving DecidableEq, Repr

def Simulator.file (simulator : Simulator) : RegisterFile :=
  ⟨simulator.registers, simulator.inputs⟩

namespace RegisterFile

/-! ## The plain register file -/

theorem mod_lt (address : UInt8) : address.toNat % 32 < 32 :=
  Nat.mod_lt _ (by decide)

/-- The byte at an address, which wraps around. -/
def get (file : RegisterFile) (address : UInt8) : UInt8 :=
  file.bytes.get ⟨address.toNat % 32, mod_lt address⟩

def set (file : RegisterFile) (address value : UInt8) : RegisterFile :=
  { file with bytes := file.bytes.set (address.toNat % 32) value (mod_lt address) }

/-- The level register: the field side of the inputs and the latches of the outputs. -/
def level (file : RegisterFile) : UInt8 :=
  let inputs := file.get 0 >>> 4
  ((file.inputs &&& inputs) ||| (file.get 0 &&& ~~~inputs)) &&& 0x0F

def look (file : RegisterFile) (address : UInt8) : UInt8 :=
  if address = 2 then file.level else file.get address

/-- The file after a read, which clears the registers four to seven. -/
def afterRead (file : RegisterFile) (address : UInt8) : RegisterFile :=
  if 4 ≤ address ∧ address ≤ 7 then file.set address 0 else file

def access (file : RegisterFile) : Access → UInt8 × RegisterFile
  | .read address => (file.look address, file.afterRead address)
  | .write address value => (value, file.set address value)

theorem get_set (file : RegisterFile) (address value other : UInt8) :
    (file.set address value).get other =
      if address.toNat % 32 = other.toNat % 32 then value else file.get other :=
  Vector.getElem_set (mod_lt address) (mod_lt other)

@[simp]
theorem inputs_set (file : RegisterFile) (address value : UInt8) :
    (file.set address value).inputs = file.inputs := rfl

theorem cell_eq_iff {address other : UInt8} (h : address ≤ maxAddress)
    (hother : other ≤ maxAddress) :
    address.toNat % 32 = other.toNat % 32 ↔ address = other := by
  have hlt := toNat_lt_of_le_maxAddress h
  have hltOther := toNat_lt_of_le_maxAddress hother
  rw [Nat.mod_eq_of_lt hlt, Nat.mod_eq_of_lt hltOther, UInt8.toNat_inj]

theorem inputs_afterRead (file : RegisterFile) (address : UInt8) :
    (file.afterRead address).inputs = file.inputs := by
  unfold afterRead
  split <;> rfl

theorem get_afterRead {address other : UInt8} (h : address ≤ maxAddress)
    (hother : other ≤ maxAddress) (file : RegisterFile) :
    (file.afterRead address).get other =
      if address = other ∧ 4 ≤ address ∧ address ≤ 7 then 0 else file.get other := by
  unfold afterRead
  by_cases hrange : 4 ≤ address ∧ address ≤ 7
  · rw [if_pos hrange, get_set]
    simp only [cell_eq_iff h hother, hrange, and_true]
  · simp only [hrange, and_false, if_false]

/-- The bits of the level register. -/
theorem bit_level (file : RegisterFile) {place : Nat} (h : place < 8) :
    bit file.level place = (decide (place < 4) &&
      if bit (file.get Name.setOut.address) (place + 4) then bit file.inputs place
      else bit (file.get Name.setOut.address) place) := by
  have hmask : ∀ place < 8, bit 0x0F place = decide (place < 4) := by decide
  simp only [level, bit_and, bit_or, bit_not, hmask _ h,
    bit_shiftRight _ (show (4 : UInt8) < 8 by decide), Name.address, UInt8.toNat_ofNat,
    Nat.add_comm place, h]
  cases bit (file.get 0) (4 + place) <;> simp [Bool.and_comm]

/-! ## The register file inside a simulator -/

section Simulator

variable (simulator : Simulator)

theorem stored_eq (address : UInt8) : simulator.stored address = simulator.file.get address := rfl

theorem levels_eq : simulator.levels = simulator.file.level := by
  apply ext_bit
  intro place hplace
  rw [Simulator.bit_levels, bit_level _ hplace]
  rfl

theorem isLatched_iff (address : UInt8) : isLatched address ↔ 4 ≤ address ∧ address ≤ 7 := by
  simp only [isLatched, Name.latched, Name.address, List.map_cons, List.map_nil,
    List.contains_iff_mem, List.mem_cons, List.not_mem_nil, or_false, UInt8.le_iff_toNat_le,
    ← UInt8.toNat_inj, UInt8.toNat_ofNat]
  omega

theorem register_eq (address : UInt8) :
    simulator.register address = simulator.file.look address := by
  unfold Simulator.register look
  rw [levels_eq, stored_eq]
  rfl

theorem read_eq (address : UInt8) :
    (simulator.read address).1 = simulator.file.look address ∧
      (simulator.read address).2.file = simulator.file.afterRead address := by
  have hlatched := isLatched_iff address
  unfold Simulator.read look afterRead
  by_cases hlevel : address = Name.level.address
  · subst hlevel
    rw [if_pos rfl, levels_eq]
    exact ⟨rfl, rfl⟩
  · have htwo : ¬ address = 2 := hlevel
    rw [if_neg hlevel, if_neg htwo]
    by_cases hrange : 4 ≤ address ∧ address ≤ 7
    · rw [if_pos (hlatched.mpr hrange), if_pos hrange]
      exact ⟨rfl, rfl⟩
    · rw [if_neg (mt hlatched.mp hrange), if_neg hrange]
      exact ⟨rfl, rfl⟩

theorem access_read_eq (address : UInt8) :
    (simulator.access (.read address)).1 = simulator.file.look address ∧
      (simulator.access (.read address)).2.file = simulator.file.afterRead address :=
  read_eq simulator.counted address

/-- An access to a simulator is an access to its file. -/
theorem access_eq (access : Access) :
    (simulator.access access).1 = (simulator.file.access access).1 ∧
      (simulator.access access).2.file = (simulator.file.access access).2 := by
  cases access with
  | read address => exact access_read_eq simulator address
  | write address value => exact ⟨rfl, rfl⟩

end Simulator

/-- An ordinary register: not computed, and a read leaves it alone. -/
def Ordinary (address : UInt8) : Prop :=
  address ≠ Name.level.address ∧ ¬ isLatched address

instance (address : UInt8) : Decidable (Ordinary address) :=
  inferInstanceAs (Decidable (_ ∧ _))

theorem access_ordinary {address : UInt8} (h : Ordinary address)
    (file : RegisterFile) : file.access (.read address) = (file.get address, file) := by
  have hlevel : ¬ address = 2 := h.1
  have hlatched : ¬ (4 ≤ address ∧ address ≤ 7) := mt (isLatched_iff address).mpr h.2
  calc
    file.access (.read address)
    _ = (file.look address, file.afterRead address) := rfl
    _ = (file.get address, file) := by
      rw [look, if_neg hlevel, afterRead, if_neg hlatched]

theorem look_ordinary {address : UInt8} (h : Ordinary address) (file : RegisterFile) :
    file.look address = file.get address :=
  congrArg Prod.fst (access_ordinary h file)

theorem afterRead_ordinary {address : UInt8} (h : Ordinary address) (file : RegisterFile) :
    file.afterRead address = file :=
  congrArg Prod.snd (access_ordinary h file)

end RegisterFile

/-! ## Scripts on a register file -/

namespace Script

variable {α β : Type}

def apply : Script α → RegisterFile → Except Error α × RegisterFile
  | .done value, file => (.ok value, file)
  | .fail error, file => (.error error, file)
  | .ask access next, file =>
    if access.address ≤ maxAddress then
      apply (next (file.access access).1) (file.access access).2
    else (.error (.invalidArgument (.register access.address)), file)
  | .note _ next, file => apply next file

/-- Serving a script on a simulator is applying it to the file inside. -/
theorem serve_apply (script : Script α) (simulator : Simulator) :
    (script.serve simulator).1 = (script.apply simulator.file).1 ∧
      (script.serve simulator).2.file = (script.apply simulator.file).2 := by
  induction script generalizing simulator with
  | done value => exact ⟨rfl, rfl⟩
  | fail error => exact ⟨rfl, rfl⟩
  | note record next ih => exact ih simulator
  | ask access next ih =>
    obtain ⟨hvalue, hfile⟩ := RegisterFile.access_eq simulator access
    simp only [serve, apply, ← hvalue, ← hfile]
    split
    · exact ih _ _
    · exact ⟨rfl, rfl⟩

theorem apply_bind (script : Script α) (next : α → Script β) (file : RegisterFile) :
    apply (script >>= next) file =
      match apply script file with
      | (.ok value, after) => apply (next value) after
      | (.error error, after) => (.error error, after) := by
  change apply (script.bind next) file = _
  induction script generalizing file with
  | done value => rfl
  | fail error => rfl
  | ask access rest ih =>
    simp only [bind, apply]
    split
    · exact ih _ _
    · rfl
  | note record rest ih => exact ih file

theorem apply_readRegister {address : UInt8} (h : address ≤ maxAddress) (file : RegisterFile) :
    apply (readRegister address) file = (.ok (file.look address), file.afterRead address) :=
  if_pos h

/-- An update of a register that a read leaves as it is. -/
theorem apply_updateRegister {address : UInt8} (h : address ≤ maxAddress)
    (hplain : ∀ file : RegisterFile, file.look address = file.get address ∧
      file.afterRead address = file) (mask value : UInt8) (file : RegisterFile) :
    apply (updateRegister address mask value) file =
      (.ok (), file.set address (replace mask (file.get address) value)) := by
  obtain ⟨hlook, hread⟩ := hplain file
  rw [← hlook]
  refine (if_pos h).trans ((if_pos h).trans ?_)
  simp only [RegisterFile.access, hread]
  rfl

end Script

end QuadPort
