import QuadPort.Proofs.Simulator.Wired

/-!
# Foreign traffic

On a shared bus a chip sees transfers that are not meant for it: frames for another chip address,
and buffers of a length that its frames do not have. The chip looks at length and address before
anything else, so it takes no part in such a transfer whatever state it is in. Foreign transfers
can be taken out of any traffic: the replies to the others stay what they were, and so does the
chip but for its count of transfers.
-/

namespace QuadPort

open Register

theorem Frame.chipOf_le (command : UInt8) : chipOf command ≤ maxChip := by
  have hlt := command.toNat_lt
  have hshift : (chipOf command).toNat = command.toNat / 64 :=
    (UInt8.toNat_shiftRight command 6).trans (Nat.shiftRight_eq_div_pow _ _)
  rw [UInt8.le_iff_toNat_le, hshift]
  change command.toNat / 64 ≤ 3
  omega

namespace Simulator

/-- The buffer does not have the length of the chip's frames, or its first byte asks for another
chip address. -/
def Foreign (simulator : Simulator) (buffer : List UInt8) : Prop :=
  buffer.length ≠ Frame.length simulator.checked ∨
    ∃ command ∈ buffer.head?, Frame.chipOf command ≠ simulator.chip

instance (simulator : Simulator) (buffer : List UInt8) : Decidable (simulator.Foreign buffer) :=
  inferInstanceAs (Decidable (_ ∨ _))

/-- The reply to a foreign buffer on a bus that was not given back: zeros for another chip, a
refusal for a wrong length. -/
def foreignReply (simulator : Simulator) (buffer : List UInt8) : Reply :=
  if buffer.length = Frame.length simulator.checked then
    ⟨List.replicate buffer.length 0, .ok ()⟩
  else
    ⟨buffer, .error (.spi
      s!"unexpected frame length {buffer.length} (expected {Frame.length simulator.checked})")⟩

variable {simulator : Simulator}

/-- A buffer that is not foreign is a frame for the chip. -/
theorem frame_of_not_foreign {buffer : List UInt8} (h : ¬ simulator.Foreign buffer) :
    (simulator.checked = false ∧
      ∃ command data, buffer = [command, data] ∧ Frame.chipOf command = simulator.chip) ∨
    (simulator.checked = true ∧
      ∃ command data check, buffer = [command, data, check] ∧
        Frame.chipOf command = simulator.chip) := by
  unfold Foreign at h
  push Not at h
  obtain ⟨hlength, hown⟩ := h
  cases hchecked : simulator.checked with
  | false =>
    rw [hchecked] at hlength
    match buffer, hlength with
    | [command, data], _ => exact .inl ⟨rfl, command, data, rfl, hown command rfl⟩
  | true =>
    rw [hchecked] at hlength
    match buffer, hlength with
    | [command, data, check], _ => exact .inr ⟨rfl, command, data, check, rfl, hown command rfl⟩

/-! ## The answers to foreign transfers -/

section Foreign

variable (hfailure : simulator.failure = none)

include hfailure

/-- A buffer of a wrong length is left alone. -/
theorem transfer_misshapen (hreleased : simulator.released = false) {buffer : List UInt8}
    (hlength : buffer.length ≠ Frame.length simulator.checked) :
    simulator.transfer buffer = simulator.counted.refuse buffer
      s!"unexpected frame length {buffer.length} (expected {Frame.length simulator.checked})" := by
  obtain ⟨_, _, checked, _, _, _, _, _, _, _⟩ := simulator
  cases hfailure
  cases hreleased
  match checked, buffer, hlength with
  | false, [], _ | false, [_], _ | false, _ :: _ :: _ :: _, _ => rfl
  | true, [], _ | true, [_], _ | true, [_, _], _ | true, _ :: _ :: _ :: _ :: _, _ => rfl
  | false, [_, _], hlength | true, [_, _, _], hlength => exact absurd rfl hlength

theorem transfer_of_foreign (hreleased : simulator.released = false) {buffer : List UInt8}
    (h : simulator.Foreign buffer) :
    simulator.transfer buffer = ⟨simulator.foreignReply buffer, [], simulator.counted⟩ := by
  unfold foreignReply
  by_cases hlength : buffer.length = Frame.length simulator.checked
  · rw [if_pos hlength]
    obtain hwrong | ⟨command, hcommand, hother⟩ := h
    · exact absurd hlength hwrong
    · obtain ⟨rest, rfl⟩ := List.head?_eq_some_iff.mp hcommand
      exact transfer_other hfailure hreleased hlength hother
  · rw [if_neg hlength]
    exact transfer_misshapen hfailure hreleased hlength

/-- The chip has no part in a foreign transfer, on a bus that was given back or not. -/
theorem state_of_foreign {buffer : List UInt8} (h : simulator.Foreign buffer) :
    (simulator.transfer buffer).state = simulator.counted := by
  cases hreleased : simulator.released with
  | true =>
    rw [transfer_released hfailure hreleased]
    rfl
  | false => rw [transfer_of_foreign hfailure hreleased h]

end Foreign

/-! ## The count of transfers does not show -/

def ahead (simulator : Simulator) (count : Nat) : Simulator :=
  { simulator with transfers := simulator.transfers + count }

section Ahead

variable (simulator) (count : Nat)

theorem counted_ahead : (simulator.ahead count).counted = simulator.counted.ahead count := by
  simp [ahead, counted, Nat.add_right_comm]

theorem read_ahead (address : UInt8) :
    (simulator.ahead count).read address =
      ((simulator.read address).1, (simulator.read address).2.ahead count) := by
  unfold read
  split
  · rfl
  · split <;> rfl

theorem serve_ahead (command data : UInt8) (intact : Bool) :
    (simulator.ahead count).serve command data intact =
      { simulator.serve command data intact with
        state := (simulator.serve command data intact).state.ahead count } := by
  unfold serve
  split
  · rfl
  · split
    · rfl
    · simp only [read_ahead]

/-- How many transfers were counted before shows in no reply. -/
theorem transfer_ahead (buffer : List UInt8) :
    (simulator.ahead count).transfer buffer =
      { simulator.transfer buffer with
        state := (simulator.transfer buffer).state.ahead count } := by
  cases hfailure : simulator.failure with
  | some message =>
    have hahead : (simulator.ahead count).failure = some message := hfailure
    rw [transfer_failing hfailure, transfer_failing hahead, counted_ahead]
    rfl
  | none =>
    have hahead : (simulator.ahead count).failure = none := hfailure
    cases hreleased : simulator.released with
    | true =>
      rw [transfer_released hfailure hreleased, transfer_released hahead hreleased, counted_ahead]
      rfl
    | false =>
      by_cases hforeign : simulator.Foreign buffer
      · have hsame : (simulator.ahead count).Foreign buffer := hforeign
        rw [transfer_of_foreign hfailure hreleased hforeign,
          transfer_of_foreign hahead hreleased hsame, counted_ahead]
        rfl
      · obtain ⟨hchecked, command, data, rfl, hown⟩ | ⟨hchecked, command, data, check, rfl, hown⟩ :=
          frame_of_not_foreign hforeign
        · rw [transfer_plain hfailure hreleased hchecked hown,
            transfer_plain hahead hreleased hchecked hown, counted_ahead, serve_ahead]
        · rw [transfer_own hfailure hreleased hchecked check hown,
            transfer_own hahead hreleased hchecked check hown, counted_ahead, serve_ahead]
          rfl

end Ahead

/-! ## What no transfer changes -/

/-- Whether a chip takes a transfer at all, and which ones are foreign to it, is the same. -/
structure SameFront (before after : Simulator) : Prop where
  checked : after.checked = before.checked
  chip : after.chip = before.chip
  failure : after.failure = before.failure
  released : after.released = before.released

namespace SameFront

variable {before after : Simulator}

theorem read (simulator : Simulator) (address : UInt8) :
    SameFront simulator (simulator.read address).2 := by
  unfold Simulator.read
  split
  · exact ⟨rfl, rfl, rfl, rfl⟩
  · split <;> exact ⟨rfl, rfl, rfl, rfl⟩

theorem serve (simulator : Simulator) (command data : UInt8) (intact : Bool) :
    SameFront simulator (simulator.serve command data intact).state := by
  unfold Simulator.serve
  split
  · exact ⟨rfl, rfl, rfl, rfl⟩
  · split
    · exact ⟨rfl, rfl, rfl, rfl⟩
    · exact read simulator _

theorem transfer (hfailure : simulator.failure = none) (buffer : List UInt8) :
    SameFront simulator (simulator.transfer buffer).state := by
  cases hreleased : simulator.released with
  | true =>
    rw [transfer_released hfailure hreleased]
    exact ⟨rfl, rfl, rfl, rfl⟩
  | false =>
    by_cases hforeign : simulator.Foreign buffer
    · rw [state_of_foreign hfailure hforeign]
      exact ⟨rfl, rfl, rfl, rfl⟩
    · obtain ⟨hchecked, command, data, rfl, hown⟩ | ⟨hchecked, command, data, check, rfl, hown⟩ :=
        frame_of_not_foreign hforeign
      · rw [transfer_plain hfailure hreleased hchecked hown]
        have hserved := serve simulator.counted command data true
        exact ⟨hserved.checked, hserved.chip, hserved.failure, hserved.released⟩
      · rw [transfer_own hfailure hreleased hchecked check hown]
        have hserved := serve simulator.counted command data
          (Checksum.ofRequest command data == check)
        exact ⟨hserved.checked, hserved.chip, hserved.failure, hserved.released⟩

theorem foreign_iff (h : SameFront before after) (buffer : List UInt8) :
    after.Foreign buffer ↔ before.Foreign buffer := by
  unfold Foreign
  rw [h.checked, h.chip]

theorem foreignReply_eq (h : SameFront before after) (buffer : List UInt8) :
    after.foreignReply buffer = before.foreignReply buffer := by
  unfold foreignReply
  rw [h.checked]

end SameFront

/-! ## Traffic -/

def transferAll (simulator : Simulator) : List (List UInt8) → List Reply × Simulator
  | [] => ([], simulator)
  | buffer :: buffers =>
    let answer := simulator.transfer buffer
    let (replies, last) := transferAll answer.state buffers
    (answer.value :: replies, last)

/-- A transfer in the traffic on a bus, and whether it stays there when others are taken out. -/
structure Passage where
  buffer : List UInt8
  stays : Bool
  deriving DecidableEq, Repr

theorem transferAll_ahead (count : Nat) (buffers : List (List UInt8)) (simulator : Simulator) :
    (simulator.ahead count).transferAll buffers =
      ((simulator.transferAll buffers).1, (simulator.transferAll buffers).2.ahead count) := by
  induction buffers generalizing simulator with
  | nil => rfl
  | cons buffer buffers ih => simp only [transferAll, transfer_ahead, ih]

section Traffic

variable {traffic : List Passage} (hfailure : simulator.failure = none)
  (hforeign : ∀ passage ∈ traffic, passage.stays = false → simulator.Foreign passage.buffer)

include hfailure hforeign

/-- Taking foreign transfers out of the traffic changes no other reply, and of the chip only the
count of transfers. -/
theorem transferAll_filter :
    let whole := simulator.transferAll (traffic.map Passage.buffer)
    let thinned := simulator.transferAll ((traffic.filter Passage.stays).map Passage.buffer)
    ((traffic.zip whole.1).filter (·.1.stays)).map Prod.snd = thinned.1 ∧
      whole.2 = thinned.2.ahead (traffic.countP (!·.stays)) := by
  induction traffic generalizing simulator with
  | nil => exact ⟨rfl, rfl⟩
  | cons passage traffic ih =>
    obtain ⟨hpassage, hforeign⟩ := List.forall_mem_cons.mp hforeign
    cases hstays : passage.stays with
    | false =>
      have hstate := state_of_foreign hfailure (hpassage hstays)
      have hcounted : simulator.counted.transferAll (traffic.map Passage.buffer) = _ :=
        transferAll_ahead 1 _ simulator
      obtain ⟨hreplies, hlast⟩ := ih hfailure hforeign
      simp only [List.map_cons, transferAll, hstate, hcounted, List.zip_cons_cons,
        List.filter_cons, hstays, List.countP_cons]
      exact ⟨hreplies, congrArg (ahead · 1) hlast⟩
    | true =>
      have hfront := SameFront.transfer hfailure passage.buffer
      obtain ⟨hreplies, hlast⟩ := ih (hfront.failure.trans hfailure) fun other hmem hother ↦
        (hfront.foreign_iff other.buffer).mpr (hforeign other hmem hother)
      simp only [List.map_cons, transferAll, List.zip_cons_cons, List.filter_cons, hstays,
        List.countP_cons, if_true]
      exact ⟨congrArg _ hreplies, hlast⟩

/-- On a bus that was not given back every foreign transfer has the reply to be expected. -/
theorem reply_of_foreign (hreleased : simulator.released = false) :
    ∀ answered ∈ traffic.zip (simulator.transferAll (traffic.map Passage.buffer)).1,
      answered.1.stays = false → answered.2 = simulator.foreignReply answered.1.buffer := by
  induction traffic generalizing simulator with
  | nil => exact List.forall_mem_nil _
  | cons passage traffic ih =>
    obtain ⟨hpassage, hforeign⟩ := List.forall_mem_cons.mp hforeign
    have hfront := SameFront.transfer hfailure passage.buffer
    have hrest := ih (hfront.failure.trans hfailure)
      (fun other hmem hother ↦ (hfront.foreign_iff other.buffer).mpr (hforeign other hmem hother))
      (hfront.released.trans hreleased)
    refine List.forall_mem_cons.mpr ⟨fun hstays ↦ ?_, fun answered hmem hstays ↦ ?_⟩
    · exact congrArg Answer.value (transfer_of_foreign hfailure hreleased (hpassage hstays))
    · rw [hrest answered hmem hstays, hfront.foreignReply_eq]

end Traffic

/-- A command byte has two bits for the chip address, so no frame reaches a chip above three. -/
theorem foreign_of_lt_chip (h : maxChip < simulator.chip) (buffer : List UInt8) :
    simulator.Foreign buffer := by
  by_cases hlength : buffer.length = Frame.length simulator.checked
  · cases buffer with
    | nil =>
      unfold Frame.length at hlength
      split at hlength <;> cases hlength
    | cons command rest =>
      refine .inr ⟨command, rfl, fun hown ↦ ?_⟩
      have hle := Frame.chipOf_le command
      rw [hown] at hle
      exact absurd h (UInt8.not_lt.mpr hle)
  · exact .inl hlength

/-- Without a failure planted, and in any other state of the chip, any foreign transfers can be
taken out of any traffic. The replies to the others and the chip after them stay the same but for
the count of transfers; on a bus that was not given back the replies to those taken out are known.
A chip above three has no part in any traffic. -/
theorem foreign_traffic_invisible (simulator : Simulator) (hfailure : simulator.failure = none)
    (traffic : List Passage)
    (hforeign : ∀ passage ∈ traffic, passage.stays = false → simulator.Foreign passage.buffer) :
    let whole := simulator.transferAll (traffic.map Passage.buffer)
    let thinned := simulator.transferAll ((traffic.filter Passage.stays).map Passage.buffer)
    ((traffic.zip whole.1).filter (·.1.stays)).map Prod.snd = thinned.1 ∧
      whole.2 = thinned.2.ahead (traffic.countP (!·.stays)) ∧
      (simulator.released = false → ∀ answered ∈ traffic.zip whole.1,
        answered.1.stays = false → answered.2 = simulator.foreignReply answered.1.buffer) ∧
      (maxChip < simulator.chip → ∀ buffers,
        (simulator.transferAll buffers).2 = simulator.ahead buffers.length) := by
  intro whole thinned
  obtain ⟨hreplies, hlast⟩ := transferAll_filter hfailure hforeign
  refine ⟨hreplies, hlast, reply_of_foreign hfailure hforeign, fun hchip buffers ↦ ?_⟩
  have hothers : ∀ passage ∈ buffers.map (Passage.mk · false),
      passage.stays = false → simulator.Foreign passage.buffer :=
    fun passage _ _ ↦ foreign_of_lt_chip hchip passage.buffer
  have hall := (transferAll_filter hfailure hothers).2
  simpa [Function.comp_def, List.filter_map, transferAll] using hall

/-- A read of a fault register between a request for another chip and half a request. The fault
byte comes back with a damaged checksum, as it does without the two. -/
theorem shared_bus_invisible :
    let simulator : Simulator :=
      { (fresh true 2).setRegister Name.overload.address 0x0F with corruption := true }
    let traffic : List Passage :=
      [⟨[0x48, 0x00, 0x00], false⟩, ⟨[0x88, 0x00, Checksum.ofRequest 0x88 0x00], true⟩,
        ⟨[0x88], false⟩]
    let whole := simulator.transferAll (traffic.map Passage.buffer)
    (simulator.failure = none ∧
      ∀ passage ∈ traffic, passage.stays = false → simulator.Foreign passage.buffer) ∧
      ((traffic.zip whole.1).filter (·.1.stays)).map (fun answered ↦ answered.2.buffer) =
        [[0x00, 0x0F, Checksum.ofResponse 0x00 0x0F ^^^ 1]] ∧
      whole.2 = { (fresh true 2) with transfers := 3 } := by
  intro simulator traffic whole
  have hforeign : ∀ passage ∈ traffic, passage.stays = false →
      simulator.Foreign passage.buffer := by
    decide
  obtain ⟨hreplies, hlast, -⟩ := foreign_traffic_invisible simulator rfl traffic hforeign
  refine ⟨⟨rfl, hforeign⟩, ?_, ?_⟩
  · have hbuffers := congrArg (List.map Reply.buffer) hreplies
    rw [List.map_map] at hbuffers
    exact hbuffers.trans (by decide +kernel)
  · exact hlast.trans (by decide +kernel)

end Simulator

end QuadPort
