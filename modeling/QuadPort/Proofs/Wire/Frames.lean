import QuadPort.Proofs.Checksum.Linear
import QuadPort.Proofs.Trace.Played

/-!
# Well-formed frames

Every buffer that a program clocks out is the frame of the access being made: the chip
address, the register address and the kind of the access in the command byte, the value to
write or zero behind it, and the checksum of both at the end. Nothing else reaches the
wire, whatever a bus left in the scratch buffer before.
-/

namespace QuadPort

open Conversation Register

namespace Checksum

/-- A checksum fits in five bits, since its last step already does. -/
theorem ofRequest_le (command data : UInt8) : ofRequest command data ≤ 0x1F :=
  UInt8.le_iff_toNat_le.mpr (Nat.le_of_lt_succ (step_lt _ false))

end Checksum

/-- The bytes clocked out for an access, and whether the chip is deselected after them. -/
structure Access.WellFormed (device : Device) (access : Access) (sent : List UInt8)
    (deselect : Bool) : Prop where
  length : sent.length = if device.checked then 3 else 2
  chip_le : device.chip ≤ 3
  address_le : access.address ≤ 0x1F
  chip : ∃ command ∈ sent[0]?, command.toNat / 64 = device.chip.toNat
  address : ∃ command ∈ sent[0]?, command.toNat / 2 % 32 = access.address.toNat
  isWrite : ∃ command ∈ sent[0]?, (command.toNat % 2 = 1 ↔ access.isWrite)
  data : sent[1]? = some access.data
  check : device.checked → ∃ command ∈ sent[0]?, ∃ data ∈ sent[1]?, ∃ check ∈ sent[2]?,
    check = Checksum.ofRequest command data ∧ check ≤ 0x1F
  deselect : deselect = true

namespace Access

theorem wellFormed_frame {device : Device} {access : Access} (hchip : device.chip ≤ maxChip)
    (haddress : access.address ≤ maxAddress) :
    access.WellFormed device (access.frame device) true := by
  have hcommand := toNat_command hchip haddress
  have hlt := toNat_lt_of_le_maxAddress haddress
  have hwrite := access.isWrite.toNat_lt
  refine ⟨length_frame device access, hchip, haddress, ⟨_, rfl, ?_⟩, ⟨_, rfl, ?_⟩, ⟨_, rfl, ?_⟩,
    rfl, fun hchecked ↦ ⟨_, rfl, _, rfl, Checksum.ofRequest (access.command device) access.data,
      ?_, rfl, Checksum.ofRequest_le _ _⟩, rfl⟩
  · omega
  · omega
  · rw [hcommand]
    cases access.isWrite <;> simp <;> omega
  · simp [frame, hchecked]

end Access

namespace Request

/-- A descriptor in use talks to a chip that can be strapped. -/
def Strapped (held : Option Device) : Prop :=
  ∀ device ∈ held, device.chip ≤ maxChip

def Sendable (sent : Sent) : Prop :=
  sent.device.chip ≤ maxChip ∧ sent.exchange.access.address ≤ maxAddress

theorem sendable_of_path {α : Type} {device : Device} {script : Script α}
    {exchanges : List Exchange} {result : Except Error α} (hchip : device.chip ≤ maxChip)
    (hpath : Script.Path device script exchanges result) :
    ∀ sent ∈ exchanges.map (Sent.mk device), Sendable sent := by
  intro sent hsent
  obtain ⟨exchange, hexchange, rfl⟩ := List.mem_map.mp hsent
  exact ⟨hchip, hpath.address_le exchange hexchange⟩

/-- The descriptors of a program come from bring-ups, which refuse any other chip address. -/
theorem Makes.sendable {held next : Option Device} {request : Request} {sent : List Sent}
    (h : Makes held request next sent) (hheld : Strapped held) :
    Strapped next ∧ ∀ item ∈ sent, Sendable item := by
  cases h with
  | refused => exact ⟨by simp [Strapped], by simp⟩
  | idle => exact ⟨hheld, by simp⟩
  | started hchip hpath =>
    refine ⟨?_, sendable_of_path hchip hpath⟩
    intro device hdevice
    split at hdevice
    · cases hdevice
      exact hchip
    · cases hdevice
  | operated hpath => exact ⟨hheld, sendable_of_path (hheld _ rfl) hpath⟩
  | shutDown hfloats =>
    have hpaths := hfloats.flip.imp fun float channel hpath ↦
      And.intro (sendable_of_path (hheld _ rfl) hpath) True.intro
    have hsendable := ((List.forall₂_and_left _ _).mp hpaths).1
    refine ⟨by simp [Strapped], ?_⟩
    intro item hitem
    rw [List.map_flatMap] at hitem
    obtain ⟨float, hfloat, hitem⟩ := List.mem_flatMap.mp hitem
    exact hsendable float hfloat item hitem

theorem MakesAll.sendable {held last : Option Device} {requests : List Request}
    {sent : List Sent} (h : MakesAll held requests last sent) (hheld : Strapped held) :
    ∀ item ∈ sent, Sendable item := by
  induction h with
  | nil => simp
  | cons hfirst _ ih =>
    obtain ⟨hnext, hsent⟩ := hfirst.sendable hheld
    intro item hitem
    rcases List.mem_append.mp hitem with hitem | hitem
    · exact hsent item hitem
    · exact ih hnext item hitem

variable {σ : Type} [Link σ]

/-- Whatever a link answers, a program that starts without a descriptor clocks out the
frames of its accesses and nothing else, and every one of them is well formed. What becomes of the
link is what the calls do to it. -/
theorem transfers_runAll_wellFormed (requests : List Request) (session : Session σ) :
    ∃ (calls : List Call) (sent : List Sent),
      (play (runAll none requests) session).2.calls = session.calls ++ calls ∧
      Played session.link calls (play (runAll none requests) session).2.link ∧
      transfers calls = sent.map Sent.call ∧
      MakesAll none requests (play (runAll none requests) session).1.1 sent ∧
      ∀ bytes deselect reply, Call.transfer bytes deselect reply ∈ calls →
        ∃ device access, ⟨device, access, reply⟩ ∈ sent ∧
          access.WellFormed device bytes deselect := by
  obtain ⟨calls, hcalls, hplayed, sent, hsent, hmakes⟩ :=
    (emits_runAll requests none).played (Recorded.runAll requests none) session
  refine ⟨calls, sent, hcalls, hplayed, hsent, hmakes, ?_⟩
  intro bytes deselect reply hcall
  have htransfer : Call.transfer bytes deselect reply ∈ transfers calls :=
    List.mem_filter.mpr ⟨hcall, rfl⟩
  rw [hsent] at htransfer
  obtain ⟨⟨device, access, reply⟩, hitem, hequal⟩ := List.mem_map.mp htransfer
  cases hequal
  obtain ⟨hchip, haddress⟩ := hmakes.sendable (by simp [Strapped]) _ hitem
  exact ⟨device, access, hitem, Access.wellFormed_frame hchip haddress⟩

end Request

end QuadPort
