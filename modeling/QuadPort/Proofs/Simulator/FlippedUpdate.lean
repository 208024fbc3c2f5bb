import QuadPort.Proofs.Simulator.Flip

/-!
# An update under a flipped bit

A descriptor that waits for the value of a register takes the answer to a dropped request for
the value zero. An update under a flipped bit therefore leaves the bits outside of its mask
alone unless the flip makes the chip drop the read: it then clears them, and succeeds. All
other registers stay as they are under every flip.
-/

namespace QuadPort

open Conversation Register

theorem Access.verdict_read (device : Device) (address : UInt8) (buffer : List UInt8) :
    (Access.read address).verdict device ⟨buffer, .ok ()⟩ =
      Frame.decode buffer device.checked := rfl

section Update

variable {σ : Type} [Link σ] {device : Device} {address mask value : UInt8}
  {session middle : Session σ}

/-- A read that fails ends an update. -/
theorem Device.enact_updateRegister_error {error : Error}
    (hread : enact ((Access.read address).perform device) session = (.error error, middle)) :
    enact (device.updateRegister address mask value) session = (.error error, middle) := by
  rw [← Script.run_updateRegister, Script.updateRegister, Script.run, enact_bind, hread]

/-- An update writes what it makes of the value that it has read. -/
theorem Device.enact_updateRegister_ok {current written : UInt8} {last : Session σ}
    (hread : enact ((Access.read address).perform device) session = (.ok current, middle))
    (hwrite : enact ((Access.write address (replace mask current value)).perform device) middle =
      (.ok written, last)) :
    enact (device.updateRegister address mask value) session = (.ok (), last) := by
  rw [← Script.run_updateRegister, Script.updateRegister, Script.run, enact_bind, hread]
  simp only [Script.writeRegister, Script.run, enact_bind, hwrite]
  rfl

end Update

namespace Cable

variable {access : Access} {session : Session Cable} {hazard : Option Hazard}

/-- Over a cable an access is one transfer through the first of the hazards ahead. -/
theorem enact_perform (device : Device) (haddress : access.address ≤ maxAddress)
    (hhazards : session.link.hazards.head?.join = hazard) :
    ∃ after : Session Cable, enact (access.perform device) session =
        (access.verdict device (carry session.link.chip (access.frame device) hazard).value,
          after) ∧
      after.link.chip = (carry session.link.chip (access.frame device) hazard).state ∧
      after.link.hazards = session.link.hazards.tail := by
  obtain ⟨scratch, log, hperform⟩ := Access.enact_perform device access session haddress
  rw [← hhazards]
  exact ⟨_, hperform, rfl, rfl⟩

variable {device : Device} (h : Simulator.Ready device session.link.chip)
  (haddress : access.address ≤ maxAddress)

include h haddress

theorem enact_perform_clean (hhazards : session.link.hazards.head?.join = none) :
    ∃ after : Session Cable, enact (access.perform device) session =
        (.ok (session.link.chip.file.access access).1, after) ∧
      Simulator.Ready device after.link.chip ∧
      after.link.chip.file = (session.link.chip.file.access access).2 ∧
      after.link.hazards = session.link.hazards.tail := by
  obtain ⟨after, hperform, hchip, htail⟩ := enact_perform device haddress hhazards
  obtain ⟨reply, log, htransfer, hverdict⟩ := Simulator.transfer_frame h haddress
  have hcarry : carry session.link.chip (access.frame device) none = _ := htransfer
  have haccess := RegisterFile.access_eq session.link.chip access
  rw [hcarry] at hperform hchip
  rw [hverdict, haccess.1] at hperform
  refine ⟨after, hperform, ?_, ?_, htail⟩
  · rw [hchip]
    exact h.access access
  · rw [hchip]
    exact haccess.2

end Cable

namespace Cable

variable {device : Device} {session : Session Cable} {flip : Flip}
  (h : Simulator.Ready device session.link.chip) (hchecked : device.checked = true)
  {address : UInt8} (haddress : address ≤ maxAddress)

include h hchecked haddress

/-- Under a flip a write succeeds; the register has its new value or its old one. -/
theorem enact_write_flip (value : UInt8)
    (hhazards : session.link.hazards.head?.join = some flip.hazard) :
    ∃ after : Session Cable,
      enact ((Access.write address value).perform device) session = (.ok value, after) ∧
        (after.link.chip.file = session.link.chip.file ∨
          after.link.chip.file = session.link.chip.file.set address value) := by
  have hwrite : (Access.write address value).address ≤ maxAddress := haddress
  obtain ⟨after, hperform, hchip, -⟩ := enact_perform device hwrite hhazards
  cases hdirection : flip.onResponse with
  | false =>
    obtain ⟨log, lost, hcarry, hfile, -⟩ := carry_request_flip h hchecked hwrite hdirection
    rw [hcarry] at hperform hchip
    refine ⟨after, hperform, .inl ?_⟩
    rw [hchip]
    exact hfile
  | true =>
    obtain ⟨buffer, log, hcarry, -⟩ := carry_response_flip h hchecked hwrite hdirection
    rw [hcarry] at hperform hchip
    refine ⟨after, hperform, .inr ?_⟩
    rw [hchip]
    exact (RegisterFile.access_eq session.link.chip (.write address value)).2

/-- Under a flip a read of an ordinary register brings back zero if the chip drops the
request, and otherwise the value of the register or an error. -/
theorem enact_read_flip (hordinary : RegisterFile.Ordinary address)
    (hhazards : session.link.hazards.head?.join = some flip.hazard) :
    ∃ (result : Except Error UInt8) (after : Session Cable),
      enact ((Access.read address).perform device) session = (result, after) ∧
      Simulator.Ready device after.link.chip ∧
      after.link.chip.file = session.link.chip.file ∧
      after.link.hazards = session.link.hazards.tail ∧
      if flip.DropsRequest then result = .ok 0
      else result = .ok (session.link.chip.file.get address) ∨ ∃ error, result = .error error := by
  have hread : (Access.read address).address ≤ maxAddress := haddress
  obtain ⟨after, hperform, hchip, htail⟩ := enact_perform device hread hhazards
  refine ⟨_, after, hperform, ?_⟩
  cases hdirection : flip.onResponse with
  | false =>
    obtain ⟨log, lost, hcarry, hfile, hready⟩ := carry_request_flip h hchecked hread hdirection
    rw [hcarry] at hchip ⊢
    rw [hchip]
    refine ⟨hready, hfile, htail, ?_⟩
    rw [Access.verdict_read, hchecked]
    by_cases htop : flip.AtTop
    · have hkept : ¬ flip.DropsRequest := fun hdrops ↦ hdrops.2 htop
      rw [if_neg hkept, if_pos htop, Frame.decode_silence]
      exact .inr ⟨_, rfl⟩
    · rw [if_pos ⟨hdirection, htop⟩, if_neg htop]
      exact Frame.decode_dropped
  | true =>
    obtain ⟨buffer, log, hcarry, hdecode⟩ := carry_response_flip h hchecked hread hdirection
    have haccess := RegisterFile.access_eq session.link.chip (.read address)
    rw [RegisterFile.access_ordinary hordinary] at haccess
    have hkept : ¬ flip.DropsRequest := fun hdrops ↦
      Bool.false_ne_true (hdrops.1.symm.trans hdirection)
    rw [hcarry] at hchip ⊢
    rw [hchip]
    refine ⟨h.access (.read address), haccess.2, htail, ?_⟩
    rw [if_neg hkept, Access.verdict_read, hdecode, haccess.1]
    by_cases htop : flip.AtTop
    · rw [if_pos htop]
      exact .inl rfl
    · rw [if_neg htop]
      exact .inr ⟨_, rfl⟩

variable (hordinary : RegisterFile.Ordinary address) (mask value : UInt8)

include hordinary

/-- A flip on the read of an update: a dropped request counts as a value of zero. -/
theorem file_update_read_flip
    (hhazards : session.link.hazards = [some flip.hazard]) :
    ∃ (result : Except Error Unit) (last : Session Cable),
      enact (device.updateRegister address mask value) session = (result, last) ∧
      if flip.DropsRequest then result = .ok () ∧
        last.link.chip.file = session.link.chip.file.set address (replace mask 0 value)
      else last.link.chip.file = session.link.chip.file ∨
        last.link.chip.file = session.link.chip.file.set address
          (replace mask (session.link.chip.file.get address) value) := by
  have hflip : session.link.hazards.head?.join = some flip.hazard := by
    rw [hhazards]
    rfl
  obtain ⟨result, middle, hmiddle, hready, hfile, htail, hresult⟩ :=
    enact_read_flip h hchecked haddress hordinary hflip
  have hclean : middle.link.hazards.head?.join = none := by
    rw [htail, hhazards]
    rfl
  cases result with
  | error error =>
    have hkept : ¬ flip.DropsRequest := by
      intro hdrops
      rw [if_pos hdrops] at hresult
      cases hresult
    refine ⟨_, middle, Device.enact_updateRegister_error hmiddle, ?_⟩
    rw [if_neg hkept]
    exact .inl hfile
  | ok current =>
    have hwrite : (Access.write address (replace mask current value)).address ≤ maxAddress :=
      haddress
    obtain ⟨last, hlast, -, hset, -⟩ := enact_perform_clean hready hwrite hclean
    rw [hfile] at hset
    refine ⟨_, last, Device.enact_updateRegister_ok hmiddle hlast, ?_⟩
    by_cases hdrops : flip.DropsRequest
    · rw [if_pos hdrops] at hresult ⊢
      cases hresult
      exact ⟨rfl, hset⟩
    · rw [if_neg hdrops] at hresult ⊢
      rcases hresult with hvalue | ⟨error, herror⟩
      · cases hvalue
        exact .inr hset
      · cases herror

/-- An update whose read goes well leaves the old register or the new one. -/
theorem file_update_write_flip (hgood : session.link.hazards.head?.join = none)
    (hnext : session.link.hazards.tail.head?.join = none ∨
      session.link.hazards.tail.head?.join = some flip.hazard) :
    ∃ last : Session Cable,
      enact (device.updateRegister address mask value) session = (.ok (), last) ∧
      (last.link.chip.file = session.link.chip.file ∨
        last.link.chip.file = session.link.chip.file.set address
          (replace mask (session.link.chip.file.get address) value)) := by
  have hread : (Access.read address).address ≤ maxAddress := haddress
  have hwrite (current : UInt8) :
      (Access.write address (replace mask current value)).address ≤ maxAddress := haddress
  obtain ⟨middle, hmiddle, hready, hfile, htail⟩ := enact_perform_clean h hread hgood
  rw [RegisterFile.access_ordinary hordinary] at hmiddle hfile
  rw [← htail] at hnext
  rw [← show middle.link.chip.file = session.link.chip.file from hfile]
  rcases hnext with hclean | hflip
  · obtain ⟨last, hlast, -, hset, -⟩ := enact_perform_clean hready (hwrite _) hclean
    exact ⟨last, Device.enact_updateRegister_ok hmiddle hlast, .inr (hfile ▸ hset)⟩
  · obtain ⟨last, hlast, hoptions⟩ := enact_write_flip hready hchecked haddress _ hflip
    exact ⟨last, Device.enact_updateRegister_ok hmiddle hlast, hfile ▸ hoptions⟩

end Cable

namespace RegisterFile

variable {file after : RegisterFile} {address mask value : UInt8}

/-- A file in which nothing but one register may have changed. -/
theorem get_of_updated {byte : UInt8} (h : after = file ∨ after = file.set address byte) :
    after.inputs = file.inputs ∧ ∀ other : UInt8, other.toNat % 32 ≠ address.toNat % 32 →
      after.get other = file.get other := by
  rcases h with rfl | rfl
  · exact ⟨rfl, fun _ _ ↦ rfl⟩
  · refine ⟨rfl, fun other hother ↦ ?_⟩
    rw [get_set, if_neg hother.symm]

/-- An update that may have been made changes no bit outside of its mask. -/
theorem bit_of_updated
    (h : after = file ∨ after = file.set address (replace mask (file.get address) value))
    {place : Nat} (hplace : bit mask place = false) :
    bit (after.get address) place = bit (file.get address) place := by
  rcases h with rfl | rfl
  · rfl
  · calc
      bit ((file.set address (replace mask (file.get address) value)).get address) place
      _ = bit (replace mask (file.get address) value) place := by rw [get_set, if_pos rfl]
      _ = bit (file.get address) place := by
        rw [bit_replace, hplace]
        rfl

end RegisterFile

theorem Register.replace_zero (mask value : UInt8) : replace mask 0 value = mask &&& value := by
  apply ext_bit
  intro place _
  rw [bit_replace, bit_and, bit_zero]
  cases bit mask place <;> rfl

namespace Cable

/-- The hazards ahead if one bit flips after a number of good transfers. -/
def flipAfter (delay : Nat) (flip : Flip) : List (Option Hazard) :=
  List.replicate delay none ++ [some flip.hazard]

/-- At most one bit flips during an update of an ordinary register, with checksums in use.
All other registers are afterwards what they were before, and so are the bits outside of the
mask, unless the flip makes the chip drop the read: then the update succeeds and has cleared
them. -/
theorem updateRegister_confined {device : Device} {session : Session Cable}
    (h : Simulator.Ready device session.link.chip) (hchecked : device.checked = true)
    {address : UInt8} (haddress : address ≤ maxAddress)
    (hordinary : RegisterFile.Ordinary address) (mask value : UInt8) {delay : Nat} {flip : Flip}
    (hhazards : session.link.hazards = flipAfter delay flip) :
    ∃ (result : Except Error Unit) (last : Session Cable),
      enact (device.updateRegister address mask value) session = (result, last) ∧
      last.link.chip.inputs = session.link.chip.inputs ∧
      (∀ other : UInt8, other.toNat % 32 ≠ address.toNat % 32 →
        last.link.chip.stored other = session.link.chip.stored other) ∧
      if delay = 0 ∧ flip.DropsRequest then
        result = .ok () ∧ last.link.chip.stored address = mask &&& value
      else ∀ place, bit mask place = false →
        bit (last.link.chip.stored address) place =
          bit (session.link.chip.stored address) place := by
  match delay with
  | 0 =>
    obtain ⟨result, last, hlast, hfile⟩ :=
      file_update_read_flip h hchecked haddress hordinary mask value hhazards
    by_cases hdrops : flip.DropsRequest
    · rw [if_pos hdrops] at hfile
      have hrest := RegisterFile.get_of_updated (.inr hfile.2)
      have hcleared : last.link.chip.stored address = mask &&& value := by
        rw [RegisterFile.stored_eq, hfile.2, RegisterFile.get_set, if_pos rfl, replace_zero]
      refine ⟨result, last, hlast, hrest.1, hrest.2, ?_⟩
      rw [if_pos ⟨rfl, hdrops⟩]
      exact ⟨hfile.1, hcleared⟩
    · rw [if_neg hdrops] at hfile
      have hrest := RegisterFile.get_of_updated hfile
      refine ⟨result, last, hlast, hrest.1, hrest.2, ?_⟩
      rw [if_neg fun hboth ↦ hdrops hboth.2]
      exact fun place hplace ↦ RegisterFile.bit_of_updated hfile hplace
  | delay + 1 =>
    have hgood : session.link.hazards.head?.join = none := by
      rw [hhazards]
      rfl
    have hnext : session.link.hazards.tail.head?.join = none ∨
        session.link.hazards.tail.head?.join = some flip.hazard := by
      rw [hhazards]
      cases delay with
      | zero => exact .inr rfl
      | succ => exact .inl rfl
    obtain ⟨last, hlast, hfile⟩ :=
      file_update_write_flip h hchecked haddress hordinary mask value hgood hnext
    have hrest := RegisterFile.get_of_updated hfile
    refine ⟨_, last, hlast, hrest.1, hrest.2, ?_⟩
    rw [if_neg fun hboth ↦ Nat.succ_ne_zero delay hboth.1]
    exact fun place hplace ↦ RegisterFile.bit_of_updated hfile hplace

def checkFlip : Flip where
  onResponse := false
  byte := ⟨2, by decide⟩
  place := ⟨0, by decide⟩

def flipping : Cable where
  simulation := ⟨(Simulator.fresh true 0).setRegister 0x0A 0xA5, .fresh⟩
  hazards := flipAfter 0 checkFlip

theorem flipping_confined :
    Simulator.Ready ⟨true, 0, false⟩ flipping.chip ∧ RegisterFile.Ordinary 0x0A ∧
      ∃ (result : Except Error Unit) (last : Session Cable),
        enact ((⟨true, 0, false⟩ : Device).updateRegister 0x0A 0x0F 0x03) (Session.start flipping) =
          (result, last) ∧
        last.link.chip.inputs = flipping.chip.inputs ∧
        (∀ other : UInt8, other.toNat % 32 ≠ (0x0A : UInt8).toNat % 32 →
          last.link.chip.stored other = flipping.chip.stored other) ∧
        if 0 = 0 ∧ checkFlip.DropsRequest then
          result = .ok () ∧ last.link.chip.stored 0x0A = 0x0F &&& 0x03
        else ∀ place, bit 0x0F place = false →
          bit (last.link.chip.stored 0x0A) place = bit (flipping.chip.stored 0x0A) place := by
  have hready : Simulator.Ready ⟨true, 0, false⟩ (Session.start flipping).link.chip :=
    ⟨⟨rfl, rfl, rfl, rfl⟩, by decide, rfl⟩
  have hordinary : RegisterFile.Ordinary 0x0A := by
    constructor <;> decide
  have haddress : (0x0A : UInt8) ≤ maxAddress := by decide
  have hhazards : (Session.start flipping).link.hazards = flipAfter 0 checkFlip := rfl
  exact ⟨hready, hordinary,
    updateRegister_confined hready rfl haddress hordinary 0x0F 0x03 hhazards⟩

/-- An update of the four low bits succeeds and has cleared the four high bits. -/
theorem flipping_clears :
    let after := enact ((⟨true, 0, false⟩ : Device).updateRegister 0x0A 0x0F 0x03)
      (Session.start flipping)
    after.1.isOk ∧ flipping.chip.stored 0x0A = 0xA5 ∧ after.2.link.chip.stored 0x0A = 0x03 := by
  decide +kernel

end Cable

end QuadPort
