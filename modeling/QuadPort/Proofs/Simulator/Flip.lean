import QuadPort.Proofs.Checksum.Window
import QuadPort.Proofs.Simulator.Cable

/-!
# A flipped bit

With checksums in use a single bit that flips on the cable never goes unnoticed by the side
that it reaches: the chip drops the request, or does not take it for its own, and the
descriptor rejects the response, unless the bit is one of the two that no checksum covers and
no one looks at. To a dropped request the chip still answers, with a data byte of zero and the
checksum that goes with it.
-/

namespace QuadPort

open Conversation Register

/-- One flipped bit of a frame of three bytes, on its way to the chip or back. -/
structure Flip where
  onResponse : Bool
  byte : Fin 3
  place : Fin 8
  deriving DecidableEq, Repr

namespace Flip

def on (flip : Flip) (byte : Fin 3) : UInt8 :=
  if flip.byte = byte then 1 <<< UInt8.ofNat flip.place else 0

def mask (flip : Flip) : List UInt8 :=
  [flip.on 0, flip.on 1, flip.on 2]

def hazard (flip : Flip) : Hazard :=
  if flip.onResponse then .response flip.mask else .request flip.mask

/-- The flip hits one of the two top bits of a frame: the chip address of a request, and in a
response two bits that its checksum does not cover. -/
def AtTop (flip : Flip) : Prop :=
  flip.byte = 0 ∧ 6 ≤ flip.place.val

instance (flip : Flip) : Decidable flip.AtTop :=
  inferInstanceAs (Decidable (_ ∧ _))

def DropsRequest (flip : Flip) : Prop :=
  flip.onResponse = false ∧ ¬ flip.AtTop

instance (flip : Flip) : Decidable flip.DropsRequest :=
  inferInstanceAs (Decidable (_ ∧ _))

/-- What holds of the flips of all bits holds of a flip; its direction does not matter. -/
theorem of_forall {P : Flip → Prop} (h : ∀ onResponse byte place, P ⟨onResponse, byte, place⟩)
    (flip : Flip) : P flip :=
  h flip.onResponse flip.byte flip.place

theorem chipOf_on (flip : Flip) : Frame.chipOf (flip.on 0) = 0 ↔ ¬ flip.AtTop := by
  revert flip
  apply of_forall
  decide

theorem requestSyndrome_on (flip : Flip) (h : ¬ flip.AtTop) :
    Checksum.requestSyndrome (flip.on 0) (flip.on 1) ≠ flip.on 2 := by
  revert flip
  apply of_forall
  simp only [Checksum.requestSyndrome, Checksum.feedByte_eq]
  decide +kernel

theorem responseSyndrome_on (flip : Flip) :
    Checksum.responseSyndrome (flip.on 0) (flip.on 1) = flip.on 2 ↔ flip.AtTop := by
  revert flip
  apply of_forall
  simp only [Checksum.responseSyndrome, Checksum.feedByte_eq]
  decide +kernel

theorem on_data {flip : Flip} (h : flip.AtTop) : flip.on 1 = 0 := by
  have hne : flip.byte ≠ 1 := by
    rw [h.1]
    decide
  exact if_neg hne

end Flip

/-! ## One access under a flip -/

namespace Frame

/-- The response that no one drives is rejected. -/
theorem decode_silence :
    decode [0, 0, 0] true = .error (.checksum (Checksum.ofResponse 0 0) 0) := by
  rw [decode_checked, if_neg Checksum.ofResponse_zero_ne]

/-- The response to a dropped request is accepted. -/
theorem decode_dropped : decode [0, 0, Checksum.ofResponse 0 0] true = .ok 0 := by
  rw [decode_checked, if_pos rfl]

end Frame

namespace Cable

variable {device : Device} {chip : Simulator} (h : Simulator.Ready device chip)
  (hchecked : device.checked = true) {access : Access} (haddress : access.address ≤ maxAddress)
  {flip : Flip}

include h hchecked haddress

/-- A request with a flipped bit changes no register. Nobody answers it if it is addressed to
another chip, and otherwise it is dropped. -/
theorem carry_request_flip (hdirection : flip.onResponse = false) :
    ∃ log after, carry chip (access.frame device) (some flip.hazard) =
      ⟨⟨[0, 0, if flip.AtTop then 0 else Checksum.ofResponse 0 0], .ok ()⟩, log, after⟩ ∧
        after.file = chip.file ∧ Simulator.Ready device after := by
  have hsim := h.checked.trans hchecked
  have hchip : Frame.chipOf (access.command device) = chip.chip :=
    (Access.chipOf_command h.strapped haddress).trans h.chip.symm
  have hcarry : carry chip (access.frame device) (some flip.hazard) =
      chip.transfer [access.command device ^^^ flip.on 0, access.data ^^^ flip.on 1,
        Checksum.ofRequest (access.command device) access.data ^^^ flip.on 2] := by
    rw [Flip.hazard, hdirection, Access.frame, hchecked]
    rfl
  rw [hcarry]
  by_cases htop : flip.AtTop
  · have hforeign : Frame.chipOf (access.command device ^^^ flip.on 0) ≠ chip.chip := by
      rw [Frame.chipOf_xor, hchip]
      intro hsame
      have hzero := (UInt8.xor_right_inj chip.chip).mp (hsame.trans UInt8.xor_zero.symm)
      exact flip.chipOf_on.mp hzero htop
    have hlength : [access.command device ^^^ flip.on 0, access.data ^^^ flip.on 1,
        Checksum.ofRequest (access.command device) access.data ^^^ flip.on 2].length =
          Frame.length chip.checked := by
      rw [hsim]
      rfl
    rw [Simulator.transfer_other h.failure h.released hlength hforeign, if_pos htop]
    exact ⟨_, _, rfl, rfl, h.counted⟩
  · have hown : Frame.chipOf (access.command device ^^^ flip.on 0) = chip.chip := by
      rw [Frame.chipOf_xor, hchip, flip.chipOf_on.mpr htop, UInt8.xor_zero]
    have hdamaged : Checksum.ofRequest (access.command device ^^^ flip.on 0)
        (access.data ^^^ flip.on 1) ≠
          Checksum.ofRequest (access.command device) access.data ^^^ flip.on 2 := by
      rw [Checksum.ofRequest_xor]
      intro hsame
      exact flip.requestSyndrome_on htop ((UInt8.xor_right_inj _).mp hsame)
    rw [Simulator.transfer_damaged h.failure h.released hsim h.corruption hown hdamaged,
      if_neg htop]
    exact ⟨_, _, rfl, rfl, ⟨⟨h.checked, h.chip, h.failure, h.corruption⟩, h.strapped, h.released⟩⟩

/-- Before a response with a flipped bit the chip has done what the access asked for. The
response is rejected unless no one looks at the bit. -/
theorem carry_response_flip (hdirection : flip.onResponse = true) :
    ∃ buffer log, carry chip (access.frame device) (some flip.hazard) =
        ⟨⟨buffer, .ok ()⟩, log, (chip.access access).2⟩ ∧
      Frame.decode buffer device.checked = if flip.AtTop then .ok (chip.access access).1
        else .error (.checksum
          (Checksum.ofResponse 0 (chip.access access).1 ^^^
            Checksum.responseSyndrome (flip.on 0) (flip.on 1))
          (Checksum.ofResponse 0 (chip.access access).1 ^^^ flip.on 2)) := by
  obtain ⟨log, htransfer⟩ := Simulator.transfer_frame_eq h haddress
  have hcarry : carry chip (access.frame device) (some flip.hazard) =
      ⟨⟨Bench.overlay flip.mask [0, (chip.access access).1,
        Checksum.ofResponse 0 (chip.access access).1], .ok ()⟩, log, (chip.access access).2⟩ := by
    rw [hchecked] at htransfer
    rw [Flip.hazard, hdirection]
    simp only [carry, htransfer]
    rfl
  refine ⟨_, log, hcarry, ?_⟩
  rw [hchecked, Flip.mask, Frame.decode_overlay]
  by_cases htop : flip.AtTop
  · rw [if_pos htop, if_pos (flip.responseSyndrome_on.mpr htop), Flip.on_data htop,
      UInt8.xor_zero]
  · rw [if_neg htop, if_neg (mt flip.responseSyndrome_on.mp htop)]

end Cable

end QuadPort
