import QuadPort.Bench
import QuadPort.Proofs.Checksum.Linear
import QuadPort.Proofs.Simulator.RegisterFile
import QuadPort.Proofs.Trace.Played

/-!
# A cable on which transfers go wrong

The cable between a descriptor and a simulated chip has a list of hazards ahead, one for each
of the next transfers. A transfer can be lost before it reaches the chip, its reply can be lost
on the way back, and bits can be flipped in either direction by a mask laid over the bytes.

With checksums in use, a mask on a request that changes its checksum differently from its
bytes makes the chip drop the request, and a mask on a response makes the descriptor reject
it. Which masks do so depends on their syndromes alone.
-/

namespace QuadPort

open Conversation Register

inductive Hazard
  | lost (fault : Fault)
  | unanswered (fault : Fault)
  | request (mask : List UInt8)
  | response (mask : List UInt8)
  deriving DecidableEq, Repr

/-- A simulation with the hazards of the transfers to come; after the last one in the list
nothing goes wrong any more. -/
structure Cable where
  simulation : Simulation
  hazards : List (Option Hazard)
  deriving DecidableEq, Repr

namespace Cable

/-- The chip at the far end. -/
def chip (cable : Cable) : Simulator :=
  cable.simulation.chip

def carry (chip : Simulator) (buffer : List UInt8) : Option Hazard → Answer Simulator Reply
  | none => chip.transfer buffer
  | some (.lost fault) => { value := ⟨buffer, .error fault⟩, log := [], state := chip }
  | some (.unanswered fault) =>
    { chip.transfer buffer with value := ⟨buffer, .error fault⟩ }
  | some (.request mask) => chip.transfer (Bench.overlay mask buffer)
  | some (.response mask) =>
    let answer := chip.transfer buffer
    { answer with value := { answer.value with buffer := Bench.overlay mask answer.value.buffer } }

theorem length_carry (chip : Simulator) (buffer : List UInt8) (hazard : Option Hazard) :
    (carry chip buffer hazard).value.buffer.length = buffer.length := by
  match hazard with
  | none => exact chip.length_transfer buffer
  | some (.lost _) | some (.unanswered _) => rfl
  | some (.request mask) => exact (chip.length_transfer _).trans (Bench.length_overlay mask buffer)
  | some (.response mask) => exact (Bench.length_overlay mask _).trans (chip.length_transfer buffer)

end Cable

instance : Link Cable where
  transfer buffer _ cable :=
    let answer := Cable.carry cable.simulation.chip buffer cable.hazards.head?.join
    { answer with state :=
      { simulation := { cable.simulation with chip := answer.state }
        hazards := cable.hazards.tail } }
  length_transfer buffer _ _ := Cable.length_carry _ buffer _
  releaseBus cable :=
    let answer := Link.releaseBus cable.simulation
    { answer with state := { cable with simulation := answer.state } }
  setLine level cable :=
    let answer := Link.setLine level cable.simulation
    { answer with state := { cable with simulation := answer.state } }
  releaseLine cable :=
    let answer := Link.releaseLine cable.simulation
    { answer with state := { cable with simulation := answer.state } }

namespace Cable

variable {cable next : Cable}

/-- The next hazard is one of those ahead. -/
theorem mem_of_head {cause : Hazard} (h : cable.hazards.head?.join = some cause) :
    some cause ∈ cable.hazards :=
  List.mem_of_head? (Option.join_eq_some_iff.mp h)

/-- An exchange meets the next hazard and uses it up. -/
theorem carry_of_made {device : Device} {access : Access} {reply : Reply}
    (h : Made cable (Exchange.call device ⟨access, reply⟩) next) :
    (∃ log, carry cable.chip (access.frame device) cable.hazards.head?.join =
      ⟨reply, log, next.chip⟩) ∧ next.hazards = cable.hazards.tail := by
  change Made cable (.transfer (access.frame device) true reply) next at h
  cases h
  exact ⟨⟨_, rfl⟩, rfl⟩

end Cable

/-- A request whose checksum is wrong is counted and changes no register. -/
theorem Simulator.transfer_dropped {simulator : Simulator} (hfailure : simulator.failure = none)
    (hreleased : simulator.released = false) (hchecked : simulator.checked = true)
    {command data check : UInt8} (hown : Frame.chipOf command = simulator.chip)
    (hdamaged : Checksum.ofRequest command data ≠ check) :
    simulator.transfer [command, data, check] =
      { value := ⟨[0, 0, if simulator.corruption then Checksum.ofResponse 0 0 ^^^ 1
          else Checksum.ofResponse 0 0], .ok ()⟩
        log := (simulator.counted.serve command data false).log
        state := { simulator.counted with
          checksumErrors := simulator.checksumErrors + 1
          corruption := false } } := by
  have hwrong : (Checksum.ofRequest command data == check) = false := beq_false_of_ne hdamaged
  rw [transfer_own hfailure hreleased hchecked check hown, hwrong]
  rfl

/-- A request whose checksum is wrong is answered by zeros. -/
theorem Simulator.transfer_damaged {simulator : Simulator} (hfailure : simulator.failure = none)
    (hreleased : simulator.released = false) (hchecked : simulator.checked = true)
    (hcorruption : simulator.corruption = false) {command data check : UInt8}
    (hown : Frame.chipOf command = simulator.chip)
    (hdamaged : Checksum.ofRequest command data ≠ check) :
    simulator.transfer [command, data, check] =
      { value := ⟨[0, 0, Checksum.ofResponse 0 0], .ok ()⟩
        log := (simulator.counted.serve command data false).log
        state := { simulator.counted with checksumErrors := simulator.checksumErrors + 1 } } := by
  rw [transfer_dropped hfailure hreleased hchecked hown hdamaged]
  cases simulator
  cases hcorruption
  rfl

/-! ## Masks -/

namespace Frame

theorem chipOf_xor (command mask : UInt8) :
    chipOf (command ^^^ mask) = chipOf command ^^^ chipOf mask :=
  UInt8.shiftRight_xor

/-- Whether a response is still accepted under a mask depends on the mask alone. -/
theorem decode_overlay (status data maskStatus maskData maskCheck : UInt8) :
    decode (Bench.overlay [maskStatus, maskData, maskCheck]
        [status, data, Checksum.ofResponse status data]) true =
      if Checksum.responseSyndrome maskStatus maskData = maskCheck then .ok (data ^^^ maskData)
      else .error (.checksum
        (Checksum.ofResponse status data ^^^ Checksum.responseSyndrome maskStatus maskData)
        (Checksum.ofResponse status data ^^^ maskCheck)) := by
  simp only [Bench.overlay, decode, Checksum.ofResponse_xor, UInt8.xor_right_inj]

end Frame

end QuadPort
