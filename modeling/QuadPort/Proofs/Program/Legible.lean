import QuadPort.Proofs.Simulator.Cable
import QuadPort.Proofs.Trace.Twin

/-!
# Programs see only what is legible

Two links that answer alike may hand a program different bytes: whatever the response to a write
holds, whatever stands in the idle bits of the response to a read, whatever a failed transfer
leaves behind. None of these bytes has an influence on what the program does.
-/

namespace QuadPort

open Conversation Register

/-- A program makes the same calls over links that answer alike, and comes to the same results,
with the same checksums in its errors. -/
theorem Request.runAll_sees_legible_only {σ τ : Type} [Link σ] [Link τ] {R : σ → τ → Prop}
    (halike : Link.Alike R) {first : Session σ} {second : Session τ}
    (hsessions : Session.Alike R first second) (held : Option Device) (requests : List Request) :
    let one := play (runAll held requests) first
    let other := play (runAll held requests) second
    one.1 = other.1 ∧ one.2.calls.map Call.blanked = other.2.calls.map Call.blanked ∧
      R one.2.link other.2.link := by
  intro one other
  obtain ⟨hresults, hafter⟩ := Twin.runAll halike requests held first second hsessions
  exact ⟨hresults, hafter.calls, hafter.link⟩

/-! ## Illegible bytes spoilt -/

/-- A link on which every byte that a descriptor does not look at is spoilt. -/
structure Garbled (σ : Type) where
  link : σ

namespace Garbled

def lift : List UInt8 → List UInt8
  | [] => []
  | status :: rest => (status ||| 0xC0) :: rest

/-- The response to a read that went through with its idle bits set, and ones in the place of any
other response. -/
def garble (sent : List UInt8) (reply : Reply) : List UInt8 :=
  if reply.result.isOk && !sent.head?.any Frame.isWrite then lift reply.buffer
  else List.replicate reply.buffer.length 0xFF

theorem length_garble (sent : List UInt8) (reply : Reply) :
    (garble sent reply).length = reply.buffer.length := by
  unfold garble
  split
  · cases reply.buffer <;> rfl
  · exact List.length_replicate

/-- The two top bits of the status byte are not looked at. -/
theorem legible_lift (buffer : List UInt8) :
    Frame.legible (lift buffer) = Frame.legible buffer := by
  match buffer with
  | [] | [_] | [_, _] | _ :: _ :: _ :: _ :: _ => rfl
  | [status, data, check] =>
    have hstatus : (status ||| 0xC0) &&& 0x3F = status &&& 0x3F := by
      apply ext_bit
      intro place _
      have hidle : (bit 0xC0 place && bit 0x3F place) = false := by
        rw [← bit_and]
        exact bit_zero place
      calc
        bit ((status ||| 0xC0) &&& 0x3F) place
        _ = (bit status place && bit 0x3F place || bit 0xC0 place && bit 0x3F place) := by
          rw [bit_and, bit_or, Bool.and_or_distrib_right]
        _ = bit (status &&& 0x3F) place := by rw [hidle, Bool.or_false, bit_and]
    simp only [lift, Frame.legible, hstatus]

variable {σ : Type} [Link σ]

instance : Link (Garbled σ) where
  transfer buffer deselect garbled :=
    let answer := Link.transfer buffer deselect garbled.link
    { value := { answer.value with buffer := garble buffer answer.value }
      log := answer.log
      state := ⟨answer.state⟩ }
  length_transfer buffer deselect garbled :=
    (length_garble buffer _).trans (Link.length_transfer buffer deselect garbled.link)
  releaseBus garbled :=
    let answer := Link.releaseBus garbled.link
    { answer with state := ⟨answer.state⟩ }
  setLine level garbled :=
    let answer := Link.setLine level garbled.link
    { answer with state := ⟨answer.state⟩ }
  releaseLine garbled :=
    let answer := Link.releaseLine garbled.link
    { answer with state := ⟨answer.state⟩ }

/-- Any link is like its garbled twin. -/
theorem alike : Link.Alike fun (link : σ) (garbled : Garbled σ) ↦ garbled.link = link where
  transfer sent deselect _ garbled h := by
    obtain ⟨state⟩ := garbled
    cases h
    refine ⟨⟨rfl, fun command hhead hread hok ↦ ?_⟩, rfl⟩
    have hgarble : garble sent (Link.transfer sent deselect state).value =
        lift (Link.transfer sent deselect state).value.buffer := by
      unfold garble
      rw [hok, Option.mem_def.mp hhead]
      simp [hread, Except.isOk, Except.toBool]
    have hlegible := legible_lift (Link.transfer sent deselect state).value.buffer
    rw [← hgarble] at hlegible
    exact hlegible.symm
  releaseBus _ garbled h := by
    obtain ⟨state⟩ := garbled
    cases h
    exact ⟨rfl, rfl⟩
  setLine _ _ garbled h := by
    obtain ⟨state⟩ := garbled
    cases h
    exact ⟨rfl, rfl⟩
  releaseLine _ garbled h := by
    obtain ⟨state⟩ := garbled
    cases h
    exact ⟨rfl, rfl⟩

def cable : Cable where
  simulation := .fresh true 2
  hazards := [some (.response [0, 0, 1])]

def requests : List Request :=
  [.operate .readFaults, .operate (.setFunction 1 .output), .operate (.function 1)]

/-- The same damaged checksum is reported whether or not the illegible bytes are spoilt. -/
theorem runAll_on_garbled_cable :
    let device : Device := ⟨true, 2, true⟩
    Link.Alike (fun (link : Cable) (garbled : Garbled Cable) ↦ garbled.link = link) ∧
      Session.Alike (fun link garbled ↦ garbled.link = link) (.start cable)
        (.start (Garbled.mk cable)) ∧
      (play (Request.runAll (some device) requests) (.start cable)).1 =
        (play (Request.runAll (some device) requests) (.start (Garbled.mk cable))).1 ∧
      (play (Request.runAll (some device) requests) (.start cable)).2.calls.map Call.blanked =
        (play (Request.runAll (some device) requests)
          (.start (Garbled.mk cable))).2.calls.map Call.blanked ∧
      (play (Request.runAll (some device) requests) (.start (Garbled.mk cable))).1 =
        (some device,
          [.error (.checksum (Checksum.ofResponse 0 0) (Checksum.ofResponse 0 0 ^^^ 1)),
            .ok .done, .ok (.function .output)]) := by
  have hsessions : Session.Alike (fun link garbled ↦ garbled.link = link) (.start cable)
      (.start (Garbled.mk cable)) := ⟨rfl, rfl⟩
  obtain ⟨hresults, hcalls, -⟩ :=
    Request.runAll_sees_legible_only alike hsessions (some ⟨true, 2, true⟩) requests
  exact ⟨alike, hsessions, hresults, hcalls, by decide +kernel⟩

end Garbled

end QuadPort
