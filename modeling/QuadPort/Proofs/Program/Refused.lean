import QuadPort.Proofs.Script.Exact
import QuadPort.Proofs.Script.Opening
import QuadPort.Proofs.Simulator.Indexed

/-!
# Bad arguments do nothing

An operation on a channel or a register that is not there is refused before it touches anything:
not the link, not the scratch buffer, not the log. It can be left out of any program, and every
other request comes to what it came to before, with the same frames on the bus. Over any link no
request overflows, a step of a shutdown whose failure goes unreported included.
-/

namespace QuadPort

open Conversation Register Channel

variable {σ : Type} [Link σ]

/-! ## One operation -/

/-- A refused operation leaves the session as it found it. -/
theorem Device.enact_perform_refused (device : Device) {operation : Operation}
    {argument : Argument} (h : operation.refusal? = some argument) (session : Session σ) :
    enact (device.perform operation) session =
      (.error (.invalidArgument argument), session) := by
  rw [← Script.run_ofOperation]
  obtain hfail | ⟨access, next, hask, hlt, rfl⟩ := Script.ofOperation_of_refusal h
  · rw [hfail]
    rfl
  · rw [hask, Script.run, enact_bind, Access.enact_perform_refused device access session hlt]

namespace Request

/-! ## A program in two parts -/

theorem play_runAll_cons (request : Request) (requests : List Request) (held : Option Device)
    (session : Session σ) :
    play (runAll held (request :: requests)) session =
      let first := play (request.carryOut held) session
      let rest := play (runAll first.1.1 requests) first.2
      ((rest.1.1, first.1.2 :: rest.1.2), rest.2) :=
  rfl

/-- What comes last runs from where the first part ended. -/
theorem play_runAll_append (front back : List Request) (held : Option Device)
    (session : Session σ) :
    play (runAll held (front ++ back)) session =
      let before := play (runAll held front) session
      let after := play (runAll before.1.1 back) before.2
      ((after.1.1, before.1.2 ++ after.1.2), after.2) := by
  induction front generalizing held session with
  | nil => rfl
  | cons request front ih =>
    simp only [List.cons_append, play_runAll_cons, ih]

/-- A refused operation on a descriptor in use leaves its refusal and nothing else. -/
theorem play_carryOut_refused {operation : Device.Operation} {argument : Argument}
    (h : operation.refusal? = some argument) (device : Device) (session : Session σ) :
    play (carryOut (some device) (.operate operation)) session =
      ((some device, .error (.invalidArgument argument)), session) := by
  have hrefused := device.enact_perform_refused h session
  rw [carryOut, play_bind, play_run, hrefused]
  rfl

/-- A refused operation can be left out: the session at the end is the same, and so is what all
other requests come to. -/
theorem play_runAll_refused {front : List Request} {operation : Device.Operation}
    {argument : Argument} {device : Device} {held : Option Device} {session : Session σ}
    (hheld : (play (runAll held front) session).1.1 = some device)
    (hrefusal : operation.refusal? = some argument) (back : List Request) :
    let before := play (runAll held front) session
    let after := play (runAll (some device) back) before.2
    play (runAll held (front ++ .operate operation :: back)) session =
        ((after.1.1, before.1.2 ++ .error (.invalidArgument argument) :: after.1.2), after.2) ∧
      play (runAll held (front ++ back)) session =
        ((after.1.1, before.1.2 ++ after.1.2), after.2) := by
  constructor
  · simp only [play_runAll_append, hheld, play_runAll_cons, play_carryOut_refused hrefusal]
  · simp only [play_runAll_append, hheld]

/-! ## No request overflows -/

theorem carryOut_noOverflow (held : Option Device) (request : Request) (session : Session σ) :
    NoOverflow (play (request.carryOut held) session).1.2 := by
  cases request with
  | start device =>
    obtain ⟨_, -, _, hstarted, hafter⟩ := emits_start_eq held device session
    rw [hafter]
    exact hstarted.noOverflow.map _
  | operate operation =>
    cases held with
    | none => nofun
    | some device => exact device.perform_noOverflow operation session
  | shutDown =>
    cases held with
    | none => nofun
    | some device =>
      obtain ⟨_, -, _, hshutDown, hafter⟩ := emits_shutDown_eq device session
      rw [hafter]
      exact hshutDown.noOverflow.map _

theorem runAll_noOverflow (requests : List Request) (held : Option Device) (session : Session σ) :
    ∀ result ∈ (play (runAll held requests) session).1.2, NoOverflow result := by
  induction requests generalizing held session with
  | nil => nofun
  | cons request requests ih =>
    rw [play_runAll_cons]
    simp only [List.mem_cons]
    rintro result (rfl | hmem)
    · exact carryOut_noOverflow held request session
    · exact ih _ _ result hmem

end Request

/-! ## The masks -/

namespace Register

def channelMasks (channel : UInt8) : List (Except Overflow UInt8) :=
  [latchMask channel, directionMask channel, levelMask channel, modeMask channel,
    limitMask channel]

def commandMasks : List UInt8 :=
  [Frame.chipMask, Frame.addressMask, Frame.writeMask]

/-- The lowest bit of the empty mask is not in the byte. -/
theorem ne_zero_of_lowestBit_lt {mask : UInt8} (h : lowestBit mask < 8) : mask ≠ 0 := by
  rintro rfl
  exact absurd h (by decide)

theorem lowestBit_of_mem_commandMasks {mask : UInt8} (h : mask ∈ commandMasks) :
    lowestBit mask < 8 := by
  simp only [commandMasks, List.mem_cons, List.not_mem_nil, or_false] at h
  rcases h with rfl | rfl | rfl <;> decide

theorem exists_of_mem_channelMasks {channel : UInt8} (h : channel < channelCount)
    {mask : Except Overflow UInt8} (hmask : mask ∈ channelMasks channel) :
    ∃ field, mask = .ok field ∧ lowestBit field < 8 := by
  have hunit {places : UInt8} (hplaces : places < 8) : lowestBit (1 <<< places) < 8 := by
    rwa [lowestBit_unit hplaces]
  have hpair : lowestBit (0b11 <<< (2 * channel)) < 8 := by
    rw [lowestBit_pair (two_mul_lt h)]
    exact UInt8.lt_trans (two_mul_lt h) (by decide)
  simp only [channelMasks, List.mem_cons, List.not_mem_nil, or_false] at hmask
  rcases hmask with rfl | rfl | rfl | rfl | rfl
  · exact ⟨_, latchMask_eq h, hunit (lt_eight h)⟩
  · exact ⟨_, directionMask_eq h, hunit (add_four_lt h)⟩
  · exact ⟨_, levelMask_eq h, hunit (lt_eight h)⟩
  · exact ⟨_, modeMask_eq h, hpair⟩
  · exact ⟨_, limitMask_eq h, hpair⟩

end Register

/-! ## Together -/

/-- Over any link and from any session, no request of a program overflows and no step of a
shutdown does; the masks of the four channels and of the command byte are not empty, and their
lowest bit is in the byte. A refused operation leaves the session alone, and it can be left out
of the program. A transfer of the simulated chip looks at no byte that the buffer does not have
and at no register that the file does not have. -/
theorem Request.runAll_exact (held : Option Device) (session : Session σ) :
    (∀ requests, ∀ result ∈ (play (runAll held requests) session).1.2, NoOverflow result) ∧
    (∀ device : Device, ∀ step ∈ device.teardown (σ := σ), ∀ session overflow,
      (play step session).1 ≠ some (.arithmetic overflow)) ∧
    (∀ channel < channelCount, ∀ mask ∈ channelMasks channel,
      ∃ field, mask = .ok field ∧ field ≠ 0 ∧ lowestBit field < 8) ∧
    (∀ mask ∈ commandMasks, mask ≠ 0 ∧ lowestBit mask < 8) ∧
    (∀ front operation back device argument,
      (play (runAll held front) session).1.1 = some device →
      operation.refusal? = some argument →
      let before := play (runAll held front) session
      let after := play (runAll (some device) back) before.2
      enact (device.perform operation) before.2 =
          (.error (.invalidArgument argument), before.2) ∧
        play (runAll held (front ++ .operate operation :: back)) session =
          ((after.1.1, before.1.2 ++ .error (.invalidArgument argument) :: after.1.2), after.2) ∧
        play (runAll held (front ++ back)) session =
          ((after.1.1, before.1.2 ++ after.1.2), after.2)) ∧
    ∀ (simulator : Simulator) (buffer : List UInt8),
      simulator.guardedTransfer buffer = .ok (simulator.transfer buffer) := by
  refine ⟨fun requests ↦ runAll_noOverflow requests held session, Device.teardown_noOverflow,
    ?_, ?_, ?_, Simulator.guardedTransfer_eq⟩
  · intro channel hchannel mask hmask
    obtain ⟨field, hfield, hlowest⟩ := exists_of_mem_channelMasks hchannel hmask
    exact ⟨field, hfield, ne_zero_of_lowestBit_lt hlowest, hlowest⟩
  · intro mask hmask
    have hlowest := lowestBit_of_mem_commandMasks hmask
    exact ⟨ne_zero_of_lowestBit_lt hlowest, hlowest⟩
  · intro front operation back device argument hheld hrefusal before after
    exact ⟨device.enact_perform_refused hrefusal before.2,
      play_runAll_refused hheld hrefusal back⟩

/-- On a chip that has just been brought up a channel is refused whose direction bit would be
reached by a sum that is no byte. -/
theorem Request.runAll_exact_after_start :
    let device : Device := { checked := false, chip := 2, hasLine := true }
    let refused : Device.Operation := .setFunction 252 .highZ
    let session := Session.start (Simulation.fresh false 2)
    let before := play (runAll none [.start device]) session
    let after := play (runAll (some device) [.operate (.setLevel 1 true), .shutDown]) before.2
    before.1.1 = some device ∧ refused.refusal? = some (.channel 252) ∧
      directionMask 252 = .error .add ∧
      enact (device.perform refused) before.2 =
        (.error (.invalidArgument (.channel 252)), before.2) ∧
      play (runAll none ([.start device] ++
          .operate refused :: [.operate (.setLevel 1 true), .shutDown])) session =
        ((after.1.1,
          before.1.2 ++ .error (.invalidArgument (.channel 252)) :: after.1.2), after.2) ∧
      ∃ field, directionMask 3 = .ok field ∧ field ≠ 0 ∧ lowestBit field < 8 := by
  have hheld : (play (runAll none [.start { checked := false, chip := 2, hasLine := true }])
      (Session.start (Simulation.fresh false 2))).1.1 =
        some { checked := false, chip := 2, hasLine := true } := by decide +kernel
  obtain ⟨-, -, hmasks, -, hrefused, -⟩ := runAll_exact none
    (Session.start (Simulation.fresh false 2))
  obtain ⟨hresult, hrun, -⟩ := hrefused _ (.setFunction 252 .highZ)
    [.operate (.setLevel 1 true), .shutDown] _ (.channel 252) hheld rfl
  exact ⟨hheld, rfl, rfl, hresult, hrun, hmasks 3 (by decide) _ (by simp [channelMasks])⟩

end QuadPort
