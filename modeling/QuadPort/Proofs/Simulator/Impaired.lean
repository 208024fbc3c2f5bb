import QuadPort.Proofs.Script.Look
import QuadPort.Proofs.Simulator.Cable
import QuadPort.Proofs.Simulator.Tasks
import QuadPort.Proofs.Simulator.Wired

/-!
# A cable that loses transfers and damages checksums

A transfer over an impaired cable is lost before it reaches the chip, or the checksum of its
response is damaged on the way back, in any pattern; the chip is in any state. An exchange that
fails on the cable has then done nothing, and a line of tasks has done the tasks in front of
the one that failed: a write that was not answered was not carried out, and a read whose
response is rejected has done no more than clear its own register.
-/

namespace QuadPort

open Conversation Register

/-! ## What an exchange did, by its verdict -/

namespace Exchange.Did

variable {device : Device} {before after : RegisterFile} {address : UInt8} {reply : Reply}

theorem of_read (h : Did ⟨.read address, reply⟩ before after) :
    after = before ∨ after = before.afterRead address := by
  unfold Did at h
  split at h
  · exact .inr h.1
  · exact .inl h

/-- A read that is accepted brings back what the register showed. -/
theorem of_read_ok {current : UInt8} (h : Did ⟨.read address, reply⟩ before after)
    (hverdict : (Access.read address).verdict device reply = .ok current) :
    after = before.afterRead address ∧ current = before.look address := by
  obtain ⟨hresult, hdecode⟩ := Access.verdict_read_eq_ok.mp hverdict
  simp only [Did, hresult] at h
  have hvalue := (Frame.getElem?_of_decode hdecode).symm.trans h.2
  exact ⟨h.1, Option.some.inj hvalue⟩

variable {value : UInt8}

theorem of_write_ok {written : UInt8} (h : Did ⟨.write address value, reply⟩ before after)
    (hverdict : (Access.write address value).verdict device reply = .ok written) :
    after = before.set address value := by
  unfold Access.verdict at hverdict
  cases hresult : reply.result with
  | error fault =>
    rw [hresult] at hverdict
    cases hverdict
  | ok =>
    simp only [Did, hresult] at h
    exact h.1

theorem of_write_error {error : Error} (h : Did ⟨.write address value, reply⟩ before after)
    (hverdict : (Access.write address value).verdict device reply = .error error) :
    after = before := by
  unfold Access.verdict at hverdict
  cases hresult : reply.result with
  | error fault =>
    simp only [Did, hresult] at h
    exact h
  | ok =>
    rw [hresult] at hverdict
    cases hverdict

/-- An ordinary register is read as it is and left so. -/
theorem of_read_ordinary {current : UInt8} (h : Did ⟨.read address, reply⟩ before after)
    (hordinary : RegisterFile.Ordinary address)
    (hverdict : (Access.read address).verdict device reply = .ok current) :
    after = before ∧ current = before.get address := by
  obtain ⟨hread, hcurrent⟩ := h.of_read_ok hverdict
  rw [RegisterFile.afterRead_ordinary hordinary] at hread
  rw [RegisterFile.look_ordinary hordinary] at hcurrent
  exact ⟨hread, hcurrent⟩

/-- An update whose write is accepted is done. -/
theorem of_written {middle : RegisterFile} {update : Update} {current : UInt8} {answer : Reply}
    (h : Did ⟨.read update.address, reply⟩ before middle)
    (hwrite : Did ⟨.write update.address (update.apply current), answer⟩ middle after)
    (hordinary : RegisterFile.Ordinary update.address)
    (hverdict : (Access.read update.address).verdict device reply = .ok current)
    (haccepted : (Access.write update.address (update.apply current)).verdict device answer =
      .ok value) :
    after = before.done (.update update) := by
  obtain ⟨rfl, rfl⟩ := h.of_read_ordinary hordinary hverdict
  rw [RegisterFile.done_update hordinary]
  exact hwrite.of_write_ok haccepted

end Exchange.Did

/-! ## The cable -/

/-- The hazard keeps a transfer from the chip or damages the checksum of its response. -/
def Hazard.Impairs : Hazard → Prop
  | .lost _ => True
  | .response mask => ∃ check, mask = [0, 0, check]
  | _ => False

namespace Cable

/-- A cable to a chip with the frames and the chip address of a descriptor, in any state. All that
goes wrong on the cable is that transfers are lost and that checksums of responses are damaged. -/
structure Impaired (device : Device) (cable : Cable) : Prop where
  chip : cable.chip.chip = device.chip
  checked : cable.chip.checked = device.checked
  hazards : ∀ hazard ∈ cable.hazards, ∀ cause ∈ hazard, cause.Impairs

variable {device : Device} {cable next : Cable}

/-- A damaged checksum leaves the second byte of a response alone. -/
theorem getElem?_overlay (check : UInt8) (buffer : List UInt8) :
    (Bench.overlay [0, 0, check] buffer)[1]? = buffer[1]? := by
  match buffer with
  | [] | [_] => rfl
  | _ :: value :: _ => simp [Bench.overlay]

/-- An access through a hazard does nothing or what it does on the chip. -/
theorem carry_did {chip : Simulator} (h : Simulator.Wired device chip) {access : Access}
    (haddress : access.address ≤ maxAddress) {hazard : Option Hazard}
    (hhazard : ∀ cause ∈ hazard, cause.Impairs) :
    ∃ reply log after, carry chip (access.frame device) hazard = ⟨reply, log, after⟩ ∧
      Simulator.Wired device after ∧ Exchange.Did ⟨access, reply⟩ chip.file after.file := by
  obtain ⟨reply, log, after, htransfer, hafter, hdid⟩ := Simulator.transfer_did h haddress
  cases hazard with
  | none => exact ⟨reply, log, after, htransfer, hafter, hdid⟩
  | some cause =>
    have himpairs := hhazard cause rfl
    cases cause with
    | lost fault => exact ⟨_, _, _, rfl, h, rfl⟩
    | unanswered | request => cases himpairs
    | response mask =>
      obtain ⟨check, rfl⟩ := himpairs
      refine ⟨{ reply with buffer := Bench.overlay [0, 0, check] reply.buffer }, log, after, ?_,
        hafter, ?_⟩
      · simp only [carry, htransfer]
      · unfold Exchange.Did at hdid ⊢
        rw [getElem?_overlay]
        exact hdid

/-- What holds of all hazards ahead holds of the next one. -/
theorem next_of_forall {P : Hazard → Prop}
    (h : ∀ hazard ∈ cable.hazards, ∀ cause ∈ hazard, P cause) :
    ∀ cause ∈ cable.hazards.head?.join, P cause :=
  fun cause hcause ↦ h _ (mem_of_head hcause) cause rfl

theorem made_exchange (h : Impaired device cable) (hstrapped : device.chip ≤ maxChip)
    {access : Access} {reply : Reply}
    (hmade : Made cable (Exchange.call device ⟨access, reply⟩) next)
    (haddress : access.address ≤ maxAddress) :
    Impaired device next ∧ Exchange.Did ⟨access, reply⟩ cable.chip.file next.chip.file := by
  obtain ⟨_, _, _, hcarry, hwired, hdid⟩ :=
    carry_did ⟨hstrapped, h.chip, h.checked⟩ haddress (next_of_forall h.hazards)
  obtain ⟨⟨log, hmet⟩, hhazards⟩ := carry_of_made hmade
  cases hcarry.symm.trans hmet
  refine ⟨⟨hwired.chip, hwired.checked, ?_⟩, hdid⟩
  rw [hhazards]
  exact fun hazard hmem ↦ h.hazards hazard (List.mem_of_mem_tail hmem)

/-- Only transfers reach the registers. -/
theorem made_other {call : Call} (h : Impaired device cable) (hcall : ¬ call.isTransfer)
    (hmade : Made cable call next) :
    Impaired device next ∧ next.chip.file = cable.chip.file := by
  cases hmade with
  | transfer => exact absurd rfl hcall
  | releaseBus | setLine | releaseLine => exact ⟨⟨h.chip, h.checked, h.hazards⟩, rfl⟩

end Cable

/-! ## Lines of tasks over the cable -/

/-- What one exchange of a line that starts with a task does if it is the read of the task. -/
theorem Task.Step.of_read {task : Task} {tasks : List Task} {before after : RegisterFile}
    (h : after = before ∨ after = before.afterRead task.address) :
    Step (task :: tasks) before after := by
  rcases h with hsame | hread
  · exact .inl hsame
  · exact .inr ⟨task, .head _, .inl hread⟩

theorem Carried.played {device : Device} {tasks : List Task} {exchanges : List Exchange}
    {result : Except Error Unit} (h : Carried device tasks exchanges result)
    (hplain : ∀ task ∈ tasks, task.Plain) (hstrapped : device.chip ≤ maxChip) {cable next : Cable}
    (hcable : Cable.Impaired device cable)
    (hplayed : Played cable (exchanges.map (Exchange.call device)) next) :
    Cable.Impaired device next ∧
      Stepwise (fun before after ↦ Task.Step tasks before.chip.file after.chip.file) cable
        (exchanges.map (Exchange.call device)) next ∧
      Task.Left tasks cable.chip.file next.chip.file result := by
  induction h generalizing cable with
  | done =>
    cases hplayed
    exact ⟨hcable, .nil _, rfl⟩
  | refused hrefused =>
    exact absurd (hplain _ (.head _)).address_le (UInt8.not_le.mpr hrefused)
  | rejected =>
    rcases hplayed with _ | ⟨hmade, _ | _⟩
    have haddress := (hplain _ (.head _)).address_le
    obtain ⟨hnext, hdid⟩ := Cable.made_exchange hcable hstrapped hmade haddress
    exact ⟨hnext, .cons hmade (.of_read hdid.of_read) (.nil _), .stopped hdid.of_read⟩
  | read hverdict _ ih =>
    rcases hplayed with _ | ⟨hmade, hrest⟩
    have haddress := (hplain _ (.head _)).address_le
    obtain ⟨hmiddle, hdid⟩ := Cable.made_exchange hcable hstrapped hmade haddress
    obtain ⟨hnext, hsteps, hleft⟩ := ih (fun task hmem ↦ hplain task (.tail _ hmem)) hmiddle hrest
    obtain ⟨hread, -⟩ := hdid.of_read_ok hverdict
    rw [hread] at hleft
    exact ⟨hnext, .cons hmade (.of_read hdid.of_read) (hsteps.mono fun _ _ ↦ .cons), hleft.cons⟩
  | unwritten hverdict hwrite =>
    rcases hplayed with _ | ⟨hmade, _ | ⟨hlast, _ | _⟩⟩
    obtain ⟨haddress, hordinary⟩ := hplain _ (.head _)
    obtain ⟨hmiddle, hdid⟩ := Cable.made_exchange hcable hstrapped hmade haddress
    obtain ⟨hnext, hunwritten⟩ := Cable.made_exchange hmiddle hstrapped hlast haddress
    have hsame := hunwritten.of_write_error hwrite
    refine ⟨hnext, .cons hmade (.of_read hdid.of_read) (.cons hlast (.inl hsame) (.nil _)), ?_⟩
    rw [hsame]
    exact .stopped hdid.of_read
  | @written update current _ _ _ _ _ _ hverdict hwrite _ ih =>
    rcases hplayed with _ | ⟨hmade, _ | ⟨hlast, hrest⟩⟩
    obtain ⟨haddress, hordinary⟩ := hplain _ (.head _)
    obtain ⟨hfirst, hdid⟩ := Cable.made_exchange hcable hstrapped hmade haddress
    obtain ⟨hmiddle, hwritten⟩ := Cable.made_exchange hfirst hstrapped hlast haddress
    obtain ⟨hnext, hsteps, hleft⟩ := ih (fun task hmem ↦ hplain task (.tail _ hmem)) hmiddle hrest
    obtain ⟨hsame, -⟩ := hdid.of_read_ordinary hordinary hverdict
    have hupdate := hdid.of_written hwritten hordinary hverdict hwrite
    rw [hupdate] at hleft
    refine ⟨hnext, .cons hmade (.of_read hdid.of_read) (.cons hlast ?_ ?_), hleft.cons⟩
    · exact .inr ⟨.update update, .head _, .inr (by rw [hupdate, hsame])⟩
    · exact hsteps.mono fun _ _ ↦ .cons

end QuadPort
