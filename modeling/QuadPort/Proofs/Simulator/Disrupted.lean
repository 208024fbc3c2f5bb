import QuadPort.Proofs.Simulator.BringUp
import QuadPort.Proofs.Simulator.Impaired

/-!
# A cable that also loses replies

On a disrupted cable a transfer may be lost on the way to the chip, its reply may be lost on the
way back, and the checksum of a response may be damaged. A failed write no longer tells whether
it was carried out. What is left is the order: whenever a line of tasks on ordinary registers
ends, and after each of its transfers, some of the tasks at its front have been done and none of
the others.
-/

namespace QuadPort

open Conversation Register Channel

/-! ## What an exchange may have done -/

theorem Access.result_of_verdict {device : Device} {access : Access} {reply : Reply}
    {value : UInt8} (h : access.verdict device reply = .ok value) : reply.result = .ok () := by
  unfold Access.verdict at h
  cases hresult : reply.result with
  | ok => rfl
  | error fault =>
    rw [hresult] at h
    cases h

/-- What an exchange may have done to the registers: what its reply tells, or the access although
no reply came back. -/
def Exchange.MayDo (exchange : Exchange) (before after : RegisterFile) : Prop :=
  exchange.Did before after ∨
    (∃ fault, exchange.reply.result = .error fault) ∧ after = (before.access exchange.access).2

namespace Exchange.MayDo

variable {device : Device} {before after : RegisterFile} {address value : UInt8} {reply : Reply}

/-- A reply that came back tells what was done. -/
theorem did {access : Access} (h : MayDo ⟨access, reply⟩ before after)
    (hverdict : access.verdict device reply = .ok value) : Did ⟨access, reply⟩ before after := by
  rcases h with hdid | ⟨⟨fault, hfault⟩, -⟩
  · exact hdid
  · cases hfault.symm.trans (Access.result_of_verdict hverdict)

theorem of_read (h : MayDo ⟨.read address, reply⟩ before after)
    (hordinary : RegisterFile.Ordinary address) : after = before := by
  rcases h with hdid | ⟨-, hread⟩
  · rcases hdid.of_read with hsame | hread
    · exact hsame
    · rw [hread, RegisterFile.afterRead_ordinary hordinary]
  · rw [hread, RegisterFile.access_ordinary hordinary]

theorem of_write_error {error : Error} (h : MayDo ⟨.write address value, reply⟩ before after)
    (hverdict : (Access.write address value).verdict device reply = .error error) :
    after = before ∨ after = before.set address value := by
  rcases h with hdid | ⟨-, hwritten⟩
  · exact .inl (hdid.of_write_error hverdict)
  · exact .inr hwritten

variable {middle : RegisterFile} {update : Update} {current : UInt8} {answer : Reply}

/-- An update whose write is rejected is done or not. -/
theorem of_unwritten {error : Error} (h : MayDo ⟨.read update.address, reply⟩ before middle)
    (hwrite : MayDo ⟨.write update.address (update.apply current), answer⟩ middle after)
    (hordinary : RegisterFile.Ordinary update.address)
    (hverdict : (Access.read update.address).verdict device reply = .ok current)
    (hrejected : (Access.write update.address (update.apply current)).verdict device answer =
      .error error) :
    after = before ∨ after = before.done (.update update) := by
  obtain ⟨rfl, rfl⟩ := (h.did hverdict).of_read_ordinary hordinary hverdict
  rw [RegisterFile.done_update hordinary]
  exact hwrite.of_write_error hrejected

theorem of_written (h : MayDo ⟨.read update.address, reply⟩ before middle)
    (hwrite : MayDo ⟨.write update.address (update.apply current), answer⟩ middle after)
    (hordinary : RegisterFile.Ordinary update.address)
    (hverdict : (Access.read update.address).verdict device reply = .ok current)
    (haccepted : (Access.write update.address (update.apply current)).verdict device answer =
      .ok value) :
    after = before.done (.update update) :=
  (h.did hverdict).of_written (hwrite.did haccepted) hordinary hverdict haccepted

end Exchange.MayDo

/-! ## The cable -/

def Hazard.Disrupts : Hazard → Prop
  | .unanswered _ => True
  | cause => cause.Impairs

/-- A cable to a chip with the frames and the chip address of a descriptor, in any state, on which
transfers and replies are lost and checksums of responses are damaged. -/
structure Cable.Disrupted (device : Device) (cable : Cable) : Prop where
  wired : Simulator.Wired device cable.chip
  hazards : ∀ hazard ∈ cable.hazards, ∀ cause ∈ hazard, cause.Disrupts

namespace Cable

variable {device : Device} {cable next : Cable}

/-- An access through a hazard may do nothing or what it does on the chip. -/
theorem carry_mayDo {chip : Simulator} (h : Simulator.Wired device chip) {access : Access}
    (haddress : access.address ≤ maxAddress) {hazard : Option Hazard}
    (hhazard : ∀ cause ∈ hazard, cause.Disrupts) :
    ∃ reply log after, carry chip (access.frame device) hazard = ⟨reply, log, after⟩ ∧
      Simulator.Wired device after ∧ Exchange.MayDo ⟨access, reply⟩ chip.file after.file := by
  have himpaired (himpairs : ∀ cause ∈ hazard, cause.Impairs) :
      ∃ reply log after, carry chip (access.frame device) hazard = ⟨reply, log, after⟩ ∧
        Simulator.Wired device after ∧
          Exchange.MayDo ⟨access, reply⟩ chip.file after.file := by
    obtain ⟨reply, log, after, hcarry, hafter, hdid⟩ := carry_did h haddress himpairs
    exact ⟨reply, log, after, hcarry, hafter, .inl hdid⟩
  rcases hazard with _ | cause
  · exact himpaired nofun
  · cases cause with
    | unanswered fault =>
      obtain ⟨reply, log, after, htransfer, hafter, hdid⟩ := Simulator.transfer_did h haddress
      refine ⟨⟨access.frame device, .error fault⟩, log, after, ?_, hafter, ?_⟩
      · simp only [carry, htransfer]
      · unfold Exchange.Did at hdid
        split at hdid
        · exact .inr ⟨⟨fault, rfl⟩, hdid.1⟩
        · exact .inl hdid
    | lost | request | response =>
      exact himpaired fun _ hcause ↦ Option.mem_some.mp hcause ▸ hhazard _ rfl

theorem made_mayDo (h : Disrupted device cable) {access : Access} {reply : Reply}
    (hmade : Made cable (Exchange.call device ⟨access, reply⟩) next)
    (haddress : access.address ≤ maxAddress) :
    Disrupted device next ∧ Exchange.MayDo ⟨access, reply⟩ cable.chip.file next.chip.file := by
  obtain ⟨_, _, _, hcarry, hwired, hmay⟩ :=
    carry_mayDo h.wired haddress (next_of_forall h.hazards)
  obtain ⟨⟨log, hmet⟩, hhazards⟩ := carry_of_made hmade
  cases hcarry.symm.trans hmet
  refine ⟨⟨hwired, ?_⟩, hmay⟩
  rw [hhazards]
  exact fun hazard hmem ↦ h.hazards hazard (List.mem_of_mem_tail hmem)

end Cable

/-! ## Lines of tasks -/

/-- Some of the tasks at the front of a line have been done. -/
inductive Task.Reached : List Task → RegisterFile → RegisterFile → Prop
  | start (tasks : List Task) (file : RegisterFile) : Reached tasks file file
  | done {task : Task} {tasks : List Task} {before after : RegisterFile}
    (h : Reached tasks (before.done task) after) : Reached (task :: tasks) before after

namespace Task.Reached

variable {task : Task} {tasks : List Task} {before after : RegisterFile}

theorem cons_iff : Reached (task :: tasks) before after ↔
    after = before ∨ Reached tasks (before.done task) after := by
  constructor
  · rintro (_ | h)
    · exact .inl rfl
    · exact .inr h
  · rintro (rfl | h)
    · exact .start _ _
    · exact .done h

theorem nil_iff : Reached [] before after ↔ after = before := by
  constructor
  · rintro ⟨⟩
    rfl
  · rintro rfl
    exact .start _ _

/-- A register that no task of the line is about. -/
theorem get_eq (h : Reached tasks before after) (hplain : ∀ task ∈ tasks, task.Plain)
    {address : UInt8} (haddress : address ≤ maxAddress)
    (hother : ∀ task ∈ tasks, task.address ≠ address) :
    after.get address = before.get address := by
  induction h with
  | start => rfl
  | done _ ih =>
    rw [ih (fun task hmem ↦ hplain task (.tail _ hmem)) fun task hmem ↦ hother task (.tail _ hmem),
      RegisterFile.get_done (hplain _ (.head _)) haddress, if_neg (hother _ (.head _))]

theorem inputs_eq (h : Reached tasks before after) : after.inputs = before.inputs := by
  induction h with
  | start => rfl
  | done _ ih => rw [ih, RegisterFile.inputs_done]

end Task.Reached

/-- A line of updates of ordinary registers over a disrupted cable is done up to some task, at its
end and after each transfer, and is done whole if it succeeds. -/
theorem Carried.reached {device : Device} {tasks : List Task} {exchanges : List Exchange}
    {result : Except Error Unit} (h : Carried device tasks exchanges result)
    (hplain : ∀ task ∈ tasks, task.Plain ∧ RegisterFile.Ordinary task.address)
    {cable next : Cable} (hcable : Cable.Disrupted device cable)
    (hplayed : Played cable (exchanges.map (Exchange.call device)) next) :
    Cable.Disrupted device next ∧
      Stepwise (fun _ after ↦ Task.Reached tasks cable.chip.file after.chip.file) cable
        (exchanges.map (Exchange.call device)) next ∧
      Task.Reached tasks cable.chip.file next.chip.file ∧
      (result = .ok () → next.chip.file = cable.chip.file.line tasks) := by
  induction h generalizing cable with
  | done =>
    cases hplayed
    exact ⟨hcable, .nil _, .start _ _, fun _ ↦ rfl⟩
  | refused hrefused =>
    exact absurd (hplain _ (.head _)).1.address_le (UInt8.not_le.mpr hrefused)
  | rejected =>
    rcases hplayed with _ | ⟨hmade, _ | _⟩
    obtain ⟨hread, hordinary⟩ := hplain _ (.head _)
    obtain ⟨hnext, hmay⟩ := Cable.made_mayDo hcable hmade hread.address_le
    have hsame := hmay.of_read hordinary
    exact ⟨hnext, .cons hmade (hsame ▸ .start _ _) (.nil _), hsame ▸ .start _ _, nofun⟩
  | @read address _ _ _ _ _ _ _ ih =>
    rcases hplayed with _ | ⟨hmade, hrest⟩
    obtain ⟨hread, hordinary⟩ := hplain _ (.head _)
    obtain ⟨hmiddle, hmay⟩ := Cable.made_mayDo hcable hmade hread.address_le
    obtain ⟨hnext, hsteps, hreached, hok⟩ :=
      ih (fun task hmem ↦ hplain task (.tail _ hmem)) hmiddle hrest
    have hdone : cable.chip.file.done (.read address) = cable.chip.file :=
      RegisterFile.afterRead_ordinary hordinary _
    have hsame := hmay.of_read hordinary
    rw [hsame] at hsteps hreached hok
    rw [RegisterFile.line_cons, hdone]
    refine ⟨hnext, .cons hmade (hsame ▸ .start _ _) ?_, .done (hdone.symm ▸ hreached), hok⟩
    exact hsteps.mono fun _ _ hafter ↦ .done (hdone.symm ▸ hafter)
  | @unwritten update _ tasks _ _ _ hverdict hwrite =>
    rcases hplayed with _ | ⟨hmade, _ | ⟨hlast, _ | _⟩⟩
    obtain ⟨⟨haddress, hordinary⟩, -⟩ := hplain _ (.head _)
    obtain ⟨hmiddle, hmay⟩ := Cable.made_mayDo hcable hmade haddress
    obtain ⟨hnext, hwritten⟩ := Cable.made_mayDo hmiddle hlast haddress
    have hsame := hmay.of_read hordinary
    have hreached : Task.Reached (.update update :: tasks) cable.chip.file next.chip.file := by
      rcases hmay.of_unwritten hwritten hordinary hverdict hwrite with hunwritten | hdone
      · exact hunwritten ▸ .start _ _
      · exact .done (hdone ▸ .start _ _)
    exact ⟨hnext, .cons hmade (hsame ▸ .start _ _) (.cons hlast hreached (.nil _)), hreached, nofun⟩
  | @written update _ _ _ _ _ _ _ hverdict hwrite _ ih =>
    rcases hplayed with _ | ⟨hmade, _ | ⟨hlast, hrest⟩⟩
    obtain ⟨⟨haddress, hordinary⟩, -⟩ := hplain _ (.head _)
    obtain ⟨hfirst, hmay⟩ := Cable.made_mayDo hcable hmade haddress
    obtain ⟨hmiddle, hwritten⟩ := Cable.made_mayDo hfirst hlast haddress
    obtain ⟨hnext, hsteps, hreached, hok⟩ :=
      ih (fun task hmem ↦ hplain task (.tail _ hmem)) hmiddle hrest
    have hsame := hmay.of_read hordinary
    have hupdate := hmay.of_written hwritten hordinary hverdict hwrite
    rw [hupdate] at hsteps hreached hok
    refine ⟨hnext, .cons hmade (hsame ▸ .start _ _) (.cons hlast ?_ ?_), .done hreached, hok⟩
    · rw [hupdate]
      exact .done (.start _ _)
    · exact hsteps.mono fun _ _ ↦ .done

/-- A script that is a line of updates, run over a disrupted cable. -/
theorem Script.enact_reached {device : Device} {script : Script Unit} {tasks : List Task}
    (hfollows : Follows script tasks)
    (hplain : ∀ task ∈ tasks, task.Plain ∧ RegisterFile.Ordinary task.address)
    {session : Session Cable} (h : Cable.Disrupted device session.link) :
    let after := enact (script.run device) session
    Cable.Disrupted device after.2.link ∧
      (∃ calls, after.2.calls = session.calls ++ calls ∧
        Stepwise (fun _ next ↦ Task.Reached tasks session.link.chip.file next.chip.file)
          session.link calls after.2.link) ∧
      Task.Reached tasks session.link.chip.file after.2.link.chip.file ∧
      (after.1 = .ok () → after.2.link.chip.file = session.link.chip.file.line tasks) := by
  intro after
  obtain ⟨calls, hcalls, hplayed, exchanges, rfl, hpath⟩ :=
    (emits_run device script).played (.run device script) session
  rw [play_run] at hcalls hplayed hpath
  obtain ⟨hafter, hsteps, hreached, hok⟩ := (hpath.carried hfollows).reached hplain h hplayed
  exact ⟨hafter, ⟨_, hcalls, hsteps⟩, hreached, hok⟩

/-! ## What a channel reads as -/

def Simulator.cleared (chip : Simulator) : Simulator :=
  { chip with failure := none, released := false, corruption := false }

namespace Device

def functionOf (device : Device) (chip : Simulator) (channel : Fin 4) : Except Error Function :=
  (enact (device.function (Panel.byte channel)) (.start (Simulation.mk chip.cleared .fresh))).1

def limitOf (device : Device) (chip : Simulator) (channel : Fin 4) :
    Except Error CurrentLimit :=
  (enact (device.limit (Panel.byte channel)) (.start (Simulation.mk chip.cleared .fresh))).1

variable {device : Device} {chip : Simulator}

/-- A reading of a chip is what the panel shows. -/
theorem enact_cleared {α : Type} {script : Script α} {value : α} {panel : Panel}
    (h : Simulator.Wired device chip) (hshows : script.Shows chip.file value panel) :
    (enact (script.run device) (.start (Simulation.mk chip.cleared .fresh))).1 = .ok value := by
  have hready : Simulator.Ready device chip.cleared :=
    { chip := h.chip, checked := h.checked, strapped := h.strapped, released := rfl,
      failure := rfl, corruption := rfl }
  obtain ⟨hrun, -⟩ := Script.enact_run script (.start (Simulation.mk chip.cleared .fresh)) hready
  obtain ⟨happly, -⟩ := script.serve_apply chip.cleared
  exact (hrun.trans happly).trans hshows.1

theorem functionOf_eq (h : Simulator.Wired device chip) (channel : Fin 4) :
    device.functionOf chip channel = .ok (chip.file.channel channel).function := by
  have hread := enact_cleared h (Script.Shows.function channel chip.file)
  rwa [Script.run_function, RegisterFile.channel_panel] at hread

theorem limitOf_eq (h : Simulator.Wired device chip) (channel : Fin 4) :
    device.limitOf chip channel = .ok (chip.file.channel channel).limit := by
  have hread := enact_cleared h (Script.Shows.limit channel chip.file)
  rwa [Script.run_limit, RegisterFile.channel_panel] at hread

end Device

end QuadPort
