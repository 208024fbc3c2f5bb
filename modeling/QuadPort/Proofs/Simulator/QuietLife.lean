import QuadPort.Proofs.Lifecycle.Moves
import QuadPort.Proofs.Simulator.Impaired
import QuadPort.Proofs.Simulator.Quiet

/-!
# Bring-up and shutdown turn no output on

Over an impaired cable neither a bring-up nor a shutdown ever turns an input into an output or
changes an output latch: not at its end, and not by any of its calls. A bring-up that succeeds
leaves every channel floating at the lowest limit. After a shutdown a channel floats if its own
exchanges succeeded, and has the direction that it had if one of them failed, whatever became
of the other channels.
-/

namespace QuadPort

open Conversation Register Channel

namespace Cable

def Quiet (before after : Cable) : Prop :=
  before.chip.file.Quiet after.chip.file

variable {device : Device} {cable next : Cable} {calls : List Call}

/-- Calls that are no transfers leave the registers alone. -/
theorem played_others (hplayed : Played cable calls next) (h : Impaired device cable)
    (hcalls : ∀ call ∈ calls, ¬ call.isTransfer) :
    Impaired device next ∧ Stepwise Quiet cable calls next ∧
      next.chip.file = cable.chip.file := by
  induction hplayed with
  | nil => exact ⟨h, .nil _, rfl⟩
  | cons hmade _ ih =>
    obtain ⟨hcall, hcalls⟩ := List.forall_mem_cons.mp hcalls
    obtain ⟨hmiddle, hsame⟩ := made_other h hcall hmade
    obtain ⟨hnext, hsteps, hrest⟩ := ih hmiddle hcalls
    refine ⟨hnext, .cons hmade ?_ hsteps, hrest.trans hsame⟩
    rw [Quiet, hsame]
    exact .refl _

/-! ## A cable on which nothing goes wrong -/

/-- A cable without hazards to a chip that answers a descriptor. -/
structure Sound (device : Device) (cable : Cable) : Prop where
  ready : Simulator.Ready device cable.chip
  hazards : ∀ hazard ∈ cable.hazards, hazard = none

theorem made_sound (h : Sound device cable) {access : Access} {reply : Reply}
    (hmade : Made cable (Exchange.call device ⟨access, reply⟩) next)
    (haddress : access.address ≤ maxAddress) :
    Sound device next ∧ ∃ value, access.verdict device reply = .ok value := by
  have hclear : cable.hazards.head?.join = none := by
    cases hhazard : cable.hazards.head?.join with
    | none => rfl
    | some cause => cases h.hazards _ (mem_of_head hhazard)
  obtain ⟨answer, log, htransfer, hverdict⟩ := Simulator.transfer_frame h.ready haddress
  obtain ⟨⟨_, hmet⟩, hhazards⟩ := carry_of_made hmade
  rw [hclear] at hmet
  obtain ⟨rfl, -, hchip⟩ := Answer.mk.inj (htransfer.symm.trans hmet)
  refine ⟨⟨?_, ?_⟩, _, hverdict⟩
  · rw [← hchip]
    exact h.ready.access access
  · rw [hhazards]
    exact fun hazard hmem ↦ h.hazards hazard (List.mem_of_mem_tail hmem)

/-- The line is driven as long as it was not given back. -/
theorem made_setLine {level : LineLevel} {result : Except Fault Unit}
    (hline : cable.simulation.line.released = false)
    (hmade : Made cable (.setLine level result) next) (h : Sound device cable) :
    result = .ok () ∧ Sound device next := by
  cases hmade
  refine ⟨?_, ⟨h.ready, h.hazards⟩⟩
  change (cable.simulation.line.set level).1 = .ok ()
  simp [SimulatedLine.set, hline]

end Cable

section Lines

variable {device : Device} {cable next : Cable}

/-- A line of tasks comes to its end if nothing goes wrong. -/
theorem Carried.succeeds {tasks : List Task} {exchanges : List Exchange}
    {result : Except Error Unit} (h : Carried device tasks exchanges result)
    (hplain : ∀ task ∈ tasks, task.Plain) (hcable : Cable.Sound device cable)
    (hplayed : Played cable (exchanges.map (Exchange.call device)) next) : result = .ok () := by
  induction h generalizing cable with
  | done => rfl
  | refused hrefused =>
    exact absurd (hplain _ (.head _)).address_le (UInt8.not_le.mpr hrefused)
  | rejected hverdict =>
    rcases hplayed with _ | ⟨hmade, -⟩
    have haddress := (hplain _ (.head _)).address_le
    obtain ⟨-, value, haccepted⟩ := Cable.made_sound hcable hmade haddress
    cases haccepted.symm.trans hverdict
  | read _ _ ih =>
    rcases hplayed with _ | ⟨hmade, hrest⟩
    have haddress := (hplain _ (.head _)).address_le
    obtain ⟨hmiddle, -⟩ := Cable.made_sound hcable hmade haddress
    exact ih (fun task hmem ↦ hplain task (.tail _ hmem)) hmiddle hrest
  | unwritten _ hwrite =>
    rcases hplayed with _ | ⟨hmade, _ | ⟨hlast, -⟩⟩
    have haddress := (hplain _ (.head _)).address_le
    obtain ⟨hmiddle, -⟩ := Cable.made_sound hcable hmade haddress
    obtain ⟨-, value, haccepted⟩ := Cable.made_sound hmiddle hlast haddress
    cases haccepted.symm.trans hwrite
  | written _ _ _ ih =>
    rcases hplayed with _ | ⟨hmade, _ | ⟨hlast, hrest⟩⟩
    have haddress := (hplain _ (.head _)).address_le
    obtain ⟨hfirst, -⟩ := Cable.made_sound hcable hmade haddress
    obtain ⟨hmiddle, -⟩ := Cable.made_sound hfirst hlast haddress
    exact ih (fun task hmem ↦ hplain task (.tail _ hmem)) hmiddle hrest

/-- A line of quiet tasks is quiet. -/
theorem Carried.quiet {tasks : List Task} {exchanges : List Exchange} {result : Except Error Unit}
    (h : Carried device tasks exchanges result)
    (htasks : ∀ task ∈ tasks, task.Plain ∧ task.Quiet) (hstrapped : device.chip ≤ maxChip)
    (hcable : Cable.Impaired device cable)
    (hplayed : Played cable (exchanges.map (Exchange.call device)) next) :
    Cable.Impaired device next ∧
      Stepwise Cable.Quiet cable (exchanges.map (Exchange.call device)) next ∧
      Task.Left tasks cable.chip.file next.chip.file result := by
  have hplain := fun task hmem ↦ (htasks task hmem).1
  obtain ⟨hnext, hsteps, hleft⟩ := h.played hplain hstrapped hcable hplayed
  exact ⟨hnext, hsteps.mono fun _ _ hstep ↦ hstep.quiet htasks, hleft⟩

end Lines

namespace Device

variable {device : Device} {cable next : Cable} {calls : List Call}
  {result : Except Error Unit}

/-! ## Bring-up -/

theorem not_isTransfer_of_transfers (h : transfers calls = []) :
    ∀ call ∈ calls, ¬ call.isTransfer :=
  List.filter_eq_nil_iff.mp h

theorem BroughtUp.quiet (h : device.BroughtUp calls result) (hcable : Cable.Impaired device cable)
    (hplayed : Played cable calls next) :
    Cable.Impaired device next ∧ Stepwise Cable.Quiet cable calls next ∧
      (result = .ok () → next.chip.file = cable.chip.file.line Task.prepare) := by
  cases h with
  | chip hchip =>
    cases hplayed
    exact ⟨hcable, .nil _, nofun⟩
  | line hchip hline =>
    obtain ⟨hnext, hsteps, -⟩ := Cable.played_others hplayed hcable (by simp [Call.isTransfer])
    exact ⟨hnext, hsteps, nofun⟩
  | script hchip hpath =>
    obtain ⟨middle, hopening, hexchanges⟩ := hplayed.of_append
    obtain ⟨hmiddle, hfirst, hsame⟩ := Cable.played_others hopening hcable
      (not_isTransfer_of_transfers (transfers_opening device))
    obtain ⟨hnext, hsteps, hleft⟩ :=
      (hpath.carried .prepare).quiet Task.quiet_prepare hchip hmiddle hexchanges
    refine ⟨hnext, hfirst.append hsteps, ?_⟩
    rintro rfl
    rw [← hsame]
    exact hleft

/-- A bring-up over a cable on which nothing goes wrong succeeds. -/
theorem BroughtUp.succeeds (h : device.BroughtUp calls result) (hcable : Cable.Sound device cable)
    (hline : cable.simulation.line.released = false) (hplayed : Played cable calls next) :
    result = .ok () := by
  have hplain := fun task hmem ↦ (Task.quiet_prepare task hmem).1
  cases h with
  | chip hchip => exact absurd hcable.ready.strapped (UInt8.not_le.mpr hchip)
  | line =>
    rcases hplayed with _ | ⟨hmade, -⟩
    cases (Cable.made_setLine hline hmade hcable).1
  | script hchip hpath =>
    have hcarried := hpath.carried .prepare
    cases hdevice : device.hasLine with
    | false =>
      rw [opening_eq_nil device hdevice] at hplayed
      exact hcarried.succeeds hplain hcable hplayed
    | true =>
      rw [opening_eq_setLine device hdevice] at hplayed
      rcases hplayed with _ | ⟨hmade, hrest⟩
      exact hcarried.succeeds hplain (Cable.made_setLine hline hmade hcable).2 hrest

/-! ## Shutting down -/

/-- Floating several channels is quiet, and settles each of them. -/
theorem played_floats {channels : List (Fin 4)} {floats : List (List Exchange × Except Error Unit)}
    (h : List.Forall₂ (fun channel float ↦
      Carried device ((Update.function (Panel.byte channel) .highZ).map .update) float.1 float.2)
      channels floats)
    (hnodup : channels.Nodup) (hstrapped : device.chip ≤ maxChip)
    (hcable : Cable.Impaired device cable)
    (hplayed : Played cable
      (floats.flatMap fun float ↦ float.1.map (Exchange.call device)) next) :
    Cable.Impaired device next ∧
      Stepwise Cable.Quiet cable
        (floats.flatMap fun float ↦ float.1.map (Exchange.call device)) next ∧
      (∀ channel ∉ channels,
        next.chip.file.channel channel = cable.chip.file.channel channel) ∧
      List.Forall₂ (fun channel float ↦
        RegisterFile.Settled channel cable.chip.file next.chip.file float.2) channels floats := by
  induction h generalizing cable with
  | nil =>
    cases hplayed
    exact ⟨hcable, .nil _, fun _ _ ↦ rfl, .nil⟩
  | @cons channel float channels floats hcarried _ ih =>
    obtain ⟨hnew, hnodup⟩ := List.nodup_cons.mp hnodup
    rw [List.flatMap_cons] at hplayed ⊢
    obtain ⟨middle, hfirst, hrest⟩ := hplayed.of_append
    obtain ⟨hmiddle, hquiet, hleft⟩ := hcarried.quiet
      (Task.quiet_floating (Panel.byte_lt channel)) hstrapped hcable hfirst
    obtain ⟨hsettled, hothers⟩ := RegisterFile.settled_of_left hleft
    obtain ⟨hnext, hquiets, houtside, hall⟩ := ih hnodup hmiddle hrest
    refine ⟨hnext, hquiet.append hquiets, ?_, .cons ?_ ?_⟩
    · intro other hother
      have hne := List.ne_of_not_mem_cons hother
      rw [houtside other (List.not_mem_of_not_mem_cons hother), hothers other hne]
    · exact hsettled.congr rfl (houtside channel hnew)
    · have hlater : ∀ other ∈ channels, other ≠ channel :=
        fun other hmem hsame ↦ hnew (hsame ▸ hmem)
      have hboth := (List.forall₂_and_left _ _).mpr ⟨hlater, hall⟩
      exact hboth.imp fun other _ ⟨hne, hother⟩ ↦ hother.congr (hothers other hne).symm rfl

/-! ## Over an impaired cable -/

/-- What a bring-up that succeeds leaves of a chip: its registers, its field side, and what the
level register shows, which is not stored. -/
structure Floated (before after : Simulator) : Prop where
  stored : ∀ address ≤ maxAddress,
    after.stored address = RegisterFile.preparedByte address (before.stored address)
  inputs : after.inputs = before.inputs
  level : after.register Name.level.address = before.inputs &&& 0x0F

theorem floated_of_file {before after : Simulator}
    (h : after.file = before.file.line Task.prepare) : Floated before after where
  stored := by
    intro address haddress
    rw [RegisterFile.stored_eq, h, RegisterFile.get_prepare haddress]
    rfl
  inputs := by
    change after.file.inputs = _
    rw [h, RegisterFile.inputs_line]
    rfl
  level := by
    have hlevel : Name.level.address = 2 := rfl
    calc
      after.register Name.level.address
      _ = after.file.level := by rw [RegisterFile.register_eq, RegisterFile.look, if_pos hlevel]
      _ = before.file.inputs &&& 0x0F := by rw [h, RegisterFile.level_prepare]

/-- A start over an impaired cable: none of its calls turns an output on, and if it succeeds all
channels float. It does succeed if nothing goes wrong. -/
structure QuietStart (device : Device) (session : Session Cable) (calls : List Call)
    (result : Except Error Unit) (after : Session Cable) : Prop where
  appended : after.calls = session.calls ++ calls
  quiet : Stepwise Cable.Quiet session.link calls after.link
  impaired : Cable.Impaired device after.link
  floated : result = .ok () → Floated session.link.chip after.link.chip
  succeeds : Cable.Sound device session.link → session.link.simulation.line.released = false →
    result = .ok ()

/-- A shutdown over an impaired cable: none of its calls turns an output on, and each channel is
settled by its own attempt. -/
structure QuietShutDown (device : Device) (session : Session Cable)
    (floats : List (List Exchange × Except Error Unit)) (closing : List Call)
    (after : Session Cable) : Prop where
  appended : after.calls = session.calls ++
    (floats.flatMap (fun float ↦ float.1.map (Exchange.call device)) ++ closing)
  others : ∀ call ∈ closing, ¬ call.isTransfer
  quiet : Stepwise Cable.Quiet session.link
    (floats.flatMap (fun float ↦ float.1.map (Exchange.call device)) ++ closing) after.link
  settled : List.Forall₂ (fun channel float ↦
    Attempt device floating (float.1.map .exchange) float.2 ∧
      RegisterFile.Settled channel session.link.chip.file after.link.chip.file float.2)
    (List.finRange 4) floats

theorem start_quiet {session : Session Cable} (h : Cable.Impaired device session.link) :
    ∃ calls, QuietStart device session calls (enact device.start session).1
      (enact device.start session).2 := by
  obtain ⟨calls, hcalls, hplayed, hstarted⟩ := (emits_start device).played (.start device) session
  rw [play_run] at hcalls hplayed hstarted
  generalize enact device.start session = after at *
  obtain ⟨result, after⟩ := after
  refine ⟨calls, ?_⟩
  cases hstarted with
  | ready hready =>
    obtain ⟨hafter, hquiet, hfile⟩ := hready.quiet h hplayed
    exact ⟨hcalls, hquiet, hafter, fun _ ↦ floated_of_file (hfile rfl), fun _ _ ↦ rfl⟩
  | failed hfailed hreleased =>
    obtain ⟨middle, hfirst, hrest⟩ := hplayed.of_append
    obtain ⟨hmiddle, hquiet, -⟩ := hfailed.quiet h hfirst
    obtain ⟨hafter, hquiets, -⟩ := Cable.played_others hrest hmiddle
      (not_isTransfer_of_transfers hreleased.transfers_eq)
    exact ⟨hcalls, hquiet.append hquiets, hafter, nofun,
      fun hsound hline ↦ hfailed.succeeds hsound hline hfirst⟩

theorem shutDown_quiet {session : Session Cable} (h : Cable.Impaired device session.link)
    (hstrapped : device.chip ≤ maxChip) :
    ∃ floats closing, QuietShutDown device session floats closing
      (enact device.shutDown session).2 := by
  obtain ⟨calls, hcalls, hplayed, hshutDown⟩ :=
    (emits_shutDown device).played (.shutDown device) session
  rw [play_run] at hcalls hplayed hshutDown
  generalize enact device.shutDown session = after at *
  obtain ⟨result, after⟩ := after
  cases hshutDown with
  | @intro floats bus line closed hfloats hclosed =>
    have hattempts := attempts_of_floats hfloats
    have hbytes : channels = (List.finRange 4).map Panel.byte := by decide
    rw [hbytes, List.forall₂_map_left_iff] at hattempts
    have hclosing : transfers (.releaseBus bus :: line) = [] := hclosed.transfers_eq
    have hothers := not_isTransfer_of_transfers hclosing
    obtain ⟨middle, hfirst, hrest⟩ := hplayed.of_append
    obtain ⟨hmiddle, hquiet, -, hsettled⟩ := played_floats (hattempts.imp fun _ _ ↦ And.left)
      (List.nodup_finRange 4) hstrapped h hfirst
    obtain ⟨-, hquiets, hfile⟩ := Cable.played_others hrest hmiddle hothers
    refine ⟨floats, .releaseBus bus :: line, hcalls, hothers, hquiet.append hquiets, ?_⟩
    rw [hfile]
    exact hattempts.mp (fun _ _ hattempt hchannel ↦ ⟨hattempt.2, hchannel⟩) hsettled

/-- Over a cable that loses transfers and damages checksums, in any pattern, neither a bring-up
nor a shutdown turns an output on by any of its calls. -/
theorem start_shutDown_quiet {session : Session Cable}
    (h : Cable.Impaired device session.link) :
    (∃ calls, QuietStart device session calls (enact device.start session).1
      (enact device.start session).2) ∧
    (device.chip ≤ maxChip → ∃ floats closing, QuietShutDown device session floats closing
      (enact device.shutDown session).2) :=
  ⟨start_quiet h, shutDown_quiet h⟩

/-- A chip that drives two outputs high, on a cable that damages a checksum and then loses the
transfer that would float the second channel. -/
def impairing : Cable where
  simulation := ⟨(Simulator.fresh true 2).setRegister Name.setOut.address 0x03, .fresh⟩
  hazards := List.replicate 5 none ++ [some (.response [0, 0, 1])] ++ List.replicate 7 none ++
    [some (.lost (.spi "lost"))]

theorem impairing_quiet :
    Cable.Impaired ⟨true, 2, true⟩ (Session.start impairing).link ∧
      (∃ calls, QuietStart ⟨true, 2, true⟩ (Session.start impairing) calls
        (enact (start ⟨true, 2, true⟩) (Session.start impairing)).1
        (enact (start ⟨true, 2, true⟩) (Session.start impairing)).2) ∧
      ∃ floats closing, QuietShutDown ⟨true, 2, true⟩ (Session.start impairing) floats closing
        (enact (shutDown ⟨true, 2, true⟩) (Session.start impairing)).2 := by
  have himpaired : Cable.Impaired ⟨true, 2, true⟩ (Session.start impairing).link := by
    refine ⟨rfl, rfl, ?_⟩
    intro hazard hmem cause hcause
    simp only [Session.start, impairing, List.mem_append, List.mem_replicate, List.mem_cons,
      List.not_mem_nil, or_false] at hmem
    rcases hmem with ((⟨-, rfl⟩ | rfl) | ⟨-, rfl⟩) | rfl
    · cases hcause
    · cases hcause
      exact ⟨1, rfl⟩
    · cases hcause
    · cases hcause
      trivial
  obtain ⟨hstart, hshutDown⟩ := start_shutDown_quiet himpaired
  exact ⟨himpaired, hstart, hshutDown (by decide)⟩

/-- The level register is not stored and follows the directions: an output that was driven high
shows there before a bring-up and not after it. -/
theorem start_changes_level :
    let before := (Simulator.fresh false 0).setRegister Name.setOut.address 0x01
    let after := enact (start ⟨false, 0, false⟩)
      (Session.start (Cable.mk ⟨before, .fresh⟩ []))
    after.1 = .ok () ∧ before.register Name.level.address = 0x01 ∧
      after.2.link.chip.register Name.level.address = 0x00 := by
  decide +kernel

end Device

end QuadPort
