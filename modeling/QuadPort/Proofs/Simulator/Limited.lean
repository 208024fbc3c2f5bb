import Mathlib.Data.List.Sort
import QuadPort.Proofs.Simulator.Change

/-!
# Outputs come up limited

A setup gives each channel its limit before its function. If all channels are inputs when it
starts, then a channel that has become an output has its own limit, at the end and after each of
the transfers, and whatever the cable loses or damages. A setup that fails does so on one channel:
those in front of it are set up, those behind it have not been touched.
-/

namespace QuadPort

open Conversation Register Channel

/-! ## One channel -/

/-- Every output has its limit. -/
def RegisterFile.Limited (setup : ChannelSetup) (file : RegisterFile) : Prop :=
  ∀ channel, (file.channel channel).isInput = false →
    (file.channel channel).limit = setup.limits.get channel

/-- A channel on its way to a limit and a function: nothing else than the limit came first. -/
structure RegisterFile.Approached (channel : Fin 4) (limit : CurrentLimit)
    (before after : RegisterFile) : Prop where
  others : ∀ other ≠ channel, after.channel other = before.channel other
  latch : (after.channel channel).latch = (before.channel channel).latch
  limited : after.channel channel = before.channel channel ∨
    (after.channel channel).limit = limit

namespace RegisterFile

variable {setup : ChannelSetup} {channel : Fin 4} {before after : RegisterFile}

/-- A channel on its way to its own limit becomes no output without it. -/
theorem Limited.approached (h : before.Limited setup)
    (happroached : Approached channel (setup.limits.get channel) before after) :
    after.Limited setup := by
  intro other houtput
  by_cases hsame : other = channel
  · subst hsame
    rcases happroached.limited with hunchanged | hlimit
    · rw [hunchanged] at houtput ⊢
      exact h other houtput
    · exact hlimit
  · rw [happroached.others other hsame] at houtput ⊢
    exact h other houtput

theorem Approached.latches {limit : CurrentLimit} (h : Approached channel limit before after)
    (other : Fin 4) : (after.channel other).latch = (before.channel other).latch := by
  by_cases hsame : other = channel
  · rw [hsame, h.latch]
  · rw [h.others other hsame]

theorem channel_line_setUp (file : RegisterFile) (channel : Fin 4) (function : Function)
    (limit : CurrentLimit) :
    (file.line (Task.setUpChannel (Panel.byte channel) function limit)).channel channel =
      (file.channel channel).setUp function limit := by
  rw [Task.setUpChannel, line_cons, channel_line_function, channel_done_limit, if_pos rfl]
  rfl

end RegisterFile

namespace Task

variable {channel : Fin 4} {function : Function} {limit : CurrentLimit}
  {before after : RegisterFile}

theorem local_setUpChannel (channel : Fin 4) (function : Function) (limit : CurrentLimit) :
    ∀ task ∈ setUpChannel (Panel.byte channel) function limit, Local channel task :=
  List.forall_mem_cons.mpr ⟨local_limit channel limit, local_function channel function⟩

/-- The limit is the first task. -/
theorem Reached.approached
    (h : Reached (setUpChannel (Panel.byte channel) function limit) before after) :
    RegisterFile.Approached channel limit before after := by
  have hothers : ∀ other ≠ channel, after.channel other = before.channel other :=
    fun other hne ↦ h.channel_ne (local_setUpChannel channel function limit) hne
  have hlimit := RegisterFile.channel_done_limit before channel channel limit
  rw [if_pos rfl] at hlimit
  rcases cons_iff.mp h with rfl | hrest
  · exact ⟨hothers, rfl, .inl rfl⟩
  · obtain ⟨hlatch, hkept, -⟩ := hrest.function
    rw [hlimit] at hlatch hkept
    exact ⟨hothers, hlatch, .inr hkept⟩

end Task

/-! ## Channels in a row -/

namespace Device

section Setup

variable {σ : Type} [Link σ] (device : Device) (setup : ChannelSetup)

def setUpOne (channel : Fin 4) : Conversation σ Unit :=
  device.setUpChannel (Panel.byte channel) (setup.functions.get channel) (setup.limits.get channel)

/-- A setup takes the channels one after the other. -/
theorem setUp_eq : device.setUp setup =
    ((List.finRange 4).forM (device.setUpOne setup) : Conversation σ Unit) := by
  have hlast : (device.setUpOne setup 3 : Conversation σ Unit) =
      device.setUpOne setup 3 >>= fun _ ↦ pure ⟨⟩ := (bind_pure _).symm
  change (device.setUpOne setup 0 >>= fun _ ↦ device.setUpOne setup 1 >>= fun _ ↦
    device.setUpOne setup 2 >>= fun _ ↦ device.setUpOne setup 3 : Conversation σ Unit) = _
  rw [hlast]
  rfl

end Setup

variable {device : Device} {setup : ChannelSetup} {session after : Session Cable}

/-- The setup of one channel over a disrupted cable. -/
theorem enact_setUpOne (h : Cable.Disrupted device session.link) (setup : ChannelSetup)
    (channel : Fin 4) :
    let after := enact (device.setUpOne setup channel) session
    Cable.Disrupted device after.2.link ∧
      (∃ calls, after.2.calls = session.calls ++ calls ∧
        Stepwise (fun _ next ↦ RegisterFile.Approached channel (setup.limits.get channel)
          session.link.chip.file next.chip.file) session.link calls after.2.link) ∧
      RegisterFile.Approached channel (setup.limits.get channel) session.link.chip.file
        after.2.link.chip.file ∧
      (after.1 = .ok () → after.2.link.chip.file.channel channel =
        (session.link.chip.file.channel channel).setUp (setup.functions.get channel)
          (setup.limits.get channel)) := by
  have hlocal := Task.local_setUpChannel channel (setup.functions.get channel)
    (setup.limits.get channel)
  obtain ⟨hafter, ⟨calls, hcalls, hsteps⟩, hreached, hok⟩ := Script.enact_reached
    (.setUpChannel (Panel.byte_lt channel) (setup.functions.get channel) (setup.limits.get channel))
    (fun task hmem ↦ ⟨(hlocal task hmem).plain, (hlocal task hmem).ordinary⟩) h
  rw [Script.run_setUpChannel] at hafter hcalls hsteps hreached hok
  refine ⟨hafter, ⟨calls, hcalls, hsteps.mono fun _ _ ↦ Task.Reached.approached⟩,
    hreached.approached, fun hsuccess ↦ ?_⟩
  rw [← RegisterFile.channel_line_setUp]
  exact congrArg (RegisterFile.channel · channel) (hok hsuccess)

/-- What the setup of some channels has done if it succeeded. -/
structure SetUpDone (device : Device) (setup : ChannelSetup) (channels : List (Fin 4))
    (session after : Session Cable) : Prop where
  disrupted : Cable.Disrupted device after.link
  steps : ∃ calls, after.calls = session.calls ++ calls ∧
    Stepwise (fun _ next ↦ next.chip.file.Limited setup) session.link calls after.link
  limited : after.link.chip.file.Limited setup
  done : ∀ channel ∈ channels, after.link.chip.file.channel channel =
    (session.link.chip.file.channel channel).setUp (setup.functions.get channel)
      (setup.limits.get channel)
  others : ∀ channel ∉ channels,
    after.link.chip.file.channel channel = session.link.chip.file.channel channel

theorem setUpDone_of_enact {channels : List (Fin 4)} (hnodup : channels.Nodup)
    (h : Cable.Disrupted device session.link) (hlimited : session.link.chip.file.Limited setup)
    (hrun : enact (channels.forM (device.setUpOne setup)) session = (.ok (), after)) :
    SetUpDone device setup channels session after := by
  induction channels generalizing session with
  | nil =>
    cases hrun
    exact ⟨h, ⟨[], (List.append_nil _).symm, .nil _⟩, hlimited, nofun, fun _ _ ↦ rfl⟩
  | cons channel channels ih =>
    obtain ⟨hnew, hnodup⟩ := List.nodup_cons.mp hnodup
    obtain ⟨hmiddle, ⟨calls, hcalls, hsteps⟩, happroached, hdone⟩ := enact_setUpOne h setup channel
    rw [enact_forM_cons] at hrun
    generalize enact (device.setUpOne setup channel) session = first at *
    obtain ⟨result, middle⟩ := first
    cases result with
    | error => cases hrun
    | ok =>
      obtain ⟨hafter, ⟨rest, hrest, hlater⟩, hlast, hall, hothers⟩ :=
        ih hnodup hmiddle (hlimited.approached happroached) hrun
      refine ⟨hafter, ⟨calls ++ rest, ?_, ?_⟩, hlast, ?_, fun other hother ↦ ?_⟩
      · rw [hrest, hcalls, List.append_assoc]
      · exact (hsteps.mono fun _ _ ↦ hlimited.approached).append hlater
      · refine List.forall_mem_cons.mpr ⟨?_, fun other hmem ↦ ?_⟩
        · rw [hothers channel hnew]
          exact hdone rfl
        · have hne : other ≠ channel := fun hsame ↦ hnew (hsame ▸ hmem)
          rw [hall other hmem, happroached.others other hne]
      · rw [hothers other (List.not_mem_of_not_mem_cons hother),
          happroached.others other (List.ne_of_not_mem_cons hother)]

theorem SetUpDone.latches {channels : List (Fin 4)}
    (h : SetUpDone device setup channels session after) (channel : Fin 4) :
    (after.link.chip.file.channel channel).latch =
      (session.link.chip.file.channel channel).latch := by
  have hlatch (state : ChannelState) (function : Function) (limit : CurrentLimit) :
      (state.setUp function limit).latch = state.latch := by
    cases function <;> rfl
  by_cases hmem : channel ∈ channels
  · rw [h.done channel hmem, hlatch]
  · rw [h.others channel hmem]

/-! ## All channels -/

def Configured (device : Device) (setup : ChannelSetup) (chip : Simulator) (channel : Fin 4) :
    Prop :=
  device.functionOf chip channel = .ok (setup.functions.get channel) ∧
    device.limitOf chip channel = .ok (setup.limits.get channel)

theorem configured_of_channel {chip : Simulator} {channel : Fin 4} {state : ChannelState}
    (h : Simulator.Wired device chip) (hchannel : chip.file.channel channel =
      state.setUp (setup.functions.get channel) (setup.limits.get channel)) :
    Configured device setup chip channel := by
  constructor
  · rw [functionOf_eq h, hchannel, ChannelState.function_setUp]
  · rw [limitOf_eq h, hchannel, ChannelState.limit_setUp]

/-- The channels in front of one are those below it. -/
theorem mem_front_iff {front back : List (Fin 4)} {channel : Fin 4}
    (h : List.finRange 4 = front ++ channel :: back) (other : Fin 4) :
    other ∈ front ↔ other < channel := by
  have hsorted := (List.sortedLT_finRange 4).pairwise
  rw [h, List.pairwise_append] at hsorted
  obtain ⟨-, hback, hfront⟩ := hsorted
  refine ⟨fun hmem ↦ hfront other hmem channel (.head _), fun hlt ↦ ?_⟩
  have hmem : other ∈ front ++ channel :: back := h ▸ List.mem_finRange other
  rcases List.mem_append.mp hmem with hother | hother
  · exact hother
  · rcases List.mem_cons.mp hother with hsame | hother
    · exact absurd hsame hlt.ne
    · exact absurd ((List.pairwise_cons.mp hback).1 other hother) hlt.not_gt

/-- From a chip whose channels are all inputs, a setup never makes an output without its limit,
whatever the cable loses or damages. If it succeeds, every channel reads as the setup has it. If it
fails, it fails on one channel: those below read as the setup has them, those above are as they
were. No output latch changes. -/
theorem setUp_limited (h : Cable.Disrupted device session.link) (setup : ChannelSetup)
    (hinputs : ∀ channel, (session.link.chip.file.channel channel).isInput = true) :
    let before := session.link.chip
    let after := enact (device.setUp setup) session
    (∃ calls, after.2.calls = session.calls ++ calls ∧
      Stepwise (fun _ next ↦ next.chip.file.Limited setup) session.link calls after.2.link) ∧
    (after.1 = .ok () → ∀ channel, Configured device setup after.2.link.chip channel) ∧
    (∀ error, after.1 = .error error → ∃ front channel back between,
      List.finRange 4 = front ++ channel :: back ∧
        enact (front.forM (device.setUpOne setup)) session = (.ok (), between) ∧
        enact (device.setUpOne setup channel) between = (.error error, after.2) ∧
        (∀ done < channel, Configured device setup after.2.link.chip done) ∧
        (∀ later > channel,
          after.2.link.chip.file.channel later = before.file.channel later)) ∧
    (∀ channel, (after.2.link.chip.file.channel channel).latch =
      (before.file.channel channel).latch) := by
  intro before after
  have hlimited : before.file.Limited setup := fun channel houtput ↦
    absurd (houtput.symm.trans (hinputs channel)) Bool.false_ne_true
  have hrun : enact ((List.finRange 4).forM (device.setUpOne setup)) session = after := by
    rw [← setUp_eq]
  obtain ⟨result, last⟩ := after
  cases result with
  | ok =>
    have hdone := setUpDone_of_enact (List.nodup_finRange 4) h hlimited hrun
    refine ⟨hdone.steps, fun _ channel ↦ ?_, nofun, hdone.latches⟩
    have hchannel := hdone.done channel (List.mem_finRange channel)
    exact configured_of_channel hdone.disrupted.wired hchannel
  | error error =>
    obtain ⟨front, channel, back, between, hsplit, hfront, hfailed⟩ :=
      exists_of_enact_forM_error hrun
    have hnodup : front.Nodup := List.Nodup.of_append_left (hsplit ▸ List.nodup_finRange 4)
    have hdone := setUpDone_of_enact hnodup h hlimited hfront
    obtain ⟨hlast, ⟨rest, hrest, hsteps⟩, happroached, -⟩ :=
      enact_setUpOne hdone.disrupted setup channel
    rw [hfailed] at hlast hrest hsteps happroached
    obtain ⟨calls, hcalls, hearlier⟩ := hdone.steps
    refine ⟨⟨calls ++ rest, ?_, ?_⟩, nofun, ?_, fun other ↦ ?_⟩
    · rw [hrest, hcalls, List.append_assoc]
    · exact hearlier.append (hsteps.mono fun _ _ ↦ hdone.limited.approached)
    · rintro _ ⟨⟩
      refine ⟨front, channel, back, between, hsplit, hfront, hfailed, fun done hlt ↦ ?_,
        fun later hlt ↦ ?_⟩
      · have hset := hdone.done done ((mem_front_iff hsplit done).mpr hlt)
        exact configured_of_channel hlast.wired ((happroached.others done hlt.ne).trans hset)
      · rw [happroached.others later hlt.ne',
          hdone.others later (mt (mem_front_iff hsplit later).mp hlt.not_gt)]
    · rw [happroached.latches, hdone.latches]

/-- A chip with four inputs and two high latches, on a cable that damages the checksum of the
ninth response. -/
def damaging : Cable where
  simulation := ⟨(Simulator.fresh true 2).setRegister Name.setOut.address 0xF3, .fresh⟩
  hazards := List.replicate 8 none ++ [some (.response [0, 0, 1])]

def mixed : ChannelSetup where
  functions := #v[.output, .highZ, .input, .output]
  limits := #v[.milliamps300, .milliamps130, .milliamps130, .milliamps1200]

/-- The setup fails when it gives the second channel its direction; the first one is an output
with its limit by then. -/
theorem setUp_damaged_limited :
    Cable.Disrupted ⟨true, 2, true⟩ (Session.start damaging).link ∧
      (∀ channel, (damaging.chip.file.channel channel).isInput = true) ∧
      ∃ result after, enact (setUp ⟨true, 2, true⟩ mixed) (.start damaging) = (result, after) ∧
        (∃ calls, after.calls = (Session.start damaging).calls ++ calls ∧
          Stepwise (fun _ next ↦ next.chip.file.Limited mixed) damaging calls after.link) ∧
        result =
          .error (.checksum (Checksum.ofResponse 0 0xE3) (Checksum.ofResponse 0 0xE3 ^^^ 1)) ∧
        Configured ⟨true, 2, true⟩ mixed after.link.chip 0 ∧
        (after.link.chip.file.channel 1).limit = .milliamps130 ∧
        (after.link.chip.file.channel 2).limit = .milliamps600 := by
  have hdisrupted : Cable.Disrupted ⟨true, 2, true⟩ (Session.start damaging).link := by
    refine ⟨⟨by decide, rfl, rfl⟩, ?_⟩
    intro hazard hmem cause hcause
    rcases List.mem_append.mp hmem with hnone | hone
    · rw [List.eq_of_mem_replicate hnone] at hcause
      cases hcause
    · rw [List.mem_singleton.mp hone] at hcause
      cases hcause
      exact ⟨1, rfl⟩
  have hinputs : ∀ channel, (damaging.chip.file.channel channel).isInput = true := by
    decide +kernel
  refine ⟨hdisrupted, hinputs, _, _, (Prod.eta _).symm,
    (setUp_limited hdisrupted mixed hinputs).1, ?_⟩
  unfold Configured
  decide +kernel

end Device

end QuadPort
