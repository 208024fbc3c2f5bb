import QuadPort.Proofs.Simulator.BringUp

/-!
# Setting up and shutting down the simulated chip

A setup gives each channel of the panel its limit and its function, and a shutdown floats them
all, whatever they were set up as. Over a simulation on which nothing was given back before, both
succeed; a shutdown leaves the bus and the line given back, the line floating.
-/

namespace QuadPort

open Conversation Register Channel

/-! ## Panels -/

def ChannelState.setUp (function : Function) (limit : CurrentLimit) (state : ChannelState) :
    ChannelState :=
  { state with limit }.withFunction function

def Panel.setUp (panel : Panel) (setup : ChannelSetup) : Panel :=
  { panel with channels := Vector.ofFn fun channel ↦
      (panel.channel channel).setUp (setup.functions.get channel) (setup.limits.get channel) }

def Panel.floated (panel : Panel) : Panel :=
  { panel with channels := panel.channels.map (ChannelState.withFunction · .highZ) }

namespace ChannelState

variable (state : ChannelState)

theorem function_withFunction (wanted : Function) :
    (state.withFunction wanted).function = wanted := by
  cases wanted <;> rfl

theorem limit_withFunction (wanted : Function) :
    (state.withFunction wanted).limit = state.limit := by
  cases wanted <;> rfl

theorem function_setUp (wanted : Function) (limit : CurrentLimit) :
    (state.setUp wanted limit).function = wanted :=
  function_withFunction _ wanted

theorem limit_setUp (wanted : Function) (limit : CurrentLimit) :
    (state.setUp wanted limit).limit = limit :=
  limit_withFunction _ wanted

/-- A channel whose latch and pin are low stays low whatever its function. -/
theorem level_withFunction (wanted : Function) (hlatch : state.latch = false)
    (hpin : state.pin = false) : (state.withFunction wanted).level = false := by
  cases wanted <;> simp [withFunction, level, hlatch, hpin]

end ChannelState

namespace Panel

variable (panel : Panel)

theorem channel_setUp (setup : ChannelSetup) (channel : Fin 4) :
    (panel.setUp setup).channel channel =
      (panel.channel channel).setUp (setup.functions.get channel) (setup.limits.get channel) :=
  Vector.getElem_ofFn channel.isLt

theorem channel_floated (channel : Fin 4) :
    panel.floated.channel channel = (panel.channel channel).withFunction .highZ :=
  Vector.getElem_map _ channel.isLt

end Panel

/-! ## Scripts -/

namespace Script.Shows

theorem setUpChannel (channel : Fin 4) (function : Function) (limit : CurrentLimit)
    (file : RegisterFile) :
    Shows (setUpChannel (Panel.byte channel) function limit) file ()
      (file.panel.update channel (ChannelState.setUp function limit)) := by
  refine (setLimit channel file limit).bind fun first hfirst ↦
    (setFunction channel first function).bind fun last hlast ↦ .report _ _ _ ?_
  rw [hlast, hfirst, Panel.update_update]
  rfl

theorem setUp (setup : ChannelSetup) (file : RegisterFile) :
    Shows (setUp setup) file () (file.panel.setUp setup) := by
  refine (setUpChannel 0 _ _ file).bind fun first hfirst ↦ ?_
  refine (setUpChannel 1 _ _ first).bind fun second hsecond ↦ ?_
  refine (setUpChannel 2 _ _ second).bind fun third hthird ↦ ?_
  have hlast := setUpChannel 3 (setup.functions.get 3) (setup.limits.get 3) third
  rw [hthird, hsecond, hfirst] at hlast
  have hall := Panel.foldl_update_each file.panel fun channel ↦
    .setUp (setup.functions.get channel) (setup.limits.get channel)
  simp only [List.foldl_cons, List.foldl_nil] at hall
  rw [hall] at hlast
  exact hlast

end Script.Shows

/-! ## Shutting down over the simulation -/

/-- What a shutdown that succeeds leaves: the bus is given back, and so is the line. -/
structure Simulation.Off (panel : Panel) (line : SimulatedLine) (simulation : Simulation) :
    Prop where
  released : simulation.chip.released = true
  panel : simulation.chip.file.panel = panel
  line : simulation.line = line

namespace Device

variable {device : Device} {panel : Panel} {line : SimulatedLine} {session : Session Simulation}

/-! ## The steps of a teardown -/

theorem play_attempt {σ : Type} {step : Conversation σ Unit} {session after : Session σ}
    (h : enact step session = (.ok (), after)) (complaint : String) :
    play (attempt complaint step) session = (none, after) := by
  unfold attempt
  rw [play_bind, play_run, h]
  rfl

theorem play_attemptCall {σ : Type} {call : StateM (Session σ) (Except Fault Unit)}
    {session after : Session σ} (h : play call session = (.ok (), after)) (complaint : String) :
    play (attemptCall complaint call) session = (none, after) := by
  unfold attemptCall
  rw [play_bind, h]
  rfl

/-- Every channel is floated without a failure. -/
theorem play_floats (channels : List (Fin 4)) (h : session.link.Shows device panel line) :
    ∃ after, play ((channels.map Panel.byte).mapM fun channel ↦
        attempt s!"Failed to put channel {channel} in high-Z" (device.setFunction channel .highZ))
          session = (channels.map fun _ ↦ none, after) ∧
      after.link.Shows device (channels.foldl (fun panel channel ↦
        panel.update channel (ChannelState.withFunction · .highZ)) panel) line := by
  induction channels generalizing panel session with
  | nil => exact ⟨session, rfl, h⟩
  | cons channel channels ih =>
    obtain ⟨first, hfirst, hshows⟩ := Script.enact_shows h fun file hpanel ↦
      hpanel ▸ Script.Shows.setFunction channel file .highZ
    rw [Script.run_setFunction] at hfirst
    obtain ⟨last, hlast, hrest⟩ := ih hshows
    refine ⟨last, ?_, hrest⟩
    simp only [List.map_cons, List.mapM_cons, play_bind, play_attempt hfirst, hlast, play_pure]

/-- The line is floated and given back without a failure. -/
theorem play_closing (device : Device) (hline : session.link.line.released = false) :
    ∃ failures after, play (device.closing.mapM id) session = (failures, after) ∧
      failures.findSome? id = none ∧ after.link = { session.link with line :=
        if device.hasLine then ⟨session.link.line.history ++ [.highZ], true⟩
        else session.link.line } := by
  unfold closing
  split
  · obtain ⟨floated, hfloat, hfloated⟩ := play_setLine_eq .highZ hline
    obtain ⟨after, hrelease, hafter⟩ : ∃ after, play releaseLine floated = (.ok (), after) ∧
        after.link = { floated.link with line := floated.link.line.release } := ⟨_, rfl, rfl⟩
    refine ⟨[none, none], after, ?_, rfl, ?_⟩
    · simp only [List.mapM_cons, List.mapM_nil, play_bind, id, play_attemptCall hfloat,
        play_attemptCall hrelease, play_pure]
    · rw [hafter, hfloated]
      rfl
  · exact ⟨[], session, rfl, rfl, rfl⟩

/-- A shutdown over a simulation on which nothing was given back succeeds. -/
theorem enact_shutDown_shows (h : session.link.Shows device panel line)
    (hline : line.released = false) :
    ∃ after, enact device.shutDown session = (.ok (), after) ∧ after.link.Off panel.floated
      (if device.hasLine then ⟨line.history ++ [.highZ], true⟩ else line) := by
  obtain ⟨floated, hfloats, hshows⟩ := play_floats [0, 1, 2, 3] h
  rw [Panel.foldl_update] at hshows
  obtain ⟨freed, hfree, hfreed⟩ : ∃ after, play releaseBus floated = (.ok (), after) ∧
      after.link = { floated.link with chip := { floated.link.chip with released := true } } :=
    ⟨_, rfl, rfl⟩
  have hheld : freed.link.line.released = false := by
    rw [hfreed, hshows.line, hline]
  obtain ⟨failures, after, hclosing, hnone, hafter⟩ := play_closing device hheld
  have hsteps : play (device.teardown.mapM id) session =
      ([none, none, none, none, none] ++ failures, after) := by
    have hchannels : channels = [0, 1, 2, 3].map Panel.byte := rfl
    rw [mapM_teardown, hchannels]
    simp only [play_bind, play_pure, hfloats, play_attemptCall hfree, hclosing]
    rfl
  have hfirst : ([none, none, none, none, none] ++ failures).findSome? id = none := hnone
  unfold shutDown
  rw [enact_bind, enact_lift, hsteps]
  simp only [hfirst]
  refine ⟨_, rfl, ?_⟩
  change after.link.Off _ _
  rw [hafter, hfreed, hshows.line]
  exact ⟨rfl, hshows.panel, rfl⟩

end Device

end QuadPort
