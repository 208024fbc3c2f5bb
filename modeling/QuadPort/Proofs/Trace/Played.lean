import QuadPort.Proofs.Program

/-!
# What the calls do to the link

The list of calls of a session tells with which answers the link was called. `Played` says
that calls with these answers take a link from one state to another. An action is `Recorded`
if what it does to the link is what the calls that it appends do to it. Everything that a
program does is recorded, so a property of the link after a run is a property of the calls.
-/

namespace QuadPort

open Conversation Register

variable {σ ε ε' α β : Type} [Link σ]

/-- A call takes the link from one state to the next, with the answer that the link gives. -/
inductive Made : σ → Call → σ → Prop
  | transfer (sent : List UInt8) (deselect : Bool) (state : σ) :
    Made state (.transfer sent deselect (Link.transfer sent deselect state).value)
      (Link.transfer sent deselect state).state
  | releaseBus (state : σ) :
    Made state (.releaseBus (Link.releaseBus state).value) (Link.releaseBus state).state
  | setLine (level : LineLevel) (state : σ) :
    Made state (.setLine level (Link.setLine level state).value)
      (Link.setLine level state).state
  | releaseLine (state : σ) :
    Made state (.releaseLine (Link.releaseLine state).value) (Link.releaseLine state).state

inductive Played : σ → List Call → σ → Prop
  | nil (state : σ) : Played state [] state
  | cons {state next last : σ} {call : Call} {calls : List Call} (hfirst : Made state call next)
    (hrest : Played next calls last) : Played state (call :: calls) last

namespace Played

variable {state middle last : σ} {first rest : List Call}

theorem single {call : Call} (h : Made state call last) : Played state [call] last :=
  .cons h (.nil last)

theorem append (hfirst : Played state first middle) (hrest : Played middle rest last) :
    Played state (first ++ rest) last := by
  induction hfirst with
  | nil => exact hrest
  | cons hcall _ ih => exact .cons hcall (ih hrest)

theorem of_append (h : Played state (first ++ rest) last) :
    ∃ middle, Played state first middle ∧ Played middle rest last := by
  induction first generalizing state with
  | nil => exact ⟨state, .nil state, h⟩
  | cons call first ih =>
    cases h with
    | cons hcall hrest =>
      obtain ⟨middle, hfirst, hlast⟩ := ih hrest
      exact ⟨middle, .cons hcall hfirst, hlast⟩

/-- If a call in a state of a kind is of some kind itself and leads to a state of that kind, so it
is with all calls. -/
theorem forall_mem {P : σ → Prop} {Q : Call → Prop} {calls : List Call}
    (h : Played state calls last)
    (hstep : ∀ {before call after}, call ∈ calls → Made before call after → P before →
      Q call ∧ P after)
    (hstate : P state) : (∀ call ∈ calls, Q call) ∧ P last := by
  induction h with
  | nil => exact ⟨List.forall_mem_nil _, hstate⟩
  | cons hcall _ ih =>
    obtain ⟨hfirst, hnext⟩ := hstep (.head _) hcall hstate
    obtain ⟨hrest, hlast⟩ := ih (fun hmem ↦ hstep (.tail _ hmem)) hnext
    exact ⟨List.forall_mem_cons.mpr ⟨hfirst, hrest⟩, hlast⟩

/-- What every call keeps holds after the calls if it holds before them. -/
theorem invariant {P : σ → Prop} {calls : List Call} (h : Played state calls last)
    (hstep : ∀ {before call after}, call ∈ calls → Made before call after → P before → P after)
    (hstate : P state) : P last :=
  (h.forall_mem (Q := fun _ ↦ True) (fun hmem hmade hbefore ↦ ⟨trivial, hstep hmem hmade hbefore⟩)
    hstate).2

end Played

/-- Calls made one after the other, with a relation between the states before and after each
single call. -/
inductive Stepwise (R : σ → σ → Prop) : σ → List Call → σ → Prop
  | nil (state : σ) : Stepwise R state [] state
  | cons {state next last : σ} {call : Call} {calls : List Call} (hfirst : Made state call next)
    (h : R state next) (hrest : Stepwise R next calls last) : Stepwise R state (call :: calls) last

namespace Stepwise

variable {R S : σ → σ → Prop} {state middle last : σ} {first rest : List Call}

theorem append (hfirst : Stepwise R state first middle) (hrest : Stepwise R middle rest last) :
    Stepwise R state (first ++ rest) last := by
  induction hfirst with
  | nil => exact hrest
  | cons hcall h _ ih => exact .cons hcall h (ih hrest)

theorem mono {calls : List Call} (h : Stepwise R state calls last)
    (hRS : ∀ before after, R before after → S before after) : Stepwise S state calls last := by
  induction h with
  | nil => exact .nil _
  | cons hcall h _ ih => exact .cons hcall (hRS _ _ h) ih

end Stepwise

/-- What the action does to the link is what the calls that it appends do to it. -/
def Recorded (action : StateM (Session σ) α) : Prop :=
  ∀ session, ∃ calls, (play action session).2.calls = session.calls ++ calls ∧
    Played session.link calls (play action session).2.link

/-- The trace of an action that is recorded tells what becomes of the link. -/
theorem Emits.played {action : StateM (Session σ) α} {P : List Call → α → Prop}
    (h : Emits action P) (hrecorded : Recorded action) (session : Session σ) :
    ∃ calls, (play action session).2.calls = session.calls ++ calls ∧
      Played session.link calls (play action session).2.link ∧
        P calls (play action session).1 := by
  obtain ⟨calls, hcalls, hP⟩ := h session
  obtain ⟨others, hothers, hplayed⟩ := hrecorded session
  have hsame : others = calls := List.append_cancel_left (hothers.symm.trans hcalls)
  rw [hsame] at hplayed
  exact ⟨calls, hcalls, hplayed, hP⟩

namespace Recorded

/-! ## Sequencing -/

/-- An action that leaves the link and the calls alone. -/
theorem silent {action : StateM (Session σ) α}
    (h : ∀ session, (play action session).2.calls = session.calls ∧
      (play action session).2.link = session.link) :
    Recorded action := by
  intro session
  obtain ⟨hcalls, hlink⟩ := h session
  rw [hcalls, hlink]
  exact ⟨[], (List.append_nil _).symm, .nil _⟩

theorem pure (value : α) : Recorded (σ := σ) (pure value) :=
  silent fun _ ↦ ⟨rfl, rfl⟩

theorem note (level : Log.Level) (target : Log.Target) (message : String) :
    Recorded (σ := σ) (Conversation.note level target message) :=
  silent fun _ ↦ ⟨rfl, rfl⟩

theorem get : Recorded (σ := σ) MonadState.get :=
  silent fun _ ↦ ⟨rfl, rfl⟩

theorem bind {action : StateM (Session σ) α} {next : α → StateM (Session σ) β}
    (h : Recorded action) (hnext : ∀ value, Recorded (next value)) :
    Recorded (action >>= next) := by
  intro session
  obtain ⟨first, hfirst, hplayed⟩ := h session
  obtain ⟨rest, hrest, hlast⟩ := hnext (play action session).1 (play action session).2
  refine ⟨first ++ rest, ?_, hplayed.append hlast⟩
  calc
    (play (action >>= next) session).2.calls
    _ = (play action session).2.calls ++ rest := hrest
    _ = session.calls ++ (first ++ rest) := by rw [hfirst, List.append_assoc]

/-- Several actions in a row. -/
theorem mapM_id {actions : List (StateM (Session σ) α)}
    (h : ∀ action ∈ actions, Recorded action) : Recorded (actions.mapM id) := by
  induction actions with
  | nil =>
    rw [List.mapM_nil]
    exact pure []
  | cons action actions ih =>
    rw [List.mapM_cons]
    have hrest := ih fun other hother ↦ h other (.tail _ hother)
    exact (h action (.head _)).bind fun _ ↦ hrest.bind fun _ ↦ pure _

section Conversation

variable {conversation : ExceptT ε (StateM (Session σ)) α}

theorem bind_run {next : α → ExceptT ε (StateM (Session σ)) β} (h : Recorded conversation.run)
    (hnext : ∀ value, Recorded (next value).run) : Recorded (conversation >>= next).run := by
  rw [ExceptT.run_bind]
  refine h.bind fun result ↦ ?_
  cases result with
  | ok value => exact hnext value
  | error error => exact pure _

theorem tryCatch {handler : ε → ExceptT ε (StateM (Session σ)) α} (h : Recorded conversation.run)
    (hhandler : ∀ error, Recorded (handler error).run) :
    Recorded (tryCatch conversation handler).run := by
  have hrun : (MonadExcept.tryCatch conversation handler).run =
      conversation.run >>= fun result ↦ match result with
        | .ok value => Pure.pure (.ok value)
        | .error error => (handler error).run := rfl
  rw [hrun]
  refine h.bind fun result ↦ ?_
  cases result with
  | ok value => exact pure _
  | error error => exact hhandler error

theorem lift {action : StateM (Session σ) α} (h : Recorded action) :
    Recorded (liftM action : ExceptT ε (StateM (Session σ)) α).run :=
  h.bind fun _ ↦ pure _

theorem throw (error : ε) :
    Recorded (throw error : ExceptT ε (StateM (Session σ)) α).run :=
  pure _

theorem adapt (h : Recorded conversation.run) (function : ε → ε') :
    Recorded (conversation.adapt function).run := by
  intro session
  rw [play_run, enact_adapt]
  exact h session

end Conversation

theorem report (level : Log.Level) (target : Log.Target) (message : String) :
    Recorded (σ := σ) (Conversation.report level target message).run :=
  (note level target message).lift

theorem relay {action : StateM (Session σ) (Except Fault Unit)} (h : Recorded action) :
    Recorded (Conversation.relay action).run := by
  refine h.lift.bind_run fun result ↦ ?_
  cases result with
  | ok => exact pure _
  | error fault => exact throw _

/-! ## Single calls -/

theorem releaseBus : Recorded (σ := σ) Conversation.releaseBus :=
  fun session ↦ ⟨_, rfl, .single (.releaseBus session.link)⟩

theorem setLine (level : LineLevel) : Recorded (σ := σ) (Conversation.setLine level) :=
  fun session ↦ ⟨_, rfl, .single (.setLine level session.link)⟩

theorem releaseLine : Recorded (σ := σ) Conversation.releaseLine :=
  fun session ↦ ⟨_, rfl, .single (.releaseLine session.link)⟩

theorem perform (device : Device) (access : Access) :
    Recorded (σ := σ) (access.perform device).run := by
  intro session
  rw [play_run]
  by_cases h : access.address ≤ maxAddress
  · obtain ⟨scratch, log, hperform⟩ := Access.enact_perform device access session h
    rw [hperform]
    exact ⟨_, rfl, .single (.transfer _ true session.link)⟩
  · rw [Access.enact_perform_refused device access session (UInt8.not_le.mp h)]
    exact ⟨[], (List.append_nil _).symm, .nil _⟩

/-! ## Scripts -/

theorem run (device : Device) (script : Script α) : Recorded (σ := σ) (script.run device).run := by
  induction script with
  | done value => exact pure _
  | fail error => exact throw _
  | note record next ih => exact (report _ _ _).bind_run fun _ ↦ ih
  | ask access next ih => exact (perform device access).bind_run ih

theorem operation (device : Device) (operation : Device.Operation) :
    Recorded (σ := σ) (device.perform operation).run := by
  rw [← Script.run_ofOperation]
  exact run device _

/-! ## The life of a descriptor -/

theorem bringUp (device : Device) : Recorded (σ := σ) device.bringUp.run := by
  rw [Device.bringUp_eq]
  split
  · exact throw _
  · split
    · exact (setLine .high).relay.bind_run fun _ ↦ run device _
    · exact run device _

theorem releaseLogged {release : StateM (Session σ) (Except Fault Unit)} (h : Recorded release)
    (complaint : String) : Recorded (Device.releaseLogged complaint release) := by
  refine h.bind fun result ↦ ?_
  cases result with
  | ok => exact pure _
  | error fault => exact note _ _ _

theorem releaseHandles (device : Device) : Recorded (σ := σ) device.releaseHandles := by
  have hbus := releaseBus.releaseLogged (σ := σ) "Failed to release SPI bus"
  rw [Device.releaseHandles_eq]
  split
  · exact (releaseLine.releaseLogged _).bind fun _ ↦ hbus
  · exact hbus

theorem start (device : Device) : Recorded (σ := σ) device.start.run := by
  have hclear : Recorded (σ := σ) (modify fun session ↦ { session with scratch := .zero } :
      Conversation σ PUnit).run := silent fun _ ↦ ⟨rfl, rfl⟩
  refine hclear.bind_run fun _ ↦ .tryCatch ?_ fun error ↦ ?_
  · exact (bringUp device).bind_run fun _ ↦ report _ _ _
  · exact (report _ _ _).bind_run fun _ ↦ (releaseHandles device).lift.bind_run fun _ ↦ throw _

theorem attempt {step : Conversation σ Unit} (h : Recorded step.run) (complaint : String) :
    Recorded (Device.attempt complaint step) := by
  refine h.bind fun result ↦ ?_
  cases result with
  | ok => exact pure _
  | error error => exact (note _ _ _).bind fun _ ↦ pure _

theorem attemptCall {call : StateM (Session σ) (Except Fault Unit)} (h : Recorded call)
    (complaint : String) : Recorded (Device.attemptCall complaint call) := by
  refine h.bind fun result ↦ ?_
  cases result with
  | ok => exact pure _
  | error fault => exact (note _ _ _).bind fun _ ↦ pure _

theorem teardown (device : Device) : ∀ step ∈ device.teardown (σ := σ), Recorded step := by
  have hfloat (channel : UInt8) : Recorded (σ := σ) (device.setFunction channel .highZ).run := by
    rw [← Script.run_setFunction]
    exact run device _
  have hclosing : ∀ step ∈ device.closing (σ := σ), Recorded step := by
    unfold Device.closing
    split
    · exact List.forall_mem_cons.mpr ⟨(setLine .highZ).attemptCall _,
        List.forall_mem_singleton.mpr (releaseLine.attemptCall _)⟩
    · exact List.forall_mem_nil _
  refine List.forall_mem_append.mpr ⟨List.forall_mem_append.mpr ⟨?_, ?_⟩, hclosing⟩
  · exact List.forall_mem_map.mpr fun channel _ ↦ (hfloat channel).attempt _
  · exact List.forall_mem_singleton.mpr (releaseBus.attemptCall _)

theorem shutDown (device : Device) : Recorded (σ := σ) device.shutDown.run := by
  refine (mapM_id (teardown device)).lift.bind_run fun outcomes ↦ ?_
  split
  · exact throw _
  · exact report _ _ _

/-! ## Programs -/

theorem carryOut (held : Option Device) (request : Request) :
    Recorded (σ := σ) (request.carryOut held) := by
  cases request with
  | start device => exact (start device).bind fun _ ↦ pure _
  | operate operation =>
    cases held with
    | none => exact pure _
    | some device => exact (Recorded.operation device operation).bind fun _ ↦ pure _
  | shutDown =>
    cases held with
    | none => exact (throw Error.noDevice).bind fun _ ↦ pure _
    | some device => exact (shutDown device).bind fun _ ↦ pure _

/-- Whatever a program does to a link is in the list of the calls. -/
theorem runAll (requests : List Request) (held : Option Device) :
    Recorded (σ := σ) (Request.runAll held requests) := by
  induction requests generalizing held with
  | nil => exact pure _
  | cons request requests ih =>
    exact (carryOut held request).bind fun next ↦ (ih next.1).bind fun _ ↦ pure _

end Recorded

end QuadPort
