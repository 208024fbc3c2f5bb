import QuadPort.Proofs.Program
import QuadPort.Proofs.Wire.Legible

/-!
# Two runs side by side

Two links may differ in all that a descriptor does not look at: in the responses to writes, in
the idle bits of the responses to reads, and in what a failed transfer leaves in the buffer.
`Link.Alike` says that they differ in nothing else, for a relation between their states that all
calls keep, and `Link.AlikeFor` that they do so for the frames of one descriptor. Run over two such
links, a program does the same: the scratch buffers of the two runs may hold different bytes all
the way, but no frame, no call and no result depends on them.
-/

namespace QuadPort

open Conversation Register Channel

variable {σ τ ε α β : Type}

def Call.blanked : Call → Call
  | .transfer sent deselect reply => .transfer sent deselect { reply with buffer := [] }
  | call => call

def Answer.Alike (V : α → β → Prop) (R : σ → τ → Prop) (first : Answer σ α)
    (second : Answer τ β) : Prop :=
  V first.value second.value ∧ R first.state second.state

/-- Links that answer every call alike in related states, and are in related states after it. -/
structure Link.Alike [Link σ] [Link τ] (R : σ → τ → Prop) : Prop where
  transfer : ∀ sent deselect first second, R first second →
    Answer.Alike (Reply.Alike sent) R (transfer sent deselect first)
      (transfer sent deselect second)
  releaseBus : ∀ first second, R first second →
    Answer.Alike Eq R (releaseBus first) (releaseBus second)
  setLine : ∀ level first second, R first second →
    Answer.Alike Eq R (setLine level first) (setLine level second)
  releaseLine : ∀ first second, R first second →
    Answer.Alike Eq R (releaseLine first) (releaseLine second)

/-- Links that answer the frames of a descriptor and every other call alike in related states, and
are in related states after them. -/
structure Link.AlikeFor [Link σ] [Link τ] (device : Device) (R : σ → τ → Prop) : Prop where
  transfer : ∀ (access : Access) first second, R first second →
    Answer.Alike (Reply.Alike (access.frame device)) R
      (transfer (access.frame device) true first) (transfer (access.frame device) true second)
  releaseBus : ∀ first second, R first second →
    Answer.Alike Eq R (releaseBus first) (releaseBus second)
  setLine : ∀ level first second, R first second →
    Answer.Alike Eq R (setLine level first) (setLine level second)
  releaseLine : ∀ first second, R first second →
    Answer.Alike Eq R (releaseLine first) (releaseLine second)

theorem Link.Alike.for [Link σ] [Link τ] {R : σ → τ → Prop} (h : Link.Alike R) (device : Device) :
    Link.AlikeFor device R :=
  ⟨fun access ↦ h.transfer (access.frame device) true, h.releaseBus, h.setLine, h.releaseLine⟩

/-- Sessions over related links in which the same calls were made. The scratch buffers and the
logs may differ. -/
structure Session.Alike (R : σ → τ → Prop) (first : Session σ) (second : Session τ) : Prop where
  link : R first.link second.link
  calls : first.calls.map Call.blanked = second.calls.map Call.blanked

/-- Actions that come to the same value and to sessions that are alike from any two sessions that
are alike. -/
def Twin (R : σ → τ → Prop) (action : StateM (Session σ) α) (other : StateM (Session τ) α) :
    Prop :=
  ∀ first second, Session.Alike R first second →
    (play action first).1 = (play other second).1 ∧
      Session.Alike R (play action first).2 (play other second).2

/-- One more call on either side, without the bytes that were clocked in the same. -/
theorem Session.Alike.call {R : σ → τ → Prop} {first : Session σ} {second : Session τ}
    (h : first.Alike R second) {link : σ} {link' : τ} {call call' : Call} (hlink : R link link')
    (hcall : call.blanked = call'.blanked) (scratch scratch' : Frame.Scratch)
    (log log' : List Log.Record) :
    Session.Alike R { link, scratch, calls := first.calls ++ [call], log }
      { link := link', scratch := scratch', calls := second.calls ++ [call'], log := log' } := by
  refine ⟨hlink, ?_⟩
  calc
    (first.calls ++ [call]).map Call.blanked
    _ = first.calls.map Call.blanked ++ [call.blanked] := List.map_append
    _ = second.calls.map Call.blanked ++ [call'.blanked] := by rw [h.calls, hcall]
    _ = (second.calls ++ [call']).map Call.blanked := by rw [List.map_append, List.map_singleton]

namespace Twin

variable {R : σ → τ → Prop}

/-! ## Sequencing -/

theorem pure (value : α) : Twin R (pure value) (pure value) :=
  fun _ _ h ↦ ⟨rfl, h⟩

theorem note (level : Log.Level) (target : Log.Target) (message : String) :
    Twin R (Conversation.note level target message) (Conversation.note level target message) :=
  fun _ _ h ↦ ⟨rfl, h.link, h.calls⟩

/-- What follows has to be a twin for the values that the action can come to. -/
theorem bind_of {P : α → Prop} {action : StateM (Session σ) α} {other : StateM (Session τ) α}
    {next : α → StateM (Session σ) β} {next' : α → StateM (Session τ) β}
    (h : Twin R action other) (hvalue : ∀ session, P (play action session).1)
    (hnext : ∀ value, P value → Twin R (next value) (next' value)) :
    Twin R (action >>= next) (other >>= next') := by
  intro first second hsame
  obtain ⟨hsameValue, hafter⟩ := h first second hsame
  rw [play_bind, play_bind, ← hsameValue]
  exact hnext _ (hvalue first) _ _ hafter

theorem bind {action : StateM (Session σ) α} {other : StateM (Session τ) α}
    {next : α → StateM (Session σ) β} {next' : α → StateM (Session τ) β}
    (h : Twin R action other) (hnext : ∀ value, Twin R (next value) (next' value)) :
    Twin R (action >>= next) (other >>= next') :=
  h.bind_of (P := fun _ ↦ True) (fun _ ↦ trivial) fun value _ ↦ hnext value

/-- Several actions in a row on either side. -/
theorem mapM_id {actions : List (StateM (Session σ) α)} {others : List (StateM (Session τ) α)}
    (h : List.Forall₂ (Twin R) actions others) : Twin R (actions.mapM id) (others.mapM id) := by
  induction h with
  | nil =>
    rw [List.mapM_nil, List.mapM_nil]
    exact pure []
  | cons hfirst _ ih =>
    rw [List.mapM_cons, List.mapM_cons]
    exact bind hfirst fun _ ↦ ih.bind fun _ ↦ pure _

section Conversation

variable {conversation : ExceptT ε (StateM (Session σ)) α}
  {other : ExceptT ε (StateM (Session τ)) α}

theorem bind_run {next : α → ExceptT ε (StateM (Session σ)) β}
    {next' : α → ExceptT ε (StateM (Session τ)) β} (h : Twin R conversation.run other.run)
    (hnext : ∀ value, Twin R (next value).run (next' value).run) :
    Twin R (conversation >>= next).run (other >>= next').run := by
  rw [ExceptT.run_bind, ExceptT.run_bind]
  refine h.bind fun result ↦ ?_
  cases result with
  | ok value => exact hnext value
  | error error => exact pure _

theorem tryCatch {handler : ε → ExceptT ε (StateM (Session σ)) α}
    {handler' : ε → ExceptT ε (StateM (Session τ)) α} (h : Twin R conversation.run other.run)
    (hhandler : ∀ error, Twin R (handler error).run (handler' error).run) :
    Twin R (tryCatch conversation handler).run (tryCatch other handler').run := by
  intro first second hsame
  obtain ⟨hresult, hafter⟩ := h first second hsame
  rw [play_run, play_run] at hresult hafter ⊢
  rw [enact_tryCatch, enact_tryCatch]
  generalize enact conversation first = outcome at *
  generalize enact other second = outcome' at *
  obtain ⟨result, after⟩ := outcome
  obtain ⟨_, after'⟩ := outcome'
  subst hresult
  cases result with
  | ok value => exact ⟨rfl, hafter⟩
  | error error => exact hhandler error after after' hafter

theorem lift {action : StateM (Session σ) α} {other : StateM (Session τ) α}
    (h : Twin R action other) :
    Twin R (liftM action : ExceptT ε (StateM (Session σ)) α).run
      (liftM other : ExceptT ε (StateM (Session τ)) α).run :=
  h.bind fun _ ↦ pure _

theorem throw (error : ε) :
    Twin R (throw error : ExceptT ε (StateM (Session σ)) α).run
      (throw error : ExceptT ε (StateM (Session τ)) α).run :=
  pure _

end Conversation

theorem report (level : Log.Level) (target : Log.Target) (message : String) :
    Twin R (Conversation.report level target message).run
      (Conversation.report level target message).run :=
  (note level target message).lift

theorem relay {action : StateM (Session σ) (Except Fault Unit)}
    {other : StateM (Session τ) (Except Fault Unit)} (h : Twin R action other) :
    Twin R (Conversation.relay action).run (Conversation.relay other).run := by
  refine h.lift.bind_run fun result ↦ ?_
  cases result with
  | ok => exact pure _
  | error fault => exact throw _

variable [Link σ] [Link τ] {device : Device} (halike : Link.AlikeFor device R)

include halike

/-! ## Single calls -/

theorem releaseBus : Twin R Conversation.releaseBus Conversation.releaseBus := by
  intro first second h
  obtain ⟨hvalue, hstate⟩ := halike.releaseBus _ _ h.link
  exact ⟨hvalue, h.call hstate (by rw [hvalue]) _ _ _ _⟩

theorem setLine (level : LineLevel) :
    Twin R (Conversation.setLine level) (Conversation.setLine level) := by
  intro first second h
  obtain ⟨hvalue, hstate⟩ := halike.setLine level _ _ h.link
  exact ⟨hvalue, h.call hstate (by rw [hvalue]) _ _ _ _⟩

theorem releaseLine : Twin R Conversation.releaseLine Conversation.releaseLine := by
  intro first second h
  obtain ⟨hvalue, hstate⟩ := halike.releaseLine _ _ h.link
  exact ⟨hvalue, h.call hstate (by rw [hvalue]) _ _ _ _⟩

/-- An access clocks the same frame whatever the scratch buffers hold, and the replies come to
the same verdict. -/
theorem perform (access : Access) :
    Twin R (access.perform device).run (access.perform device).run := by
  intro first second h
  rw [play_run, play_run]
  by_cases haddress : access.address ≤ maxAddress
  · obtain ⟨scratch, log, hperform⟩ := Access.enact_perform device access first haddress
    obtain ⟨scratch', log', hperform'⟩ := Access.enact_perform device access second haddress
    obtain ⟨hreply, hstate⟩ := halike.transfer access _ _ h.link
    have hverdict := Access.verdict_eq_of_alike hreply
      ((Link.length_transfer _ _ _).trans (access.length_frame device))
      ((Link.length_transfer _ _ _).trans (access.length_frame device))
    rw [hperform, hperform']
    refine ⟨hverdict, h.call hstate ?_ _ _ _ _⟩
    simp only [Call.blanked, hreply.result]
  · have hlt := UInt8.not_le.mp haddress
    rw [Access.enact_perform_refused device access first hlt,
      Access.enact_perform_refused device access second hlt]
    exact ⟨rfl, h⟩

/-! ## Scripts -/

theorem run (script : Script α) :
    Twin R (script.run device).run (script.run device).run := by
  induction script with
  | done value => exact pure _
  | fail error => exact throw _
  | note record next ih => exact (report _ _ _).bind_run fun _ ↦ ih
  | ask access next ih => exact (perform halike access).bind_run ih

theorem operation (operation : Device.Operation) :
    Twin R (device.perform operation).run (device.perform operation).run := by
  rw [← Script.run_ofOperation, ← Script.run_ofOperation]
  exact run halike _

/-! ## The life of a descriptor -/

theorem bringUp : Twin R device.bringUp.run device.bringUp.run := by
  rw [Device.bringUp_eq, Device.bringUp_eq]
  split
  · exact throw _
  · split
    · exact (setLine halike .high).relay.bind_run fun _ ↦ run halike _
    · exact run halike _

omit [Link σ] [Link τ] halike in
theorem releaseLogged {release : StateM (Session σ) (Except Fault Unit)}
    {other : StateM (Session τ) (Except Fault Unit)} (h : Twin R release other)
    (complaint : String) :
    Twin R (Device.releaseLogged complaint release) (Device.releaseLogged complaint other) := by
  refine h.bind fun result ↦ ?_
  cases result with
  | ok => exact pure _
  | error fault => exact note _ _ _

theorem releaseHandles : Twin R device.releaseHandles device.releaseHandles := by
  have hbus := (releaseBus halike).releaseLogged "Failed to release SPI bus"
  have hline := (releaseLine halike).releaseLogged "Failed to release enable line"
  rw [Device.releaseHandles_eq, Device.releaseHandles_eq]
  split
  · exact hline.bind fun _ ↦ hbus
  · exact hbus

theorem start : Twin R device.start.run device.start.run := by
  have hclear : Twin R
      (modify fun session ↦ { session with scratch := .zero } : Conversation σ PUnit).run
      (modify fun session ↦ { session with scratch := .zero } : Conversation τ PUnit).run :=
    fun _ _ h ↦ ⟨rfl, h.link, h.calls⟩
  refine hclear.bind_run fun _ ↦ .tryCatch ?_ fun error ↦ ?_
  · exact (bringUp halike).bind_run fun _ ↦ report _ _ _
  · exact (report _ _ _).bind_run fun _ ↦
      (releaseHandles halike).lift.bind_run fun _ ↦ throw _

omit [Link σ] [Link τ] halike in
theorem attempt {step : Conversation σ Unit} {other : Conversation τ Unit}
    (h : Twin R step.run other.run) (complaint : String) :
    Twin R (Device.attempt complaint step) (Device.attempt complaint other) := by
  refine h.bind fun result ↦ ?_
  cases result with
  | ok => exact pure _
  | error error => exact (note _ _ _).bind fun _ ↦ pure _

omit [Link σ] [Link τ] halike in
theorem attemptCall {call : StateM (Session σ) (Except Fault Unit)}
    {other : StateM (Session τ) (Except Fault Unit)} (h : Twin R call other)
    (complaint : String) :
    Twin R (Device.attemptCall complaint call) (Device.attemptCall complaint other) := by
  refine h.bind fun result ↦ ?_
  cases result with
  | ok => exact pure _
  | error fault => exact (note _ _ _).bind fun _ ↦ pure _

theorem teardown :
    List.Forall₂ (Twin R) device.teardown device.teardown := by
  have hfloat (channel : UInt8) : Twin R (device.setFunction channel .highZ).run
      (device.setFunction channel .highZ).run := by
    rw [← Script.run_setFunction, ← Script.run_setFunction]
    exact run halike _
  have hfloats : List.Forall₂ (Twin R)
      (channels.map fun channel ↦ Device.attempt
        s!"Failed to put channel {channel} in high-Z" (device.setFunction channel .highZ))
      (channels.map fun channel ↦ Device.attempt
        s!"Failed to put channel {channel} in high-Z" (device.setFunction channel .highZ)) :=
    List.rel_map (fun channel _ heq ↦ heq ▸ (hfloat channel).attempt _)
      (List.forall₂_same.mpr fun _ _ ↦ rfl)
  refine List.rel_append (List.rel_append hfloats ?_) ?_
  · exact .cons ((releaseBus halike).attemptCall _) .nil
  · split
    · exact .cons ((setLine halike .highZ).attemptCall _)
        (.cons ((releaseLine halike).attemptCall _) .nil)
    · exact .nil

theorem shutDown : Twin R device.shutDown.run device.shutDown.run := by
  refine (mapM_id (teardown halike)).lift.bind_run fun outcomes ↦ ?_
  split
  · exact throw _
  · exact report _ _ _

/-! ## Programs -/

omit halike

theorem carryOut {held : Option Device} {request : Request}
    (halike : ∀ device, held = some device ∨ request = .start device → Link.AlikeFor device R) :
    Twin R (request.carryOut held) (request.carryOut held) := by
  cases request with
  | start device => exact (start (halike device (.inr rfl))).bind fun _ ↦ pure _
  | operate operation =>
    cases held with
    | none => exact pure _
    | some device =>
      exact (Twin.operation (halike device (.inl rfl)) operation).bind fun _ ↦ pure _
  | shutDown =>
    cases held with
    | none => exact (throw Error.noDevice).bind fun _ ↦ pure _
    | some device => exact (shutDown (halike device (.inl rfl))).bind fun _ ↦ pure _

/-- A program does the same over two links that answer alike for every descriptor it uses. -/
theorem runAll_of_devices {held : Option Device} {requests : List Request}
    (halike : ∀ device, held = some device ∨ .start device ∈ requests → Link.AlikeFor device R) :
    Twin R (Request.runAll held requests) (Request.runAll held requests) := by
  induction requests generalizing held with
  | nil => exact pure _
  | cons request requests ih =>
    have hfirst : Twin R (request.carryOut held) (request.carryOut held) := by
      refine carryOut fun device huse ↦ halike device (huse.imp_right ?_)
      rintro rfl
      exact .head _
    refine hfirst.bind_of (P := fun next ↦ ∀ device, next.1 = some device →
      held = some device ∨ request = .start device) (fun session ↦ ?_) fun next hnext ↦ ?_
    · obtain ⟨_, -, _, -, hmakes⟩ := Request.emits_carryOut held request session
      exact fun device ↦ hmakes.held_or_started
    · refine (ih fun device huse ↦ halike device ?_).bind fun _ ↦ pure _
      obtain hheld | hstart := huse
      · refine (hnext device hheld).imp_right ?_
        rintro rfl
        exact .head _
      · exact .inr (.tail _ hstart)

theorem runAll (halike : Link.Alike R) (requests : List Request) (held : Option Device) :
    Twin R (Request.runAll held requests) (Request.runAll held requests) :=
  runAll_of_devices fun device _ ↦ halike.for device

end Twin

end QuadPort
