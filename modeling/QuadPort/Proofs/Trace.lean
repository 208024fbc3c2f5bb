import Mathlib.Data.List.Forall2
import QuadPort.Proofs.Conversation

/-!
# Traces

`Emits action P` says that the action only appends calls to the session, and that the
calls it appends stand in the relation `P` to its value, whatever the link answers. The
rules below follow the structure of an action, so that the trace of a long operation is
put together from the traces of its steps.
-/

namespace QuadPort

open Conversation

namespace Call

def isTransfer : Call → Bool
  | .transfer _ _ _ => true
  | _ => false

def isBusRelease : Call → Bool
  | .releaseBus _ => true
  | _ => false

def isLineLevel : Call → Bool
  | .setLine _ _ => true
  | _ => false

def isLineRelease : Call → Bool
  | .releaseLine _ => true
  | _ => false

end Call

variable {σ ε ε' α β : Type}

/-- The action appends calls that stand in the relation to its value. -/
def Emits (action : StateM (Session σ) α) (P : List Call → α → Prop) : Prop :=
  ∀ session, ∃ calls, (play action session).2.calls = session.calls ++ calls ∧
    P calls (play action session).1

namespace Emits

theorem mono {action : StateM (Session σ) α} {P Q : List Call → α → Prop}
    (h : Emits action P) (hPQ : ∀ calls value, P calls value → Q calls value) :
    Emits action Q := by
  intro session
  obtain ⟨calls, hcalls, hP⟩ := h session
  exact ⟨calls, hcalls, hPQ _ _ hP⟩

/-- An action that leaves the calls alone. -/
theorem silent {action : StateM (Session σ) α} {P : List Call → α → Prop}
    (h : ∀ session, (play action session).2.calls = session.calls ∧
      P [] (play action session).1) :
    Emits action P := by
  intro session
  obtain ⟨hcalls, hP⟩ := h session
  exact ⟨[], hcalls.trans (List.append_nil session.calls).symm, hP⟩

theorem bind {action : StateM (Session σ) α} {next : α → StateM (Session σ) β}
    {P : List Call → α → Prop} {Q : α → List Call → β → Prop}
    (h : Emits action P) (hnext : ∀ value, Emits (next value) (Q value)) :
    Emits (action >>= next) fun calls result ↦
      ∃ value first rest, calls = first ++ rest ∧ P first value ∧ Q value rest result := by
  intro session
  obtain ⟨first, hfirst, hP⟩ := h session
  obtain ⟨rest, hrest, hQ⟩ := hnext (play action session).1 (play action session).2
  refine ⟨first ++ rest, ?_, _, first, rest, rfl, hP, hQ⟩
  calc
    (play (action >>= next) session).2.calls
    _ = (play action session).2.calls ++ rest := hrest
    _ = session.calls ++ (first ++ rest) := by rw [hfirst, List.append_assoc]

/-- What follows an action may write to the log but makes no calls. -/
theorem follow {action : StateM (Session σ) α} {next : α → StateM (Session σ) β}
    {P : List Call → α → Prop} {Q : α → β → Prop} (h : Emits action P)
    (hnext : ∀ value session, (play (next value) session).2.calls = session.calls ∧
      Q value (play (next value) session).1) :
    Emits (action >>= next) fun calls result ↦ ∃ value, P calls value ∧ Q value result := by
  have hlast : ∀ value, Emits (next value) fun calls result ↦ calls = [] ∧ Q value result :=
    fun value ↦ silent fun session ↦ ⟨(hnext value session).1, rfl, (hnext value session).2⟩
  refine (h.bind hlast).mono ?_
  rintro _ result ⟨value, calls, _, rfl, hP, rfl, hQ⟩
  rw [List.append_nil]
  exact ⟨value, hP, hQ⟩

/-- Of two conversations in a row the second one happens if the first one succeeds. -/
theorem bind_run {conversation : ExceptT ε (StateM (Session σ)) α}
    {next : α → ExceptT ε (StateM (Session σ)) β}
    {P : List Call → Except ε α → Prop} {Q : α → List Call → Except ε β → Prop}
    (h : Emits conversation.run P) (hnext : ∀ value, Emits (next value).run (Q value)) :
    Emits (conversation >>= next).run fun calls result ↦
      (∃ error, result = .error error ∧ P calls (.error error)) ∨
        ∃ value first rest, calls = first ++ rest ∧ P first (.ok value) ∧
          Q value rest result := by
  intro session
  obtain ⟨first, hfirst, hP⟩ := h session
  rw [play_run] at hfirst hP
  rw [play_run, enact_bind]
  cases henact : enact conversation session with
  | mk result after =>
    rw [henact] at hfirst hP
    cases result with
    | error error => exact ⟨first, hfirst, .inl ⟨error, rfl, hP⟩⟩
    | ok value =>
      obtain ⟨rest, hrest, hQ⟩ := hnext value after
      refine ⟨first ++ rest, ?_, .inr ⟨value, first, rest, rfl, hP, hQ⟩⟩
      change (play (next value).run after).2.calls = _
      rw [hrest, hfirst, List.append_assoc]

theorem relay {action : StateM (Session σ) (Except Fault Unit)}
    {P : List Call → Except Fault Unit → Prop} (h : Emits action P) :
    Emits (Conversation.relay action).run fun calls result ↦
      ∃ value, result = value.mapError .transport ∧ P calls value := by
  intro session
  obtain ⟨calls, hcalls, hP⟩ := h session
  rw [play_run, enact_relay]
  exact ⟨calls, hcalls, _, rfl, hP⟩

/-- The traces of several actions in a row, one for each item. -/
theorem mapM {ι τ : Type} {action : ι → StateM (Session σ) α} {P : ι → τ → Prop}
    (trace : τ → List Call) (value : τ → α)
    (h : ∀ item, Emits (action item) fun calls result ↦
      ∃ step, calls = trace step ∧ result = value step ∧ P item step) (items : List ι) :
    Emits (items.mapM action) fun calls results ↦
      ∃ steps, calls = steps.flatMap trace ∧ results = steps.map value ∧
        List.Forall₂ P items steps := by
  induction items with
  | nil =>
    rw [List.mapM_nil]
    exact silent fun session ↦ ⟨rfl, [], rfl, rfl, .nil⟩
  | cons item items ih =>
    rw [List.mapM_cons]
    refine ((h item).bind fun first ↦ ih.follow (Q := fun rest results ↦
      results = first :: rest) fun rest session ↦ ⟨rfl, rfl⟩).mono ?_
    rintro _ _ ⟨_, _, _, rfl, ⟨step, rfl, rfl, hstep⟩, _, ⟨steps, rfl, rfl, hsteps⟩, rfl⟩
    exact ⟨step :: steps, rfl, rfl, .cons hstep hsteps⟩

theorem lift {action : StateM (Session σ) α} {P : List Call → α → Prop} (h : Emits action P) :
    Emits (liftM action : ExceptT ε (StateM (Session σ)) α).run fun calls result ↦
      ∃ value, result = .ok value ∧ P calls value := by
  intro session
  obtain ⟨calls, hcalls, hP⟩ := h session
  rw [play_run, enact_lift]
  exact ⟨calls, hcalls, _, rfl, hP⟩

theorem adapt {conversation : ExceptT ε (StateM (Session σ)) α}
    {P : List Call → Except ε α → Prop} (h : Emits conversation.run P) (function : ε → ε') :
    Emits (conversation.adapt function).run fun calls result ↦
      ∃ outcome, result = outcome.mapError function ∧ P calls outcome := by
  intro session
  obtain ⟨calls, hcalls, hP⟩ := h session
  rw [play_run, enact_adapt]
  exact ⟨calls, hcalls, _, rfl, hP⟩

/-! ## Single calls -/

theorem note (level : Log.Level) (target : Log.Target) (message : String) :
    Emits (σ := σ) (Conversation.note level target message) fun calls _ ↦ calls = [] :=
  silent fun _ ↦ ⟨rfl, rfl⟩

variable [Link σ]

theorem releaseBus : Emits (σ := σ) Conversation.releaseBus
    fun calls result ↦ calls = [.releaseBus result] :=
  fun _ ↦ ⟨_, rfl, rfl⟩

theorem setLine (level : LineLevel) : Emits (σ := σ) (Conversation.setLine level)
    fun calls result ↦ calls = [.setLine level result] :=
  fun _ ↦ ⟨_, rfl, rfl⟩

theorem releaseLine : Emits (σ := σ) Conversation.releaseLine
    fun calls result ↦ calls = [.releaseLine result] :=
  fun _ ↦ ⟨_, rfl, rfl⟩

end Emits

end QuadPort
