import QuadPort.Proofs.Program

/-!
# The life of a descriptor

A descriptor is started, used and shut down. `Lived` lists the calls of such a life: those of
a start, then nothing but transfers, then those of a shutdown. After a start that failed there
are no calls at all, since no descriptor is in use.
-/

namespace QuadPort

open Conversation

/-- The requests of a life: one descriptor is started, used and shut down. -/
def Request.life (device : Device) (operations : List Device.Operation) : List Request :=
  .start device :: (operations.map .operate ++ [.shutDown])

namespace Device

/-- The calls of a life and what its start comes to. -/
inductive Lived (device : Device) : List Call → Except Error Unit → Prop
  | failed {calls : List Call} {error : Error} (h : device.Started calls (.error error)) :
    Lived device calls (.error error)
  | ended {up use down : List Call} {result : Except Error Unit}
    (hup : device.Started up (.ok ())) (huse : ∀ call ∈ use, call.isTransfer)
    (hdown : device.ShutDown down result) :
    Lived device (up ++ (use ++ down)) (.ok ())

inductive Used (device : Device) : List Call → Prop
  | intro {use down : List Call} {result : Except Error Unit}
    (huse : ∀ call ∈ use, call.isTransfer) (hdown : device.ShutDown down result) :
    Used device (use ++ down)

theorem isTransfer_exchanges (device : Device) (exchanges : List Exchange) :
    ∀ call ∈ exchanges.map (Exchange.call device), call.isTransfer :=
  List.forall_mem_map.mpr fun _ _ ↦ rfl

end Device

namespace Request

variable {σ : Type} [Link σ]

theorem emits_used (device : Device) (operations : List Device.Operation) :
    Emits (σ := σ) (runAll (some device) (operations.map .operate ++ [.shutDown]))
      fun calls _ ↦ device.Used calls := by
  induction operations with
  | nil =>
    refine (emits_cons (Q := fun _ calls _ ↦ calls = []) (emits_shutDown_eq device)
      fun _ _ _ ↦ .silent fun session ↦ ⟨rfl, rfl⟩).mono ?_
    rintro _ _ ⟨_, calls, _, _, rfl, ⟨result, hshutDown, -⟩, -, rfl⟩
    rw [List.append_nil, ← List.nil_append calls]
    exact .intro (List.forall_mem_nil _) hshutDown
  | cons operation operations ih =>
    refine (emits_cons (Q := fun _ calls _ ↦ device.Used calls)
      (emits_operate_eq device operation) ?_).mono ?_
    · rintro _ _ ⟨exchanges, result, -, -, rfl⟩
      exact ih
    · rintro _ _ ⟨_, _, _, _, rfl, ⟨exchanges, result, rfl, -, -⟩, -, hused⟩
      cases hused with
      | intro huse hdown =>
        have htransfers := Device.isTransfer_exchanges device exchanges
        rw [← List.append_assoc]
        exact .intro (List.forall_mem_append.mpr ⟨htransfers, huse⟩) hdown

/-- Without a descriptor nothing is called but by a start. -/
theorem emits_idle {requests : List Request}
    (h : ∀ request ∈ requests, ∀ device, request ≠ .start device) :
    Emits (σ := σ) (runAll none requests) fun calls _ ↦ calls = [] := by
  induction requests with
  | nil => exact .silent fun session ↦ ⟨rfl, rfl⟩
  | cons request requests ih =>
    have hfirst : Emits (σ := σ) (carryOut none request) fun calls after ↦
        calls = [] ∧ after.1 = none := by
      cases request with
      | start device => exact absurd rfl (h _ (.head _) device)
      | operate | shutDown => exact .silent fun session ↦ ⟨rfl, rfl, rfl⟩
    refine (emits_cons (Q := fun _ calls _ ↦ calls = []) hfirst ?_).mono ?_
    · rintro _ next ⟨-, hnext⟩
      rw [hnext]
      exact ih fun other hother ↦ h other (.tail _ hother)
    · rintro _ _ ⟨_, _, _, _, rfl, ⟨rfl, -⟩, -, rfl⟩
      rfl

/-- The calls of a life over any link. -/
theorem emits_life (device : Device) (operations : List Device.Operation) :
    Emits (σ := σ) (runAll none (life device operations)) fun calls after ↦
      ∃ started, device.Lived calls started ∧
        after.2.head? = some (started.map fun _ ↦ .done) := by
  refine (emits_cons
    (Q := fun next calls _ ↦ if next.1.isSome then device.Used calls else calls = [])
    (emits_start_eq none device) ?_).mono ?_
  · rintro _ _ ⟨result, -, rfl⟩
    cases result with
    | ok => exact emits_used device operations
    | error =>
      apply emits_idle
      rintro _ hmem other rfl
      simp at hmem
  · rintro _ ⟨last, _⟩ ⟨_, first, rest, results, rfl, ⟨result, hstarted, rfl⟩, rfl, hrest⟩
    refine ⟨result, ?_, rfl⟩
    cases result with
    | ok =>
      cases hrest with
      | intro huse hdown => exact .ended hstarted huse hdown
    | error error =>
      cases hrest
      rw [List.append_nil]
      exact .failed hstarted

end Request

end QuadPort
