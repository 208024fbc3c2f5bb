import QuadPort.Proofs.Lifecycle

/-!
# Programs

A program brings chips up, carries operations out and shuts chips down, in any order and
for any number of times. A descriptor is in use from a bring-up that succeeded to the
shutdown that takes it away; a request that needs one and finds none makes no calls.

`Makes` says which accesses a program makes, as a function of the replies alone, and
`emits_runAll` that the transfers of a program over any link are the frames of such
accesses.
-/

namespace QuadPort

open Conversation Register Channel

inductive Request
  | start (device : Device)
  | operate (operation : Device.Operation)
  | shutDown
  deriving DecidableEq, Repr

def transfers (calls : List Call) : List Call :=
  calls.filter Call.isTransfer

/-- An exchange together with the descriptor that it was made for. -/
structure Sent where
  device : Device
  exchange : Exchange

def Sent.call (sent : Sent) : Call :=
  sent.exchange.call sent.device

@[simp]
theorem transfers_append (first rest : List Call) :
    transfers (first ++ rest) = transfers first ++ transfers rest :=
  List.filter_append _ _

@[simp]
theorem transfers_releaseBus (result : Except Fault Unit) (calls : List Call) :
    transfers (.releaseBus result :: calls) = transfers calls := rfl

@[simp]
theorem transfers_exchanges (device : Device) (exchanges : List Exchange) :
    transfers (exchanges.map (Exchange.call device)) =
      (exchanges.map (Sent.mk device)).map Sent.call := by
  rw [List.map_map]
  apply List.filter_eq_self.mpr
  intro call hcall
  obtain ⟨exchange, -, rfl⟩ := List.mem_map.mp hcall
  rfl

/-! ## The transfers of a descriptor's life -/

namespace Device

variable {device : Device} {calls : List Call}

theorem transfers_opening (device : Device) : transfers device.opening = [] := by
  unfold opening
  split <;> rfl

theorem Released.transfers_eq (h : device.Released calls) : transfers calls = [] := by
  obtain ⟨line, bus, rfl⟩ := h
  split <;> rfl

theorem Closed.transfers_eq {results : List (Except Error Unit)}
    (h : device.Closed calls results) : transfers calls = [] := by
  unfold Closed at h
  split at h
  · obtain ⟨level, line, rfl, -⟩ := h
    rfl
  · rw [h.1]
    rfl

theorem transfers_broughtUp (device : Device) (exchanges : List Exchange) :
    transfers (device.opening ++ exchanges.map (Exchange.call device)) =
      (exchanges.map (Sent.mk device)).map Sent.call := by
  rw [transfers_append, transfers_opening, List.nil_append, transfers_exchanges]

/-- The transfers of a shutdown are those that float the channels. -/
theorem Closed.transfers_shutDown {results : List (Except Error Unit)}
    (h : device.Closed calls results) (floats : List (List Exchange × Except Error Unit))
    (bus : Except Fault Unit) :
    transfers (floats.flatMap (fun float ↦ float.1.map (Exchange.call device)) ++
      .releaseBus bus :: calls) = ((floats.flatMap Prod.fst).map (Sent.mk device)).map Sent.call :=
  calc
    transfers (floats.flatMap (fun float ↦ float.1.map (Exchange.call device)) ++
      .releaseBus bus :: calls)
    _ = transfers ((floats.flatMap Prod.fst).map (Exchange.call device)) ++ transfers calls := by
      rw [transfers_append, transfers_releaseBus, List.map_flatMap]
    _ = ((floats.flatMap Prod.fst).map (Sent.mk device)).map Sent.call := by
      rw [transfers_exchanges, h.transfers_eq, List.append_nil]

end Device

namespace Request

/-! ## Carrying requests out -/

section CarryOut

variable {σ : Type} [Link σ]

/-- Carries a request out and hands back the descriptor that is in use after it. -/
def carryOut (held : Option Device) :
    Request → StateM (Session σ) (Option Device × Except Error Device.Outcome)
  | .start device => do
    let result ← device.start.run
    return (if result.isOk then some device else none, result.map fun _ ↦ .done)
  | .operate operation =>
    match held with
    | some device => do return (held, ← (device.perform operation).run)
    | none => return (none, .error .noDevice)
  | .shutDown => do
    let result ← (Device.shutDown? held).run
    return (none, result.map fun _ ↦ .done)

def runAll (held : Option Device) :
    List Request → StateM (Session σ) (Option Device × List (Except Error Device.Outcome))
  | [] => return (held, [])
  | request :: requests => do
    let (next, result) ← request.carryOut held
    let (last, results) ← runAll next requests
    return (last, result :: results)

end CarryOut

/-! ## The accesses of a program -/

/-- The accesses that a request makes, and the descriptor that is in use after it. -/
inductive Makes : Option Device → Request → Option Device → List Sent → Prop
  | refused {held : Option Device} {device : Device}
    (h : maxChip < device.chip ∨ device.hasLine) : Makes held (.start device) none []
  | started {held : Option Device} {device : Device} {exchanges : List Exchange}
    {result : Except Error Unit} (hchip : device.chip ≤ maxChip)
    (hpath : Script.Path device Script.prepare exchanges result) :
    Makes held (.start device) (if result.isOk then some device else none)
      (exchanges.map (Sent.mk device))
  | idle {request : Request} : Makes none request none []
  | operated {device : Device} {operation : Device.Operation} {exchanges : List Exchange}
    {result : Except Error Device.Outcome}
    (hpath : Script.Path device (Script.ofOperation operation) exchanges result) :
    Makes (some device) (.operate operation) (some device) (exchanges.map (Sent.mk device))
  | shutDown {device : Device} {floats : List (List Exchange × Except Error Unit)}
    (hfloats : List.Forall₂ (fun channel float ↦
      Script.Path device (Script.setFunction channel .highZ) float.1 float.2) channels floats) :
    Makes (some device) .shutDown none
      ((floats.flatMap Prod.fst).map (Sent.mk device))

inductive MakesAll : Option Device → List Request → Option Device → List Sent → Prop
  | nil {held : Option Device} : MakesAll held [] held []
  | cons {held next last : Option Device} {request : Request} {requests : List Request}
    {first rest : List Sent} (hfirst : Makes held request next first)
    (hrest : MakesAll next requests last rest) :
    MakesAll held (request :: requests) last (first ++ rest)

/-- The descriptor in use after a request was in use before it or was started by it. -/
theorem Makes.held_or_started {held next : Option Device} {request : Request} {sent : List Sent}
    (h : Makes held request next sent) {device : Device} (hnext : next = some device) :
    held = some device ∨ request = .start device := by
  cases h with
  | refused | idle | shutDown => cases hnext
  | started =>
    split at hnext
    · exact .inr (congrArg Request.start (Option.some.inj hnext))
    · cases hnext
  | operated => exact .inl hnext

theorem makes_of_broughtUp (held : Option Device) {device : Device} {calls : List Call}
    {result : Except Error Unit} (h : device.BroughtUp calls result) :
    ∃ sent, transfers calls = sent.map Sent.call ∧
      Makes held (.start device) (if result.isOk then some device else none) sent := by
  cases h with
  | chip hchip => exact ⟨[], rfl, .refused (.inl hchip)⟩
  | line hchip hline => exact ⟨[], rfl, .refused (.inr hline)⟩
  | script hchip hpath =>
    exact ⟨_, Device.transfers_broughtUp device _, .started hchip hpath⟩

theorem makes_of_started (held : Option Device) {device : Device} {calls : List Call}
    {result : Except Error Unit} (h : device.Started calls result) :
    ∃ sent, transfers calls = sent.map Sent.call ∧
      Makes held (.start device) (if result.isOk then some device else none) sent := by
  cases h with
  | ready hready => exact makes_of_broughtUp held hready
  | failed hfailed hreleased =>
    obtain ⟨sent, hsent, hmakes⟩ := makes_of_broughtUp held hfailed
    refine ⟨sent, ?_, hmakes⟩
    rw [transfers_append, hreleased.transfers_eq, List.append_nil, hsent]

theorem makes_of_shutDown {device : Device} {calls : List Call} {result : Except Error Unit}
    (h : device.ShutDown calls result) :
    ∃ sent, transfers calls = sent.map Sent.call ∧ Makes (some device) .shutDown none sent := by
  cases h with
  | intro hfloats hclosed =>
    exact ⟨_, hclosed.transfers_shutDown _ _, .shutDown hfloats⟩

variable {σ : Type} [Link σ]

/-! ## Requests and programs over any link -/

theorem emits_start_eq (held : Option Device) (device : Device) :
    Emits (σ := σ) (carryOut held (.start device)) fun calls after ↦
      ∃ result, device.Started calls result ∧
        after = (if result.isOk then some device else none, result.map fun _ ↦ .done) := by
  apply (Device.emits_start device).follow
  exact fun result session ↦ ⟨rfl, rfl⟩

theorem emits_operate_eq (device : Device) (operation : Device.Operation) :
    Emits (σ := σ) (carryOut (some device) (.operate operation)) fun calls after ↦
      ∃ exchanges result, calls = exchanges.map (Exchange.call device) ∧
        Script.Path device (Script.ofOperation operation) exchanges result ∧
        after = (some device, result) := by
  have hpath := Script.emits_run (σ := σ) device (Script.ofOperation operation)
  rw [Script.run_ofOperation] at hpath
  refine (hpath.follow (Q := fun result after ↦ after = (some device, result))
    fun _ _ ↦ ⟨rfl, rfl⟩).mono ?_
  rintro calls after ⟨result, ⟨exchanges, hcalls, hpath⟩, hafter⟩
  exact ⟨exchanges, result, hcalls, hpath, hafter⟩

theorem emits_shutDown_eq (device : Device) :
    Emits (σ := σ) (carryOut (some device) .shutDown) fun calls after ↦
      ∃ result, device.ShutDown calls result ∧ after = (none, result.map fun _ ↦ .done) := by
  apply (Device.emits_shutDown device).follow
  exact fun result session ↦ ⟨rfl, rfl⟩

/-- The transfers of a request over any link are those of the accesses it makes. -/
theorem emits_carryOut (held : Option Device) (request : Request) :
    Emits (σ := σ) (carryOut held request) fun calls after ↦
      ∃ sent, transfers calls = sent.map Sent.call ∧ Makes held request after.1 sent := by
  cases request with
  | start device =>
    refine (emits_start_eq held device).mono ?_
    rintro calls _ ⟨result, hstarted, rfl⟩
    exact makes_of_started held hstarted
  | operate operation =>
    cases held with
    | none => exact .silent fun session ↦ ⟨rfl, [], rfl, .idle⟩
    | some device =>
      refine (emits_operate_eq device operation).mono ?_
      rintro _ _ ⟨exchanges, result, rfl, hpath, rfl⟩
      exact ⟨_, transfers_exchanges device exchanges, .operated hpath⟩
  | shutDown =>
    cases held with
    | none => exact .silent fun session ↦ ⟨rfl, [], rfl, .idle⟩
    | some device =>
      refine (emits_shutDown_eq device).mono ?_
      rintro calls _ ⟨result, hshutDown, rfl⟩
      exact makes_of_shutDown hshutDown

/-- The trace of a program is that of its first request and that of the others behind it. -/
theorem emits_cons {held : Option Device} {request : Request} {requests : List Request}
    {P : List Call → Option Device × Except Error Device.Outcome → Prop}
    {Q : Option Device × Except Error Device.Outcome → List Call →
      Option Device × List (Except Error Device.Outcome) → Prop}
    (h : Emits (σ := σ) (request.carryOut held) P)
    (hrest : ∀ calls next, P calls next → Emits (σ := σ) (runAll next.1 requests) (Q next)) :
    Emits (σ := σ) (runAll held (request :: requests)) fun calls after ↦
      ∃ next first rest results, calls = first ++ rest ∧ P first next ∧
        after.2 = next.2 :: results ∧ Q next rest (after.1, results) := by
  intro session
  obtain ⟨first, hfirst, hP⟩ := h session
  obtain ⟨rest, hlast, hQ⟩ := hrest first _ hP (play (request.carryOut held) session).2
  refine ⟨first ++ rest, ?_, _, first, rest, _, rfl, hP, rfl, hQ⟩
  rw [← List.append_assoc, ← hfirst]
  exact hlast

/-- The transfers of a whole program over any link are those of the accesses it makes. -/
theorem emits_runAll (requests : List Request) (held : Option Device) :
    Emits (σ := σ) (runAll held requests) fun calls after ↦
      ∃ sent, transfers calls = sent.map Sent.call ∧ MakesAll held requests after.1 sent := by
  induction requests generalizing held with
  | nil => exact .silent fun session ↦ ⟨rfl, [], rfl, .nil⟩
  | cons request requests ih =>
    refine (emits_cons (emits_carryOut held request) fun _ next _ ↦ ih next.1).mono ?_
    rintro _ ⟨last, _⟩ ⟨next, first, rest, results, rfl, ⟨sent, hsent, hmakes⟩, rfl,
      others, hothers, hall⟩
    refine ⟨sent ++ others, ?_, .cons hmakes hall⟩
    calc
      transfers (first ++ rest)
      _ = sent.map Sent.call ++ others.map Sent.call := by rw [transfers_append, hsent, hothers]
      _ = (sent ++ others).map Sent.call := List.map_append.symm

end Request

end QuadPort
