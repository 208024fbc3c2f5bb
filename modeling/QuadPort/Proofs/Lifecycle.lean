import QuadPort.Device.Lifecycle
import QuadPort.Proofs.Script.Operation

/-!
# The calls of a descriptor's life

Bringing a chip up drives the line, then runs one script; when a step fails, the line and
after it the bus are given back. Shutting down runs one script for each channel whatever
the others came to, gives the bus back, floats the line and gives it back. `emits_start`
and `emits_shutDown` say so for arbitrary links, with the result as a function of what the
single calls came to.
-/

namespace QuadPort

open Conversation Register Channel

namespace Script

def reportCleared (faults : LatchedFaults) : Script Unit :=
  if !faults.isClear then report .debug .device s!"Cleared power-up faults: {faults.label}"
  else return ()

def prepareChannel (channel : UInt8) : Script Unit := do
  setFunction channel .highZ
  setLimit channel .lowest

/-- Clears the faults latched at power-up and floats every channel at the lowest limit. -/
def prepare : Script Unit := do
  reportCleared (← readFaults)
  channels.forM prepareChannel

end Script

namespace Device

variable (device : Device)

/-! ## Bring-up -/

/-- The calls that come before the first transfer. -/
def opening : List Call :=
  if device.hasLine then [.setLine .high (.ok ())] else []

inductive BroughtUp : List Call → Except Error Unit → Prop
  | chip (h : maxChip < device.chip) :
    BroughtUp [] (.error (.invalidArgument (.chip device.chip)))
  | line {fault : Fault} (hchip : device.chip ≤ maxChip) (hline : device.hasLine) :
    BroughtUp [.setLine .high (.error fault)] (.error (.transport fault))
  | script {exchanges : List Exchange} {result : Except Error Unit}
    (hchip : device.chip ≤ maxChip) (hpath : Script.Path device Script.prepare exchanges result) :
    BroughtUp (device.opening ++ exchanges.map (Exchange.call device)) result

/-- The calls that give the handles back after a failed bring-up. -/
def Released (calls : List Call) : Prop :=
  ∃ line bus, calls = (if device.hasLine then [.releaseLine line] else []) ++ [.releaseBus bus]

/-- The calls and the result of a start: nothing is given back but after a failure. -/
inductive Started : List Call → Except Error Unit → Prop
  | ready {calls : List Call} (h : BroughtUp device calls (.ok ())) : Started calls (.ok ())
  | failed {calls released : List Call} {error : Error}
    (h : BroughtUp device calls (.error error)) (hreleased : device.Released released) :
    Started (calls ++ released) (.error error)

/-! ## Shutting down -/

def failure? : Except Error Unit → Option Error
  | .ok () => none
  | .error error => some error

def firstFailure (results : List (Except Error Unit)) : Except Error Unit :=
  match results.findSome? failure? with
  | some error => .error error
  | none => .ok ()

/-- The calls on the line at the end of a shutdown, and what each of them came to. -/
def Closed (calls : List Call) (results : List (Except Error Unit)) : Prop :=
  if device.hasLine then
    ∃ level line, calls = [.setLine .highZ level, .releaseLine line] ∧
      results = [level.mapError .transport, line.mapError .transport]
  else calls = [] ∧ results = []

/-- The calls and the result of a shutdown: a path for each channel, then the releases. -/
inductive ShutDown : List Call → Except Error Unit → Prop
  | intro {floats : List (List Exchange × Except Error Unit)} {bus : Except Fault Unit}
    {closing : List Call} {closed : List (Except Error Unit)}
    (hfloats : List.Forall₂ (fun channel float ↦
      Script.Path device (Script.setFunction channel .highZ) float.1 float.2) channels floats)
    (hclosed : device.Closed closing closed) :
    ShutDown (floats.flatMap (fun float ↦ float.1.map (Exchange.call device)) ++
        .releaseBus bus :: closing)
      (firstFailure (floats.map Prod.snd ++ bus.mapError .transport :: closed))

variable {σ : Type} [Link σ]

theorem run_prepare :
    (Script.prepare.run device : Conversation σ Unit) = (do
      let faults ← device.readFaults
      if !faults.isClear then
        report .debug .device s!"Cleared power-up faults: {faults.label}"
      channels.forM fun channel ↦ do
        device.setFunction channel .highZ
        device.setLimit channel .lowest) := by
  simp only [Script.prepare, Script.run_bind, Script.run_readFaults]
  congr 1
  funext faults
  unfold Script.reportCleared
  cases faults.isClear <;> simp [channels, Script.prepareChannel]

omit [Link σ] in
theorem opening_eq_nil (h : device.hasLine = false) : device.opening = [] := by
  simp [opening, h]

theorem opening_eq_setLine (h : device.hasLine = true) :
    device.opening = [.setLine .high (.ok ())] := by
  simp [opening, h]

/-- A bring-up is the check of the chip address, the line and one script. -/
theorem bringUp_eq : (device.bringUp : Conversation σ Unit) =
    if maxChip < device.chip then throw (.invalidArgument (.chip device.chip))
    else if device.hasLine then do
      relay (setLine .high)
      Script.prepare.run device
    else Script.prepare.run device := by
  unfold bringUp
  rw [run_prepare]
  split
  · rfl
  · split <;> rfl

theorem emits_bringUp : Emits (σ := σ) device.bringUp.run device.BroughtUp := by
  rw [bringUp_eq]
  split
  · rename_i hchip
    exact .silent fun session ↦ ⟨rfl, .chip hchip⟩
  · rename_i hchip
    have hle := UInt8.not_lt.mp hchip
    have hprepare := Script.emits_run (σ := σ) device Script.prepare
    split
    · rename_i hline
      refine (Emits.bind_run (Emits.relay (Emits.setLine .high)) fun _ ↦ hprepare).mono ?_
      rintro _ _ (⟨error, rfl, level, hlevel, rfl⟩ |
        ⟨_, _, _, rfl, ⟨level, hlevel, rfl⟩, exchanges, rfl, hpath⟩)
      · obtain ⟨fault, rfl, rfl⟩ := eq_error_of_mapError hlevel
        exact .line hle hline
      · rw [eq_ok_of_mapError hlevel, ← opening_eq_setLine device hline]
        exact .script hle hpath
    · rename_i hline
      refine hprepare.mono ?_
      rintro _ result ⟨exchanges, rfl, hpath⟩
      have hbroughtUp : device.BroughtUp _ result := .script hle hpath
      rwa [opening_eq_nil device (Bool.eq_false_iff.mpr hline)] at hbroughtUp

def releaseLogged (complaint : String) (release : StateM (Session σ) (Except Fault Unit)) :
    StateM (Session σ) Unit := do
  match ← release with
  | .ok () => pure ()
  | .error fault => note .warn .device s!"{complaint}: {fault.message}"

omit [Link σ] in
theorem emits_releaseLogged {release : StateM (Session σ) (Except Fault Unit)}
    {P : List Call → Except Fault Unit → Prop} (h : Emits release P) (complaint : String) :
    Emits (releaseLogged complaint release) fun calls _ ↦ ∃ result, P calls result := by
  refine (h.follow (Q := fun _ _ ↦ True) fun result session ↦ ?_).mono ?_
  · cases result <;> exact ⟨rfl, trivial⟩
  · exact fun _ _ ⟨result, hresult, _⟩ ↦ ⟨result, hresult⟩

theorem releaseHandles_eq : (device.releaseHandles : StateM (Session σ) Unit) =
    if device.hasLine then do
      releaseLogged "Failed to release enable line" releaseLine
      releaseLogged "Failed to release SPI bus" releaseBus
    else releaseLogged "Failed to release SPI bus" releaseBus := by
  cases h : device.hasLine with
  | false =>
    simp only [releaseHandles, h, releaseLogged]
    refine bind_congr fun bus ↦ ?_
    cases bus <;> rfl
  | true =>
    simp only [releaseHandles, h, releaseLogged, bind_assoc]
    refine bind_congr fun line ↦ ?_
    cases line with
    | ok =>
      simp only [pure_bind]
      refine bind_congr fun bus ↦ ?_
      cases bus <;> rfl
    | error fault =>
      refine bind_congr fun _ ↦ bind_congr fun bus ↦ ?_
      cases bus <;> rfl

theorem emits_releaseHandles :
    Emits (σ := σ) device.releaseHandles fun calls _ ↦ device.Released calls := by
  have hbus := emits_releaseLogged (Emits.releaseBus (σ := σ)) "Failed to release SPI bus"
  have hline := emits_releaseLogged (Emits.releaseLine (σ := σ)) "Failed to release enable line"
  rw [releaseHandles_eq]
  unfold Released
  split
  · refine (hline.bind fun _ ↦ hbus).mono ?_
    rintro _ _ ⟨_, _, _, rfl, ⟨line, rfl⟩, bus, rfl⟩
    exact ⟨line, bus, rfl⟩
  · refine hbus.mono ?_
    rintro _ _ ⟨bus, rfl⟩
    exact ⟨.ok (), bus, rfl⟩

/-- A start comes to what its bring-up comes to; after a success nothing else happens on
the link, after a failure the handles are given back. -/
theorem enact_start (session : Session σ) :
    match enact device.bringUp { session with scratch := .zero } with
    | (.ok (), after) => ∃ log, enact device.start session = (.ok (), { after with log })
    | (.error error, after) => ∃ log, enact device.start session =
        (.error error, (play device.releaseHandles { after with log }).2) := by
  unfold start
  rw [enact_bind, enact_modify]
  simp only [enact_tryCatch, enact_bind]
  cases enact device.bringUp { session with scratch := .zero } with
  | mk result after => cases result <;> exact ⟨_, rfl⟩

theorem emits_start : Emits (σ := σ) device.start.run device.Started := by
  intro session
  obtain ⟨calls, hcalls, hbroughtUp⟩ := emits_bringUp device { session with scratch := .zero }
  have hstart := enact_start device session
  rw [play_run] at hcalls hbroughtUp ⊢
  cases hbringUp : enact device.bringUp { session with scratch := .zero } with
  | mk result after =>
    rw [hbringUp] at hcalls hbroughtUp hstart
    cases result with
    | ok =>
      obtain ⟨log, hstart⟩ := hstart
      rw [hstart]
      exact ⟨calls, hcalls, .ready hbroughtUp⟩
    | error error =>
      obtain ⟨log, hstart⟩ := hstart
      obtain ⟨released, hreleased, hstate⟩ := emits_releaseHandles device { after with log }
      rw [hstart]
      refine ⟨calls ++ released, ?_, .failed hbroughtUp hstate⟩
      rw [← List.append_assoc, ← hcalls]
      exact hreleased

omit [Link σ] in
theorem emits_attempt {step : Conversation σ Unit} {P : List Call → Except Error Unit → Prop}
    (h : Emits step.run P) (complaint : String) :
    Emits (attempt complaint step) fun calls failure ↦
      ∃ result, P calls result ∧ failure = failure? result := by
  refine h.follow fun result session ↦ ?_
  cases result <;> exact ⟨rfl, rfl⟩

omit [Link σ] in
theorem emits_attemptCall {call : StateM (Session σ) (Except Fault Unit)}
    {P : List Call → Except Fault Unit → Prop} (h : Emits call P) (complaint : String) :
    Emits (attemptCall complaint call) fun calls failure ↦
      ∃ result, P calls result ∧ failure = failure? (result.mapError .transport) := by
  refine h.follow fun result session ↦ ?_
  cases result <;> exact ⟨rfl, rfl⟩

def closing : List (StateM (Session σ) (Option Error)) :=
  if device.hasLine then
    [attemptCall "Failed to float enable line" (setLine .highZ),
      attemptCall "Failed to release enable line" releaseLine]
  else []

theorem mapM_teardown : ((device.teardown (σ := σ)).mapM id) = (do
    let floats ← channels.mapM fun channel ↦
      attempt s!"Failed to put channel {channel} in high-Z" (device.setFunction channel .highZ)
    let bus ← attemptCall "Failed to release SPI bus" releaseBus
    let closing ← device.closing.mapM id
    return floats ++ bus :: closing) := by
  simp only [teardown, closing, List.mapM_append, List.mapM_cons, bind_assoc, pure_bind,
    List.mapM_map, Function.comp_def, id, List.append_assoc, List.cons_append, List.nil_append]

theorem emits_closing : Emits (device.closing (σ := σ) |>.mapM id) fun calls failures ↦
    ∃ results, device.Closed calls results ∧ failures = results.map failure? := by
  unfold closing Closed
  split
  · simp only [List.mapM_cons, List.mapM_nil, pure_bind, id, bind_assoc]
    refine ((emits_attemptCall (Emits.setLine .highZ) "Failed to float enable line").bind
      fun first ↦ (emits_attemptCall Emits.releaseLine "Failed to release enable line").follow
        (Q := fun second failures ↦ failures = [first, second])
        fun second session ↦ ⟨rfl, rfl⟩).mono ?_
    rintro _ _ ⟨_, _, _, rfl, ⟨level, rfl, rfl⟩, _, ⟨line, rfl, rfl⟩, rfl⟩
    exact ⟨_, ⟨level, line, rfl, rfl⟩, rfl⟩
  · rw [List.mapM_nil]
    exact .silent fun session ↦ ⟨rfl, [], ⟨rfl, rfl⟩, rfl⟩

/-- Every channel is floated, whatever became of the others. -/
theorem emits_floats : Emits (σ := σ)
    (channels.mapM fun channel ↦
      attempt s!"Failed to put channel {channel} in high-Z" (device.setFunction channel .highZ))
    fun calls failures ↦ ∃ floats : List (List Exchange × Except Error Unit),
      calls = floats.flatMap (fun float ↦ float.1.map (Exchange.call device)) ∧
      failures = floats.map (fun float ↦ failure? float.2) ∧
      List.Forall₂ (fun channel float ↦ Script.Path device (Script.setFunction channel .highZ)
        float.1 float.2) channels floats := by
  refine Emits.mapM (fun float : List Exchange × Except Error Unit ↦
      float.1.map (Exchange.call device))
    (fun float ↦ failure? float.2) (fun channel ↦ ?_) channels
  have hpath := Script.emits_run (σ := σ) device (Script.setFunction channel .highZ)
  rw [Script.run_setFunction] at hpath
  refine (emits_attempt hpath _).mono ?_
  rintro _ _ ⟨result, ⟨exchanges, rfl, hpath⟩, rfl⟩
  exact ⟨(exchanges, result), rfl, rfl, hpath⟩

theorem emits_teardown : Emits ((device.teardown (σ := σ)).mapM id) fun calls failures ↦
    ∃ results, device.ShutDown calls (firstFailure results) ∧
      failures = results.map failure? := by
  have hbus := emits_attemptCall (Emits.releaseBus (σ := σ)) "Failed to release SPI bus"
  rw [mapM_teardown]
  refine ((emits_floats device).bind fun floats ↦ hbus.bind fun bus ↦
    (emits_closing device).follow (Q := fun closing failures ↦
      failures = floats ++ bus :: closing) fun closing session ↦ ⟨rfl, rfl⟩).mono ?_
  rintro _ _ ⟨_, _, _, rfl, ⟨floats, rfl, rfl, hpaths⟩, _, _, _, rfl, ⟨bus, rfl, rfl⟩,
    _, ⟨closed, hclosed, rfl⟩, rfl⟩
  refine ⟨floats.map Prod.snd ++ bus.mapError .transport :: closed, .intro hpaths hclosed, ?_⟩
  simp

theorem emits_shutDown : Emits (σ := σ) device.shutDown.run device.ShutDown := by
  intro session
  obtain ⟨calls, hcalls, results, hshutDown, hfailures⟩ := emits_teardown (σ := σ) device session
  rw [play_run]
  unfold shutDown
  rw [enact_bind, enact_lift]
  generalize play (List.mapM id device.teardown) session = after at *
  simp only [hfailures, List.findSome?_map, Function.id_comp]
  unfold firstFailure at hshutDown
  refine ⟨calls, ?_⟩
  cases hfirst : results.findSome? failure? with
  | some error =>
    rw [hfirst] at hshutDown
    exact ⟨hcalls, hshutDown⟩
  | none =>
    rw [hfirst] at hshutDown
    exact ⟨hcalls, hshutDown⟩

end Device

end QuadPort
