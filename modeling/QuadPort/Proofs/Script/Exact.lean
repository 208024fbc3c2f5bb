import QuadPort.Proofs.Lifecycle

/-!
# Byte arithmetic never overflows

A mask that is formed for a channel that is not there overflows, and so does a shift by the
position of the lowest bit of an empty mask. The operations check their channel first. That this
is enough is a fact about scripts: a script is exact if no overflow stands anywhere in its tree,
and what comes of an exact script over any link is not an overflow, whatever the replies.
-/

namespace QuadPort

open Conversation Register Channel

def NoOverflow {α : Type} (result : Except Error α) : Prop :=
  ∀ overflow, result ≠ .error (.arithmetic overflow)

variable {α β : Type}

namespace NoOverflow

theorem ok (value : α) : NoOverflow (.ok value) :=
  nofun

/-- It is the error that matters, not the type of the result. -/
theorem of_error {error : Error} (h : NoOverflow (.error error : Except Error α)) :
    NoOverflow (.error error : Except Error β) :=
  fun overflow heq ↦ h overflow (congrArg Except.error (Except.error.inj heq))

theorem map {result : Except Error α} (h : NoOverflow result) (function : α → β) :
    NoOverflow (result.map function) := by
  cases result with
  | ok value => exact ok (function value)
  | error error => exact h.of_error

/-- What a call on the link comes to. -/
theorem mapError_transport (result : Except Fault α) :
    NoOverflow (result.mapError .transport) := by
  cases result <;> nofun

end NoOverflow

/-! ## Accesses -/

theorem Frame.decode_noOverflow (frame : List UInt8) (checked : Bool) :
    NoOverflow (decode frame checked) := by
  unfold decode
  split
  · simp only
    split <;> nofun
  · nofun
  · nofun

theorem Access.verdict_noOverflow (device : Device) (access : Access) (reply : Reply) :
    NoOverflow (access.verdict device reply) := by
  unfold verdict
  split
  · nofun
  · exact Frame.decode_noOverflow _ _
  · nofun

/-! ## Scripts -/

namespace Script

variable {device : Device} {channel : UInt8}

/-- No overflow stands in the tree of accesses. -/
def Exact : Script α → Prop
  | .done _ => True
  | .fail error => NoOverflow (.error error : Except Error α)
  | .ask _ next => ∀ value, (next value).Exact
  | .note _ next => next.Exact

/-- Whatever the replies, an exact script does not come to an overflow. An access ends a script for
its address or by its verdict, and neither is one; what is left is the tree itself. -/
theorem Path.noOverflow {script : Script α} {exchanges : List Exchange} {result : Except Error α}
    (h : Path device script exchanges result) (hexact : script.Exact) : NoOverflow result := by
  induction h with
  | done value => exact .ok value
  | fail => exact hexact
  | refused => nofun
  | @rejected access _ reply _ _ hverdict =>
    have hnone := access.verdict_noOverflow device reply
    rw [hverdict] at hnone
    exact hnone.of_error
  | accepted _ _ _ ih => exact ih (hexact _)
  | note _ ih => exact ih hexact

namespace Exact

theorem pure (value : α) : Exact (Pure.pure value) :=
  trivial

theorem bind {script : Script α} {next : α → Script β} (h : script.Exact)
    (hnext : ∀ value, (next value).Exact) : (script >>= next).Exact := by
  change (script.bind next).Exact
  induction script with
  | done value => exact hnext value
  | fail error => exact h.of_error
  | ask access rest ih => exact fun value ↦ ih value (h value)
  | note record rest ih => exact ih h

/-- A channel that is not there is refused before anything else. -/
theorem onChannel {script : Script α} (h : script.Exact) :
    (Script.onChannel channel script).Exact := by
  unfold Script.onChannel
  split
  · exact h
  · exact nofun

theorem forM {ι : Type} {step : ι → Script PUnit} (h : ∀ item, (step item).Exact)
    (items : List ι) : (items.forM step).Exact := by
  induction items with
  | nil => exact pure _
  | cons item items ih => exact (h item).bind fun _ ↦ ih

theorem readRegister (address : UInt8) : (readRegister address).Exact :=
  fun _ ↦ trivial

theorem writeRegister (address value : UInt8) : (writeRegister address value).Exact :=
  fun _ ↦ trivial

theorem updateRegister (address mask value : UInt8) :
    (updateRegister address mask value).Exact :=
  fun _ ↦ writeRegister _ _

theorem report (level : Log.Level) (target : Log.Target) (message : String) :
    (report level target message).Exact :=
  trivial

theorem readFaults : readFaults.Exact :=
  (readRegister _).bind fun _ ↦ (readRegister _).bind fun _ ↦ (readRegister _).bind fun _ ↦
    (readRegister _).bind fun _ ↦ pure _

theorem level (channel : UInt8) : (level channel).Exact :=
  onChannel ((readRegister _).bind fun _ ↦ pure _)

theorem setLevel (channel : UInt8) (high : Bool) : (setLevel channel high).Exact :=
  onChannel (updateRegister _ _ _)

theorem setMode (channel : UInt8) (function : Function) : (setMode channel function).Exact := by
  unfold Script.setMode
  split
  · exact updateRegister _ _ _
  · exact pure _

theorem setFunction (channel : UInt8) (function : Function) :
    (setFunction channel function).Exact :=
  onChannel ((setMode channel function).bind fun _ ↦
    (updateRegister _ _ _).bind fun _ ↦ report _ _ _)

theorem function (channel : UInt8) : (function channel).Exact := by
  refine onChannel ((readRegister _).bind fun setOut ↦ ?_)
  split
  · exact (readRegister _).bind fun _ ↦ pure _
  · exact pure _

theorem limit (channel : UInt8) : (limit channel).Exact :=
  onChannel ((readRegister _).bind fun _ ↦ pure _)

theorem setLimit (channel : UInt8) (limit : CurrentLimit) : (setLimit channel limit).Exact :=
  onChannel (updateRegister _ _ _)

theorem setUpChannel (channel : UInt8) (function : Function) (limit : CurrentLimit) :
    (setUpChannel channel function limit).Exact :=
  (setLimit _ _).bind fun _ ↦ (setFunction _ _).bind fun _ ↦ report _ _ _

theorem setUp (setup : ChannelSetup) : (setUp setup).Exact :=
  (setUpChannel _ _ _).bind fun _ ↦ (setUpChannel _ _ _).bind fun _ ↦
    (setUpChannel _ _ _).bind fun _ ↦ setUpChannel _ _ _

theorem snapshot : snapshot.Exact :=
  (level 0).bind fun _ ↦ (level 1).bind fun _ ↦ (level 2).bind fun _ ↦ (level 3).bind fun _ ↦
    readFaults.bind fun _ ↦ pure _

theorem prepare : prepare.Exact := by
  refine readFaults.bind fun faults ↦ Exact.bind ?_ fun _ ↦ forM (fun channel ↦ ?_) _
  · unfold reportCleared
    split
    · exact report _ _ _
    · exact pure _
  · exact (setFunction channel .highZ).bind fun _ ↦ setLimit channel .lowest

/-- The operations check their channel before they form a mask for it. -/
theorem ofOperation (operation : Device.Operation) : (ofOperation operation).Exact := by
  cases operation with
  | writeRegister address value => exact (writeRegister address value).bind fun _ ↦ pure _
  | readRegister address => exact (readRegister address).bind fun _ ↦ pure _
  | updateRegister address mask value =>
    exact (updateRegister address mask value).bind fun _ ↦ pure _
  | readFaults => exact readFaults.bind fun _ ↦ pure _
  | level channel => exact (level channel).bind fun _ ↦ pure _
  | setLevel channel high => exact (setLevel channel high).bind fun _ ↦ pure _
  | function channel => exact (function channel).bind fun _ ↦ pure _
  | setFunction channel wanted => exact (setFunction channel wanted).bind fun _ ↦ pure _
  | limit channel => exact (limit channel).bind fun _ ↦ pure _
  | setLimit channel wanted => exact (setLimit channel wanted).bind fun _ ↦ pure _
  | setUp setup => exact (setUp setup).bind fun _ ↦ pure _
  | snapshot => exact snapshot.bind fun _ ↦ pure _

variable {σ : Type} [Link σ]

/-- Over any link, an exact script does not come to an overflow. -/
theorem noOverflow {script : Script α} (h : script.Exact) (device : Device)
    (session : Session σ) : NoOverflow (enact (script.run device) session).1 := by
  obtain ⟨_, -, _, -, hpath⟩ := emits_run device script session
  exact hpath.noOverflow h

end Exact

end Script

/-! ## The life of a descriptor -/

namespace Device

variable {device : Device} {calls : List Call}

theorem BroughtUp.noOverflow {result : Except Error Unit} (h : device.BroughtUp calls result) :
    NoOverflow result := by
  cases h with
  | chip => nofun
  | line => nofun
  | script _ hpath => exact hpath.noOverflow .prepare

theorem Started.noOverflow {result : Except Error Unit} (h : device.Started calls result) :
    NoOverflow result := by
  cases h with
  | ready h => exact h.noOverflow
  | failed h => exact h.noOverflow

theorem firstFailure_noOverflow {results : List (Except Error Unit)}
    (h : ∀ result ∈ results, NoOverflow result) : NoOverflow (firstFailure results) := by
  unfold firstFailure
  cases hfirst : results.findSome? failure? with
  | none => exact .ok ()
  | some error =>
    obtain ⟨result, hmem, hfailure⟩ := List.exists_of_findSome?_eq_some hfirst
    cases result with
    | ok => cases hfailure
    | error error =>
      cases hfailure
      exact h _ hmem

theorem Closed.noOverflow {results : List (Except Error Unit)} (h : device.Closed calls results) :
    ∀ result ∈ results, NoOverflow result := by
  unfold Closed at h
  split at h
  · obtain ⟨level, line, -, rfl⟩ := h
    simp [NoOverflow.mapError_transport]
  · simp [h.2]

theorem ShutDown.noOverflow {result : Except Error Unit} (h : device.ShutDown calls result) :
    NoOverflow result := by
  cases h with
  | @intro floats bus _ closed hfloats hclosed =>
    have hscripts : ∀ float ∈ floats, NoOverflow float.2 :=
      ((List.forall₂_and_left _ _).mp (hfloats.flip.imp fun float channel hpath ↦
        ⟨Script.Path.noOverflow hpath (.setFunction channel .highZ), trivial⟩)).1
    apply firstFailure_noOverflow
    simp only [List.mem_append, List.mem_map, List.mem_cons]
    rintro result (⟨float, hmem, rfl⟩ | rfl | hmem)
    · exact hscripts float hmem
    · exact .mapError_transport bus
    · exact hclosed.noOverflow result hmem

variable {σ : Type} [Link σ]

omit [Link σ] in
theorem attempt_noOverflow {step : Conversation σ Unit}
    (h : ∀ session, NoOverflow (enact step session).1) (complaint : String)
    (session : Session σ) (overflow : Overflow) :
    (play (attempt complaint step) session).1 ≠ some (.arithmetic overflow) := by
  have hstep := h session
  rw [attempt, play_bind, play_run]
  generalize (enact step session).1 = result at hstep ⊢
  cases result with
  | ok => nofun
  | error error => exact fun heq ↦ hstep overflow (congrArg Except.error (Option.some.inj heq))

omit [Link σ] in
theorem attemptCall_noOverflow (complaint : String)
    (call : StateM (Session σ) (Except Fault Unit)) (session : Session σ) (overflow : Overflow) :
    (play (attemptCall complaint call) session).1 ≠ some (.arithmetic overflow) := by
  rw [attemptCall, play_bind]
  cases (play call session).1 <;> nofun

/-- No step of a shutdown overflows, a step whose failure is not the one that is reported
included. -/
theorem teardown_noOverflow (device : Device) :
    ∀ step ∈ device.teardown (σ := σ), ∀ session overflow,
      (play step session).1 ≠ some (.arithmetic overflow) := by
  have hfloat (channel : UInt8) (session : Session σ) :
      NoOverflow (enact (device.setFunction channel .highZ) session).1 := by
    rw [← Script.run_setFunction]
    exact Script.Exact.noOverflow (.setFunction channel .highZ) device session
  intro step hstep session overflow
  rw [teardown, List.mem_append, List.mem_append, List.mem_map, List.mem_singleton] at hstep
  obtain (⟨channel, -, rfl⟩ | rfl) | hline := hstep
  · exact attempt_noOverflow (hfloat channel) _ session overflow
  · exact attemptCall_noOverflow _ _ session overflow
  · split at hline
    · obtain rfl | rfl := List.mem_pair.mp hline
      · exact attemptCall_noOverflow _ _ session overflow
      · exact attemptCall_noOverflow _ _ session overflow
    · cases hline

/-- Over any link, an operation on a descriptor does not come to an overflow. -/
theorem perform_noOverflow (device : Device) (operation : Operation) (session : Session σ) :
    NoOverflow (enact (device.perform operation) session).1 := by
  rw [← Script.run_ofOperation]
  exact Script.Exact.noOverflow (.ofOperation operation) device session

end Device

end QuadPort
