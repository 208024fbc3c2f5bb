import QuadPort.Proofs.Program
import QuadPort.Proofs.Script.Task
import QuadPort.Proofs.Trace.Played

/-!
# The turns of a program

A program falls into turns: a bring-up is one turn, so is an operation, and a shutdown has
one for each channel. The turns of bring-ups, of updates, of changes of a channel and of
shutdowns are lines of tasks. Over any link and in any program, a turn of this kind writes
only what it has just read, changed in the bits that it was asked to change, and a read that
fails is its end.
-/

namespace QuadPort

open Conversation Register Channel

/-- One turn of a program: its tasks if it is a line of tasks, the exchanges that it made
and what it came to. -/
structure Turn where
  device : Device
  tasks? : Option (List Task)
  exchanges : List Exchange
  result : Except Error Unit

namespace Turn

def sent (turn : Turn) : List Sent :=
  turn.exchanges.map (Sent.mk turn.device)

/-- A turn that has tasks makes their exchanges and comes to their result. -/
def Faithful (turn : Turn) : Prop :=
  ∀ tasks ∈ turn.tasks?, Carried turn.device tasks turn.exchanges turn.result

theorem Faithful.of_carried {device : Device} {tasks : List Task} {exchanges : List Exchange}
    {result : Except Error Unit} (h : Carried device tasks exchanges result) :
    Faithful ⟨device, some tasks, exchanges, result⟩ := by
  intro others hothers
  cases hothers
  exact h

/-- A turn that writes only what it has just read, with the bits of an update replaced, and
that ends with the first read that fails. -/
structure Confined (turn : Turn) (tasks : List Task) : Prop where
  carried : Carried turn.device tasks turn.exchanges turn.result
  preceded : ∀ front back address value reply,
    turn.exchanges = front ++ ⟨.write address value, reply⟩ :: back →
      ∃ earlier answer current change,
        front = earlier ++ [⟨.read address, answer⟩] ∧ answer.result = .ok () ∧
          Frame.decode answer.buffer turn.device.checked = .ok current ∧
          .update change ∈ tasks ∧ change.address = address ∧
          ∀ place < 8, bit value place =
            if bit change.mask place then bit change.value place else bit current place
  stopped : ∀ front back address reply error,
    turn.exchanges = front ++ ⟨.read address, reply⟩ :: back →
      (Access.read address).verdict turn.device reply = .error error →
        back = [] ∧ turn.result = .error error

theorem Faithful.confined {turn : Turn} (h : turn.Faithful) {tasks : List Task}
    (htasks : tasks ∈ turn.tasks?) : turn.Confined tasks where
  carried := h tasks htasks
  preceded := by
    intro front back address value reply hsplit
    obtain ⟨earlier, answer, current, change, hfront, hverdict, hmem, haddress, hvalue⟩ :=
      (h tasks htasks).write_preceded hsplit
    obtain ⟨hresult, hdecode⟩ := Access.verdict_read_eq_ok.mp hverdict
    refine ⟨earlier, answer, current, change, hfront, hresult, hdecode, hmem, haddress, ?_⟩
    intro place _
    rw [hvalue, change.bit_apply]
  stopped := fun _ _ _ _ _ hsplit hverdict ↦ (h tasks htasks).read_failed hsplit hverdict

end Turn

namespace Device.Operation

/-- The tasks of the operations that change bits of registers. -/
def tasks? : Operation → Option (List Task)
  | .updateRegister address mask value => some [.update ⟨address, mask, value⟩]
  | .setLevel channel high => some [.update (.latch channel high)]
  | .setFunction channel wanted => some ((Update.function channel wanted).map .update)
  | .setLimit channel wanted => some [.update (.limit channel wanted)]
  | _ => none

def channel? : Operation → Option UInt8
  | .level channel => some channel
  | .setLevel channel _ => some channel
  | .function channel => some channel
  | .setFunction channel _ => some channel
  | .limit channel => some channel
  | .setLimit channel _ => some channel
  | _ => none

end Device.Operation

namespace Request

/-- The turns of a request, what it comes to and the descriptor that is in use after it. A
shutdown takes every channel in turn, whatever became of the others, and its first failure is
the first one of these if there is any. -/
inductive Turns : Option Device → Request → Option Device → Except Error Device.Outcome →
    List Turn → Prop
  | unstarted {held : Option Device} {device : Device} {error : Error}
    (h : maxChip < device.chip ∨ device.hasLine) :
    Turns held (.start device) none (.error error) []
  | started {held : Option Device} {device : Device} {exchanges : List Exchange}
    {result : Except Error Unit} (hchip : device.chip ≤ maxChip) :
    Turns held (.start device) (if result.isOk then some device else none)
      (result.map fun _ ↦ .done) [⟨device, some Task.prepare, exchanges, result⟩]
  | idle {request : Request} (h : ∀ device, request ≠ .start device) :
    Turns none request none (.error .noDevice) []
  | refused {device : Device} {operation : Device.Operation} {channel : UInt8}
    (h : operation.channel? = some channel) (hchannel : channelCount ≤ channel) :
    Turns (some device) (.operate operation) (some device)
      (.error (.invalidArgument (.channel channel))) []
  | operated {device : Device} {operation : Device.Operation} {exchanges : List Exchange}
    {result : Except Error Device.Outcome}
    (h : ∀ channel ∈ operation.channel?, channel < channelCount) :
    Turns (some device) (.operate operation) (some device) result
      [⟨device, operation.tasks?, exchanges, result.map fun _ ↦ ()⟩]
  | shutDown {device : Device} {turns : List Turn} {others : List (Except Error Unit)}
    (hturns : List.Forall₂ (fun channel turn ↦ turn.device = device ∧
      turn.tasks? = some ((Update.function channel .highZ).map .update)) channels turns) :
    Turns (some device) .shutDown none
      ((Device.firstFailure (turns.map Turn.result ++ others)).map fun _ ↦ .done) turns

inductive TurnsAll : Option Device → List Request → Option Device →
    List (Except Error Device.Outcome) → List Turn → Prop
  | nil {held : Option Device} : TurnsAll held [] held [] []
  | cons {held next last : Option Device} {request : Request} {requests : List Request}
    {result : Except Error Device.Outcome} {results : List (Except Error Device.Outcome)}
    {turns rest : List Turn} (hfirst : Turns held request next result turns)
    (hrest : TurnsAll next requests last results rest) :
    TurnsAll held (request :: requests) last (result :: results) (turns ++ rest)

end Request

/-! ## Operations -/

namespace Script

variable {device : Device} {operation : Device.Operation}

/-- An operation that changes bits of registers is the line of its tasks. -/
theorem Follows.ofOperation {tasks : List Task}
    (hchannel : ∀ channel ∈ operation.channel?, channel < channelCount)
    (htasks : tasks ∈ operation.tasks?) : Follows (ofOperation operation) tasks := by
  cases operation with
  | updateRegister address mask value =>
    cases htasks
    exact (updateRegister ⟨address, mask, value⟩).bind fun _ ↦ pure _
  | setLevel channel high =>
    cases htasks
    exact (setLevel (hchannel channel rfl) high).bind fun _ ↦ pure _
  | setFunction channel wanted =>
    cases htasks
    rw [← List.append_nil (List.map _ _)]
    exact (setFunction (hchannel channel rfl) wanted).bind fun _ ↦ pure _
  | setLimit channel wanted =>
    cases htasks
    exact (setLimit (hchannel channel rfl) wanted).bind fun _ ↦ pure _
  | _ => cases htasks

/-- An operation on a channel that is not there makes no access. -/
theorem ofOperation_refused {channel : UInt8} (h : operation.channel? = some channel)
    (hchannel : channelCount ≤ channel) :
    ofOperation operation = .fail (.invalidArgument (.channel channel)) := by
  have hnot : ¬ channel < channelCount := UInt8.not_lt.mpr hchannel
  have hrefused {α : Type} (script : Script α) :
      onChannel channel script = .fail (.invalidArgument (.channel channel)) := if_neg hnot
  cases operation <;> cases h
  case level => rw [Script.ofOperation, level, hrefused]; rfl
  case setLevel => rw [Script.ofOperation, setLevel, hrefused]; rfl
  case function => rw [Script.ofOperation, function, hrefused]; rfl
  case setFunction => rw [Script.ofOperation, setFunction, hrefused]; rfl
  case limit => rw [Script.ofOperation, limit, hrefused]; rfl
  case setLimit => rw [Script.ofOperation, setLimit, hrefused]; rfl

end Script

/-! ## Requests -/

namespace Request

/-- The calls of a request are those of turns that lead to its result. -/
def Explained (held : Option Device) (request : Request) (calls : List Call)
    (next : Option Device) (result : Except Error Device.Outcome) : Prop :=
  ∃ turns : List Turn, transfers calls = (turns.flatMap Turn.sent).map Sent.call ∧
    Turns held request next result turns ∧ ∀ turn ∈ turns, turn.Faithful

variable {device : Device} {calls : List Call}

theorem explained_of_broughtUp (held : Option Device) {result : Except Error Unit}
    (h : device.BroughtUp calls result) :
    Explained held (.start device) calls (if result.isOk then some device else none)
      (result.map fun _ ↦ .done) := by
  cases h with
  | chip hchip => exact ⟨[], rfl, .unstarted (.inl hchip), by simp⟩
  | line hchip hline => exact ⟨[], rfl, .unstarted (.inr hline), by simp⟩
  | @script exchanges result hchip hpath =>
    have hcarried := hpath.carried .prepare
    refine ⟨[⟨device, some Task.prepare, exchanges, result⟩], ?_, .started hchip, ?_⟩
    · rw [Device.transfers_broughtUp, List.flatMap_singleton]
      rfl
    · exact List.forall_mem_singleton.mpr (.of_carried hcarried)

theorem explained_of_started (held : Option Device) {result : Except Error Unit}
    (h : device.Started calls result) :
    Explained held (.start device) calls (if result.isOk then some device else none)
      (result.map fun _ ↦ .done) := by
  cases h with
  | ready hready => exact explained_of_broughtUp held hready
  | failed hfailed hreleased =>
    obtain ⟨turns, hturns, hexplained⟩ := explained_of_broughtUp held hfailed
    refine ⟨turns, ?_, hexplained⟩
    rw [transfers_append, hreleased.transfers_eq, List.append_nil, hturns]

theorem explained_of_path {operation : Device.Operation} {exchanges : List Exchange}
    {result : Except Error Device.Outcome}
    (h : Script.Path device (Script.ofOperation operation) exchanges result) :
    Explained (some device) (.operate operation) (exchanges.map (Exchange.call device))
      (some device) result := by
  by_cases hchannel : ∀ channel ∈ operation.channel?, channel < channelCount
  · refine ⟨[⟨device, operation.tasks?, exchanges, result.map fun _ ↦ ()⟩], ?_,
      .operated hchannel, ?_⟩
    · rw [transfers_exchanges, List.flatMap_singleton]
      rfl
    · have hfaithful : ∀ tasks ∈ operation.tasks?,
          Carried device tasks exchanges (result.map fun _ ↦ ()) := fun tasks htasks ↦
        Script.Follows.ofOperation hchannel htasks device exchanges result h
      simpa [Turn.Faithful] using hfaithful
  · simp only [not_forall] at hchannel
    obtain ⟨channel, hsome, hge⟩ := hchannel
    rw [Script.ofOperation_refused hsome (UInt8.not_lt.mp hge)] at h
    cases h with
    | fail => exact ⟨[], rfl, .refused hsome (UInt8.not_lt.mp hge), by simp⟩

/-- Floating several channels, each one a turn of its own. -/
theorem turns_of_floats {channels : List UInt8} {floats : List (List Exchange × Except Error Unit)}
    (h : List.Forall₂ (fun channel float ↦
      Script.Path device (Script.setFunction channel .highZ) float.1 float.2) channels floats)
    (hchannels : ∀ channel ∈ channels, channel < channelCount) :
    ∃ turns : List Turn,
      List.Forall₂ (fun channel turn ↦ turn.device = device ∧
        turn.tasks? = some ((Update.function channel .highZ).map .update)) channels turns ∧
      turns.map Turn.result = floats.map Prod.snd ∧
      turns.flatMap Turn.sent = (floats.flatMap Prod.fst).map (Sent.mk device) ∧
      ∀ turn ∈ turns, turn.Faithful := by
  induction h with
  | nil => exact ⟨[], .nil, rfl, rfl, by simp⟩
  | @cons channel float _ _ hpath _ ih =>
    obtain ⟨turns, hturns, hresults, hsent, hfaithful⟩ := ih fun other hother ↦
      hchannels other (.tail _ hother)
    have hcarried := hpath.carried (.setFunction (hchannels channel (.head _)) .highZ)
    refine ⟨⟨device, some ((Update.function channel .highZ).map .update), float.1, float.2⟩ ::
      turns, .cons ⟨rfl, rfl⟩ hturns, ?_, ?_, List.forall_mem_cons.mpr
        ⟨.of_carried hcarried, hfaithful⟩⟩
    · rw [List.map_cons, List.map_cons, hresults]
    · rw [List.flatMap_cons, List.flatMap_cons, List.map_append, hsent]
      rfl

theorem explained_of_shutDown {result : Except Error Unit} (h : device.ShutDown calls result) :
    Explained (some device) .shutDown calls none (result.map fun _ ↦ .done) := by
  cases h with
  | intro hfloats hclosed =>
    obtain ⟨turns, hturns, hresults, hsent, hfaithful⟩ := turns_of_floats hfloats lt_of_mem_channels
    refine ⟨turns, ?_, ?_, hfaithful⟩
    · rw [hclosed.transfers_shutDown, hsent]
    · rw [← hresults]
      exact .shutDown hturns

variable {σ : Type} [Link σ]

theorem emits_explained (held : Option Device) (request : Request) :
    Emits (σ := σ) (carryOut held request) fun calls after ↦
      Explained held request calls after.1 after.2 := by
  cases request with
  | start device =>
    refine (emits_start_eq held device).mono ?_
    rintro calls _ ⟨result, hstarted, rfl⟩
    exact explained_of_started held hstarted
  | operate operation =>
    cases held with
    | none => exact .silent fun session ↦ ⟨rfl, [], rfl, .idle (by simp), by simp⟩
    | some device =>
      refine (emits_operate_eq device operation).mono ?_
      rintro _ _ ⟨exchanges, result, rfl, hpath, rfl⟩
      exact explained_of_path hpath
  | shutDown =>
    cases held with
    | none => exact .silent fun session ↦ ⟨rfl, [], rfl, .idle (by simp), by simp⟩
    | some device =>
      refine (emits_shutDown_eq device).mono ?_
      rintro calls _ ⟨result, hshutDown, rfl⟩
      exact explained_of_shutDown hshutDown

/-! ## Programs -/

/-- The transfers of a program over any link are those of its turns. -/
theorem emits_turns (requests : List Request) (held : Option Device) :
    Emits (σ := σ) (runAll held requests) fun calls after ↦ ∃ turns : List Turn,
      transfers calls = (turns.flatMap Turn.sent).map Sent.call ∧
        TurnsAll held requests after.1 after.2 turns ∧ ∀ turn ∈ turns, turn.Faithful := by
  induction requests generalizing held with
  | nil => exact .silent fun session ↦ ⟨rfl, [], rfl, .nil, by simp⟩
  | cons request requests ih =>
    refine (emits_cons (emits_explained held request) fun _ next _ ↦ ih next.1).mono ?_
    rintro _ ⟨last, _⟩ ⟨next, first, rest, results, rfl, ⟨turns, hturns, hfirst, hfaithful⟩, rfl,
      others, hothers, hrest, hall⟩
    refine ⟨turns ++ others, ?_, .cons hfirst hrest, ?_⟩
    · calc
        transfers (first ++ rest)
        _ = (turns.flatMap Turn.sent).map Sent.call ++
            (others.flatMap Turn.sent).map Sent.call := by
          rw [transfers_append, hturns, hothers]
        _ = ((turns ++ others).flatMap Turn.sent).map Sent.call := by
          rw [List.flatMap_append, List.map_append]
    · exact List.forall_mem_append.mpr ⟨hfaithful, hall⟩

/-- Whatever a link answers, in every program the turns of bring-ups, updates, changes of a
channel and shutdowns write only what they have just read, changed in the bits they were
asked to change, and end with the first read that fails. What becomes of the link is what the calls
do to it. -/
theorem runAll_writes_confined (requests : List Request) (session : Session σ) :
    ∃ (calls : List Call) (turns : List Turn),
      (play (runAll none requests) session).2.calls = session.calls ++ calls ∧
      Played session.link calls (play (runAll none requests) session).2.link ∧
      transfers calls = (turns.flatMap Turn.sent).map Sent.call ∧
      TurnsAll none requests (play (runAll none requests) session).1.1
        (play (runAll none requests) session).1.2 turns ∧
      ∀ turn ∈ turns, ∀ tasks ∈ turn.tasks?, turn.Confined tasks := by
  obtain ⟨calls, hcalls, hplayed, turns, hturns, hall, hfaithful⟩ :=
    (emits_turns requests none).played (Recorded.runAll requests none) session
  refine ⟨calls, turns, hcalls, hplayed, hturns, hall, ?_⟩
  intro turn hturn tasks htasks
  exact (hfaithful turn hturn).confined htasks

end Request

end QuadPort
