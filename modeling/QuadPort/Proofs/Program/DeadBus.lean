import QuadPort.Proofs.Checksum.Window
import QuadPort.Proofs.Script.Opening
import QuadPort.Proofs.Trace.Played

/-!
# Dead buses

A bus is dead if every transfer brings back zeros, ones or the bytes that were clocked out: its
input is stuck, no chip answers, or the output is wired back to the input. With the checksum in
use such a bus is never taken for a chip. None of the three is a valid response, the echo
because no bytes have the same checksum as a request and as a response. Everything but a plain
write asks for a register first, so a request ends with its first transfer, and nothing is
written but what was asked for as a plain write.
-/

namespace QuadPort

open Conversation Register Channel

/-! ## Responses -/

namespace Frame

/-- The bytes that a dead bus brings back for the bytes clocked out. -/
inductive Dead (sent : List UInt8) : List UInt8 → Prop
  | low : Dead sent (List.replicate sent.length 0)
  | high : Dead sent (List.replicate sent.length 0xFF)
  | echo : Dead sent sent

/-- No response to a request with a checksum is accepted. -/
theorem decode_dead {command data : UInt8} {buffer : List UInt8}
    (h : Dead [command, data, Checksum.ofRequest command data] buffer) :
    ∃ expected received, expected ≠ received ∧
      decode buffer true = .error (.checksum expected received) := by
  have hrejected {status data check : UInt8} (hne : Checksum.ofResponse status data ≠ check) :
      ∃ expected received, expected ≠ received ∧
        decode [status, data, check] true = .error (.checksum expected received) := by
    refine ⟨_, _, hne, ?_⟩
    rw [decode_checked, if_neg hne]
  cases h with
  | low => exact hrejected Checksum.ofResponse_zero_ne
  | high =>
    refine hrejected fun hsame ↦ ?_
    have hlt := Checksum.ofResponse_lt 0xFF 0xFF
    rw [hsame] at hlt
    exact absurd hlt (by decide)
  | echo => exact hrejected (Checksum.ofRequest_ne_ofResponse command data).symm

/-- No response to the request for a register is accepted. -/
theorem decode_dead_of_readRequest (scratch : Scratch) (chip : UInt8) {address : UInt8}
    (haddress : address ≤ maxAddress) :
    ∃ filled, readRequest scratch chip address true = .ok filled ∧
      ∀ buffer, Dead filled.bytes buffer → ∃ expected received, expected ≠ received ∧
        decode buffer true = .error (.checksum expected received) := by
  let device : Device := { chip, checked := true, hasLine := false }
  have hrequest := Access.frame_request_eq scratch device (.read address) haddress
  exact ⟨_, hrequest, fun buffer hbuffer ↦ decode_dead hbuffer⟩

end Frame

/-! ## Links and calls -/

def Link.Dead (σ : Type) [Link σ] : Prop :=
  ∀ (sent : List UInt8) (deselect : Bool) (state : σ),
    (Link.transfer sent deselect state).value.result = .ok () ∧
      Frame.Dead sent (Link.transfer sent deselect state).value.buffer

def Call.Dead : Call → Prop
  | .transfer sent _ reply => reply.result = .ok () ∧ Frame.Dead sent reply.buffer
  | _ => True

theorem Played.dead {σ : Type} [Link σ] (hdead : Link.Dead σ) {state last : σ}
    {calls : List Call} (h : Played state calls last) : ∀ call ∈ calls, call.Dead := by
  refine (h.forall_mem (P := fun _ ↦ True) (fun _ hmade _ ↦ ⟨?_, trivial⟩) trivial).1
  cases hmade with
  | transfer sent deselect => exact hdead sent deselect _
  | releaseBus | setLine | releaseLine => trivial

/-- A read of a register whose response has another checksum than the one expected. -/
structure Exchange.Mismatched (device : Device) (address expected received : UInt8)
    (exchange : Exchange) : Prop where
  access : exchange.access = .read address
  ne : expected ≠ received
  verdict : exchange.verdict device = .error (.checksum expected received)

theorem Exchange.mismatched_of_dead {device : Device} (hchecked : device.checked = true)
    {address : UInt8} {reply : Reply} (h : (Exchange.call device ⟨.read address, reply⟩).Dead) :
    ∃ expected received, Mismatched device address expected received ⟨.read address, reply⟩ := by
  obtain ⟨buffer, result⟩ := reply
  obtain ⟨rfl, hbuffer⟩ := h
  rw [Access.frame, if_pos hchecked] at hbuffer
  obtain ⟨expected, received, hne, hdecode⟩ := Frame.decode_dead hbuffer
  refine ⟨expected, received, rfl, hne, ?_⟩
  simp only [Exchange.verdict, Access.verdict, hchecked, hdecode]

/-- A script that starts with a read makes this read and no other access. -/
theorem Script.Path.of_dead {α : Type} {device : Device} {script : Script α}
    {exchanges : List Exchange} {result : Except Error α} {address : UInt8}
    (h : Path device script exchanges result) (hopens : Opens address script)
    (haddress : address ≤ maxAddress) (hchecked : device.checked = true)
    (hcalls : ∀ call ∈ exchanges.map (Exchange.call device), call.Dead) :
    ∃ exchange expected received, exchange.Mismatched device address expected received ∧
      exchanges = [exchange] ∧ result = .error (.checksum expected received) := by
  obtain ⟨reply, rest, rfl, hends⟩ := h.of_opens hopens haddress
  obtain ⟨expected, received, hmismatched⟩ :=
    Exchange.mismatched_of_dead hchecked (hcalls _ (.head _))
  obtain ⟨rfl, rfl⟩ := hends _ hmismatched.verdict
  exact ⟨_, expected, received, hmismatched, rfl, rfl⟩

/-! ## Bring-ups and shutdowns -/

namespace Device

variable {device : Device} {calls : List Call}

/-- The calls of a bring-up that does not reach a chip, and its error. -/
inductive Unreached (device : Device) : List Call → Error → Prop
  | chip (h : maxChip < device.chip) :
    Unreached device [] (.invalidArgument (.chip device.chip))
  | line {fault : Fault} (hchip : device.chip ≤ maxChip) (hline : device.hasLine) :
    Unreached device [.setLine .high (.error fault)] (.transport fault)
  | read {exchange : Exchange} {expected received : UInt8} (hchip : device.chip ≤ maxChip)
    (h : exchange.Mismatched device Name.overload.address expected received) :
    Unreached device (device.opening ++ [exchange.call device]) (.checksum expected received)

theorem BroughtUp.unreached {result : Except Error Unit} (h : device.BroughtUp calls result)
    (hchecked : device.checked = true) (hcalls : ∀ call ∈ calls, call.Dead) :
    ∃ error, result = .error error ∧ device.Unreached calls error := by
  cases h with
  | chip hchip => exact ⟨_, rfl, .chip hchip⟩
  | line hchip hline => exact ⟨_, rfl, .line hchip hline⟩
  | script hchip hpath =>
    obtain ⟨exchange, expected, received, hmismatched, rfl, rfl⟩ :=
      hpath.of_dead .prepare (by decide) hchecked fun call hcall ↦
        hcalls call (List.mem_append_right _ hcall)
    exact ⟨_, rfl, .read hchip hmismatched⟩

/-- Floating several channels: each one is a read and nothing else. -/
theorem reads_of_floats {channels : List UInt8} {floats : List (List Exchange × Except Error Unit)}
    (h : List.Forall₂ (fun channel float ↦
      Script.Path device (Script.setFunction channel .highZ) float.1 float.2) channels floats)
    (hchannels : ∀ channel ∈ channels, channel < channelCount) (hchecked : device.checked = true)
    (hcalls : ∀ call ∈ floats.flatMap fun float ↦ float.1.map (Exchange.call device),
      call.Dead) :
    ∃ reads : List Exchange, reads.length = channels.length ∧
      (∀ exchange ∈ reads, ∃ expected received,
        exchange.Mismatched device Name.configOutput.address expected received) ∧
      floats = reads.map fun exchange ↦
        ([exchange], (exchange.verdict device).map fun _ ↦ ()) := by
  induction h with
  | nil => exact ⟨[], rfl, List.forall_mem_nil _, rfl⟩
  | @cons channel float _ _ hpath _ ih =>
    rw [List.flatMap_cons, List.forall_mem_append] at hcalls
    obtain ⟨reads, hlength, hreads, rfl⟩ :=
      ih (fun other hother ↦ hchannels other (.tail _ hother)) hcalls.2
    obtain ⟨exchange, expected, received, hmismatched, hexchanges, hresult⟩ :=
      hpath.of_dead (.setFunction (hchannels channel (.head _)) .highZ) (by decide) hchecked
        hcalls.1
    refine ⟨exchange :: reads, congrArg Nat.succ hlength,
      List.forall_mem_cons.mpr ⟨⟨_, _, hmismatched⟩, hreads⟩, ?_⟩
    rw [List.map_cons, hmismatched.verdict, ← hexchanges]
    exact congrArg (· :: _) (Prod.ext rfl hresult)

end Device

/-! ## Requests -/

namespace Request

/-- A request does not bring up a descriptor without the checksum. -/
def Checked : Request → Prop
  | .start device => device.checked = true
  | _ => True

/-- The calls of a request over a dead bus, the descriptor in use after it and what it comes to.
A start fails and gives the handles back. An operation that is not refused comes to the mismatch
of the one response it asked for, except that a plain write goes out and nothing is asked. A
shutdown asks once for each channel and gives the handles back. -/
inductive Futile : Option Device → Request → List Call → Option Device →
    Except Error Device.Outcome → Prop
  | start {held : Option Device} {device : Device} {calls released : List Call} {error : Error}
    (h : device.Unreached calls error) (hreleased : device.Released released) :
    Futile held (.start device) (calls ++ released) none (.error error)
  | idle {request : Request} (h : ∀ device, request ≠ .start device) :
    Futile none request [] none (.error .noDevice)
  | refused {device : Device} {operation : Device.Operation} {argument : Argument}
    (h : operation.refusal? = some argument) :
    Futile (some device) (.operate operation) [] (some device)
      (.error (.invalidArgument argument))
  | wrote {device : Device} {address value : UInt8} {exchange : Exchange}
    (h : address ≤ maxAddress) (haccess : exchange.access = .write address value) :
    Futile (some device) (.operate (.writeRegister address value)) [exchange.call device]
      (some device) (.ok .done)
  | asked {device : Device} {operation : Device.Operation} {address expected received : UInt8}
    {exchange : Exchange} (h : operation.refusal? = none)
    (hfirst : operation.firstRead? = some address)
    (hexchange : exchange.Mismatched device address expected received) :
    Futile (some device) (.operate operation) [exchange.call device] (some device)
      (.error (.checksum expected received))
  | shutDown {device : Device} {first : Exchange} {rest : List Exchange}
    {expected received : UInt8} {bus : Except Fault Unit} {closing : List Call}
    {closed : List (Except Error Unit)} (hlength : (first :: rest).length = 4)
    (hfirst : first.Mismatched device Name.configOutput.address expected received)
    (hrest : ∀ exchange ∈ rest, ∃ expected received,
      exchange.Mismatched device Name.configOutput.address expected received)
    (hclosed : device.Closed closing closed) :
    Futile (some device) .shutDown
      ((first :: rest).map (Exchange.call device) ++ .releaseBus bus :: closing) none
      (.error (.checksum expected received))

inductive FutileAll : Option Device → List Request → List Call → Option Device →
    List (Except Error Device.Outcome) → Prop
  | nil {held : Option Device} : FutileAll held [] [] held []
  | cons {held next last : Option Device} {request : Request} {requests : List Request}
    {first rest : List Call} {result : Except Error Device.Outcome}
    {results : List (Except Error Device.Outcome)} (hfirst : Futile held request first next result)
    (hrest : FutileAll next requests rest last results) :
    FutileAll held (request :: requests) (first ++ rest) last (result :: results)

variable {held next : Option Device} {device : Device} {request : Request} {calls : List Call}

/-- No descriptor comes into use. -/
theorem Futile.mem_held {result : Except Error Device.Outcome}
    (h : Futile held request calls next result) : ∀ device ∈ next, device ∈ held := by
  cases h with
  | start | idle | shutDown => simp
  | refused | wrote | asked => simp

theorem futile_of_started {result : Except Error Unit} (h : device.Started calls result)
    (hchecked : device.checked = true) (hcalls : ∀ call ∈ calls, call.Dead) :
    Futile held (.start device) calls (if result.isOk then some device else none)
      (result.map fun _ ↦ .done) := by
  cases h with
  | ready hready =>
    obtain ⟨error, herror, -⟩ := hready.unreached hchecked hcalls
    cases herror
  | failed hfailed hreleased =>
    obtain ⟨error, herror, hunreached⟩ := hfailed.unreached hchecked fun call hcall ↦
      hcalls call (List.mem_append_left _ hcall)
    cases herror
    exact .start hunreached hreleased

theorem futile_of_path {operation : Device.Operation} {exchanges : List Exchange}
    {result : Except Error Device.Outcome}
    (h : Script.Path device (Script.ofOperation operation) exchanges result)
    (hchecked : device.checked = true)
    (hcalls : ∀ call ∈ exchanges.map (Exchange.call device), call.Dead) :
    Futile (some device) (.operate operation) (exchanges.map (Exchange.call device))
      (some device) result := by
  cases hrefusal : operation.refusal? with
  | some argument =>
    obtain ⟨rfl, rfl⟩ := h.of_refusal hrefusal
    exact .refused hrefusal
  | none =>
    cases hfirst : operation.firstRead? with
    | some address =>
      obtain ⟨hopens, haddress⟩ := Script.opens_ofOperation hrefusal hfirst
      obtain ⟨exchange, expected, received, hmismatched, rfl, rfl⟩ :=
        h.of_dead hopens haddress hchecked hcalls
      exact .asked hrefusal hfirst hmismatched
    | none =>
      cases operation with
      | writeRegister address value =>
        have haddress := Script.address_le_of_refusal hrefusal rfl
        obtain ⟨reply, rfl, hdone⟩ := h.of_writeRegister haddress
        obtain ⟨hresult, -⟩ := hcalls _ (.head _)
        rw [hdone hresult]
        exact .wrote haddress rfl
      | _ => cases hfirst

theorem futile_of_shutDown {result : Except Error Unit} (h : device.ShutDown calls result)
    (hchecked : device.checked = true) (hcalls : ∀ call ∈ calls, call.Dead) :
    Futile (some device) .shutDown calls none (result.map fun _ ↦ .done) := by
  cases h with
  | @intro _ bus _ closed hfloats hclosed =>
    obtain ⟨reads, hlength, hreads, rfl⟩ := Device.reads_of_floats hfloats lt_of_mem_channels
      hchecked fun call hcall ↦ hcalls call (List.mem_append_left _ hcall)
    rw [← List.map_flatMap, List.flatMap_map, List.flatMap_singleton']
    cases reads with
    | nil => cases hlength
    | cons first rest =>
      obtain ⟨⟨expected, received, hfirst⟩, hrest⟩ := List.forall_mem_cons.mp hreads
      rw [List.map_cons, List.map_cons, hfirst.verdict]
      exact .shutDown hlength hfirst hrest hclosed

variable {σ : Type} [Link σ]

theorem emits_futile (held : Option Device) (request : Request) (hrequest : request.Checked) :
    Emits (σ := σ) (carryOut held request) fun calls after ↦
      (∀ device ∈ held, device.checked = true) → (∀ call ∈ calls, call.Dead) →
        Futile held request calls after.1 after.2 := by
  cases request with
  | start device =>
    refine (emits_start_eq held device).mono ?_
    rintro calls _ ⟨result, hstarted, rfl⟩ _ hcalls
    exact futile_of_started hstarted hrequest hcalls
  | operate operation =>
    cases held with
    | none => exact .silent fun session ↦ ⟨rfl, fun _ _ ↦ .idle (by simp)⟩
    | some device =>
      refine (emits_operate_eq device operation).mono ?_
      rintro _ _ ⟨exchanges, result, rfl, hpath, rfl⟩ hheld hcalls
      exact futile_of_path hpath (hheld device rfl) hcalls
  | shutDown =>
    cases held with
    | none => exact .silent fun session ↦ ⟨rfl, fun _ _ ↦ .idle (by simp)⟩
    | some device =>
      refine (emits_shutDown_eq device).mono ?_
      rintro calls _ ⟨result, hshutDown, rfl⟩ hheld hcalls
      exact futile_of_shutDown hshutDown (hheld device rfl) hcalls

theorem emits_futileAll (requests : List Request) (held : Option Device)
    (hrequests : ∀ request ∈ requests, request.Checked) :
    Emits (σ := σ) (runAll held requests) fun calls after ↦
      (∀ device ∈ held, device.checked = true) → (∀ call ∈ calls, call.Dead) →
        FutileAll held requests calls after.1 after.2 := by
  induction requests generalizing held with
  | nil => exact .silent fun session ↦ ⟨rfl, fun _ _ ↦ .nil⟩
  | cons request requests ih =>
    obtain ⟨hrequest, hrest⟩ := List.forall_mem_cons.mp hrequests
    refine (emits_cons (emits_futile held request hrequest) fun _ next _ ↦
      ih next.1 hrest).mono ?_
    rintro _ ⟨last, _⟩ ⟨next, first, rest, results, rfl, hfirst, rfl, hlast⟩ hheld hcalls
    rw [List.forall_mem_append] at hcalls
    have hfutile := hfirst hheld hcalls.1
    have hnext : ∀ device ∈ next.1, device.checked = true := fun device hdevice ↦
      hheld device (hfutile.mem_held device hdevice)
    exact .cons hfutile (hlast hnext hcalls.2)

/-- Over a dead bus no response to a request for a register is accepted. Every start fails with
the handles given back, after one transfer if the line can be driven; every operation on a
descriptor in use that is not refused comes to a mismatch, except that a plain write goes out
as asked; every shutdown comes to a mismatch after four reads, with the handles given back. -/
theorem runAll_on_dead_bus (hdead : Link.Dead σ) (requests : List Request)
    (held : Option Device) (session : Session σ) (hheld : ∀ device ∈ held, device.checked = true)
    (hrequests : ∀ request ∈ requests, request.Checked) :
    (∀ (scratch : Frame.Scratch) (chip address : UInt8), address ≤ maxAddress →
      ∃ filled, Frame.readRequest scratch chip address true = .ok filled ∧
        ∀ buffer, Frame.Dead filled.bytes buffer → ∃ expected received, expected ≠ received ∧
          Frame.decode buffer true = .error (.checksum expected received)) ∧
    ∃ calls, (play (runAll held requests) session).2.calls = session.calls ++ calls ∧
      Played session.link calls (play (runAll held requests) session).2.link ∧
      FutileAll held requests calls (play (runAll held requests) session).1.1
        (play (runAll held requests) session).1.2 := by
  refine ⟨fun scratch chip _ haddress ↦
    Frame.decode_dead_of_readRequest scratch chip haddress, ?_⟩
  obtain ⟨calls, hcalls, hplayed, hfutile⟩ :=
    (emits_futileAll requests held hrequests).played (Recorded.runAll requests held) session
  exact ⟨calls, hcalls, hplayed, hfutile hheld (hplayed.dead hdead)⟩

end Request

/-- A bus that is stuck low, stuck high and wired back to itself in turn. -/
structure Fickle where
  count : Nat

instance : Link Fickle where
  transfer sent _ state :=
    { value :=
        { buffer := match state.count % 3 with
            | 0 => List.replicate sent.length 0
            | 1 => List.replicate sent.length 0xFF
            | _ => sent
          result := .ok () }
      log := []
      state := ⟨state.count + 1⟩ }
  length_transfer sent _ state := by
    dsimp only
    split <;> simp
  releaseBus state := { value := .ok (), log := [], state }
  setLine _ state := { value := .ok (), log := [], state }
  releaseLine state := { value := .ok (), log := [], state }

theorem Fickle.dead : Link.Dead Fickle := by
  intro sent deselect state
  refine ⟨rfl, ?_⟩
  simp only [Link.transfer]
  split
  · exact .low
  · exact .high
  · exact .echo

def Fickle.requests : List Request :=
  [.operate (.writeRegister 2 7), .operate (.setLevel 1 true), .shutDown,
    .start { checked := true, chip := 3, hasLine := true }]

theorem Request.runAll_on_fickle_bus :
    Link.Dead Fickle ∧ (∀ request ∈ Fickle.requests, request.Checked) ∧
      ∃ calls, Played (Fickle.mk 0) calls (play (runAll
          (some { checked := true, chip := 2, hasLine := true }) Fickle.requests)
            (Session.start (Fickle.mk 0))).2.link ∧
        FutileAll (some { checked := true, chip := 2, hasLine := true }) Fickle.requests calls
          (play (runAll (some { checked := true, chip := 2, hasLine := true }) Fickle.requests)
            (Session.start (Fickle.mk 0))).1.1
          (play (runAll (some { checked := true, chip := 2, hasLine := true }) Fickle.requests)
            (Session.start (Fickle.mk 0))).1.2 := by
  have hrequests : ∀ request ∈ Fickle.requests, request.Checked := by
    simp [Fickle.requests, Checked]
  obtain ⟨-, calls, -, hplayed, hfutile⟩ := runAll_on_dead_bus Fickle.dead Fickle.requests
    (some { checked := true, chip := 2, hasLine := true }) (Session.start (Fickle.mk 0))
    (by simp) hrequests
  exact ⟨Fickle.dead, hrequests, calls, hplayed, hfutile⟩

end QuadPort
