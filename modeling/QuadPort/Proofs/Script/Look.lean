import QuadPort.Proofs.Script.Task
import QuadPort.Proofs.Simulator.Panel

/-!
# Looks at the fault registers

A look reads the four fault registers, alone or at the end of a snapshot. It only reads, and
when it succeeds it reports each fault register as the response to its read brought it back.
When it fails it reports nothing, although some of its reads may have been answered.
-/

namespace QuadPort

open Conversation Register

def FaultRegister.address (register : FaultRegister) : UInt8 :=
  register.name.address

theorem FaultRegister.eq_of_read {register other : FaultRegister}
    (h : Access.read register.address = .read other.address) : register = other := by
  have hall : ∀ register other : FaultRegister,
      register.address = other.address → register = other := by
    intro register other
    cases register <;> cases other <;> decide
  exact hall register other (Access.read.inj h)

namespace Script

/-- The fault registers as one look at the chip reports them, alone or in a snapshot. -/
def look (whole : Bool) : Script LatchedFaults :=
  if whole then do return (← snapshot).faults else readFaults

end Script

/-! ## Looks -/

/-- The response of an exchange brings a bit of a fault register back. -/
def Exchange.Brings (exchange : Exchange) (register : FaultRegister) (place : Nat) : Prop :=
  exchange.access = .read register.address ∧ exchange.reply.result = .ok () ∧
    ∃ byte, exchange.reply.buffer[1]? = some byte ∧ bit byte place

/-- One look at the chip: whether it takes a whole snapshot, what it exchanges and what it
reports. -/
structure Look where
  whole : Bool
  exchanges : List Exchange
  result : Except Error LatchedFaults

/-- A look that succeeds reports a bit; one that fails has lost it if the bit was in one of the
responses that it got. -/
def Look.Took (look : Look) (register : FaultRegister) (place : Nat) : Prop :=
  match look.result with
  | .ok faults => bit (faults.get register) place
  | .error _ => ∃ exchange ∈ look.exchanges, exchange.Brings register place

/-- An accepted response has the value of the register in its second byte. -/
theorem Frame.getElem?_of_decode {frame : List UInt8} {checked : Bool} {value : UInt8}
    (h : decode frame checked = .ok value) : frame[1]? = some value := by
  unfold decode at h
  split at h
  · dsimp only at h
    split at h <;> cases h
    rfl
  · cases h
    rfl
  · cases h

namespace Script

variable {α β : Type} {device : Device} {exchanges : List Exchange}

theorem Path.of_bind_ok {script : Script α} {next : α → Script β} {result : β}
    (h : Path device (script >>= next) exchanges (.ok result)) :
    ∃ value first rest, exchanges = first ++ rest ∧ Path device script first (.ok value) ∧
      Path device (next value) rest (.ok result) := by
  rcases h.of_bind with ⟨error, herror, -⟩ | hpaths
  · cases herror
  · exact hpaths

/-- A read that succeeds hands on what its response brings back. -/
theorem Path.of_readRegister {address value : UInt8}
    (h : Path device (readRegister address) exchanges (.ok value)) :
    ∀ exchange ∈ exchanges, exchange.access = .read address ∧
      ∀ byte, exchange.reply.buffer[1]? = some byte → byte = value := by
  cases h with
  | accepted _ hverdict hrest =>
    cases hrest
    refine List.forall_mem_singleton.mpr ⟨rfl, fun byte hbyte ↦ ?_⟩
    have hvalue := Frame.getElem?_of_decode (Access.verdict_read_eq_ok.mp hverdict).2
    exact Option.some.inj (hbyte.symm.trans hvalue)

/-- Fault registers that were read without a failure are reported as they were read. -/
theorem Path.of_readFaults {faults : LatchedFaults}
    (h : Path device readFaults exchanges (.ok faults)) (register : FaultRegister) :
    ∀ exchange ∈ exchanges, exchange.access = .read register.address →
      ∀ byte, exchange.reply.buffer[1]? = some byte → byte = faults.get register := by
  obtain ⟨overload, first, _, rfl, hoverload, h⟩ := h.of_bind_ok
  obtain ⟨openWire, second, _, rfl, hopenWire, h⟩ := h.of_bind_ok
  obtain ⟨shortToSupply, third, _, rfl, hshortToSupply, h⟩ := h.of_bind_ok
  obtain ⟨globalFault, fourth, _, rfl, hglobalFault, h⟩ := h.of_bind_ok
  cases h
  intro exchange hmem haccess byte hbyte
  have hfrom {part : List Exchange} {value : UInt8} (other : FaultRegister)
      (hpath : Path device (readRegister other.address) part (.ok value))
      (hpart : exchange ∈ part) : register = other ∧ byte = value := by
    obtain ⟨hother, hvalue⟩ := hpath.of_readRegister exchange hpart
    exact ⟨FaultRegister.eq_of_read (haccess.symm.trans hother), hvalue byte hbyte⟩
  simp only [List.mem_append, List.not_mem_nil, or_false] at hmem
  rcases hmem with hmem | hmem | hmem | hmem
  · obtain ⟨rfl, rfl⟩ := hfrom .overload hoverload hmem
    rfl
  · obtain ⟨rfl, rfl⟩ := hfrom .openWire hopenWire hmem
    rfl
  · obtain ⟨rfl, rfl⟩ := hfrom .shortToSupply hshortToSupply hmem
    rfl
  · obtain ⟨rfl, rfl⟩ := hfrom .globalFault hglobalFault hmem
    rfl

/-- A snapshot reads the levels, then the fault registers that it reports. -/
theorem Path.of_snapshot {snapshot : Snapshot}
    (h : Path device Script.snapshot exchanges (.ok snapshot)) :
    ∃ levels rest, exchanges = levels ++ rest ∧
      (∀ exchange ∈ levels, exchange.access = .read Name.level.address) ∧
      Path device readFaults rest (.ok snapshot.faults) := by
  have hlevel {channel : UInt8} {part : List Exchange} {high : Bool}
      (hchannel : channel < channelCount) (hpath : Path device (level channel) part (.ok high)) :
      ∀ exchange ∈ part, exchange.access = .read Name.level.address := by
    intro exchange hmem
    have hreads := (Follows.level hchannel device part _ hpath).isRead_of_reads
      (List.forall_mem_singleton.mpr ⟨_, rfl⟩) exchange hmem
    have haddress := Task.read.inj (List.mem_singleton.mp hreads.1)
    rw [hreads.2, haddress]
  obtain ⟨_, first, _, rfl, hfirst, h⟩ := h.of_bind_ok
  obtain ⟨_, second, _, rfl, hsecond, h⟩ := h.of_bind_ok
  obtain ⟨_, third, _, rfl, hthird, h⟩ := h.of_bind_ok
  obtain ⟨_, fourth, _, rfl, hfourth, h⟩ := h.of_bind_ok
  obtain ⟨faults, rest, last, rfl, hfaults, h⟩ := h.of_bind_ok
  cases h
  refine ⟨first ++ (second ++ (third ++ fourth)), rest, ?_, ?_, hfaults⟩
  · simp only [List.append_assoc, List.append_nil]
  · simp only [List.forall_mem_append]
    exact ⟨hlevel (by decide) hfirst, hlevel (by decide) hsecond, hlevel (by decide) hthird,
      hlevel (by decide) hfourth⟩

theorem Follows.look_false : Follows (look false) Task.readFaults :=
  readFaults

theorem Follows.look_true : Follows (look true) Task.snapshot := by
  have htasks : Task.snapshot = Task.snapshot ++ [] := (List.append_nil _).symm
  rw [htasks]
  exact snapshot.bind fun _ ↦ pure _

/-- A look only reads, and only registers that there are. -/
theorem Path.of_look {whole : Bool} {result : Except Error LatchedFaults}
    (h : Path device (look whole) exchanges result) :
    ∀ exchange ∈ exchanges, exchange.access = .read exchange.access.address ∧
      exchange.access.address ≤ maxAddress := by
  have hfaults : ∀ task ∈ Task.readFaults, ∃ address, task = .read address :=
    List.forall_mem_map.mpr fun _ _ ↦ ⟨_, rfl⟩
  have hsnapshot : ∀ task ∈ Task.snapshot, ∃ address, task = .read address :=
    List.forall_mem_append.mpr ⟨List.forall_mem_map.mpr fun _ _ ↦ ⟨_, rfl⟩, hfaults⟩
  intro exchange hmem
  refine ⟨?_, h.address_le exchange hmem⟩
  cases whole with
  | false =>
    exact ((Follows.look_false device exchanges result h).isRead_of_reads hfaults exchange hmem).2
  | true =>
    exact ((Follows.look_true device exchanges result h).isRead_of_reads hsnapshot exchange hmem).2

/-- What a look that succeeds took out of the fault registers is in its report. -/
theorem Path.of_look_ok {whole : Bool} {faults : LatchedFaults}
    (h : Path device (look whole) exchanges (.ok faults)) {register : FaultRegister} {place : Nat}
    {exchange : Exchange} (hmem : exchange ∈ exchanges) (hbrings : exchange.Brings register place) :
    bit (faults.get register) place := by
  obtain ⟨haccess, -, byte, hbyte, hbit⟩ := hbrings
  cases whole with
  | false =>
    rw [← h.of_readFaults register exchange hmem haccess byte hbyte]
    exact hbit
  | true =>
    obtain ⟨snapshot, first, _, rfl, hsnapshot, hlast⟩ := h.of_bind_ok
    cases hlast
    obtain ⟨levels, rest, rfl, hlevels, hfaults⟩ := hsnapshot.of_snapshot
    rw [List.append_nil, List.mem_append] at hmem
    rcases hmem with hlevel | hrest
    · have hother : register.address ≠ Name.level.address := by
        cases register <;> decide
      exact absurd (Access.read.inj (haccess.symm.trans (hlevels exchange hlevel))) hother
    · rw [← hfaults.of_readFaults register exchange hrest haccess byte hbyte]
      exact hbit

end Script

/-- A look takes every bit that one of its responses brings back. -/
theorem Look.took_of_brings {device : Device} {look : Look}
    (h : Script.Path device (Script.look look.whole) look.exchanges look.result)
    {register : FaultRegister} {place : Nat} {exchange : Exchange}
    (hmem : exchange ∈ look.exchanges) (hbrings : exchange.Brings register place) :
    look.Took register place := by
  obtain ⟨whole, exchanges, result⟩ := look
  cases result with
  | ok faults => exact h.of_look_ok hmem hbrings
  | error error => exact ⟨exchange, hmem, hbrings⟩

end QuadPort
