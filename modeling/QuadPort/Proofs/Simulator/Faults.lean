import QuadPort.Proofs.Script.Look
import QuadPort.Proofs.Simulator.Cable
import QuadPort.Proofs.Simulator.Wired

/-!
# What becomes of a latched fault

Reading a fault register clears it, and the four fault registers are read one after the other.
A fault bit leaves its register only in the response to a read, so a look at the chip that
succeeds reports every bit that it has cleared. A look that fails reports nothing: what its
reads had already taken out of the registers is gone.

The cable loses transfers before they reach the chip, in any pattern. The chip is in any state:
a failure may be planted in it, its bus may have been released, and its next checksum may be
corrupted.
-/

namespace QuadPort

open Conversation Register

namespace RegisterFile

/-- A read leaves a fault bit alone, or it brings the bit back. -/
theorem bit_afterRead {file : RegisterFile} {address : UInt8} (haddress : address ≤ maxAddress)
    (register : FaultRegister) {place : Nat} (h : bit (file.get register.address) place) :
    bit ((file.afterRead address).get register.address) place ∨
      address = register.address ∧ bit (file.look address) place := by
  have hlevel : ∀ register : FaultRegister, register.address ≠ 2 := by
    intro register
    cases register <;> decide
  have hmax : ∀ register : FaultRegister, register.address ≤ maxAddress := by
    intro register
    cases register <;> decide
  by_cases hsame : address = register.address
  · refine .inr ⟨hsame, ?_⟩
    rw [look, hsame, if_neg (hlevel register)]
    exact h
  · refine .inl ?_
    rw [get_afterRead haddress (hmax register), if_neg fun hcleared ↦ hsame hcleared.1]
    exact h

end RegisterFile

/-! ## Looks over a cable that loses transfers -/

namespace Cable

/-- A cable to a chip that is set up for a descriptor; all that goes wrong is that transfers
are lost before they reach the chip. -/
structure Lossy (device : Device) (cable : Cable) : Prop where
  wired : Simulator.Wired device cable.chip
  losses : ∀ hazard ∈ cable.hazards, ∀ cause ∈ hazard, ∃ fault, cause = .lost fault

def Latched (cable : Cable) (register : FaultRegister) (place : Nat) : Prop :=
  bit (cable.chip.stored register.address) place

variable {device : Device} {cable next : Cable}

/-- A transfer over such a cable is lost, or it is one with the chip. -/
theorem carry_of_lossy (h : Lossy device cable) (buffer : List UInt8) :
    (∃ fault, carry cable.chip buffer cable.hazards.head?.join =
        { value := ⟨buffer, .error fault⟩, log := [], state := cable.chip }) ∨
      carry cable.chip buffer cable.hazards.head?.join = cable.chip.transfer buffer := by
  cases hhazard : cable.hazards.head?.join with
  | none => exact .inr rfl
  | some cause =>
    obtain ⟨fault, rfl⟩ := h.losses _ (mem_of_head hhazard) cause rfl
    exact .inl ⟨fault, rfl⟩

/-- One read leaves a fault bit in its register or brings it back. -/
theorem made_read (h : Lossy device cable) {address : UInt8} {reply : Reply}
    (haddress : address ≤ maxAddress)
    (hmade : Made cable (Exchange.call device ⟨.read address, reply⟩) next) :
    Lossy device next ∧ ∀ register place, cable.Latched register place →
      next.Latched register place ∨ Exchange.Brings ⟨.read address, reply⟩ register place := by
  obtain ⟨⟨_, hmet⟩, hhazards⟩ := carry_of_made hmade
  have hrest : ∀ hazard ∈ next.hazards, ∀ cause ∈ hazard, ∃ fault, cause = .lost fault := by
    rw [hhazards]
    exact fun hazard hmem ↦ h.losses hazard (List.mem_of_mem_tail hmem)
  rcases carry_of_lossy h ((Access.read address).frame device) with ⟨fault, hlost⟩ | hserved
  · obtain ⟨-, -, hchip⟩ := Answer.mk.inj (hlost.symm.trans hmet)
    refine ⟨⟨hchip ▸ h.wired, hrest⟩, fun register place hlatched ↦ .inl ?_⟩
    rw [Latched, ← hchip]
    exact hlatched
  · have hread : (Access.read address).address ≤ maxAddress := haddress
    obtain ⟨answer, log, after, htransfer, hwired, hdid⟩ := Simulator.transfer_did h.wired hread
    cases htransfer.symm.trans (hserved.symm.trans hmet)
    refine ⟨⟨hwired, hrest⟩, fun register place hlatched ↦ ?_⟩
    rw [Latched, RegisterFile.stored_eq]
    unfold Exchange.Did at hdid
    cases hresult : reply.result with
    | error fault =>
      simp only [hresult] at hdid
      rw [hdid]
      exact .inl hlatched
    | ok =>
      simp only [hresult] at hdid
      obtain ⟨hfile, hbyte⟩ := hdid
      have hfirst : bit (cable.chip.file.get register.address) place := hlatched
      rw [hfile]
      rcases RegisterFile.bit_afterRead haddress register hfirst with hkept | ⟨rfl, hbit⟩
      · exact .inl hkept
      · exact .inr ⟨rfl, hresult, _, hbyte, hbit⟩

/-- Several reads leave a fault bit in its register or one of them brings it back. -/
theorem played_reads {exchanges : List Exchange} (h : Lossy device cable)
    (hreads : ∀ exchange ∈ exchanges, exchange.access = .read exchange.access.address ∧
      exchange.access.address ≤ maxAddress)
    (hplayed : Played cable (exchanges.map (Exchange.call device)) next) :
    Lossy device next ∧ ∀ register place, cable.Latched register place →
      next.Latched register place ∨
        ∃ exchange ∈ exchanges, exchange.Brings register place := by
  induction exchanges generalizing cable with
  | nil =>
    cases hplayed
    exact ⟨h, fun _ _ hlatched ↦ .inl hlatched⟩
  | cons exchange exchanges ih =>
    obtain ⟨hread, haddress⟩ := hreads exchange (.head _)
    cases hplayed with
    | @cons _ middle _ _ _ hmade hrest =>
      obtain ⟨access, reply⟩ := exchange
      simp only at hread haddress
      rw [hread] at hmade
      obtain ⟨hlossy, hfirst⟩ := made_read h haddress hmade
      obtain ⟨hlast, hothers⟩ := ih hlossy (fun other hother ↦ hreads other (.tail _ hother)) hrest
      refine ⟨hlast, fun register place hlatched ↦ ?_⟩
      rcases hfirst register place hlatched with hkept | hbrought
      · rcases hothers register place hkept with hstill | ⟨other, hother, hbrings⟩
        · exact .inl hstill
        · exact .inr ⟨other, .tail _ hother, hbrings⟩
      · rw [← hread] at hbrought
        exact .inr ⟨_, .head _, hbrought⟩

end Cable

/-! ## Polling -/

/-- A step of a poll: a look at the fault registers, alone or in a snapshot, or bits that the
chip latches in one of them. -/
inductive Poll
  | look (whole : Bool)
  | latch (register : FaultRegister) (bits : UInt8)
  deriving DecidableEq, Repr

namespace Poll

def whole? : Poll → Option Bool
  | .look whole => some whole
  | .latch _ _ => none

def latched (chip : Simulator) (register : FaultRegister) (bits : UInt8) : Simulator :=
  chip.setRegister register.address (chip.stored register.address ||| bits)

/-- Carries a step out; a look hands back what it reports. -/
def carryOut (device : Device) :
    Poll → StateM (Session Cable) (Option (Except Error LatchedFaults))
  | .look whole => do
    let result ← (if whole then do return (← device.snapshot).faults else device.readFaults :
      Conversation Cable LatchedFaults).run
    return some result
  | .latch register bits => do
    modify fun session ↦ { session with link := { session.link with
      simulation := { session.link.simulation with
        chip := latched session.link.chip register bits } } }
    return none

def runAll (device : Device) :
    List Poll → StateM (Session Cable) (List (Except Error LatchedFaults))
  | [] => return []
  | poll :: polls => do
    let result ← poll.carryOut device
    let results ← runAll device polls
    return result.toList ++ results

variable {device : Device}

theorem run_look (device : Device) (whole : Bool) :
    (Script.look whole).run device =
      (if whole then do return (← device.snapshot).faults else device.readFaults :
        Conversation Cable LatchedFaults) := by
  cases whole with
  | false => exact Script.run_readFaults device
  | true =>
    change (Script.snapshot >>= fun snapshot ↦ pure snapshot.faults).run device = _
    rw [Script.run_bind, Script.run_snapshot]
    rfl

/-- Setting bits of a fault register clears none. -/
theorem bit_latched {chip : Simulator} {register other : FaultRegister} {place : Nat}
    (bits : UInt8) (h : bit (chip.stored register.address) place) :
    bit ((latched chip other bits).stored register.address) place := by
  change bit ((chip.file.set other.address (chip.stored other.address ||| bits)).get
    register.address) place
  rw [RegisterFile.get_set]
  by_cases hcells : other.address.toNat % 32 = register.address.toNat % 32
  · have hsame : chip.stored other.address = chip.stored register.address := by
      simp only [Simulator.stored, Simulator.cell, hcells]
    rw [if_pos hcells, bit_or, hsame, h, Bool.true_or]
  · rw [if_neg hcells]
    exact h

/-- What a run of steps shows on its looks: their reports, their calls, and that each of them
follows its script. -/
structure Looks (device : Device) (polls : List Poll) (session : Session Cable)
    (looks : List Look) : Prop where
  results : (play (runAll device polls) session).1 = looks.map Look.result
  whole : polls.filterMap whole? = looks.map Look.whole
  calls : (play (runAll device polls) session).2.calls =
    session.calls ++ looks.flatMap fun look ↦ look.exchanges.map (Exchange.call device)
  paths : ∀ look ∈ looks, Script.Path device (Script.look look.whole) look.exchanges look.result

variable {session : Session Cable}

theorem play_runAll_cons (poll : Poll) (polls : List Poll) (session : Session Cable) :
    play (runAll device (poll :: polls)) session =
      ((play (carryOut device poll) session).1.toList ++
          (play (runAll device polls) (play (carryOut device poll) session).2).1,
        (play (runAll device polls) (play (carryOut device poll) session).2).2) := rfl

/-- A look in front of a run is in front of its looks. -/
theorem Looks.look {look : Look} {polls : List Poll} {looks : List Look}
    (hresult : (play (carryOut device (.look look.whole)) session).1 = some look.result)
    (hcalls : (play (carryOut device (.look look.whole)) session).2.calls =
      session.calls ++ look.exchanges.map (Exchange.call device))
    (hpath : Script.Path device (Script.look look.whole) look.exchanges look.result)
    (hrest : Looks device polls (play (carryOut device (.look look.whole)) session).2 looks) :
    Looks device (.look look.whole :: polls) session (look :: looks) where
  results := by
    rw [play_runAll_cons, List.map_cons, ← hrest.results, hresult]
    rfl
  whole := congrArg (look.whole :: ·) hrest.whole
  calls := by
    rw [play_runAll_cons, List.flatMap_cons, ← List.append_assoc, ← hcalls]
    exact hrest.calls
  paths := List.forall_mem_cons.mpr ⟨hpath, hrest.paths⟩

/-- One look takes a fault bit out of its register only with a response to one of its reads. -/
theorem play_look (h : Cable.Lossy device session.link) (whole : Bool) :
    ∃ look : Look, look.whole = whole ∧
      (play (carryOut device (.look whole)) session).1 = some look.result ∧
      (play (carryOut device (.look whole)) session).2.calls =
        session.calls ++ look.exchanges.map (Exchange.call device) ∧
      Script.Path device (Script.look whole) look.exchanges look.result ∧
      Cable.Lossy device (play (carryOut device (.look whole)) session).2.link ∧
      ∀ register place, session.link.Latched register place →
        (play (carryOut device (.look whole)) session).2.link.Latched register place ∨
          look.Took register place := by
  have hplay : play (carryOut device (.look whole)) session =
      (some (enact ((Script.look whole).run device) session).1,
        (enact ((Script.look whole).run device) session).2) := by
    rw [run_look]
    rfl
  have hemits := Script.emits_run (σ := Cable) device (Script.look whole)
  obtain ⟨_, hcalls, hplayed, exchanges, rfl, hpath⟩ :=
    hemits.played (Recorded.run device (Script.look whole)) session
  rw [play_run] at hcalls hplayed hpath
  obtain ⟨hlossy, hkept⟩ := Cable.played_reads h hpath.of_look hplayed
  rw [hplay]
  refine ⟨⟨whole, exchanges, _⟩, rfl, rfl, hcalls, hpath, hlossy, ?_⟩
  intro register place hlatched
  rcases hkept register place hlatched with hstill | ⟨exchange, hmem, hbrings⟩
  · exact .inl hstill
  · exact .inr (Look.took_of_brings hpath hmem hbrings)

/-- What becomes of the fault bits in a run of steps. A bit that a look takes is settled; one that
it leaves is handed to the steps that follow. -/
theorem play_runAll (h : Cable.Lossy device session.link) (polls : List Poll) :
    ∃ looks : List Look, Looks device polls session looks ∧
      Cable.Lossy device (play (runAll device polls) session).2.link ∧
      ∀ register place, session.link.Latched register place →
        (play (runAll device polls) session).2.link.Latched register place ∨
          ∃ look ∈ looks, look.Took register place := by
  induction polls generalizing session with
  | nil =>
    have hcalls : session.calls = session.calls ++ [] := (List.append_nil _).symm
    exact ⟨[], ⟨rfl, rfl, hcalls, List.forall_mem_nil _⟩, h, fun _ _ hlatched ↦ .inl hlatched⟩
  | cons poll polls ih =>
    cases poll with
    | look whole =>
      obtain ⟨look, rfl, hresult, hcalls, hpath, hlossy, hkept⟩ := play_look h whole
      obtain ⟨looks, hlooks, hlast, hrest⟩ := ih hlossy
      refine ⟨look :: looks, .look hresult hcalls hpath hlooks, hlast, ?_⟩
      intro register place hlatched
      rcases hkept register place hlatched with hstill | htook
      · rcases hrest register place hstill with hend | ⟨other, hother, htook⟩
        · exact .inl hend
        · exact .inr ⟨other, .tail _ hother, htook⟩
      · exact .inr ⟨look, .head _, htook⟩
    | latch register bits =>
      have hwired := h.wired
      have hnext : Cable.Lossy device
          (play (carryOut device (.latch register bits)) session).2.link :=
        ⟨⟨hwired.strapped, hwired.chip, hwired.checked⟩, h.losses⟩
      obtain ⟨looks, hlooks, hlast, hrest⟩ := ih hnext
      have hsame : Looks device (.latch register bits :: polls) session looks :=
        ⟨hlooks.results, hlooks.whole, hlooks.calls, hlooks.paths⟩
      refine ⟨looks, hsame, hlast, fun other place hlatched ↦ ?_⟩
      exact hrest other place (bit_latched bits hlatched)

/-- Faults in any pattern of lost transfers. Looks at the fault registers, alone or in
snapshots, and bits latched in between make up a run, and another run goes before it. A
fault bit that is set when the first run has ended is at the end of the second one still set, or a
look of the second run took it: a look that succeeded and reported it, or a look that failed
after one of its reads had brought it back. -/
theorem runAll_keeps_faults (h : Cable.Lossy device session.link) (before polls : List Poll) :
    let middle := (play (runAll device before) session).2
    let last := (play (runAll device polls) middle).2
    ∃ looks : List Look, Looks device polls middle looks ∧
      ∀ register place, middle.link.Latched register place →
        last.link.Latched register place ∨ ∃ look ∈ looks, look.Took register place := by
  intro middle last
  obtain ⟨_, -, hmiddle, -⟩ := play_runAll h before
  obtain ⟨looks, hlooks, -, hkept⟩ := play_runAll hmiddle polls
  exact ⟨looks, hlooks, hkept⟩

/-- A chip with an overload latched, on a cable that loses the second transfer. -/
def losing : Cable where
  simulation := ⟨(Simulator.fresh false 0).setRegister FaultRegister.overload.address 1, .fresh⟩
  hazards := [none, some (.lost (.spi "lost"))]

theorem losing_keeps_faults :
    Cable.Lossy ⟨false, 0, false⟩ losing ∧
      let middle := (play (runAll ⟨false, 0, false⟩ []) (Session.start losing)).2
      let last := (play (runAll ⟨false, 0, false⟩ [.look false, .look true]) middle).2
      ∃ looks : List Look, Looks ⟨false, 0, false⟩ [.look false, .look true] middle looks ∧
        ∀ register place, middle.link.Latched register place →
          last.link.Latched register place ∨ ∃ look ∈ looks, look.Took register place := by
  have hlossy : Cable.Lossy ⟨false, 0, false⟩ (Session.start losing).link := by
    refine ⟨⟨by decide, rfl, rfl⟩, ?_⟩
    intro hazard hmem cause hcause
    simp only [Session.start, losing, List.mem_cons, List.not_mem_nil, or_false] at hmem
    rcases hmem with rfl | rfl
    · cases hcause
    · cases hcause
      exact ⟨_, rfl⟩
  exact ⟨hlossy, runAll_keeps_faults hlossy [] [.look false, .look true]⟩

/-- The first look fails and the second one finds nothing. -/
theorem losing_loses :
    let after := play (runAll ⟨false, 0, false⟩ [.look false, .look false]) (Session.start losing)
    losing.chip.stored FaultRegister.overload.address = 1 ∧
      after.1 = [.error (.transport (.spi "lost")), .ok ⟨0, 0, 0, 0⟩] ∧
      after.2.link.chip.stored FaultRegister.overload.address = 0 := by
  decide +kernel

end Poll

end QuadPort
