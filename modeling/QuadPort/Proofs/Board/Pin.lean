import QuadPort.Board.Wiring
import QuadPort.Proofs.Program.Life
import QuadPort.Proofs.Trace.Played

/-!
# The pin behind the enable line

A pin that is opened as an enable line is an input. Driving the line makes the pin an output,
floating the line makes it an input again, and giving the line back leaves the pin as it is.
What the pin is at the end of a descriptor's life therefore depends on the last level that the
line was driven to. A shutdown floats the line before it gives it back. A start that fails does
not: it drove the line high, and gives it back like that.

The bus is arbitrary, so that a start can fail at any step and for any reason.
-/

namespace QuadPort

open Conversation Register

/-- Any bus together with an enable line that is a pin of a board. -/
structure Pinned (β : Type) where
  bus : β
  line : PinLine
  board : Board

instance {β : Type} [Link β] : Link (Pinned β) where
  transfer buffer deselect pinned :=
    let answer := Link.transfer buffer deselect pinned.bus
    { answer with state := { pinned with bus := answer.state } }
  length_transfer buffer deselect pinned := Link.length_transfer buffer deselect pinned.bus
  releaseBus pinned :=
    let answer := Link.releaseBus pinned.bus
    { answer with state := { pinned with bus := answer.state } }
  setLine level pinned :=
    let answer := pinned.line.set level pinned.board
    { answer with state := { pinned with board := answer.state } }
  releaseLine pinned :=
    let (line, board) := pinned.line.release pinned.board
    { value := .ok (), log := [], state := { pinned with line, board } }

/-- Of two programs in a row the second one runs if the first one succeeds. -/
theorem Kernel.run_bind {ε α β : Type} (first : Kernel ε α) (next : α → Kernel ε β)
    (board : Board) : (first >>= next).run board = match first.run board with
      | (.ok between, middle) => (next between).run middle
      | (.error error, middle) => (.error error, middle) := by
  rw [ExceptT.run_bind]
  change (match (first.run board).1 with
    | .ok between => (next between).run
    | .error error => pure (.error error)) (first.run board).2 = _
  rcases first.run board with ⟨_ | _, _⟩ <;> rfl

/-- Of two programs in a row both succeed if the whole does. -/
theorem Kernel.of_run_bind_eq_ok {ε α β : Type} {first : Kernel ε α} {next : α → Kernel ε β}
    {board after : Board} {value : β}
    (h : (first >>= next).run board = (.ok value, after)) :
    ∃ between middle, first.run board = (.ok between, middle) ∧
      (next between).run middle = (.ok value, after) := by
  rw [Kernel.run_bind] at h
  cases hfirst : first.run board with
  | mk result middle =>
    rw [hfirst] at h
    cases result with
    | error error => cases h
    | ok between => exact ⟨between, middle, rfl, h⟩

namespace PinLine

def driven (line : PinLine) (level : LineLevel) (board : Board) : Board :=
  (line.set level board).state

variable {line : PinLine} {board : Board} (h : line.held = true)

include h

theorem set_eq_ok (level : LineLevel) : (line.set level board).value = .ok () := by
  unfold set
  rw [if_pos h]

theorem functions_high : (line.driven .high board).functions line.pin = 1 := by
  unfold driven set
  rw [if_pos h]
  exact if_pos rfl

theorem functions_highZ : (line.driven .highZ board).functions line.pin = 0 := by
  unfold driven set
  rw [if_pos h]
  exact if_pos rfl

theorem release_eq (board : Board) : line.release board =
    ({ line with held := false }, board.giveBack line.pin) := by
  rw [release, if_pos h]

omit h in
/-- A line that was opened is held, and its pin is an input. -/
theorem openLine_eq_ok {pin : UInt8} {opened : Board}
    (h : (openLine pin).run board = (.ok line, opened)) :
    line = ⟨pin, true⟩ ∧ opened.functions pin = 0 := by
  obtain ⟨count, _, -, hclaim⟩ := Kernel.of_run_bind_eq_ok h
  obtain ⟨_, claimed, -, hinput⟩ := Kernel.of_run_bind_eq_ok hclaim
  have hlast : (Except.ok ⟨pin, true⟩, claimed.setFunction pin 0) =
      ((.ok line, opened) : Except Fault PinLine × Board) := hinput
  cases hlast
  exact ⟨rfl, if_pos rfl⟩

end PinLine

namespace Pinned

variable {β : Type} [Link β] {pinned after : Pinned β} {calls : List Call} {device : Device}

/-- Neither a transfer nor the release of the bus touches the pin. -/
theorem played_of_bus (h : Played pinned calls after)
    (hcalls : ∀ call ∈ calls, call.isTransfer ∨ call.isBusRelease) :
    after.line = pinned.line ∧ after.board = pinned.board := by
  refine h.invariant (P := fun state ↦ state.line = pinned.line ∧ state.board = pinned.board)
    ?_ ⟨rfl, rfl⟩
  intro before call next hmem hmade hbefore
  cases hmade with
  | transfer | releaseBus => exact hbefore
  | setLine | releaseLine => simpa [Call.isTransfer, Call.isBusRelease] using hcalls _ hmem

theorem played_of_transfers (h : Played pinned calls after)
    (hcalls : ∀ call ∈ calls, call.isTransfer) :
    after.line = pinned.line ∧ after.board = pinned.board :=
  played_of_bus h fun call hmem ↦ .inl (hcalls call hmem)

theorem played_of_setLine {level : LineLevel} {result : Except Fault Unit}
    (h : Played pinned [.setLine level result] after) :
    result = (pinned.line.set level pinned.board).value ∧ after.line = pinned.line ∧
      after.board = pinned.line.driven level pinned.board := by
  cases h with
  | cons hmade hrest =>
    cases hrest
    cases hmade
    exact ⟨rfl, rfl, rfl⟩

variable (hheld : pinned.line.held = true)

include hheld

theorem played_of_releaseLine {result : Except Fault Unit}
    (h : Played pinned [.releaseLine result] after) :
    after.line = { pinned.line with held := false } ∧
      after.board = pinned.board.giveBack pinned.line.pin := by
  cases h with
  | cons hmade hrest =>
    cases hrest
    cases hmade
    have hrelease := PinLine.release_eq hheld pinned.board
    exact ⟨congrArg Prod.fst hrelease, congrArg Prod.snd hrelease⟩

/-- A bring-up drives the line high before it does anything else. -/
theorem played_of_broughtUp {result : Except Error Unit} (h : Played pinned calls after)
    (hline : device.hasLine = true) (hbroughtUp : device.BroughtUp calls result) :
    after.line = pinned.line ∧ after.board = if maxChip < device.chip then pinned.board
      else pinned.line.driven .high pinned.board := by
  cases hbroughtUp with
  | chip hchip =>
    rw [if_pos hchip]
    exact played_of_transfers h (List.forall_mem_nil _)
  | line =>
    have hfault := (played_of_setLine h).1
    rw [PinLine.set_eq_ok hheld] at hfault
    cases hfault
  | @script exchanges _ hchip _ =>
    rw [Device.opening_eq_setLine device hline] at h
    obtain ⟨middle, hopening, hexchanges⟩ := h.of_append
    obtain ⟨-, hlineHigh, hboardHigh⟩ := played_of_setLine hopening
    have hrest := played_of_transfers hexchanges (Device.isTransfer_exchanges device exchanges)
    rw [if_neg (UInt8.not_lt.mpr hchip), ← hboardHigh, ← hlineHigh]
    exact hrest

/-- After a failed bring-up the line is given back as it is. -/
theorem played_of_released (h : Played pinned calls after) (hline : device.hasLine = true)
    (hreleased : device.Released calls) :
    after.line = { pinned.line with held := false } ∧
      after.board = pinned.board.giveBack pinned.line.pin := by
  obtain ⟨line, bus, rfl⟩ := hreleased
  rw [if_pos hline] at h
  obtain ⟨middle, hrelease, hbus⟩ := h.of_append
  have hgiven := played_of_releaseLine hheld hrelease
  have hlast := played_of_bus hbus (List.forall_mem_singleton.mpr (.inr rfl))
  exact ⟨hlast.1.trans hgiven.1, hlast.2.trans hgiven.2⟩

/-- A shutdown floats the line and gives it back. -/
theorem played_of_shutDown {result : Except Error Unit} (h : Played pinned calls after)
    (hline : device.hasLine = true) (hshutDown : device.ShutDown calls result) :
    after.line = { pinned.line with held := false } ∧
      after.board = (pinned.line.driven .highZ pinned.board).giveBack pinned.line.pin := by
  cases hshutDown with
  | @intro floats bus closing closed hfloats hclosed =>
    obtain ⟨level, line, rfl, -⟩ := (if_pos hline).mp hclosed
    rw [← List.map_flatMap] at h
    have hcalls : Played pinned (((floats.flatMap Prod.fst).map (Exchange.call device) ++
        [.releaseBus bus]) ++ ([.setLine .highZ level] ++ [.releaseLine line])) after := by
      rwa [List.append_assoc]
    obtain ⟨quiet, hquiet, hlast⟩ := hcalls.of_append
    have hsame := played_of_bus hquiet <| List.forall_mem_append.mpr
      ⟨fun call hmem ↦ .inl (Device.isTransfer_exchanges device _ call hmem),
        List.forall_mem_singleton.mpr (.inr rfl)⟩
    obtain ⟨floated, hfloat, hrelease⟩ := hlast.of_append
    obtain ⟨-, hlineFloat, hboardFloat⟩ := played_of_setLine hfloat
    rw [hsame.1] at hlineFloat hboardFloat
    rw [hsame.2] at hboardFloat
    have hgiven := played_of_releaseLine (by rwa [hlineFloat]) hrelease
    rwa [hlineFloat, hboardFloat] at hgiven

/-- The pin at the end of a life: an input again after a start that succeeded, otherwise as
the start left it. -/
theorem played_of_lived {started : Except Error Unit} (h : Played pinned calls after)
    (hline : device.hasLine = true) (hlived : device.Lived calls started)
    (hinput : pinned.board.functions pinned.line.pin = 0) :
    after.line = { pinned.line with held := false } ∧
      after.board.functions pinned.line.pin =
        if started.isOk ∨ maxChip < device.chip then 0 else 1 := by
  cases hlived with
  | @failed _ error hstarted =>
    cases hstarted with
    | failed hbroughtUp hreleased =>
      obtain ⟨up, hup, hdown⟩ := h.of_append
      obtain ⟨hlineUp, hboardUp⟩ := played_of_broughtUp hheld hup hline hbroughtUp
      obtain ⟨hlineDown, hboardDown⟩ := played_of_released (by rwa [hlineUp]) hdown hline hreleased
      rw [hlineUp] at hlineDown hboardDown
      refine ⟨hlineDown, ?_⟩
      rw [hboardDown, hboardUp]
      by_cases hchip : maxChip < device.chip
      · rw [if_pos hchip, if_pos (.inr hchip)]
        exact hinput
      · have hfailed : ¬ ((Except.error error : Except Error Unit).isOk ∨
            maxChip < device.chip) := not_or.mpr ⟨Bool.false_ne_true, hchip⟩
        rw [if_neg hchip, if_neg hfailed]
        exact PinLine.functions_high hheld
  | ended hstarted huse hdown =>
    cases hstarted with
    | ready hbroughtUp =>
      obtain ⟨up, hup, hrest⟩ := h.of_append
      obtain ⟨used, hused, hlast⟩ := hrest.of_append
      have hlineUp := (played_of_broughtUp hheld hup hline hbroughtUp).1
      have hlineUsed := (played_of_transfers hused huse).1.trans hlineUp
      obtain ⟨hlineDown, hboardDown⟩ := played_of_shutDown (by rwa [hlineUsed]) hlast hline hdown
      rw [hlineUsed] at hlineDown hboardDown
      refine ⟨hlineDown, ?_⟩
      rw [hboardDown, if_pos (.inl rfl)]
      exact PinLine.functions_highZ hheld

omit hheld in
/-- A descriptor is given a pin that was opened as its enable line, and any bus. At the end
of its life the line has been given back. The pin is then an input if the start succeeded,
whatever failed later, and if the start was refused for its chip address. After any other
failure of the start the pin is an output. -/
theorem runAll_life_function {pin : UInt8} {board opened : Board} {line : PinLine}
    (hopen : (PinLine.openLine pin).run board = (.ok line, opened)) (hline : device.hasLine = true)
    (operations : List Device.Operation) {session : Session (Pinned β)}
    (hlink : session.link.line = line ∧ session.link.board = opened) :
    let after := play (Request.runAll none (Request.life device operations)) session
    after.2.link.line.held = false ∧ ∃ started : Except Error Unit,
      after.1.2.head? = some (started.map fun _ ↦ .done) ∧
      after.2.link.board.functions pin =
        if started.isOk ∨ maxChip < device.chip then 0 else 1 := by
  obtain ⟨hopened, hinput⟩ := PinLine.openLine_eq_ok hopen
  have hlife := Request.emits_life (σ := Pinned β) device operations
  obtain ⟨calls, -, hplayed, started, hlived, hhead⟩ :=
    hlife.played (Recorded.runAll _ none) session
  have hpinned : session.link.line = ⟨pin, true⟩ := hlink.1.trans hopened
  have hheld : session.link.line.held = true := congrArg PinLine.held hpinned
  have hpin : session.link.line.pin = pin := congrArg PinLine.pin hpinned
  have hend := played_of_lived hheld hplayed hline hlived (by rwa [hpin, hlink.2])
  rw [hpin] at hend
  exact ⟨congrArg PinLine.held hend.1, started, hhead, hend.2⟩

end Pinned

/-! ## A bus on which every message fails -/

/-- A board with one bus node on which every message fails. -/
def Board.mute : Board where
  chip := .fresh false 0
  nodes := [⟨0, 0⟩]
  pinCount := some 54
  functions := fun _ ↦ 0
  driven := []
  taken := []
  failing := [(.message, SystemError.inputOutput)]
  calls := []

def Wiring.mute : Wiring where
  board := ((PinLine.openLine 25).run Board.mute).2
  bus := ⟨⟨0, 0⟩, 1000000, true⟩
  line := some ⟨25, true⟩

theorem Pinned.fresh_life_function :
    (PinLine.openLine 25).run Board.mute = (.ok ⟨25, true⟩, Wiring.mute.board) ∧
      let after := play (Request.runAll none (Request.life ⟨false, 0, true⟩ []))
        (Session.start (⟨.fresh false 0, ⟨25, true⟩, Wiring.mute.board⟩ : Pinned Simulation))
      after.2.link.line.held = false ∧ ∃ started : Except Error Unit,
        after.1.2.head? = some (started.map fun _ ↦ .done) ∧
        after.2.link.board.functions 25 = if started.isOk ∨ maxChip < 0 then 0 else 1 := by
  have hopen : (PinLine.openLine 25).run Board.mute = (.ok ⟨25, true⟩, Wiring.mute.board) := rfl
  have hline : (⟨false, 0, true⟩ : Device).hasLine = true := rfl
  exact ⟨hopen, runAll_life_function hopen hline [] ⟨rfl, rfl⟩⟩

/-- A start whose first transfer fails gives the line back while its pin is an output. -/
theorem Wiring.mute_start_drives :
    let after := play (Request.runAll none (Request.life ⟨false, 0, true⟩ []))
      (Session.start Wiring.mute)
    after.2.link.line = some ⟨25, false⟩ ∧ after.2.link.board.functions 25 = 1 :=
  ⟨rfl, rfl⟩

end QuadPort
