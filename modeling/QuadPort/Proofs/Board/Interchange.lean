import QuadPort.Proofs.Board.Pin
import QuadPort.Proofs.Lifecycle.Release
import QuadPort.Proofs.Simulator.Traffic
import QuadPort.Proofs.Trace.Twin

/-!
# A chip behind a board and a chip with a bus of its own

A chip answers behind the node of a board that a bus handle was opened on, and the same chip
answers without a board. The two differ in what it means that the bus was given back: a handle
refuses before the board is asked, the chip counts the transfer and refuses it. As long as a
descriptor is in use none of this shows. A descriptor comes to the same results over either, and
leaves the same chip behind.

The enable line is the same arbitrary line in both cases.
-/

namespace QuadPort

open Conversation Register

/-- A bus together with an enable line that has nothing to do with it. -/
structure Lined (β τ : Type) where
  bus : β
  line : τ

instance {β τ : Type} [Link β] [Link τ] : Link (Lined β τ) where
  transfer buffer deselect lined :=
    let answer := Link.transfer buffer deselect lined.bus
    { answer with state := { lined with bus := answer.state } }
  length_transfer buffer deselect lined := Link.length_transfer buffer deselect lined.bus
  releaseBus lined :=
    let answer := Link.releaseBus lined.bus
    { answer with state := { lined with bus := answer.state } }
  setLine level lined :=
    let answer := Link.setLine level lined.line
    { answer with state := { lined with line := answer.state } }
  releaseLine lined :=
    let answer := Link.releaseLine lined.line
    { answer with state := { lined with line := answer.state } }

/-! ## The chip -/

namespace Simulator

variable {simulator : Simulator}

def givenBack (simulator : Simulator) : Simulator :=
  { simulator with released := true }

theorem ahead_ahead (first second : Nat) :
    (simulator.ahead first).ahead second = simulator.ahead (first + second) := by
  simp only [ahead, Nat.add_assoc]

/-- A chip that is there refuses no buffer of the length of its frames. -/
theorem result_transfer_of_length (hfailure : simulator.failure = none)
    (hreleased : simulator.released = false) {buffer : List UInt8}
    (hlength : buffer.length = Frame.length simulator.checked) :
    (simulator.transfer buffer).value.result = .ok () := by
  by_cases hforeign : simulator.Foreign buffer
  · rw [transfer_of_foreign hfailure hreleased hforeign, foreignReply, if_pos hlength]
  · obtain ⟨hchecked, command, data, rfl, hown⟩ | ⟨hchecked, command, data, check, rfl, hown⟩ :=
      frame_of_not_foreign hforeign
    · rw [transfer_plain hfailure hreleased hchecked hown]
    · rw [transfer_own hfailure hreleased hchecked check hown]

theorem transfers_read (address : UInt8) :
    (simulator.read address).2.transfers = simulator.transfers := by
  unfold read
  split
  · rfl
  · split <;> rfl

theorem transfers_serve (command data : UInt8) (intact : Bool) :
    (simulator.serve command data intact).state.transfers = simulator.transfers := by
  unfold serve
  split
  · rfl
  · split
    · rfl
    · exact transfers_read _

/-- The chip counts every transfer, whatever becomes of it. -/
theorem transfers_transfer (buffer : List UInt8) :
    (simulator.transfer buffer).state.transfers = simulator.transfers + 1 := by
  cases hfailure : simulator.failure with
  | some message =>
    rw [transfer_failing hfailure]
    rfl
  | none =>
    by_cases hforeign : simulator.Foreign buffer
    · rw [state_of_foreign hfailure hforeign]
      rfl
    · cases hreleased : simulator.released with
      | true =>
        rw [transfer_released hfailure hreleased]
        rfl
      | false =>
        obtain ⟨hchecked, command, data, rfl, hown⟩ | ⟨hchecked, command, data, check, rfl, hown⟩ :=
          frame_of_not_foreign hforeign
        · rw [transfer_plain hfailure hreleased hchecked hown]
          exact transfers_serve ..
        · rw [transfer_own hfailure hreleased hchecked check hown]
          exact transfers_serve ..

end Simulator

/-! ## The bus of a board -/

namespace Kernel

variable {ε ε' α β : Type}

theorem run_get (board : Board) : (get : Kernel ε Board).run board = (.ok board, board) := rfl

theorem run_set (next board : Board) : (set next : Kernel ε PUnit).run board = (.ok ⟨⟩, next) := rfl

/-- A program that changes nothing on a board but the recorded calls. -/
def OnlyCalls (program : Kernel ε α) : Prop :=
  ∀ board, ∃ calls, (program.run board).2 = { board with calls }

namespace OnlyCalls

theorem bind {program : Kernel ε α} {next : α → Kernel ε β} (h : OnlyCalls program)
    (hnext : ∀ value, OnlyCalls (next value)) : OnlyCalls (program >>= next) := by
  intro board
  obtain ⟨calls, hcalls⟩ := h board
  rw [Kernel.run_bind]
  cases hprogram : program.run board with
  | mk result middle =>
    rw [hprogram] at hcalls
    cases hcalls
    cases result with
    | error error => exact ⟨calls, rfl⟩
    | ok value => exact hnext value { board with calls }

theorem adapt {program : Kernel ε α} (h : OnlyCalls program) (wrap : ε → ε') :
    OnlyCalls (ExceptT.adapt wrap program) :=
  h

theorem openNode (node : SpiNode) : OnlyCalls (Kernel.openNode node) := by
  intro board
  simp only [Kernel.openNode, Kernel.run_bind, run_get, run_set]
  split
  · exact ⟨_, rfl⟩
  · exact ⟨_, rfl⟩

theorem configure (node : SpiNode) (setting : SpiSetting) (value : Nat) :
    OnlyCalls (Kernel.configure node setting value) := by
  intro board
  simp only [Kernel.configure, Kernel.run_bind, run_get]
  split
  · exact ⟨_, rfl⟩
  · exact ⟨_, rfl⟩

end OnlyCalls

end Kernel

namespace SpiBus

variable {handle : SpiBus} {board opened : Board}

theorem onlyCalls_openNode (node : SpiNode) (clock : Nat) :
    Kernel.OnlyCalls (openNode node clock) := by
  have hset (setting : SpiSetting) (value : Nat) (wrap : String → Fault) :
      Kernel.OnlyCalls ((Kernel.configure node setting value).adapt wrap) :=
    (Kernel.OnlyCalls.configure node setting value).adapt wrap
  exact ((Kernel.OnlyCalls.openNode node).adapt _).bind fun _ ↦
    .bind (hset _ _ _) fun _ ↦ .bind (hset _ _ _) fun _ ↦ .bind (hset _ _ _) fun _ ↦
      .bind (hset _ _ _) fun _ board ↦ ⟨board.calls, rfl⟩

/-- A bus that was opened is held, and its board is the same but for the recorded calls. -/
theorem openBus_eq_ok {bus select : UInt8} {clock : Nat} {log : List Log.Record}
    (h : openBus bus select clock board = ⟨.ok handle, log, opened⟩) :
    handle.held = true ∧ ∃ calls, opened = { board with calls } := by
  unfold openBus at h
  cases hnode : nodeOf bus select with
  | error fault =>
    rw [hnode] at h
    cases h
  | ok node =>
    rw [hnode] at h
    have hvalue := congrArg Answer.value h
    have hstate := congrArg Answer.state h
    dsimp only at hvalue hstate
    obtain ⟨calls, hcalls⟩ := onlyCalls_openNode node clock board
    refine ⟨?_, calls, hstate.symm.trans hcalls⟩
    have hrun : (openNode node clock).run board = (.ok handle, opened) := Prod.ext hvalue hstate
    obtain ⟨_, _, -, hmode⟩ := Kernel.of_run_bind_eq_ok hrun
    obtain ⟨_, _, -, hsize⟩ := Kernel.of_run_bind_eq_ok hmode
    obtain ⟨_, _, -, hclock⟩ := Kernel.of_run_bind_eq_ok hsize
    obtain ⟨_, _, -, horder⟩ := Kernel.of_run_bind_eq_ok hclock
    obtain ⟨_, _, -, hlast⟩ := Kernel.of_run_bind_eq_ok horder
    cases hlast
    rfl

theorem transfer_released (h : handle.held = false) (buffer : List UInt8) (board : Board) :
    handle.transfer buffer board =
      ⟨⟨buffer, .error (.spi "bus already released")⟩, [], board⟩ := by
  rw [transfer, h, if_neg Bool.false_ne_true]

/-- Over a bus that is held the chip is asked, and nothing else on the board changes but the
recorded calls, whether or not the chip refuses. -/
theorem state_transfer (hheld : handle.held = true) (hmessages : board.failure? .message = none)
    (buffer : List UInt8) : ∃ calls, (handle.transfer buffer board).state =
      { board with chip := (board.chip.transfer buffer).state, calls } := by
  rw [transfer, if_pos hheld, Board.exchange, hmessages]
  cases hresult : (board.chip.transfer buffer).value.result with
  | ok => exact ⟨_, by simp only [hresult]; rfl⟩
  | error => exact ⟨_, by simp only [hresult]; rfl⟩

theorem value_transfer (hheld : handle.held = true) (hmessages : board.failure? .message = none)
    {buffer : List UInt8} (hok : (board.chip.transfer buffer).value.result = .ok ()) :
    (handle.transfer buffer board).value = (board.chip.transfer buffer).value := by
  rw [transfer, if_pos hheld, Board.exchange, hmessages]
  simp only [hok]
  rw [← hok]

end SpiBus

/-! ## One chip, two buses -/

/-- The chip with a bus of its own that stands for a chip behind a bus handle. It has counted some
transfers more: those that a handle that was given back did not let through. -/
inductive Simulator.StandsFor (chip : Simulator) : SpiBus → Simulator → Prop
  | held {handle : SpiBus} (refused : Nat) (h : handle.held = true) :
    StandsFor chip handle (chip.ahead refused)
  | givenBack {handle : SpiBus} (refused : Nat) (h : handle.held = false) :
    StandsFor chip handle (chip.ahead refused).givenBack

/-- If all transfers were let through, the one is the other but for its flag. -/
theorem Simulator.StandsFor.eq_givenBack {chip other : Simulator} {handle : SpiBus}
    (h : chip.StandsFor handle other) (hheld : handle.held = false)
    (htransfers : other.transfers = chip.transfers) : other = chip.givenBack := by
  cases h with
  | held refused h =>
    rw [hheld] at h
    cases h
  | givenBack refused =>
    have hnone : refused = 0 := Nat.add_eq_left.mp htransfers
    rw [hnone]
    rfl

/-- Replies that are the same are alike to any frame. -/
theorem Reply.Alike.of_eq {sent : List UInt8} {first second : Reply} (h : first = second) :
    Reply.Alike sent first second :=
  h ▸ ⟨rfl, fun _ _ _ _ ↦ rfl⟩

/-- A chip behind the bus of a board and the same chip with a bus of its own, for frames with or
without checksums, at the same enable line. -/
structure Interchangeable {τ : Type} (checked : Bool) (wired : Lined Wiring τ)
    (direct : Lined Simulation τ) : Prop where
  line : direct.line = wired.line
  messages : wired.bus.board.failure? .message = none
  failure : wired.bus.board.chip.failure = none
  present : wired.bus.board.chip.released = false
  checked : wired.bus.board.chip.checked = checked
  chip : wired.bus.board.chip.StandsFor wired.bus.bus direct.bus.chip

namespace Interchangeable

variable {τ : Type} [Link τ] {checked : Bool} {wired : Lined Wiring τ}
  {direct : Lined Simulation τ}

/-- A buffer of the length of the chip's frames is answered with the same bytes by either, or
refused with the same error. -/
theorem transfer (h : Interchangeable checked wired direct) {buffer : List UInt8}
    (hlength : buffer.length = Frame.length checked) (deselect : Bool) :
    Answer.Alike Eq (Interchangeable checked) (Link.transfer buffer deselect wired)
      (Link.transfer buffer deselect direct) := by
  obtain ⟨⟨board, handle, pin⟩, _⟩ := wired
  obtain ⟨⟨chip, simulatedLine⟩, line⟩ := direct
  obtain ⟨rfl, hmessages, hfailure, hpresent, hchecked, hchip⟩ := h
  change board.chip.StandsFor handle chip at hchip
  change Answer.Alike Eq (Interchangeable checked)
    ⟨(handle.transfer buffer board).value, _, ⟨⟨(handle.transfer buffer board).state, handle, pin⟩,
      line⟩⟩
    ⟨(chip.transfer buffer).value, _, ⟨⟨(chip.transfer buffer).state, simulatedLine⟩, line⟩⟩
  cases hchip with
  | held refused hheld =>
    have hok := Simulator.result_transfer_of_length hfailure hpresent
      (hlength.trans (congrArg Frame.length hchecked.symm))
    have hfront := Simulator.SameFront.transfer hfailure buffer
    obtain ⟨calls, hstate⟩ := SpiBus.state_transfer hheld hmessages buffer
    rw [SpiBus.value_transfer hheld hmessages hok, hstate, Simulator.transfer_ahead]
    exact ⟨rfl, rfl, hmessages, hfront.failure.trans hfailure, hfront.released.trans hpresent,
      hfront.checked.trans hchecked, .held refused hheld⟩
  | givenBack refused hheld =>
    have hgone : (board.chip.ahead refused).givenBack.failure = none := hfailure
    rw [SpiBus.transfer_released hheld, Simulator.transfer_released hgone rfl]
    exact ⟨rfl, rfl, hmessages, hfailure, hpresent, hchecked, .givenBack (refused + 1) hheld⟩

theorem releaseBus (h : Interchangeable checked wired direct) :
    Answer.Alike Eq (Interchangeable checked) (Link.releaseBus wired)
      (Link.releaseBus direct) := by
  refine ⟨rfl, h.line, h.messages, h.failure, h.present, h.checked, ?_⟩
  obtain ⟨⟨chip, simulatedLine⟩, _⟩ := direct
  cases h.chip with
  | held refused | givenBack refused => exact .givenBack refused rfl

/-- The frames of a descriptor are answered alike, and so is everything else. -/
theorem alikeFor {device : Device} (hchecked : device.checked = checked) :
    Link.AlikeFor device (Interchangeable (τ := τ) checked) where
  transfer access wired direct h := by
    have hlength := access.length_frame device
    rw [hchecked] at hlength
    obtain ⟨hreply, hstate⟩ := h.transfer hlength true
    exact ⟨.of_eq hreply, hstate⟩
  releaseBus _ _ h := h.releaseBus
  setLine level wired direct h := by
    obtain ⟨bus, _⟩ := direct
    cases h.line
    exact ⟨rfl, rfl, h.messages, h.failure, h.present, h.checked, h.chip⟩
  releaseLine wired direct h := by
    obtain ⟨bus, _⟩ := direct
    cases h.line
    exact ⟨rfl, rfl, h.messages, h.failure, h.present, h.checked, h.chip⟩

/-- A program comes to the same results over either, whatever descriptors with frames of that kind
it uses and however often it gives the bus back. -/
theorem runAll {held : Option Device} {requests : List Request} (hdevices : ∀ device,
      held = some device ∨ .start device ∈ requests → device.checked = checked) :
    Twin (Interchangeable (τ := τ) checked) (Request.runAll held requests)
      (Request.runAll held requests) :=
  Twin.runAll_of_devices fun device huse ↦ alikeFor (hdevices device huse)

end Interchangeable

/-! ## Calls on a bus that was given back -/

/-- The call is answered as by a bus that was given back: a transfer is refused and its buffer
left alone, and giving the bus back again succeeds. -/
def Call.Refused : Call → Prop
  | .transfer sent _ reply => reply = ⟨sent, .error (.spi "bus already released")⟩
  | .releaseBus result => result = .ok ()
  | _ => True

namespace Lined

variable {τ : Type} [Link τ] {calls : List Call}

/-- A chip with a bus of its own counts every transfer. -/
theorem transfers_of_played {direct last : Lined Simulation τ} (h : Played direct calls last) :
    last.bus.chip.transfers = direct.bus.chip.transfers + calls.countP Call.isTransfer := by
  induction h with
  | nil => rfl
  | @cons before _ _ _ _ hmade _ ih =>
    rw [ih]
    cases hmade with
    | transfer sent deselect =>
      have hcount : (Link.transfer sent deselect before).state.bus.chip.transfers =
          before.bus.chip.transfers + 1 := Simulator.transfers_transfer sent
      rw [hcount, List.countP_cons_of_pos rfl, Nat.add_right_comm, Nat.add_assoc]
    | releaseBus | setLine | releaseLine => rfl

/-- A handle that was given back refuses a transfer before the board notices. -/
theorem wired_refuses {before after : Lined Wiring τ} {call : Call} (h : Made before call after)
    (hheld : before.bus.bus.held = false) : call.Refused ∧ after.bus = before.bus := by
  obtain ⟨⟨board, handle, pin⟩, line⟩ := before
  cases h with
  | transfer sent deselect =>
    have hrefused := SpiBus.transfer_released hheld sent board
    refine ⟨congrArg Answer.value hrefused, ?_⟩
    change Wiring.mk (handle.transfer sent board).state handle pin = _
    rw [hrefused]
  | releaseBus =>
    have hagain : { handle with held := false } = handle := by rw [← hheld]
    exact ⟨rfl, congrArg (Wiring.mk board · pin) hagain⟩
  | setLine | releaseLine => exact ⟨trivial, rfl⟩

/-- A chip whose bus was given back counts a transfer and refuses it. -/
theorem direct_refuses {before after : Lined Simulation τ} {call : Call}
    (h : Made before call after) (hfailure : before.bus.chip.failure = none)
    (hreleased : before.bus.chip.released = true) :
    call.Refused ∧ ∃ count, after.bus.chip = before.bus.chip.ahead count := by
  obtain ⟨⟨chip, simulatedLine⟩, line⟩ := before
  cases h with
  | transfer sent deselect =>
    have hrefused := Simulator.transfer_released hfailure hreleased sent
    exact ⟨congrArg Answer.value hrefused, 1, congrArg Answer.state hrefused⟩
  | releaseBus =>
    have hagain : { chip with released := true } = chip := by rw [← hreleased]
    exact ⟨rfl, 0, hagain⟩
  | setLine | releaseLine => exact ⟨trivial, 0, rfl⟩

/-- Whatever is asked of a handle that was given back is refused, and nothing changes. -/
theorem wired_refuses_all {wired last : Lined Wiring τ} (h : Played wired calls last)
    (hheld : wired.bus.bus.held = false) :
    (∀ call ∈ calls, call.Refused) ∧ last.bus = wired.bus := by
  refine h.forall_mem (P := fun state ↦ state.bus = wired.bus) (fun _ hmade hbefore ↦ ?_) rfl
  rw [← hbefore] at hheld ⊢
  exact wired_refuses hmade hheld

/-- Whatever is asked of a chip whose bus was given back is refused, and all that changes is its
count of transfers. -/
theorem direct_refuses_all {direct last : Lined Simulation τ} (h : Played direct calls last)
    (hfailure : direct.bus.chip.failure = none) (hreleased : direct.bus.chip.released = true) :
    (∀ call ∈ calls, call.Refused) ∧
      last.bus.chip = direct.bus.chip.ahead (calls.countP Call.isTransfer) := by
  have hall : (∀ call ∈ calls, call.Refused) ∧
      ∃ count, last.bus.chip = direct.bus.chip.ahead count := by
    refine h.forall_mem (P := fun state ↦ ∃ count, state.bus.chip = direct.bus.chip.ahead count)
      ?_ ⟨0, rfl⟩
    rintro before call after - hmade ⟨count, hbefore⟩
    have hsame : before.bus.chip.failure = none ∧ before.bus.chip.released = true := by
      rw [hbefore]
      exact ⟨hfailure, hreleased⟩
    obtain ⟨hrefused, more, hafter⟩ := direct_refuses hmade hsame.1 hsame.2
    rw [hbefore, Simulator.ahead_ahead] at hafter
    exact ⟨hrefused, count + more, hafter⟩
  obtain ⟨hcalls, count, hlast⟩ := hall
  have hcount := transfers_of_played h
  rw [hlast] at hcount
  rw [hlast, Nat.add_left_cancel hcount]
  exact ⟨hcalls, rfl⟩

/-- As long as no transfer comes behind the release of its bus, a chip behind a board counts every
transfer too. -/
theorem transfers_of_wired {wired last : Lined Wiring τ} (h : Played wired calls last)
    (hheld : wired.bus.bus.held = true) (hmessages : wired.bus.board.failure? .message = none)
    (horder : calls.Pairwise Call.MayPrecede) :
    last.bus.board.chip.transfers =
      wired.bus.board.chip.transfers + calls.countP Call.isTransfer := by
  induction h with
  | nil => rfl
  | @cons before _ _ _ calls hmade hrest ih =>
    obtain ⟨hfirst, hrestOrder⟩ := List.pairwise_cons.mp horder
    cases hmade with
    | transfer sent deselect =>
      obtain ⟨recorded, hstate⟩ := SpiBus.state_transfer hheld hmessages sent
      have hboard : (Link.transfer sent deselect before).state.bus.board = _ := hstate
      have hcount : (Link.transfer sent deselect before).state.bus.board.chip.transfers =
          before.bus.board.chip.transfers + 1 := by
        rw [hboard]
        exact Simulator.transfers_transfer sent
      have hopen : (Link.transfer sent deselect before).state.bus.board.failure? .message =
          none := by
        rw [hboard]
        exact hmessages
      rw [ih hheld hopen hrestOrder, hcount, List.countP_cons_of_pos rfl]
      omega
    | releaseBus =>
      have hnone : calls.countP Call.isTransfer = 0 :=
        List.countP_eq_zero.mpr fun call hcall ↦ (hfirst call hcall).1 rfl
      rw [(wired_refuses_all hrest rfl).2, List.countP_cons_of_neg Bool.false_ne_true, hnone]
      rfl
    | setLine | releaseLine => exact ih hheld hmessages hrestOrder

/-- A handle is held until the bus is given back. -/
theorem held_of_played {wired last : Lined Wiring τ} (h : Played wired calls last)
    (hrelease : 0 < calls.countP Call.isBusRelease) : last.bus.bus.held = false := by
  obtain ⟨call, hcall, hisRelease⟩ := List.countP_pos_iff.mp hrelease
  obtain ⟨before, after, rfl⟩ := List.append_of_mem hcall
  obtain ⟨middle, -, hrest⟩ := h.of_append
  cases hrest with
  | cons hmade hlast =>
    cases hmade with
    | releaseBus => exact congrArg (·.bus.held) (wired_refuses_all hlast rfl).2
    | transfer | setLine | releaseLine => exact absurd hisRelease Bool.false_ne_true

end Lined

/-! ## Lives -/

theorem Call.countP_isTransfer_eq {first second : List Call}
    (h : first.map Call.blanked = second.map Call.blanked) :
    first.countP Call.isTransfer = second.countP Call.isTransfer := by
  have hblanked : Call.isTransfer ∘ Call.blanked = Call.isTransfer := by
    funext call
    cases call <;> rfl
  have hcounts := congrArg (List.countP Call.isTransfer) h
  rwa [List.countP_map, List.countP_map, hblanked] at hcounts

section Life

variable {τ : Type} [Link τ]

/-- A life comes to the same results over either, and ends with the bus given back and the same
chip. -/
theorem Interchangeable.runAll_life {checked : Bool} {first : Lined Wiring τ}
    {second : Lined Simulation τ} (h : Interchangeable checked first second)
    (hheld : first.bus.bus.held = true) (hchip : second.bus.chip = first.bus.board.chip)
    {device : Device} (hchecked : device.checked = checked) (operations : List Device.Operation) :
    let wired := play (Request.runAll none (Request.life device operations)) (.start first)
    let direct := play (Request.runAll none (Request.life device operations)) (.start second)
    wired.1 = direct.1 ∧ Session.Alike (Interchangeable checked) wired.2 direct.2 ∧
      wired.2.link.bus.bus.held = false ∧
      direct.2.link.bus.chip = wired.2.link.bus.board.chip.givenBack := by
  intro wired direct
  have hdevices : ∀ other, none = some other ∨ .start other ∈ Request.life device operations →
      other.checked = checked := by
    intro other huse
    have hother : other = device := by simpa [Request.life] using huse
    rw [hother, hchecked]
  have hstart : Session.Alike (Interchangeable checked) (.start first) (.start second) := ⟨h, rfl⟩
  obtain ⟨hresults, hend⟩ := Interchangeable.runAll hdevices _ _ hstart
  obtain ⟨calls, hcalls, hwired, started, hlived, -⟩ :=
    (Request.emits_life device operations).played (Recorded.runAll _ none) (.start first)
  obtain ⟨others, hothers, hdirect⟩ :=
    Recorded.runAll (Request.life device operations) none (.start second)
  have hreleased := hlived.releasedOnce
  have hgone := Lined.held_of_played hwired (by rw [hreleased.bus]; exact Nat.one_pos)
  have hblanked : others.map Call.blanked = calls.map Call.blanked := by
    have hsame := hend.calls
    rw [hcalls, hothers] at hsame
    exact hsame.symm
  have hcounts : direct.2.link.bus.chip.transfers = wired.2.link.bus.board.chip.transfers :=
    calc direct.2.link.bus.chip.transfers
      _ = second.bus.chip.transfers + others.countP Call.isTransfer :=
        Lined.transfers_of_played hdirect
      _ = first.bus.board.chip.transfers + calls.countP Call.isTransfer := by
        rw [hchip, Call.countP_isTransfer_eq hblanked]
      _ = wired.2.link.bus.board.chip.transfers :=
        (Lined.transfers_of_wired hwired hheld h.messages hreleased.unused).symm
  exact ⟨hresults, hend, hgone, hend.link.chip.eq_givenBack hgone hcounts⟩

/-- A descriptor is started, used and shut down over a bus that was opened on a board, and over
the chip of that board with a bus of its own. Both come to the same results with the same calls,
and leave the same chip behind. Whatever either bus is asked for afterwards is refused, and nothing
changes but the count of transfers that the chip with a bus of its own keeps. -/
theorem SpiBus.runAll_life_over_either {bus select : UInt8} {clock : Nat} {board opened : Board}
    {handle : SpiBus} {log : List Log.Record}
    (hopen : openBus bus select clock board = ⟨.ok handle, log, opened⟩)
    (hmessages : board.failure? .message = none) (hfailure : board.chip.failure = none)
    (hpresent : board.chip.released = false) {device : Device}
    (hchecked : device.checked = board.chip.checked) (operations : List Device.Operation)
    (pin : Option PinLine) (unused : SimulatedLine) (line : τ) :
    let wired := play (Request.runAll none (Request.life device operations))
      (.start (⟨⟨opened, handle, pin⟩, line⟩ : Lined Wiring τ))
    let direct := play (Request.runAll none (Request.life device operations))
      (.start (⟨⟨board.chip, unused⟩, line⟩ : Lined Simulation τ))
    wired.1 = direct.1 ∧
      wired.2.calls.map Call.blanked = direct.2.calls.map Call.blanked ∧
      wired.2.link.line = direct.2.link.line ∧
      { wired.2.link.bus.board.chip with released := true } = direct.2.link.bus.chip ∧
      (∀ calls last, Played wired.2.link calls last →
        (∀ call ∈ calls, call.Refused) ∧ last.bus = wired.2.link.bus) ∧
      ∀ calls last, Played direct.2.link calls last →
        (∀ call ∈ calls, call.Refused) ∧
          last.bus.chip = direct.2.link.bus.chip.ahead (calls.countP Call.isTransfer) := by
  intro wired direct
  obtain ⟨hheld, recorded, rfl⟩ := openBus_eq_ok hopen
  have hstart : Interchangeable board.chip.checked
      (⟨⟨{ board with calls := recorded }, handle, pin⟩, line⟩ : Lined Wiring τ)
      (⟨⟨board.chip, unused⟩, line⟩ : Lined Simulation τ) :=
    ⟨rfl, hmessages, hfailure, hpresent, rfl, .held 0 hheld⟩
  obtain ⟨hresults, hend, hgone, hchip⟩ := hstart.runAll_life hheld rfl hchecked operations
  have hdirect : direct.2.link.bus.chip.failure = none ∧
      direct.2.link.bus.chip.released = true := by
    rw [hchip]
    exact ⟨hend.link.failure, rfl⟩
  refine ⟨hresults, hend.calls, hend.link.line.symm, hchip.symm, fun calls last h ↦ ?_,
    fun calls last h ↦ ?_⟩
  · exact Lined.wired_refuses_all h hgone
  · exact Lined.direct_refuses_all h hdirect.1 hdirect.2

end Life

/-- A board with one bus node, behind which a chip without checksums has latched a fault. -/
def Board.strapped : Board where
  chip := (Simulator.fresh false 2).setRegister 4 0x11
  nodes := [⟨0, 0⟩]
  pinCount := some 54
  functions := fun _ ↦ 0
  driven := []
  taken := []
  failing := []
  calls := []

/-- A channel is switched on over the bus of a board and over a bus of the chip's own. -/
theorem SpiBus.strapped_life_over_either :
    ∃ handle log opened wired direct,
      openBus 0 0 1000000 Board.strapped = ⟨.ok handle, log, opened⟩ ∧
      Board.strapped.failure? .message = none ∧ Board.strapped.chip.failure = none ∧
      Board.strapped.chip.released = false ∧ Board.strapped.chip.checked = false ∧
      play (Request.runAll none (Request.life ⟨false, 2, true⟩ [.setFunction 1 .output,
        .setLevel 1 true, .level 1])) (.start (⟨⟨opened, handle, none⟩, .fresh false 0⟩ :
          Lined Wiring Simulation)) = wired ∧
      play (Request.runAll none (Request.life ⟨false, 2, true⟩ [.setFunction 1 .output,
        .setLevel 1 true, .level 1])) (.start (⟨⟨Board.strapped.chip, .fresh⟩, .fresh false 0⟩ :
          Lined Simulation Simulation)) = direct ∧
      wired.1 = direct.1 ∧
      { wired.2.link.bus.board.chip with released := true } = direct.2.link.bus.chip ∧
      direct.1 = (none, [.ok .done, .ok .done, .ok .done, .ok (.level true), .ok .done]) ∧
      0 < direct.2.link.bus.chip.transfers := by
  have hopen : openBus 0 0 1000000 Board.strapped = ⟨.ok ⟨⟨0, 0⟩, 1000000, true⟩, _, _⟩ := rfl
  have hchecked : (⟨false, 2, true⟩ : Device).checked = Board.strapped.chip.checked := rfl
  obtain ⟨hresults, -, -, hchip, -⟩ := runAll_life_over_either hopen rfl rfl rfl hchecked
    [.setFunction 1 .output, .setLevel 1 true, .level 1] none .fresh (Simulation.fresh false 0)
  exact ⟨_, _, _, _, _, hopen, rfl, rfl, rfl, rfl, rfl, rfl, hresults, hchip, by decide +kernel⟩

end QuadPort
