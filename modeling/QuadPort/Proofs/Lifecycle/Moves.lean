import QuadPort.Proofs.Script.Task
import QuadPort.Proofs.Trace.Played

/-!
# The order of the calls

A bring-up is one fixed script of moves: the line, four readings, and for each channel three
registers that are read and written back. It makes these moves up to the first one that
fails. A shutdown has a script of four moves for each channel, and makes those of a channel
up to the first one that fails whatever became of the channels before it; then it gives the
handles back.

`Attempt` says that a script was followed in this way. The error that is reported is that of
the move that failed, and in a shutdown that of the first move that failed.
-/

namespace QuadPort

open Conversation Register Channel

/-! ## Moves -/

/-- What a move asks of the link; the value that a write writes is left open. -/
inductive Kind
  | drive (level : LineLevel)
  | read (address : UInt8)
  | write (address : UInt8)
  | releaseBus
  | releaseLine
  deriving DecidableEq, Repr

def Kind.isTransfer : Kind → Bool
  | .read _ => true
  | .write _ => true
  | _ => false

inductive Move
  | drive (level : LineLevel) (result : Except Fault Unit)
  | exchange (made : Exchange)
  | releaseBus (result : Except Fault Unit)
  | releaseLine (result : Except Fault Unit)

namespace Move

def kind : Move → Kind
  | .drive level _ => .drive level
  | .exchange ⟨.read address, _⟩ => .read address
  | .exchange ⟨.write address _, _⟩ => .write address
  | .releaseBus _ => .releaseBus
  | .releaseLine _ => .releaseLine

def call (device : Device) : Move → Call
  | .drive level result => .setLine level result
  | .exchange made => made.call device
  | .releaseBus result => .releaseBus result
  | .releaseLine result => .releaseLine result

/-- What the move comes to: a read also fails if its response is not accepted. -/
def verdict (device : Device) : Move → Except Error Unit
  | .drive _ result => result.mapError .transport
  | .exchange made => (made.verdict device).map fun _ ↦ ()
  | .releaseBus result => result.mapError .transport
  | .releaseLine result => result.mapError .transport

end Move

/-- Moves that follow a script up to the first one that fails, and what they come to. -/
inductive Attempt (device : Device) : List Kind → List Move → Except Error Unit → Prop
  | done : Attempt device [] [] (.ok ())
  | stopped {move : Move} {kinds : List Kind} {error : Error}
    (h : move.verdict device = .error error) :
    Attempt device (move.kind :: kinds) [move] (.error error)
  | next {move : Move} {kinds : List Kind} {moves : List Move} {result : Except Error Unit}
    (h : move.verdict device = .ok ()) (hrest : Attempt device kinds moves result) :
    Attempt device (move.kind :: kinds) (move :: moves) result

namespace Attempt

variable {device : Device} {kinds : List Kind} {moves : List Move} {result : Except Error Unit}

theorem isPrefix (h : Attempt device kinds moves result) : moves.map Move.kind <+: kinds := by
  induction h with
  | done => exact List.nil_prefix
  | stopped => exact List.cons_prefix_cons.mpr ⟨rfl, List.nil_prefix⟩
  | next _ _ ih => exact List.cons_prefix_cons.mpr ⟨rfl, ih⟩

/-- An attempt that succeeds has followed the whole script. -/
theorem of_ok (h : Attempt device kinds moves result) (hok : result = .ok ()) :
    moves.map Move.kind = kinds ∧ ∀ move ∈ moves, move.verdict device = .ok () := by
  induction h with
  | done => exact ⟨rfl, List.forall_mem_nil _⟩
  | stopped => cases hok
  | next h _ ih =>
    obtain ⟨hkinds, hmoves⟩ := ih hok
    exact ⟨congrArg _ hkinds, List.forall_mem_cons.mpr ⟨h, hmoves⟩⟩

/-- An attempt that fails ends with the one move that failed. -/
theorem of_error {error : Error} (h : Attempt device kinds moves result)
    (herror : result = .error error) :
    ∃ front last, moves = front ++ [last] ∧ (∀ move ∈ front, move.verdict device = .ok ()) ∧
      last.verdict device = .error error := by
  induction h with
  | done => cases herror
  | stopped h =>
    cases herror
    exact ⟨[], _, rfl, List.forall_mem_nil _, h⟩
  | next h _ ih =>
    obtain ⟨front, last, rfl, hfront, hlast⟩ := ih herror
    exact ⟨_ :: front, last, rfl, List.forall_mem_cons.mpr ⟨h, hfront⟩, hlast⟩

/-- An attempt comes to the first failure among its moves. -/
theorem failure_eq (h : Attempt device kinds moves result) :
    (moves.map (Move.verdict device)).findSome? Device.failure? = Device.failure? result := by
  induction h with
  | done => rfl
  | stopped h => rw [List.map_singleton, h]; rfl
  | next h _ ih => rw [List.map_cons, h, ← ih]; rfl

end Attempt

/-! ## Lines of tasks -/

def Task.kinds : Task → List Kind
  | .read address => [.read address]
  | .update change => [.read change.address, .write change.address]

section Exchange

variable {device : Device} {access : Access} {reply : Reply}

theorem Access.verdict_move {value : UInt8} (h : access.verdict device reply = .ok value) :
    (Move.exchange ⟨access, reply⟩).verdict device = .ok () := by
  rw [Move.verdict, Exchange.verdict, h]
  rfl

theorem Access.verdict_move_error {error : Error}
    (h : access.verdict device reply = .error error) :
    (Move.exchange ⟨access, reply⟩).verdict device = .error error := by
  rw [Move.verdict, Exchange.verdict, h]
  rfl

end Exchange

/-- A line of tasks on registers that there are follows the script of its moves. -/
theorem Carried.attempt {device : Device} {tasks : List Task} {exchanges : List Exchange}
    {result : Except Error Unit} (h : Carried device tasks exchanges result)
    (haddress : ∀ task ∈ tasks, task.address ≤ maxAddress) :
    Attempt device (tasks.flatMap Task.kinds) (exchanges.map .exchange) result := by
  induction h with
  | done => exact .done
  | refused hrefused => exact absurd (haddress _ (.head _)) (UInt8.not_le.mpr hrefused)
  | @rejected task _ _ _ h => cases task <;> exact .stopped (Access.verdict_move_error h)
  | read h _ ih =>
    exact .next (Access.verdict_move h) (ih fun task hmem ↦ haddress task (.tail _ hmem))
  | unwritten h hwrite =>
    exact .next (Access.verdict_move h) (.stopped (Access.verdict_move_error hwrite))
  | written h hwrite _ ih =>
    have hrest := ih fun task hmem ↦ haddress task (.tail _ hmem)
    exact .next (Access.verdict_move h) (.next (Access.verdict_move hwrite) hrest)

namespace Device

variable (device : Device)

/-! ## Bring-up -/

def script : List Kind :=
  (if device.hasLine then [.drive .high] else []) ++
    ([.read 0x04, .read 0x05, .read 0x06, .read 0x07] ++ channels.flatMap fun _ ↦
      [.read 0x0D, .write 0x0D, .read 0x00, .write 0x00, .read 0x0E, .write 0x0E])

theorem kinds_prepare : Task.prepare.flatMap Task.kinds =
    [.read 0x04, .read 0x05, .read 0x06, .read 0x07] ++ channels.flatMap fun _ ↦
      [.read 0x0D, .write 0x0D, .read 0x00, .write 0x00, .read 0x0E, .write 0x0E] := rfl

theorem address_prepare : ∀ task ∈ Task.prepare, task.address ≤ maxAddress := by
  decide

theorem length_script : (device.script.filter Kind.isTransfer).length = 28 := by
  unfold script
  split <;> rfl

variable {device} {calls : List Call} {result : Except Error Unit}

/-- A bring-up follows its script, unless there is no such chip address. Once the line is driven
its exchanges are those of the tasks of a bring-up. -/
theorem BroughtUp.attempt (h : device.BroughtUp calls result) :
    (maxChip < device.chip ∧ calls = [] ∧
      result = .error (.invalidArgument (.chip device.chip))) ∨
    (device.chip ≤ maxChip ∧ ∃ (drives : List Move) (exchanges : List Exchange),
      calls = (drives ++ exchanges.map Move.exchange).map (Move.call device) ∧
      (∀ move ∈ drives, move.kind = .drive .high) ∧
      ((∀ move ∈ drives, move.verdict device = .ok ()) →
        Carried device Task.prepare exchanges result) ∧
      Attempt device device.script (drives ++ exchanges.map .exchange) result) := by
  cases h with
  | chip hchip => exact .inl ⟨hchip, rfl, rfl⟩
  | @line fault hchip hline =>
    have hfailed : (Move.drive .high (.error fault)).verdict device =
        .error (.transport fault) := rfl
    refine .inr ⟨hchip, [.drive .high (.error fault)], [], rfl,
      List.forall_mem_singleton.mpr rfl, fun hdriven ↦ ?_, ?_⟩
    · cases List.forall_mem_singleton.mp hdriven
    · rw [Device.script, if_pos hline]
      exact .stopped hfailed
  | @script exchanges result hchip hpath =>
    have hcarried := hpath.carried .prepare
    have hattempt := hcarried.attempt address_prepare
    rw [kinds_prepare] at hattempt
    have hcalls : (exchanges.map Move.exchange).map (Move.call device) =
        exchanges.map (Exchange.call device) := by
      rw [List.map_map]
      rfl
    refine .inr ⟨hchip, ?_⟩
    unfold Device.script
    cases hline : device.hasLine with
    | false =>
      refine ⟨[], exchanges, ?_, List.forall_mem_nil _, fun _ ↦ hcarried, hattempt⟩
      rw [opening_eq_nil device hline, List.nil_append, List.nil_append, hcalls]
    | true =>
      have hdriven : (Move.drive .high (.ok ())).verdict device = .ok () := rfl
      refine ⟨[.drive .high (.ok ())], exchanges, ?_, List.forall_mem_singleton.mpr rfl,
        fun _ ↦ hcarried, .next hdriven hattempt⟩
      rw [opening_eq_setLine device hline, List.map_append, hcalls]
      rfl

/-! ## Shutting down -/

def floating : List Kind :=
  [.read 0x0D, .write 0x0D, .read 0x00, .write 0x00]

theorem address_function (channel : UInt8) (function : Function) :
    ∀ task ∈ (Update.function channel function).map Task.update, task.address ≤ maxAddress := by
  cases function <;>
    simp [Update.function, Function.mode?, Update.mode, Update.direction, Task.address] <;> decide

/-- Every channel is floated by an attempt of its own. -/
theorem attempts_of_floats {floats : List (List Exchange × Except Error Unit)}
    (h : List.Forall₂ (fun channel float ↦
      Script.Path device (Script.setFunction channel .highZ) float.1 float.2) channels floats) :
    List.Forall₂ (fun channel float ↦
      Carried device ((Update.function channel .highZ).map .update) float.1 float.2 ∧
        Attempt device floating (float.1.map .exchange) float.2) channels floats := by
  refine (List.forall₂_and_left _ _).mpr ⟨lt_of_mem_channels, h⟩ |>.imp ?_
  rintro channel float ⟨hchannel, hpath⟩
  have hcarried := hpath.carried (.setFunction hchannel .highZ)
  exact ⟨hcarried, hcarried.attempt (address_function channel .highZ)⟩

/-- The first failure of several attempts is that of all their moves in a row. -/
theorem firstFailure_floats {channels : List UInt8}
    {floats : List (List Exchange × Except Error Unit)}
    (h : List.Forall₂ (fun _ float ↦ Attempt device floating (float.1.map .exchange) float.2)
      channels floats) (results : List (Except Error Unit)) :
    firstFailure ((floats.flatMap fun float ↦ float.1.map Move.exchange).map
        (Move.verdict device) ++ results) =
      firstFailure (floats.map Prod.snd ++ results) := by
  have hfloats : ((floats.flatMap fun float ↦ float.1.map Move.exchange).map
      (Move.verdict device)).findSome? failure? = (floats.map Prod.snd).findSome? failure? := by
    induction h with
    | nil => rfl
    | @cons _ float _ floats hattempt _ ih =>
      calc
        (((float :: floats).flatMap fun float ↦ float.1.map Move.exchange).map
          (Move.verdict device)).findSome? failure?
        _ = (((float.1.map Move.exchange).map (Move.verdict device)).findSome? failure?).or
            (((floats.flatMap fun float ↦ float.1.map Move.exchange).map
              (Move.verdict device)).findSome? failure?) := by
          rw [List.flatMap_cons, List.map_append, List.findSome?_append]
        _ = (failure? float.2).or ((floats.map Prod.snd).findSome? failure?) := by
          rw [hattempt.failure_eq, ih]
        _ = ((float :: floats).map Prod.snd).findSome? failure? := by
          rw [List.map_cons, List.findSome?_cons]
          cases failure? float.2 <;> rfl
  unfold firstFailure
  rw [List.findSome?_append, hfloats, ← List.findSome?_append]

theorem failure?_eq_none : failure? result = none ↔ result = .ok () := by
  cases result <;> simp [failure?]

theorem failure?_eq_some {error : Error} :
    failure? result = some error ↔ result = .error error := by
  cases result <;> simp [failure?]

/-- The first failure among moves is that of a move before which all others succeeded. -/
theorem firstFailure_verdicts (device : Device) (moves : List Move) :
    match firstFailure (moves.map (Move.verdict device)) with
    | .ok () => ∀ move ∈ moves, move.verdict device = .ok ()
    | .error error => ∃ front last back, moves = front ++ last :: back ∧
        (∀ move ∈ front, move.verdict device = .ok ()) ∧ last.verdict device = .error error := by
  unfold firstFailure
  rw [List.findSome?_map]
  cases hfirst : moves.findSome? (failure? ∘ Move.verdict device) with
  | none =>
    exact fun move hmem ↦ failure?_eq_none.mp (List.findSome?_eq_none_iff.mp hfirst move hmem)
  | some error =>
    obtain ⟨front, last, back, hmoves, hlast, hfront⟩ := List.findSome?_eq_some_iff.mp hfirst
    exact ⟨front, last, back, hmoves, fun move hmem ↦ failure?_eq_none.mp (hfront move hmem),
      failure?_eq_some.mp hlast⟩

/-- The calls on the line at the end of a shutdown are moves. -/
theorem Closed.exists_moves {results : List (Except Error Unit)} (h : device.Closed calls results) :
    ∃ moves : List Move, calls = moves.map (Move.call device) ∧
      results = moves.map (Move.verdict device) ∧
      moves.map Move.kind = if device.hasLine then [.drive .highZ, .releaseLine] else [] := by
  unfold Closed at h
  split at h
  · obtain ⟨level, line, rfl, rfl⟩ := h
    exact ⟨[.drive .highZ level, .releaseLine line], rfl, rfl, (if_pos ‹_›).symm⟩
  · obtain ⟨rfl, rfl⟩ := h
    exact ⟨[], rfl, rfl, (if_neg ‹_›).symm⟩

/-! ## Over any link -/

variable {σ : Type} [Link σ]

/-- A start makes the moves of its script up to the first one that fails, and what it does to the
link is what its calls do. Once the line is driven, every write is pinned by the task that it
belongs to. When no move fails, nothing is given back; otherwise the handles are, and the error
that is reported is that of the move that failed, whatever the releases come to. -/
theorem start_follows_script (device : Device) (session : Session σ) :
    ∃ (drives : List Move) (exchanges : List Exchange) (cleanUp : List Call),
      let moves := drives ++ exchanges.map .exchange
      let calls := moves.map (Move.call device) ++ cleanUp
      (enact device.start session).2.calls = session.calls ++ calls ∧
        Played session.link calls (enact device.start session).2.link ∧
        moves.map Move.kind <+: device.script ∧
        (device.script.filter Kind.isTransfer).length = 28 ∧
        (∀ move ∈ drives, move.kind = .drive .high) ∧
        (device.chip ≤ maxChip → (∀ move ∈ drives, move.verdict device = .ok ()) →
          Carried device Task.prepare exchanges (enact device.start session).1) ∧
        match (enact device.start session).1 with
        | .ok () => device.chip ≤ maxChip ∧ moves.map Move.kind = device.script ∧
            (∀ move ∈ moves, move.verdict device = .ok ()) ∧ cleanUp = []
        | .error error => device.Released cleanUp ∧
            if maxChip < device.chip then
              moves = [] ∧ error = .invalidArgument (.chip device.chip)
            else ∃ front last, moves = front ++ [last] ∧
              (∀ move ∈ front, move.verdict device = .ok ()) ∧
                last.verdict device = .error error := by
  obtain ⟨calls, hcalls, hplayed, hstarted⟩ :=
    (emits_start device).played (Recorded.start device) session
  rw [play_run] at hcalls hplayed hstarted
  generalize enact device.start session = after at *
  obtain ⟨result, after⟩ := after
  cases hstarted with
  | ready hready =>
    obtain ⟨-, -, hrefused⟩ | ⟨hchip, drives, exchanges, rfl, hdrives, hcarried, hattempt⟩ :=
      hready.attempt
    · cases hrefused
    · obtain ⟨hkinds, hmoves⟩ := hattempt.of_ok rfl
      refine ⟨drives, exchanges, [], ?_, ?_, hattempt.isPrefix, length_script device, hdrives,
        fun _ ↦ hcarried, hchip, hkinds, hmoves, rfl⟩
      · rw [List.append_nil, hcalls]
      · rw [List.append_nil]
        exact hplayed
  | @failed _ cleanUp error hfailed hreleased =>
    obtain ⟨hchip, rfl, hrefused⟩ | ⟨hchip, drives, exchanges, rfl, hdrives, hcarried, hattempt⟩ :=
      hfailed.attempt
    · cases hrefused
      exact ⟨[], [], cleanUp, hcalls, hplayed, List.nil_prefix, length_script device,
        List.forall_mem_nil _, fun hle ↦ absurd hle (UInt8.not_le.mpr hchip), hreleased,
        if_pos hchip ▸ ⟨rfl, rfl⟩⟩
    · have hstop := hattempt.of_error rfl
      refine ⟨drives, exchanges, cleanUp, hcalls, hplayed, hattempt.isPrefix,
        length_script device, hdrives, fun _ ↦ hcarried, hreleased, ?_⟩
      rwa [if_neg (UInt8.not_lt.mpr hchip)]

/-- A shutdown floats every channel by an attempt of its own and gives the handles back,
whatever fails, and reports the first failure among all these moves. What it does to the link is
what its calls do. -/
theorem shutDown_attempts_all (device : Device) (session : Session σ) :
    ∃ (floats : List (List Exchange × Except Error Unit)) (closing : List Move),
      let moves := floats.flatMap (fun float ↦ float.1.map .exchange) ++ closing
      (enact device.shutDown session).2.calls = session.calls ++ moves.map (Move.call device) ∧
        Played session.link (moves.map (Move.call device))
          (enact device.shutDown session).2.link ∧
        List.Forall₂ (fun channel float ↦
          Carried device ((Update.function channel .highZ).map .update) float.1 float.2 ∧
            Attempt device floating (float.1.map .exchange) float.2) channels floats ∧
        closing.map Move.kind =
          .releaseBus :: (if device.hasLine then [.drive .highZ, .releaseLine] else []) ∧
        match (enact device.shutDown session).1 with
        | .ok () => ∀ move ∈ moves, move.verdict device = .ok ()
        | .error error => ∃ front last back, moves = front ++ last :: back ∧
            (∀ move ∈ front, move.verdict device = .ok ()) ∧
              last.verdict device = .error error := by
  obtain ⟨calls, hcalls, hplayed, hshutDown⟩ :=
    (emits_shutDown device).played (Recorded.shutDown device) session
  rw [play_run] at hcalls hplayed hshutDown
  generalize enact device.shutDown session = after at *
  obtain ⟨result, after⟩ := after
  cases hshutDown with
  | @intro floats bus line closed hfloats hclosed =>
    obtain ⟨moves, rfl, rfl, hkinds⟩ := hclosed.exists_moves
    have hattempts := attempts_of_floats hfloats
    have hmoves : (floats.flatMap (fun float ↦ float.1.map Move.exchange) ++
        .releaseBus bus :: moves).map (Move.call device) =
          floats.flatMap (fun float ↦ float.1.map (Exchange.call device)) ++
            .releaseBus bus :: moves.map (Move.call device) := by
      rw [List.map_append, List.map_flatMap]
      simp only [List.map_map]
      rfl
    refine ⟨floats, .releaseBus bus :: moves, hmoves ▸ hcalls, hmoves ▸ hplayed, hattempts, ?_, ?_⟩
    · rw [List.map_cons, hkinds]
      rfl
    · have hfirst := firstFailure_verdicts device
        (floats.flatMap (fun float ↦ float.1.map .exchange) ++ .releaseBus bus :: moves)
      rwa [List.map_append, firstFailure_floats (hattempts.imp fun _ _ ↦ And.right)] at hfirst

end Device

end QuadPort
