import QuadPort.Proofs.Lifecycle

/-!
# Tasks

Bringing a chip up and changing a channel are straight lines of tasks: each task reads one
register, and an update writes it back with some of its bits replaced. `Carried` lists the
exchanges that a line of tasks makes with a chip, whatever the chip replies. A write has only
one place in it, directly behind an accepted read of the same register.

`Script.Follows` says that a script is such a line. It composes along sequencing, so the
operations of a descriptor get their tasks piece by piece.
-/

namespace QuadPort

open Register Channel

/-- A read is accepted if the transfer succeeds and its response can be decoded. -/
theorem Access.verdict_read_eq_ok {device : Device} {address value : UInt8} {reply : Reply} :
    (Access.read address).verdict device reply = .ok value ↔
      reply.result = .ok () ∧ Frame.decode reply.buffer device.checked = .ok value := by
  unfold Access.verdict
  cases reply.result <;> simp

/-- A change of the bits of a register that a mask selects. -/
structure Update where
  address : UInt8
  mask : UInt8
  value : UInt8
  deriving DecidableEq, Repr

namespace Update

def apply (update : Update) (current : UInt8) : UInt8 :=
  replace update.mask current update.value

def latch (channel : UInt8) (high : Bool) : Update :=
  ⟨Name.setOut.address, 1 <<< channel, if high then 1 <<< channel else 0⟩

def direction (channel : UInt8) (function : Function) : Update :=
  ⟨Name.setOut.address, 1 <<< (channel + 4), function.direction <<< (channel + 4)⟩

def mode (channel : UInt8) (mode : OutputMode) : Update :=
  ⟨Name.configOutput.address, 0b11 <<< (2 * channel), mode.bits <<< (2 * channel)⟩

def limit (channel : UInt8) (limit : CurrentLimit) : Update :=
  ⟨Name.configLimit.address, 0b11 <<< (2 * channel), limit.bits <<< (2 * channel)⟩

/-- Gives a channel a function: the output mode if the function asks for one, then the
direction. -/
def function (channel : UInt8) (wanted : Function) : List Update :=
  (wanted.mode?.map (mode channel)).toList ++ [direction channel wanted]

theorem bit_apply (update : Update) (current : UInt8) (place : Nat) :
    bit (update.apply current) place =
      if bit update.mask place then bit update.value place else bit current place :=
  bit_replace _ _ _ _

end Update

/-- One access to a register for its value, or an update of it. -/
inductive Task
  | read (address : UInt8)
  | update (change : Update)
  deriving DecidableEq, Repr

namespace Task

def address : Task → UInt8
  | .read address => address
  | .update change => change.address

def readFaults : List Task :=
  Name.latched.map fun name ↦ .read name.address

def snapshot : List Task :=
  channels.map (fun _ ↦ .read Name.level.address) ++ readFaults

def prepareChannel (channel : UInt8) : List Task :=
  (Update.function channel .highZ ++ [Update.limit channel .lowest]).map .update

def setUpChannel (channel : UInt8) (function : Function) (limit : CurrentLimit) : List Task :=
  .update (.limit channel limit) :: (Update.function channel function).map .update

def prepare : List Task :=
  readFaults ++ channels.flatMap prepareChannel

end Task

/-- What a line of tasks exchanges with a chip and what it comes to. A task starts with a
read, and its failure ends the line. -/
inductive Carried (device : Device) :
    List Task → List Exchange → Except Error Unit → Prop
  | done : Carried device [] [] (.ok ())
  | refused {task : Task} {tasks : List Task} (h : maxAddress < task.address) :
    Carried device (task :: tasks) [] (.error (.invalidArgument (.register task.address)))
  | rejected {task : Task} {tasks : List Task} {reply : Reply} {error : Error}
    (h : (Access.read task.address).verdict device reply = .error error) :
    Carried device (task :: tasks) [⟨.read task.address, reply⟩] (.error error)
  | read {address current : UInt8} {tasks : List Task} {reply : Reply}
    {rest : List Exchange} {result : Except Error Unit}
    (h : (Access.read address).verdict device reply = .ok current)
    (hrest : Carried device tasks rest result) :
    Carried device (.read address :: tasks) (⟨.read address, reply⟩ :: rest) result
  | unwritten {update : Update} {current : UInt8} {tasks : List Task} {reply answer : Reply}
    {error : Error} (h : (Access.read update.address).verdict device reply = .ok current)
    (hwrite : (Access.write update.address (update.apply current)).verdict device answer =
      .error error) :
    Carried device (.update update :: tasks)
      [⟨.read update.address, reply⟩, ⟨.write update.address (update.apply current), answer⟩]
      (.error error)
  | written {update : Update} {current value : UInt8} {tasks : List Task}
    {reply answer : Reply} {rest : List Exchange} {result : Except Error Unit}
    (h : (Access.read update.address).verdict device reply = .ok current)
    (hwrite : (Access.write update.address (update.apply current)).verdict device answer =
      .ok value)
    (hrest : Carried device tasks rest result) :
    Carried device (.update update :: tasks)
      (⟨.read update.address, reply⟩ :: ⟨.write update.address (update.apply current), answer⟩ ::
        rest) result

namespace Carried

variable {device : Device} {first second : List Task} {exchanges rest : List Exchange}
  {result : Except Error Unit}

/-- A line that was carried to its end may be continued. -/
theorem append (h : Carried device first exchanges (.ok ()))
    (hrest : Carried device second rest result) :
    Carried device (first ++ second) (exchanges ++ rest) result := by
  generalize hend : (Except.ok () : Except Error Unit) = outcome at h
  induction h with
  | done => exact hrest
  | refused | rejected | unwritten => cases hend
  | read h _ ih => exact .read h (ih hend)
  | written h hwrite _ ih => exact .written h hwrite (ih hend)

/-- Nothing of what comes later shows in a line that failed. -/
theorem append_of_error {error : Error} (h : Carried device first exchanges (.error error)) :
    Carried device (first ++ second) exchanges (.error error) := by
  generalize hend : (Except.error error : Except Error Unit) = outcome at h
  induction h with
  | done => cases hend
  | refused h => exact .refused h
  | rejected h => exact .rejected h
  | unwritten h hwrite => exact .unwritten h hwrite
  | read h _ ih => exact .read h (ih hend)
  | written h hwrite _ ih => exact .written h hwrite (ih hend)

/-- An exchange that is not the first one of a list is among the later ones. -/
theorem split_tail {head other : Exchange} {tail front back : List Exchange}
    (hsplit : head :: tail = front ++ other :: back) (hne : head ≠ other) :
    ∃ later, front = head :: later ∧ tail = later ++ other :: back := by
  rcases List.cons_eq_append_iff.mp hsplit with ⟨-, hhead⟩ | hlater
  · exact absurd (List.cons.inj hhead).1.symm hne
  · exact hlater

/-- A write directly follows an accepted read of its register, and what it writes is what an
update of the line makes of the byte that was read. Only the second exchange of an update is a
write. -/
theorem write_preceded {tasks : List Task} (h : Carried device tasks exchanges result)
    {front back : List Exchange} {address value : UInt8} {reply : Reply}
    (hsplit : exchanges = front ++ ⟨.write address value, reply⟩ :: back) :
    ∃ earlier answer current change,
      front = earlier ++ [⟨.read address, answer⟩] ∧
        (Access.read address).verdict device answer = .ok current ∧
        .update change ∈ tasks ∧ change.address = address ∧ value = change.apply current := by
  induction h generalizing front with
  | done | refused => simp at hsplit
  | rejected =>
    obtain ⟨later, rfl, hrest⟩ := split_tail hsplit nofun
    simp at hrest
  | read _ _ ih =>
    obtain ⟨later, rfl, hrest⟩ := split_tail hsplit nofun
    obtain ⟨earlier, answer, current, change, rfl, hcurrent, hmem, hwritten⟩ := ih hrest
    exact ⟨_ :: earlier, answer, current, change, rfl, hcurrent, .tail _ hmem, hwritten⟩
  | unwritten hread =>
    obtain ⟨later, rfl, hrest⟩ := split_tail hsplit nofun
    obtain ⟨rfl, hnext⟩ | ⟨later, rfl, hlast⟩ := List.cons_eq_append_iff.mp hrest
    · cases hnext
      exact ⟨[], _, _, _, rfl, hread, .head _, rfl, rfl⟩
    · simp at hlast
  | written hread _ _ ih =>
    obtain ⟨later, rfl, hrest⟩ := split_tail hsplit nofun
    obtain ⟨rfl, hnext⟩ | ⟨later, rfl, hlast⟩ := List.cons_eq_append_iff.mp hrest
    · cases hnext
      exact ⟨[], _, _, _, rfl, hread, .head _, rfl, rfl⟩
    · obtain ⟨earlier, answer, current, change, rfl, hcurrent, hmem, hwritten⟩ := ih hlast
      exact ⟨_ :: _ :: earlier, answer, current, change, rfl, hcurrent, .tail _ hmem, hwritten⟩

/-- A line of reads makes no other accesses. -/
theorem isRead_of_reads {tasks : List Task} (h : Carried device tasks exchanges result)
    (htasks : ∀ task ∈ tasks, ∃ address, task = .read address) :
    ∀ exchange ∈ exchanges, .read exchange.access.address ∈ tasks ∧
      exchange.access = .read exchange.access.address := by
  induction h with
  | done | refused => exact List.forall_mem_nil _
  | @rejected task tasks reply error =>
    obtain ⟨address, rfl⟩ := htasks _ (.head _)
    exact List.forall_mem_singleton.mpr ⟨.head _, rfl⟩
  | read _ _ ih =>
    refine List.forall_mem_cons.mpr ⟨⟨.head _, rfl⟩, fun exchange hmem ↦ ?_⟩
    have hrest := ih (fun task htask ↦ htasks task (.tail _ htask)) exchange hmem
    exact ⟨.tail _ hrest.1, hrest.2⟩
  | unwritten | written =>
    obtain ⟨address, hread⟩ := htasks _ (.head _)
    cases hread

/-- A read that was accepted is not one that failed. -/
theorem ne_of_verdict {first second : UInt8} {reply answer : Reply} {current : UInt8}
    {error : Error} (h : (Access.read first).verdict device reply = .ok current)
    (hfailed : (Access.read second).verdict device answer = .error error) :
    (⟨.read first, reply⟩ : Exchange) ≠ ⟨.read second, answer⟩ := by
  intro hsame
  cases hsame
  cases h.symm.trans hfailed

/-- A read that fails ends the line with its error. -/
theorem read_failed {tasks : List Task} (h : Carried device tasks exchanges result)
    {front back : List Exchange} {address : UInt8} {reply : Reply} {error : Error}
    (hsplit : exchanges = front ++ ⟨.read address, reply⟩ :: back)
    (hverdict : (Access.read address).verdict device reply = .error error) :
    back = [] ∧ result = .error error := by
  induction h generalizing front with
  | done | refused => simp at hsplit
  | rejected h =>
    obtain ⟨rfl, hhead⟩ | ⟨later, rfl, hrest⟩ := List.cons_eq_append_iff.mp hsplit
    · cases hhead
      cases h.symm.trans hverdict
      exact ⟨rfl, rfl⟩
    · simp at hrest
  | read h _ ih =>
    obtain ⟨later, rfl, hrest⟩ := split_tail hsplit (ne_of_verdict h hverdict)
    exact ih hrest
  | unwritten h =>
    obtain ⟨later, rfl, hrest⟩ := split_tail hsplit (ne_of_verdict h hverdict)
    obtain ⟨last, rfl, hlast⟩ := split_tail hrest nofun
    simp at hlast
  | written h _ _ ih =>
    obtain ⟨later, rfl, hrest⟩ := split_tail hsplit (ne_of_verdict h hverdict)
    obtain ⟨last, rfl, hlast⟩ := split_tail hrest nofun
    exact ih hlast

end Carried

/-! ## Scripts that are lines of tasks -/

namespace Script

variable {α β : Type} {device : Device}

/-- The exchanges of two scripts in a row are those of the first one, and if it succeeds
those of the second one behind them. -/
theorem Path.of_bind {script : Script α} {next : α → Script β} {exchanges : List Exchange}
    {result : Except Error β} (h : Path device (script >>= next) exchanges result) :
    (∃ error, result = .error error ∧ Path device script exchanges (.error error)) ∨
      ∃ value first rest, exchanges = first ++ rest ∧ Path device script first (.ok value) ∧
        Path device (next value) rest result := by
  change Path device (script.bind next) exchanges result at h
  induction script generalizing exchanges with
  | done value => exact .inr ⟨value, [], exchanges, rfl, .done value, h⟩
  | fail error =>
    cases h with
    | fail => exact .inl ⟨error, rfl, .fail error⟩
  | note record script ih =>
    cases h with
    | note h =>
      rcases ih h with ⟨error, rfl, hpath⟩ | ⟨value, first, rest, rfl, hfirst, hrest⟩
      · exact .inl ⟨error, rfl, .note hpath⟩
      · exact .inr ⟨value, first, rest, rfl, .note hfirst, hrest⟩
  | ask access script ih =>
    cases h with
    | refused h => exact .inl ⟨_, rfl, .refused h⟩
    | rejected h hverdict => exact .inl ⟨_, rfl, .rejected h hverdict⟩
    | accepted h hverdict hrest =>
      rcases ih _ hrest with ⟨error, rfl, hpath⟩ | ⟨value, first, rest, rfl, hfirst, hlast⟩
      · exact .inl ⟨error, rfl, .accepted h hverdict hpath⟩
      · exact .inr ⟨value, _ :: first, rest, rfl, .accepted h hverdict hfirst, hlast⟩

/-- Every run of the script against a chip is a run of the line of tasks. -/
def Follows (script : Script α) (tasks : List Task) : Prop :=
  ∀ (device : Device) (exchanges : List Exchange) (result : Except Error α),
    Path device script exchanges result →
      Carried device tasks exchanges (result.map fun _ ↦ ())

namespace Follows

theorem pure (value : α) : Follows (pure value) [] := by
  intro device exchanges result hpath
  cases hpath with
  | done => exact .done

theorem report (level : Log.Level) (target : Log.Target) (message : String) :
    Follows (report level target message) [] := by
  intro device exchanges result hpath
  cases hpath with
  | note hpath =>
    cases hpath with
    | done => exact .done

theorem bind {script : Script α} {next : α → Script β} {first second : List Task}
    (h : Follows script first) (hnext : ∀ value, Follows (next value) second) :
    Follows (script >>= next) (first ++ second) := by
  intro device exchanges result hpath
  rcases hpath.of_bind with ⟨error, rfl, hfailed⟩ | ⟨value, front, rest, rfl, hfront, hrest⟩
  · exact (h device exchanges _ hfailed).append_of_error
  · exact (h device front _ hfront).append (hnext value device rest result hrest)

theorem forM {ι : Type} {step : ι → Script PUnit} {tasks : ι → List Task} {items : List ι}
    (h : ∀ item ∈ items, Follows (step item) (tasks item)) :
    Follows (items.forM step) (items.flatMap tasks) := by
  induction items with
  | nil => exact pure ()
  | cons item items ih =>
    exact (h item (.head _)).bind fun _ ↦ ih fun other hother ↦ h other (.tail _ hother)

theorem readRegister (address : UInt8) : Follows (readRegister address) [.read address] := by
  intro device exchanges result hpath
  cases hpath with
  | refused h => exact .refused h
  | rejected h hverdict => exact .rejected hverdict
  | accepted h hverdict hrest =>
    cases hrest with
    | done => exact .read hverdict .done

theorem updateRegister (change : Update) :
    Follows (updateRegister change.address change.mask change.value) [.update change] := by
  intro device exchanges result hpath
  cases hpath with
  | refused h => exact .refused h
  | rejected h hverdict => exact .rejected hverdict
  | accepted h hverdict hrest =>
    cases hrest with
    | refused hrefused => exact absurd h (UInt8.not_le.mpr hrefused)
    | rejected _ hwrite => exact .unwritten hverdict hwrite
    | accepted _ hwrite hend =>
      cases hend with
      | done => exact .written hverdict hwrite .done

theorem onChannel {script : Script α} {tasks : List Task} {channel : UInt8}
    (hchannel : channel < channelCount) (h : Follows script tasks) :
    Follows (onChannel channel script) tasks := by
  rw [Script.onChannel, if_pos hchannel]
  exact h

/-! ### Operations -/

theorem readFaults : Follows readFaults Task.readFaults :=
  (readRegister _).bind fun _ ↦ (readRegister _).bind fun _ ↦ (readRegister _).bind fun _ ↦
    (readRegister _).bind fun _ ↦ pure _

theorem reportCleared (faults : LatchedFaults) : Follows (reportCleared faults) [] := by
  unfold Script.reportCleared
  split
  · exact report _ _ _
  · exact pure ()

theorem setMode (channel : UInt8) (function : Function) :
    Follows (setMode channel function)
      ((function.mode?.map (Update.mode channel)).toList.map .update) := by
  unfold Script.setMode
  cases function.mode? with
  | none => exact pure ()
  | some mode => exact updateRegister (Update.mode channel mode)

variable {channel : UInt8} (hchannel : channel < channelCount)

include hchannel

theorem level : Follows (level channel) [.read Name.level.address] :=
  onChannel hchannel ((readRegister _).bind fun _ ↦ pure _)

theorem setLevel (high : Bool) :
    Follows (setLevel channel high) [.update (Update.latch channel high)] :=
  onChannel hchannel (updateRegister (Update.latch channel high))

theorem setFunction (function : Function) :
    Follows (setFunction channel function) ((Update.function channel function).map .update) := by
  have htasks : (Update.function channel function).map Task.update =
      (function.mode?.map (Update.mode channel)).toList.map .update ++
        ([.update (Update.direction channel function)] ++ []) :=
    List.map_append
  rw [htasks]
  exact onChannel hchannel ((setMode channel function).bind fun _ ↦
    (updateRegister (Update.direction channel function)).bind fun _ ↦ report _ _ _)

theorem setLimit (limit : CurrentLimit) :
    Follows (setLimit channel limit) [.update (Update.limit channel limit)] :=
  onChannel hchannel (updateRegister (Update.limit channel limit))

theorem setUpChannel (function : Function) (limit : CurrentLimit) :
    Follows (setUpChannel channel function limit) (Task.setUpChannel channel function limit) := by
  have htasks : Task.setUpChannel channel function limit =
      [.update (.limit channel limit)] ++
        ((Update.function channel function).map .update ++ []) := by
    rw [List.append_nil]
    rfl
  rw [htasks]
  exact (setLimit hchannel limit).bind fun _ ↦ (setFunction hchannel function).bind fun _ ↦
    report _ _ _

theorem prepareChannel : Follows (prepareChannel channel) (Task.prepareChannel channel) := by
  rw [Task.prepareChannel, List.map_append]
  exact (setFunction hchannel .highZ).bind fun _ ↦ setLimit hchannel .lowest

omit hchannel in
theorem snapshot : Follows snapshot Task.snapshot :=
  (level (by decide)).bind fun _ ↦ (level (by decide)).bind fun _ ↦
    (level (by decide)).bind fun _ ↦ (level (by decide)).bind fun _ ↦ readFaults.bind fun _ ↦ pure _

omit hchannel in
theorem prepare : Follows prepare Task.prepare :=
  readFaults.bind fun faults ↦ (reportCleared faults).bind fun _ ↦
    forM fun channel hmem ↦ prepareChannel (lt_of_mem_channels channel hmem)

end Follows

/-- A script without a value comes to what its line of tasks comes to. -/
theorem Path.carried {script : Script Unit} {tasks : List Task} {exchanges : List Exchange}
    {result : Except Error Unit} (h : Path device script exchanges result)
    (hfollows : Follows script tasks) : Carried device tasks exchanges result := by
  have hcarried := hfollows device exchanges result h
  have hsame : (result.map fun _ ↦ ()) = result := by cases result <;> rfl
  rwa [hsame] at hcarried

end Script

end QuadPort
