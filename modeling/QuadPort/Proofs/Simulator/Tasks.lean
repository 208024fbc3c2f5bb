import QuadPort.Proofs.Script.Task
import QuadPort.Proofs.Simulator.RegisterFile

/-!
# Lines of tasks on a register file

A line of tasks is a function of the register file. A read clears a fault register, an update
replaces bits of its own register, and no task shows in another register. What a line leaves in
a register is therefore what the tasks on that register make of its byte.
-/

namespace QuadPort

open Register

namespace Task

/-- A task on a register that there is, which it updates only if the register is ordinary. -/
def Plain : Task → Prop
  | .read address => address ≤ maxAddress
  | .update change => change.address ≤ maxAddress ∧ RegisterFile.Ordinary change.address

def byte (current : UInt8) : Task → UInt8
  | .read address => if 4 ≤ address ∧ address ≤ 7 then 0 else current
  | .update change => change.apply current

theorem Plain.address_le {task : Task} (h : task.Plain) : task.address ≤ maxAddress := by
  cases task with
  | read address => exact h
  | update change => exact h.1

end Task

namespace RegisterFile

def done (file : RegisterFile) : Task → RegisterFile
  | .read address => file.afterRead address
  | .update change => (file.afterRead change.address).set change.address
      (change.apply (file.look change.address))

def line (file : RegisterFile) (tasks : List Task) : RegisterFile :=
  tasks.foldl done file

variable {file : RegisterFile} {address : UInt8}

@[simp]
theorem line_nil (file : RegisterFile) : file.line [] = file := rfl

@[simp]
theorem line_cons (file : RegisterFile) (task : Task) (tasks : List Task) :
    file.line (task :: tasks) = (file.done task).line tasks := rfl

/-- An update of an ordinary register. -/
theorem done_update {change : Update} (h : Ordinary change.address) (file : RegisterFile) :
    file.done (.update change) =
      file.set change.address (change.apply (file.get change.address)) := by
  rw [done, afterRead_ordinary h, look_ordinary h]

/-! ## One register of the file -/

theorem get_done {task : Task} (h : task.Plain) (haddress : address ≤ maxAddress)
    (file : RegisterFile) :
    (file.done task).get address =
      if task.address = address then task.byte (file.get address) else file.get address := by
  cases task with
  | read other =>
    rw [done, get_afterRead h haddress, Task.address, Task.byte, ite_and]
  | update change =>
    rw [done_update h.2, get_set]
    by_cases hsame : change.address = address
    · subst hsame
      rw [if_pos rfl]
      exact (if_pos rfl).symm
    · rw [if_neg (mt (cell_eq_iff h.1 haddress).mp hsame)]
      exact (if_neg hsame).symm

theorem inputs_done (file : RegisterFile) (task : Task) :
    (file.done task).inputs = file.inputs := by
  cases task with
  | read address => exact inputs_afterRead file address
  | update change => exact inputs_afterRead file change.address

/-- What a line leaves in a register is what the tasks on that register make of its byte. -/
theorem get_line {tasks : List Task} (h : ∀ task ∈ tasks, task.Plain)
    (haddress : address ≤ maxAddress) (file : RegisterFile) :
    (file.line tasks).get address =
      (tasks.filter fun task ↦ task.address = address).foldl Task.byte (file.get address) := by
  induction tasks generalizing file with
  | nil => rfl
  | cons task tasks ih =>
    have hrest := ih (fun other hother ↦ h other (.tail _ hother)) (file.done task)
    calc
      ((file.done task).line tasks).get address
      _ = (tasks.filter fun task ↦ task.address = address).foldl Task.byte
          (if task.address = address then task.byte (file.get address) else file.get address) := by
        rw [hrest, get_done (h task (.head _)) haddress]
      _ = ((task :: tasks).filter fun task ↦ task.address = address).foldl Task.byte
          (file.get address) := by
        rw [List.filter_cons]
        by_cases hsame : task.address = address <;> simp [hsame]

theorem inputs_line (file : RegisterFile) (tasks : List Task) :
    (file.line tasks).inputs = file.inputs := by
  induction tasks generalizing file with
  | nil => rfl
  | cons task tasks ih => rw [line_cons, ih, inputs_done]

end RegisterFile

namespace Task

/-- What one exchange of a line of tasks may do to the registers. -/
def Step (tasks : List Task) (before after : RegisterFile) : Prop :=
  after = before ∨ ∃ task ∈ tasks, after = before.afterRead task.address ∨ after = before.done task

/-- What a line of tasks has done to the registers when it comes to a result: all of its tasks,
or those in front of a task that failed, whose register may have been read. -/
def Left (tasks : List Task) (before after : RegisterFile) : Except Error Unit → Prop
  | .ok () => after = before.line tasks
  | .error _ => ∃ front task back, tasks = front ++ task :: back ∧
      (after = before.line front ∨ after = (before.line front).afterRead task.address)

variable {task : Task} {tasks : List Task} {before after : RegisterFile}

theorem Step.cons (h : Step tasks before after) : Step (task :: tasks) before after := by
  rcases h with hsame | ⟨other, hmem, hafter⟩
  · exact .inl hsame
  · exact .inr ⟨other, .tail _ hmem, hafter⟩

/-- A task that is done goes in front of what a line leaves. -/
theorem Left.cons {result : Except Error Unit} (h : Left tasks (before.done task) after result) :
    Left (task :: tasks) before after result := by
  cases result with
  | ok => exact h
  | error error =>
    obtain ⟨front, failed, back, rfl, hafter⟩ := h
    exact ⟨task :: front, failed, back, rfl, hafter⟩

/-- A task that fails leaves the registers alone or has read its register. -/
theorem Left.stopped {error : Error}
    (h : after = before ∨ after = before.afterRead task.address) :
    Left (task :: tasks) before after (.error error) :=
  ⟨[], task, tasks, rfl, h⟩

end Task

end QuadPort
