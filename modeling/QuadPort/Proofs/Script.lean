import QuadPort.Proofs.Trace
import QuadPort.Proofs.Wire.Access

/-!
# Scripts

A script is what an operation does to the registers: a tree of accesses in which every
access may depend on the values that the earlier ones brought back. A failing access ends
the script. Running a script over a link carries its accesses out one after the other.

`Path` says which exchanges with a chip, in which order, lead a script to a result; it
speaks of the replies alone and not of the link that gave them. `emits_run` is the
law for arbitrary links: the calls that a script makes are the frames of such a path.
-/

namespace QuadPort

open Conversation Register

/-- A tree of accesses. -/
inductive Script (α : Type)
  | done (value : α)
  | fail (error : Error)
  | ask (access : Access) (next : UInt8 → Script α)
  | note (record : Log.Record) (next : Script α)

structure Exchange where
  access : Access
  reply : Reply

namespace Exchange

def call (device : Device) (exchange : Exchange) : Call :=
  .transfer (exchange.access.frame device) true exchange.reply

def verdict (device : Device) (exchange : Exchange) : Except Error UInt8 :=
  exchange.access.verdict device exchange.reply

end Exchange

namespace Script

variable {σ α β : Type}

def bind : Script α → (α → Script β) → Script β
  | .done value, next => next value
  | .fail error, _ => .fail error
  | .ask access rest, next => .ask access fun value ↦ (rest value).bind next
  | .note record rest, next => .note record (rest.bind next)

instance : Monad Script where
  pure := .done
  bind := bind

/-! ## Running a script over a link -/

section Run

variable [Link σ] (device : Device)

def run : Script α → Conversation σ α
  | .done value => pure value
  | .fail error => throw error
  | .ask access next => do run (next (← access.perform device))
  | .note record next => do
    report record.level record.target record.message
    run next

@[simp] theorem run_pure (value : α) :
    run device (pure value : Script α) = (pure value : Conversation σ α) := rfl

@[simp] theorem run_bind (script : Script α) (next : α → Script β) :
    run device (script >>= next) =
      (run device script >>= fun value ↦ run device (next value) : Conversation σ β) := by
  change run device (script.bind next) = _
  induction script with
  | done value => rfl
  | fail error => rfl
  | ask access rest ih => simp only [bind, run, ih, bind_assoc]
  | note record rest ih => simp only [bind, run, ih, bind_assoc]

end Run

/-! ## The exchanges of a script -/

/-- The exchanges that lead a script to a result. -/
inductive Path (device : Device) : Script α → List Exchange → Except Error α → Prop
  | done (value : α) : Path device (.done value) [] (.ok value)
  | fail (error : Error) : Path device (.fail error) [] (.error error)
  | refused {access : Access} {next : UInt8 → Script α} (h : maxAddress < access.address) :
    Path device (.ask access next) [] (.error (.invalidArgument (.register access.address)))
  | rejected {access : Access} {next : UInt8 → Script α} {reply : Reply} {error : Error}
    (h : access.address ≤ maxAddress) (hverdict : access.verdict device reply = .error error) :
    Path device (.ask access next) [⟨access, reply⟩] (.error error)
  | accepted {access : Access} {next : UInt8 → Script α} {reply : Reply} {value : UInt8}
    {rest : List Exchange} {result : Except Error α}
    (h : access.address ≤ maxAddress) (hverdict : access.verdict device reply = .ok value)
    (hrest : Path device (next value) rest result) :
    Path device (.ask access next) (⟨access, reply⟩ :: rest) result
  | note {record : Log.Record} {next : Script α} {exchanges : List Exchange}
    {result : Except Error α} (h : Path device next exchanges result) :
    Path device (.note record next) exchanges result

theorem Path.address_le {device : Device} {script : Script α} {exchanges : List Exchange}
    {result : Except Error α} (h : Path device script exchanges result) :
    ∀ exchange ∈ exchanges, exchange.access.address ≤ maxAddress := by
  induction h with
  | done | fail | refused => simp
  | rejected h => simpa using h
  | accepted h _ _ ih => simpa using ⟨h, ih⟩
  | note _ ih => exact ih

/-- Over any link, a script makes the transfers of one of its paths and no other calls. -/
theorem emits_run [Link σ] (device : Device) (script : Script α) :
    Emits (σ := σ) (script.run device).run fun calls result ↦
      ∃ exchanges, calls = exchanges.map (Exchange.call device) ∧
        Path device script exchanges result := by
  induction script with
  | done value => exact .silent fun session ↦ ⟨rfl, [], rfl, .done value⟩
  | fail error => exact .silent fun session ↦ ⟨rfl, [], rfl, .fail error⟩
  | note record next ih =>
    intro session
    obtain ⟨calls, hcalls, exchanges, hmap, hpath⟩ := ih
      { session with log := session.log ++ [⟨record.level, record.target, record.message⟩] }
    exact ⟨calls, hcalls, exchanges, hmap, .note hpath⟩
  | ask access next ih =>
    intro session
    rw [play_run, run, enact_bind]
    by_cases h : access.address ≤ maxAddress
    · obtain ⟨scratch, log, hperform⟩ := Access.enact_perform device access session h
      rw [hperform]
      cases hverdict : access.verdict device
          (Link.transfer (access.frame device) true session.link).value with
      | error error => exact ⟨_, rfl, [⟨access, _⟩], rfl, .rejected h hverdict⟩
      | ok value =>
        obtain ⟨calls, hcalls, rest, rfl, hpath⟩ := ih value _
        exact ⟨_, hcalls.trans (List.append_assoc _ _ _), ⟨access, _⟩ :: rest, rfl,
          .accepted h hverdict hpath⟩
    · have hlt := UInt8.not_le.mp h
      rw [Access.enact_perform_refused device access session hlt]
      exact ⟨[], (List.append_nil _).symm, [], rfl, .refused hlt⟩

end Script

end QuadPort
