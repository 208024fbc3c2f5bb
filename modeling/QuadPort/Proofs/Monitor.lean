import QuadPort.Monitor
import QuadPort.Proofs.Config.Rules
import QuadPort.Proofs.Lifecycle.Release
import QuadPort.Proofs.Trace.Played
import QuadPort.Simulator

/-!
# Runs of the monitor

`Course` lists the calls of a run and its result: a bring-up that fails, a setup that fails
and is followed by a shutdown, or a setup, some looks and a shutdown. A look is a path of
the snapshot script whatever it comes to, and its outcome appears nowhere in the result.
From each of the three forms it follows that both handles are given back exactly once.
-/

namespace QuadPort.Monitor

open Conversation

def descriptor (config : Config) : Device :=
  ⟨config.device.checked, config.device.chip, config.enable.isSome⟩

/-- One look at the chip: its exchanges and what it came to. -/
abbrev Look := List Exchange × Except Error Snapshot

def lookCalls (device : Device) (looks : List Look) : List Call :=
  looks.flatMap fun look ↦ look.1.map (Exchange.call device)

/-- The looks of a watch: as many as there may be, unless an interruption comes first. -/
structure Watched (device : Device) (limit : Nat) (uninterrupted : Prop) (looks : List Look) :
    Prop where
  path : ∀ look ∈ looks, Script.Path device Script.snapshot look.1 look.2
  length_le : looks.length ≤ limit
  length_eq : uninterrupted → looks.length = limit

inductive Course (config : Config) (limit : Nat) (uninterrupted : Prop) :
    List Call → Except Failure Unit → Prop
  | bringUpFailed {calls : List Call} {error : Error}
    (hstart : (descriptor config).Started calls (.error error)) :
    Course config limit uninterrupted calls (.error (.bringUp error))
  | setUpFailed {started stopped : List Call} {exchanges : List Exchange} {error : Error}
    {outcome : Except Error Unit} (hstart : (descriptor config).Started started (.ok ()))
    (hsetUp : Script.Path (descriptor config) (Script.setUp config.channels) exchanges
      (.error error))
    (hshutDown : (descriptor config).ShutDown stopped outcome) :
    Course config limit uninterrupted
      (started ++ (exchanges.map (Exchange.call (descriptor config)) ++ stopped))
      (.error (.setUp error))
  | finished {started stopped : List Call} {exchanges : List Exchange} {looks : List Look}
    {outcome : Except Error Unit} (hstart : (descriptor config).Started started (.ok ()))
    (hsetUp : Script.Path (descriptor config) (Script.setUp config.channels) exchanges (.ok ()))
    (hlooks : Watched (descriptor config) limit uninterrupted looks)
    (hshutDown : (descriptor config).ShutDown stopped outcome) :
    Course config limit uninterrupted
      (started ++ (exchanges.map (Exchange.call (descriptor config)) ++
        (lookCalls (descriptor config) looks ++ stopped)))
      (outcome.mapError .shutDown)

variable {σ : Type} [Link σ]

/-! ## Looking -/

theorem watch_succ (device : Device) (interrupted : σ → Bool) (last : Option Snapshot)
    (limit : Nat) :
    watch device interrupted last (limit + 1) = (do
      let shown ← look device last
      if interrupted (← get).link then return ()
      watch device interrupted shown limit) := rfl

/-- A look makes the transfers of a snapshot, whatever it comes to. -/
theorem emits_look (device : Device) (last : Option Snapshot) :
    Emits (σ := σ) (look device last) fun calls _ ↦ ∃ look : Look,
      calls = look.1.map (Exchange.call device) ∧
        Script.Path device Script.snapshot look.1 look.2 := by
  have hpath := Script.emits_run (σ := σ) device Script.snapshot
  rw [Script.run_snapshot] at hpath
  refine (hpath.follow (Q := fun _ _ ↦ True) fun result session ↦ ⟨?_, trivial⟩).mono ?_
  · cases result with
    | error error => rfl
    | ok snapshot =>
      simp only
      split
      · rfl
      · cases snapshot.faults.isClear <;> rfl
  · rintro _ _ ⟨result, ⟨exchanges, rfl, hpath⟩, -⟩
    exact ⟨(exchanges, result), rfl, hpath⟩

/-- The looks of a watch are looks at the chip. Whether the run was interrupted is asked of the
link that the last look left. -/
theorem emits_watch (device : Device) (interrupted : σ → Bool) (limit : Nat)
    (last : Option Snapshot) :
    Emits (watch device interrupted last limit) fun calls _ ↦ ∃ looks,
      calls = lookCalls device looks ∧
        Watched device limit (∀ state, interrupted state = false) looks := by
  induction limit generalizing last with
  | zero =>
    exact .silent fun session ↦ ⟨rfl, [], rfl, by simp, Nat.le_refl 0, fun _ ↦ rfl⟩
  | succ limit ih =>
    intro session
    obtain ⟨first, hfirst, look, rfl, hlook⟩ := emits_look device last session
    generalize hshown : play (Monitor.look device last) session = shown at *
    have hwatch : play (watch device interrupted last (limit + 1)) session =
        play (if interrupted shown.2.link then pure ()
          else watch device interrupted shown.1 limit) shown.2 := by
      rw [watch_succ, play_bind, play_bind, hshown, play_get]
    rw [hwatch]
    by_cases hinterrupted : interrupted shown.2.link
    · rw [if_pos hinterrupted]
      refine ⟨_, hfirst, [look], (List.append_nil _).symm, by simpa, Nat.le_add_left 1 limit, ?_⟩
      exact fun hsteady ↦ absurd hinterrupted (by simp [hsteady])
    · rw [if_neg hinterrupted]
      obtain ⟨rest, hrest, looks, rfl, hwatched⟩ := ih shown.1 shown.2
      refine ⟨_, ?_, look :: looks, rfl, ?_, Nat.succ_le_succ hwatched.length_le, ?_⟩
      · rw [hrest, hfirst, List.append_assoc]
        rfl
      · exact List.forall_mem_cons.mpr ⟨hlook, hwatched.path⟩
      · exact fun hsteady ↦ congrArg (· + 1) (hwatched.length_eq hsteady)

/-! ## The other parts of a run -/

/-- A setup that fails is followed by a shutdown, whose own failure is dropped. -/
theorem emits_setUp (device : Device) (setup : ChannelSetup) :
    Emits (σ := σ) (setUp device setup).run fun calls result ↦
      (∃ exchanges, calls = exchanges.map (Exchange.call device) ∧ result = .ok () ∧
        Script.Path device (Script.setUp setup) exchanges (.ok ())) ∨
      ∃ exchanges error stopped outcome,
        calls = exchanges.map (Exchange.call device) ++ stopped ∧
        result = .error (.setUp error) ∧
        Script.Path device (Script.setUp setup) exchanges (.error error) ∧
        device.ShutDown stopped outcome := by
  have hpath := Script.emits_run (σ := σ) device (Script.setUp setup)
  rw [Script.run_setUp] at hpath
  intro session
  obtain ⟨_, hcalls, exchanges, rfl, hpath⟩ := hpath session
  rw [play_run] at hcalls hpath
  rw [play_run]
  simp only [setUp, enact_bind, enact_lift, play_run]
  cases hsetUp : enact (device.setUp setup) session with
  | mk result after =>
    rw [hsetUp] at hcalls hpath
    cases result with
    | ok => exact ⟨_, hcalls, .inl ⟨exchanges, rfl, rfl, hpath⟩⟩
    | error error =>
      obtain ⟨stopped, hstopped, hshutDown⟩ := Device.emits_shutDown device after
      rw [play_run] at hstopped hshutDown
      simp only [enact_bind, enact_lift, play_run]
      generalize enact device.shutDown after = off at *
      obtain ⟨outcome, last⟩ := off
      refine ⟨exchanges.map (Exchange.call device) ++ stopped, ?_,
        .inr ⟨exchanges, error, stopped, outcome, rfl, ?_, hpath, hshutDown⟩⟩
      · rw [← List.append_assoc, ← hcalls, ← hstopped]
        cases outcome <;> rfl
      · cases outcome <;> rfl

omit [Link σ] in
theorem emits_announce (message : String) :
    Emits (announce message : Run σ Unit).run fun calls result ↦ calls = [] ∧ result = .ok () := by
  refine (Emits.note .info .monitor message).lift.mono ?_
  rintro calls result ⟨_, rfl, rfl⟩
  exact ⟨rfl, rfl⟩

theorem emits_finish (device : Device) :
    Emits (σ := σ) (finish device).run fun calls result ↦ ∃ outcome,
      result = outcome.mapError .shutDown ∧ device.ShutDown calls outcome := by
  have hshutDown := (Device.emits_shutDown (σ := σ) device).adapt Failure.shutDown
  refine ((emits_announce _).bind_run fun _ ↦ hshutDown.bind_run fun _ ↦
    emits_announce _).mono ?_
  rintro _ _ (⟨_, -, -, hnever⟩ | ⟨_, _, _, rfl, ⟨rfl, -⟩,
    (⟨_, rfl, outcome, houtcome, hshutDown⟩ | ⟨_, _, _, rfl, ⟨outcome, houtcome, hshutDown⟩,
      rfl, rfl⟩)⟩)
  · cases hnever
  · exact ⟨outcome, houtcome, hshutDown⟩
  · exact ⟨outcome, houtcome, by simpa using hshutDown⟩

/-- An accepted configuration has a period for the timer. -/
theorem interval_ne_zero {config : Config} (h : config.broken? = none) :
    config.monitor.interval ≠ 0 := by
  have hkept := Config.broken?_eq_none.mp h .interval
  rintro hzero
  rw [Config.Rule.Kept, hzero] at hkept
  exact absurd hkept.1 (by decide)

/-- What follows a setup that succeeds: some looks and a shutdown. -/
theorem emits_service (device : Device) (message : String) (interrupted : σ → Bool)
    (limit : Nat) :
    Emits (do
        announce message
        (watch device interrupted none limit : StateM (Session σ) Unit)
        finish device : Run σ Unit).run fun calls result ↦
      ∃ looks stopped outcome, calls = lookCalls device looks ++ stopped ∧
        result = outcome.mapError .shutDown ∧
        Watched device limit (∀ state, interrupted state = false) looks ∧
        device.ShutDown stopped outcome := by
  refine ((emits_announce message).bind_run fun _ ↦
    (emits_watch device interrupted limit none).lift.bind_run fun _ ↦ emits_finish device).mono ?_
  rintro _ result (⟨_, -, -, hnever⟩ | ⟨_, _, _, rfl, ⟨rfl, -⟩,
    (⟨_, -, _, hnever, -⟩ | ⟨_, _, stopped, rfl, ⟨_, -, looks, rfl, hwatched⟩,
      outcome, houtcome, hshutDown⟩)⟩)
  · cases hnever
  · cases hnever
  · exact ⟨looks, stopped, outcome, rfl, houtcome, hwatched, hshutDown⟩

theorem run_eq_begin (config : Config) (interrupted : σ → Bool) (limit : Nat) :
    run config interrupted limit = (do
      let device ← begin config
      (watch device interrupted none limit : StateM (Session σ) Unit)
      finish device) := by
  unfold run Stage.run
  simp only [Stage.ofLink, liftM_pure, pure_bind]
  rfl

/-- The parts of a run with an accepted configuration. -/
theorem run_eq {config : Config} (h : config.broken? = none) (interrupted : σ → Bool)
    (limit : Nat) :
    run config interrupted limit = (do
      (descriptor config).start.adapt Failure.bringUp
      setUp (descriptor config) config.channels
      announce s!"Polling every {config.monitor.interval} ms, press Ctrl+C to exit"
      (watch (descriptor config) interrupted none limit : StateM (Session σ) Unit)
      finish (descriptor config)) := by
  rw [run_eq_begin]
  simp only [begin, if_neg (interval_ne_zero h), bind_assoc, pure_bind]
  rfl

/-- What follows a bring-up that succeeds completes its calls to a course. -/
theorem emits_started (config : Config) (message : String) (interrupted : σ → Bool)
    (limit : Nat) :
    Emits (do
        setUp (descriptor config) config.channels
        announce message
        (watch (descriptor config) interrupted none limit : StateM (Session σ) Unit)
        finish (descriptor config) : Run σ Unit).run fun calls result ↦
      ∀ started, (descriptor config).Started started (.ok ()) →
        Course config limit (∀ state, interrupted state = false) (started ++ calls) result := by
  refine ((emits_setUp (descriptor config) config.channels).bind_run
    fun _ ↦ emits_service (descriptor config) message interrupted limit).mono ?_
  intro calls result h started hstarted
  rcases h with ⟨_, rfl, hsetUp⟩ | ⟨_, first, rest, rfl, hsetUp, hservice⟩
  · obtain ⟨_, _, hnever, _⟩ | ⟨exchanges, error, stopped, outcome, rfl, hequal, hpath,
      hshutDown⟩ := hsetUp
    · cases hnever
    · cases hequal
      exact .setUpFailed hstarted hpath hshutDown
  · obtain ⟨exchanges, rfl, -, hpath⟩ | ⟨_, _, _, _, _, hnever, _⟩ := hsetUp
    · obtain ⟨looks, stopped, outcome, rfl, rfl, hwatched, hshutDown⟩ := hservice
      exact .finished hstarted hpath hwatched hshutDown
    · cases hnever

/-- The calls and the result of a run over any link are those of a course. -/
theorem emits_run {config : Config} (h : config.broken? = none) (interrupted : σ → Bool)
    (limit : Nat) :
    Emits (run config interrupted limit).run
      (Course config limit (∀ state, interrupted state = false)) := by
  rw [run_eq h]
  have hstart := (Device.emits_start (σ := σ) (descriptor config)).adapt Failure.bringUp
  refine (hstart.bind_run fun _ ↦ emits_started config _ interrupted limit).mono ?_
  rintro _ _ (⟨_, rfl, outcome, houtcome, hstarted⟩ | ⟨_, started, _, rfl,
    ⟨outcome, houtcome, hstarted⟩, hrest⟩)
  · obtain ⟨error, rfl, rfl⟩ := eq_error_of_mapError houtcome
    exact .bringUpFailed hstarted
  · cases eq_ok_of_mapError houtcome
    exact hrest started hstarted

/-- Every run gives both handles back exactly once and does not use them afterwards. -/
theorem Course.releasedOnce {config : Config} {limit : Nat} {uninterrupted : Prop}
    {calls : List Call} {result : Except Failure Unit}
    (h : Course config limit uninterrupted calls result) :
    ReleasedOnce config.enable.isSome calls := by
  cases h with
  | bringUpFailed hstart => exact hstart.releasedOnce
  | setUpFailed hstart hsetUp hshutDown =>
    exact .append_left hstart.keeps
      (.append_left (Device.keeps_exchanges _) hshutDown.releasedOnce)
  | finished hstart hsetUp hlooks hshutDown =>
    refine .append_left hstart.keeps (.append_left (Device.keeps_exchanges _)
      (.append_left ?_ hshutDown.releasedOnce))
    unfold lookCalls
    rw [← List.map_flatMap]
    exact Device.keeps_exchanges _

/-! ## What a run does to the link -/

theorem recorded_announce (message : String) : Recorded (announce message : Run σ Unit).run :=
  (Recorded.note .info .monitor message).lift

theorem recorded_look (device : Device) (last : Option Snapshot) :
    Recorded (σ := σ) (look device last) := by
  have hsnapshot := Recorded.run (σ := σ) device Script.snapshot
  rw [Script.run_snapshot] at hsnapshot
  refine hsnapshot.bind fun result ↦ ?_
  cases result with
  | error error => exact (Recorded.note _ _ _).bind fun _ ↦ .pure _
  | ok snapshot =>
    simp only
    split
    · exact .pure _
    · refine (Recorded.note _ _ _).bind fun _ ↦ ?_
      split
      · exact (Recorded.note _ _ _).bind fun _ ↦ .pure _
      · exact .pure _

theorem recorded_watch (device : Device) (interrupted : σ → Bool) (limit : Nat)
    (last : Option Snapshot) : Recorded (watch device interrupted last limit) := by
  induction limit generalizing last with
  | zero => exact .pure _
  | succ limit ih =>
    rw [watch_succ]
    refine (recorded_look device last).bind fun shown ↦ Recorded.get.bind fun session ↦ ?_
    split
    · exact .pure _
    · exact ih shown

theorem recorded_setUp (device : Device) (setup : ChannelSetup) :
    Recorded (σ := σ) (setUp device setup).run := by
  have hsetUp := Recorded.run (σ := σ) device (Script.setUp setup)
  rw [Script.run_setUp] at hsetUp
  refine hsetUp.lift.bind_run fun result ↦ ?_
  cases result with
  | ok => exact .pure _
  | error error =>
    refine (Recorded.shutDown device).lift.bind_run fun outcome ↦ ?_
    cases outcome with
    | ok => exact .throw _
    | error other => exact (Recorded.note _ _ _).lift.bind_run fun _ ↦ .throw _

theorem recorded_begin (config : Config) : Recorded (σ := σ) (begin config).run := by
  refine ((Recorded.start _).adapt Failure.bringUp).bind_run fun _ ↦
    (recorded_setUp _ _).bind_run fun _ ↦ ?_
  split
  · exact .throw _
  · exact (recorded_announce _).bind_run fun _ ↦ .pure _

theorem recorded_finish (device : Device) : Recorded (σ := σ) (finish device).run :=
  (recorded_announce _).bind_run fun _ ↦
    ((Recorded.shutDown device).adapt Failure.shutDown).bind_run fun _ ↦ recorded_announce _

/-- Whatever a run does to a link is in the list of the calls. -/
theorem recorded_run (config : Config) (interrupted : σ → Bool) (limit : Nat) :
    Recorded (run config interrupted limit).run := by
  rw [run_eq_begin]
  exact (recorded_begin config).bind_run fun device ↦
    (recorded_watch device interrupted limit none).lift.bind_run fun _ ↦ recorded_finish device

/-- Over any link, a run with an accepted configuration makes calls that take the link to where
the run leaves it. Among them the bus is given back once, and the line once if there is one, and
neither is used afterwards. The run comes to the first failure among bring-up, setup and shutdown,
whatever the looks in between come to. -/
theorem run_releases_once (config : Config) (haccepted : config.broken? = none) (link : σ)
    (interrupted : σ → Bool) (limit : Nat) :
    let outcome := enact (run config interrupted limit) (.start link)
    Played link outcome.2.calls outcome.2.link ∧
      ReleasedOnce config.enable.isSome outcome.2.calls ∧
      Course config limit (∀ state, interrupted state = false) outcome.2.calls outcome.1 := by
  obtain ⟨calls, hcalls, hplayed, hcourse⟩ := (emits_run haccepted interrupted limit).played
    (recorded_run config interrupted limit) (.start link)
  have hall : calls = (enact (run config interrupted limit) (.start link)).2.calls := hcalls.symm
  rw [hall] at hplayed hcourse
  exact ⟨hplayed, hcourse.releasedOnce, hcourse⟩

def supervised : Config where
  device := ⟨true, 2⟩
  spi := ⟨0, 0, 1000000⟩
  enable := some ⟨25⟩
  channels := ⟨#v[.output, .input, .highZ, .highZ], Vector.replicate 4 .milliamps600⟩
  monitor := ⟨.simulated, 500⟩
  logging := ⟨"info", ""⟩

/-- Three looks at a simulated chip, then the shutdown. -/
theorem supervised_releases_once :
    let outcome := enact (run supervised (fun _ ↦ false) 3) (.start (Simulation.fresh true 2))
    supervised.broken? = none ∧
      Played (Simulation.fresh true 2) outcome.2.calls outcome.2.link ∧
      ReleasedOnce true outcome.2.calls ∧
      Course supervised 3 (∀ _ : Simulation, false = false) outcome.2.calls outcome.1 :=
  ⟨by decide, run_releases_once supervised (by decide) (Simulation.fresh true 2)
    (fun _ ↦ false) 3⟩

end QuadPort.Monitor
