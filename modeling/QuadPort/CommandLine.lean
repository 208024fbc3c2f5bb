import QuadPort.Log.Filter
import QuadPort.Monitor
import QuadPort.Simulator
import QuadPort.Toml.Excerpt

/-!
# The command line

The program reads its configuration from the file given as the first argument, or from a
file at a fixed path. It logs to the standard output, or to a file when a directory is
configured. An environment variable may hold a log filter, which takes the place of the
configured level if it can be read.

A failure is reported on the standard error with everything that caused it: a single cause
indented, several ones numbered.
-/

namespace QuadPort.CommandLine

def defaultPath : String := "config/default.toml"

/-- What the log files of a directory are called, before their date. -/
def logFileName : String := "max14906-monitor.log"

/-! ## Failures -/

def configText (text : List Char) : Config.Failure → String
  | .unreadable cause => cause
  | .malformed => "invalid TOML document\n"
  | .mismatch complaint => Toml.Excerpt.render text complaint.span complaint.mismatch.message
  | .outOfRange rule => Toml.Excerpt.render text none rule.message

/-- The texts of a failed configuration, outermost first. -/
def configChain (path : String) (text : List Char) (failure : Config.Failure) : List String :=
  let kind :=
    match failure with
    | .unreadable _ => "I/O error: "
    | _ => "Configuration error: "
  let cause := configText text failure
  [s!"Failed to load configuration from {path}", kind ++ cause, cause]

/-- A text whose lines but the first are indented. -/
def hang (indent : String) (text : List Char) : String :=
  ("\n" ++ indent).intercalate ((Toml.Excerpt.lines text).map String.ofList)

def numbered (number : Nat) (cause : String) : String :=
  let digits := toString number
  "".pushn ' ' (5 - digits.length) ++ digits ++ ": " ++ hang "       " cause.toList

def enumerated (number : Nat) : List String → List String
  | [] => []
  | cause :: others => numbered number cause :: enumerated (number + 1) others

def report : List String → String
  | [] => ""
  | [only] => s!"Error: {only}\n"
  | [outer, cause] =>
    s!"Error: {outer}\n\nCaused by:\n" ++ "    " ++ hang "    " cause.toList ++ "\n"
  | outer :: causes =>
    s!"Error: {outer}\n\nCaused by:\n" ++ "\n".intercalate (enumerated 0 causes) ++ "\n"

/-! ## A run of the program -/

/-- The filter in force: the one of the environment if it can be read, else the level of
the configuration. -/
def filterOf (environment : Option String) (config : Config) : Log.Filter :=
  match environment.bind Log.Filter.parse? with
  | some filter => filter
  | none => .ofLevel ((Log.Level.ofName? config.logging.level).getD .error)

def shown (filter : Log.Filter) (log : List Log.Record) : List String :=
  (log.filter filter.lets).map Log.Record.line

def simulation (config : Config) : Simulation :=
  .fresh config.device.checked config.device.chip

def introduce (config : Config) : Monitor.Run Simulation Unit := do
  Monitor.announce "MAX14906 monitor v0.1.0 starting..."
  match config.monitor.transport with
  | .simulated => Monitor.announce "Using simulated MAX14906"
  | .raspberryPi => throw .unsupported

/-- A whole run with a bounded number of looks, wherever it takes place. -/
@[specialize] def sessionOn {m : Type → Type} [Monad m] (stage : Monitor.Stage Simulation m)
    (config : Config) (looks : Nat) : ExceptT Monitor.Failure m Unit := do
  stage.attempt (introduce config)
  stage.runConfigured config looks

def session (config : Config) (looks : Nat) : Monitor.Run Simulation Unit :=
  sessionOn (.ofLink fun _ ↦ false) config looks

structure LogFile where
  directory : String
  lines : List String
  deriving DecidableEq, Repr

structure Output where
  exitCode : Nat
  stdout : List String
  stderr : String
  logFile : Option LogFile
  deriving DecidableEq, Repr

def verdict (result : Except Monitor.Failure Unit) : Nat × String :=
  match result with
  | .ok () => (0, "")
  | .error failure => (1, report failure.chain)

def execute (config : Config) (environment : Option String) (looks : Nat) : Output :=
  let (result, after) := (session config looks).run (Session.start (simulation config))
  let lines := shown (filterOf environment config) after.log
  let (exitCode, stderr) := verdict result
  let directory := config.logging.directory
  if directory.isEmpty then { exitCode, stdout := lines, stderr, logFile := none }
  else { exitCode, stdout := [], stderr, logFile := some { directory, lines } }

def refuse (path : String) (file : Except Nat ByteArray) (failure : Config.Failure) : String :=
  let text :=
    match Config.textOf file with
    | .ok text => text.toList
    | .error _ => []
  report (configChain path text failure)

/-- The program's output for a configuration file, interrupted after a number of looks. -/
def run (path : String) (file : Except Nat ByteArray) (environment : Option String)
    (looks : Nat) : Output :=
  match Config.load file with
  | .error failure =>
    { exitCode := 1, stdout := [], stderr := refuse path file failure, logFile := none }
  | .ok config => execute config environment looks

end QuadPort.CommandLine
