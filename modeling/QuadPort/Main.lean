import QuadPort.CommandLine
import QuadPort.Log.Daily
import Std.Internal.UV.Signal

/-!
# The program

The thin layer around the command line: it reads the configuration file and the
environment and puts the run of the monitor on a stage that prints what is logged, waits between
looks and notices an interruption. Nothing is decided here but when to look again.
-/

namespace QuadPort.Program

/-- A code as a positive number; some calls report it negated. -/
def positive (code : UInt32) : Nat :=
  if code.toNat < Nat.pow 2 31 then code.toNat else Nat.pow 2 32 - code.toNat

def codeOf : IO.Error → Nat
  | .alreadyExists _ code _ => positive code
  | .otherError code _ => positive code
  | .resourceBusy code _ => positive code
  | .resourceVanished code _ => positive code
  | .unsupportedOperation code _ => positive code
  | .hardwareFault code _ => positive code
  | .unsatisfiedConstraints code _ => positive code
  | .illegalOperation code _ => positive code
  | .protocolError code _ => positive code
  | .timeExpired code _ => positive code
  | .interrupted _ code _ => positive code
  | .noFileOrDirectory _ code _ => positive code
  | .invalidArgument _ code _ => positive code
  | .permissionDenied _ code _ => positive code
  | .resourceExhausted _ code _ => positive code
  | .inappropriateType _ code _ => positive code
  | .noSuchThing _ code _ => positive code
  | .unexpectedEof => SystemError.inputOutput
  | .userError _ => SystemError.inputOutput

def readFile (path : String) : IO (Except Nat ByteArray) := do
  match ← (IO.FS.readBinFile path).toBaseIO with
  | .ok bytes => return .ok bytes
  | .error error => return .error (codeOf error)

/-- Today's date, which is when a file made just now was made. -/
def today : IO Log.Daily.Date := do
  let (_, path) ← IO.FS.createTempFile
  let made ← path.metadata
  IO.FS.removeFile path
  return Log.Daily.ofSeconds made.modified.sec

def emit (directory : String) (lines : List String) : IO Unit := do
  if directory.isEmpty then
    for line in lines do
      IO.println line
  else
    IO.FS.createDirAll directory
    let name := Log.Daily.fileName CommandLine.logFileName (← today)
    let file ← IO.FS.Handle.mk s!"{directory}/{name}" .append
    for line in lines do
      file.putStrLn line

def emitSince (config : Config) (filter : Log.Filter) (known : Nat)
    (session : Session Simulation) : IO Unit :=
  emit config.logging.directory (CommandLine.shown filter (session.log.drop known))

/-- Waits until the time is over or the program is interrupted, and tells which. -/
partial def wait (interrupted : IO Bool) (milliseconds : Nat) : IO Bool := do
  if ← interrupted then
    return true
  else if milliseconds = 0 then
    return false
  else
    let nap := min milliseconds 20
    IO.sleep nap.toUInt32
    wait interrupted (milliseconds - nap)

/-- The program carries out a part of a run by printing what it has logged. After each look it
waits for the next one or for an interruption from the keyboard. -/
def stage (config : Config) (filter : Log.Filter) :
    Monitor.Stage Simulation (StateT (Session Simulation) IO) where
  perform part := do
    let known := (← get).log.length
    let value ← modifyGet part.run
    emitSince config filter known (← get)
    return value
  listen := do
    let signal ← Std.Internal.UV.Signal.mk 2 true
    let interruption ← signal.next
    return wait interruption.isResolved config.monitor.interval.toNat

/-- More looks than any run lives to take. -/
def lifetime : Nat := Nat.pow 2 64

def fail (report : String) : IO UInt32 := do
  IO.eprint report
  return 1

def run (config : Config) (filter : Log.Filter) : IO UInt32 := do
  let session := CommandLine.sessionOn (stage config filter) config lifetime
  let (result, _) ← session.run (Session.start (CommandLine.simulation config))
  match result with
  | .error failure => fail (CommandLine.report failure.chain)
  | .ok () => return 0

end QuadPort.Program

/-- Runs the monitor with the configuration file named by the first argument. -/
def main (arguments : List String) : IO UInt32 := do
  let path := arguments.head?.getD QuadPort.CommandLine.defaultPath
  let file ← QuadPort.Program.readFile path
  let environment ← IO.getEnv "RUST_LOG"
  match QuadPort.Config.load file with
  | .error failure => QuadPort.Program.fail (QuadPort.CommandLine.refuse path file failure)
  | .ok config =>
    QuadPort.Program.run config (QuadPort.CommandLine.filterOf environment config)
