/-!
# Log records

A record has a level, the part of the program it comes from and a message. Records are
data: operations append them to the session they run in, and the program's edge decides
which of them to show.
-/

namespace QuadPort.Log

/-- How important a record is, most important first. -/
inductive Level
  | error
  | warn
  | info
  | debug
  | trace
  deriving DecidableEq, Repr

def Level.rank : Level → Nat
  | .error => 1
  | .warn => 2
  | .info => 3
  | .debug => 4
  | .trace => 5

def Level.label : Level → String
  | .error => "ERROR"
  | .warn => "WARN"
  | .info => "INFO"
  | .debug => "DEBUG"
  | .trace => "TRACE"

def Level.name : Level → String
  | .error => "error"
  | .warn => "warn"
  | .info => "info"
  | .debug => "debug"
  | .trace => "trace"

def Level.all : List Level := [.trace, .debug, .info, .warn, .error]

def Level.ofName? (name : String) : Option Level :=
  Level.all.find? fun level ↦ level.name == name

/-- The part of the program that a record comes from. -/
inductive Target
  | monitor
  | device
  | channel
  | simulator
  | board
  deriving DecidableEq, Repr

/-- The dotted path of a part, which filters refer to. -/
def Target.path : Target → String
  | .monitor => "max14906_monitor"
  | .device => "max14906::device"
  | .channel => "max14906::device::channel"
  | .simulator => "max14906::transport::simulated"
  | .board => "max14906::transport::raspberry_pi"

structure Record where
  level : Level
  target : Target
  message : String
  deriving DecidableEq, Repr

def Record.summary (record : Record) : String :=
  record.level.label ++ " " ++ record.message

/-- The level padded on the left to five characters, the part, and the message. -/
def Record.line (record : Record) : String :=
  let label := record.level.label
  "".pushn ' ' (5 - label.length) ++ label ++ " " ++ record.target.path ++ ": " ++ record.message

end QuadPort.Log
