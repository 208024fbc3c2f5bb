import QuadPort.Device.Snapshot
import QuadPort.SystemError
import QuadPort.Toml.Decode
import QuadPort.Toml.Document

/-!
# The configuration

A configuration has a section for the chip, the bus, an optional enable line, the
channels, the monitor and the log. Every setting but the pin of the enable line has a
default. A configuration that can be read is accepted if it breaks none of the range
rules; of several broken rules the first is reported, in the order of `Rule.all`.
-/

namespace QuadPort

inductive Transport
  | simulated
  | raspberryPi
  deriving DecidableEq, Repr

structure ChipSection where
  checked : Bool
  chip : UInt8
  deriving DecidableEq, Repr

structure SpiSection where
  bus : UInt8
  select : UInt8
  clock : UInt32
  deriving DecidableEq, Repr

structure EnableSection where
  pin : UInt8
  deriving DecidableEq, Repr

/-- What the monitor uses and how often it looks, in milliseconds. -/
structure MonitorSection where
  transport : Transport
  interval : UInt64
  deriving DecidableEq, Repr

/-- What is logged and where to; an empty directory stands for the standard output. -/
structure LoggingSection where
  level : String
  directory : String
  deriving DecidableEq, Repr

structure Config where
  device : ChipSection
  spi : SpiSection
  enable : Option EnableSection
  channels : ChannelSetup
  monitor : MonitorSection
  logging : LoggingSection
  deriving DecidableEq, Repr

namespace Config

open Toml Decode Channel

/-! ## Names -/

def transports : List (String × Transport) :=
  [("simulated", .simulated), ("raspberry-pi", .raspberryPi)]

def functions : List (String × Function) :=
  [("output", .output), ("input", .input), ("high_z", .highZ)]

def limits : List (String × CurrentLimit) :=
  [("600mA", .milliamps600), ("130mA", .milliamps130), ("300mA", .milliamps300),
    ("1200mA", .milliamps1200)]

/-! ## Sections -/

namespace Fields

def checked : RecordField Bool := ⟨"crc_enabled", boolean, some true⟩
def chip : RecordField UInt8 := ⟨"chip_address", byte, some 0⟩

def bus : RecordField UInt8 := ⟨"bus", byte, some 0⟩
def select : RecordField UInt8 := ⟨"chip_select", byte, some 0⟩
def clock : RecordField UInt32 := ⟨"max_speed_hz", word32, some 1000000⟩

def pin : RecordField UInt8 := ⟨"pin", byte, none⟩

def functions : RecordField (Vector Function 4) :=
  ⟨"functions", four (variant Config.functions), some (Vector.replicate 4 .highZ)⟩
def limits : RecordField (Vector CurrentLimit 4) :=
  ⟨"current_limits", four (variant Config.limits), some (Vector.replicate 4 .lowest)⟩

def transport : RecordField Transport := ⟨"transport", variant transports, some .simulated⟩
def interval : RecordField UInt64 := ⟨"poll_interval_ms", word64, some 500⟩

def level : RecordField String := ⟨"level", text, some "info"⟩
def directory : RecordField String := ⟨"directory", text, some ""⟩

end Fields

def chipSection : Shape ChipSection where
  name := "DeviceConfig"
  checks := [Fields.checked.check, Fields.chip.check]
  ofTable entries := do
    return ⟨← Fields.checked.inTable entries, ← Fields.chip.inTable entries⟩
  ofArray items := do
    let wanted := "struct DeviceConfig with 2 elements"
    return ⟨← Fields.checked.inArray items 0 wanted, ← Fields.chip.inArray items 1 wanted⟩

def spiSection : Shape SpiSection where
  name := "SpiConfig"
  checks := [Fields.bus.check, Fields.select.check, Fields.clock.check]
  ofTable entries := do
    return ⟨← Fields.bus.inTable entries, ← Fields.select.inTable entries,
      ← Fields.clock.inTable entries⟩
  ofArray items := do
    let wanted := "struct SpiConfig with 3 elements"
    return ⟨← Fields.bus.inArray items 0 wanted, ← Fields.select.inArray items 1 wanted,
      ← Fields.clock.inArray items 2 wanted⟩

def enableSection : Shape EnableSection where
  name := "EnableConfig"
  checks := [Fields.pin.check]
  ofTable entries := do return ⟨← Fields.pin.inTable entries⟩
  ofArray items := do
    return ⟨← Fields.pin.inArray items 0 "struct EnableConfig with 1 element"⟩

def channelSection : Shape ChannelSetup where
  name := "ChannelConfig"
  checks := [Fields.functions.check, Fields.limits.check]
  ofTable entries := do
    return ⟨← Fields.functions.inTable entries, ← Fields.limits.inTable entries⟩
  ofArray items := do
    let wanted := "struct ChannelConfig with 2 elements"
    return ⟨← Fields.functions.inArray items 0 wanted, ← Fields.limits.inArray items 1 wanted⟩

def monitorSection : Shape MonitorSection where
  name := "MonitorConfig"
  checks := [Fields.transport.check, Fields.interval.check]
  ofTable entries := do
    return ⟨← Fields.transport.inTable entries, ← Fields.interval.inTable entries⟩
  ofArray items := do
    let wanted := "struct MonitorConfig with 2 elements"
    return ⟨← Fields.transport.inArray items 0 wanted, ← Fields.interval.inArray items 1 wanted⟩

def loggingSection : Shape LoggingSection where
  name := "LoggingConfig"
  checks := [Fields.level.check, Fields.directory.check]
  ofTable entries := do
    return ⟨← Fields.level.inTable entries, ← Fields.directory.inTable entries⟩
  ofArray items := do
    let wanted := "struct LoggingConfig with 2 elements"
    return ⟨← Fields.level.inArray items 0 wanted, ← Fields.directory.inArray items 1 wanted⟩

namespace Sections

def device : RecordField ChipSection := ⟨"device", record chipSection, none⟩
def spi : RecordField SpiSection := ⟨"spi", record spiSection, none⟩
def enable : RecordField (Option EnableSection) :=
  ⟨"enable", fun value ↦ return some (← record enableSection value), some none⟩
def channels : RecordField ChannelSetup := ⟨"channels", record channelSection, none⟩
def monitor : RecordField MonitorSection := ⟨"monitor", record monitorSection, none⟩
def logging : RecordField LoggingSection := ⟨"logging", record loggingSection, none⟩

end Sections

/-- The sections of a configuration as the fields of a record. -/
def shape : Shape Config where
  name := "Config"
  checks := [Sections.device.check, Sections.spi.check, Sections.enable.check,
    Sections.channels.check, Sections.monitor.check, Sections.logging.check]
  ofTable entries := do
    return {
      device := ← Sections.device.inTable entries
      spi := ← Sections.spi.inTable entries
      enable := ← Sections.enable.inTable entries
      channels := ← Sections.channels.inTable entries
      monitor := ← Sections.monitor.inTable entries
      logging := ← Sections.logging.inTable entries }
  ofArray items := do
    let wanted := "struct Config with 6 elements"
    return {
      device := ← Sections.device.inArray items 0 wanted
      spi := ← Sections.spi.inArray items 1 wanted
      enable := ← Sections.enable.inArray items 2 wanted
      channels := ← Sections.channels.inArray items 3 wanted
      monitor := ← Sections.monitor.inArray items 4 wanted
      logging := ← Sections.logging.inArray items 5 wanted }

/-- The configuration in a document tree, before its ranges are checked. -/
def ofDocument : Decoder Config := record shape

/-! ## Range rules -/

/-- A rule about the range of a setting. -/
inductive Rule
  | chip
  | bus
  | select
  | clock
  | pin
  | interval
  | level
  deriving DecidableEq, Repr

/-- The rules in the order in which they are checked. -/
def Rule.all : List Rule := [.chip, .bus, .select, .clock, .pin, .interval, .level]

def Rule.holds (config : Config) : Rule → Bool
  | .chip => config.device.chip ≤ 3
  | .bus => config.spi.bus ≤ 1
  | .select => config.spi.select ≤ 2
  | .clock => 1 ≤ config.spi.clock && config.spi.clock ≤ 10000000
  | .pin => config.enable.all fun enable ↦ enable.pin ≤ 27
  | .interval => 1 ≤ config.monitor.interval && config.monitor.interval ≤ 60000
  | .level => (Log.Level.ofName? config.logging.level).isSome

def Rule.message : Rule → String
  | .chip => "chip_address must be between 0 and 3"
  | .bus => "spi bus must be 0 or 1"
  | .select => "chip_select must be between 0 and 2"
  | .clock => "max_speed_hz must be between 1 and 10000000"
  | .pin => "enable pin must be between 0 and 27"
  | .interval => "poll_interval_ms must be between 1 and 60000"
  | .level => "log level must be one of: trace, debug, info, warn, error"

def broken? (config : Config) : Option Rule :=
  Rule.all.find? fun rule ↦ !rule.holds config

/-! ## Reading a configuration -/

inductive Failure
  | unreadable (cause : String)
  | malformed
  | mismatch (complaint : Complaint)
  | outOfRange (rule : Rule)
  deriving DecidableEq, Repr

/-- The configuration in a document tree, if it breaks no rule. -/
def accept (document : Value) : Except Failure Config :=
  match ofDocument document with
  | .error complaint => .error (.mismatch complaint)
  | .ok config =>
    match broken? config with
    | some rule => .error (.outOfRange rule)
    | none => .ok config

def parse (text : String) : Except Failure Config :=
  match Toml.parse text with
  | none => .error .malformed
  | some document => accept document

/-- The text in a file; without a file there is an error code instead of its bytes. -/
def textOf (file : Except Nat ByteArray) : Except Failure String :=
  match file with
  | .error code => .error (.unreadable (SystemError.message code))
  | .ok bytes =>
    match String.fromUTF8? bytes with
    | some text => .ok text
    | none => .error (.unreadable "stream did not contain valid UTF-8")

def load (file : Except Nat ByteArray) : Except Failure Config := do
  parse (← textOf file)

end Config

end QuadPort
