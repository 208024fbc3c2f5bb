import Mathlib
import QuadPort.CommandLine
import QuadPort.Proofs.Config.Rules
import QuadPort.Proofs.Toml.Reading

/-!
# Documents that spell a configuration

A document spells a configuration if each section is a table and each setting in it has its value
or, where that is the default, may be left out. Sections and settings stand in any order and among
any keys that mean nothing. A configuration is read back from every document that spells it if it
keeps all rules; otherwise the first rule that it breaks is reported, wherever in the document the
settings that break one stand.
-/

namespace QuadPort.Config

open Toml Channel

/-! ## Names -/

def transportName : Transport → String
  | .simulated => "simulated"
  | .raspberryPi => "raspberry-pi"

def functionName : Function → String
  | .output => "output"
  | .input => "input"
  | .highZ => "high_z"

def limitName : CurrentLimit → String
  | .milliamps130 => "130mA"
  | .milliamps300 => "300mA"
  | .milliamps600 => "600mA"
  | .milliamps1200 => "1200mA"

/-! ## Sections -/

structure ChipEntries (entries : Entries) (wanted : ChipSection) : Prop where
  checked : Keyed "crc_enabled" Spelling.boolean (some true) entries wanted.checked
  chip : Keyed "chip_address" (Spelling.number UInt8.toNat) (some 0) entries wanted.chip

structure SpiEntries (entries : Entries) (wanted : SpiSection) : Prop where
  bus : Keyed "bus" (Spelling.number UInt8.toNat) (some 0) entries wanted.bus
  select : Keyed "chip_select" (Spelling.number UInt8.toNat) (some 0) entries wanted.select
  clock : Keyed "max_speed_hz" (Spelling.number UInt32.toNat) (some 1000000) entries wanted.clock

/-- The entries spell the section of the enable line, whose pin has no default. -/
structure EnableEntries (entries : Entries) (wanted : EnableSection) : Prop where
  pin : Keyed "pin" (Spelling.number UInt8.toNat) none entries wanted.pin

structure ChannelEntries (entries : Entries) (wanted : ChannelSetup) : Prop where
  functions : Keyed "functions" (Spelling.four (Spelling.named functionName))
    (some #v[.highZ, .highZ, .highZ, .highZ]) entries wanted.functions
  limits : Keyed "current_limits" (Spelling.four (Spelling.named limitName))
    (some #v[.milliamps130, .milliamps130, .milliamps130, .milliamps130]) entries wanted.limits

structure MonitorEntries (entries : Entries) (wanted : MonitorSection) : Prop where
  transport : Keyed "transport" (Spelling.named transportName) (some .simulated) entries
    wanted.transport
  interval : Keyed "poll_interval_ms" (Spelling.number UInt64.toNat) (some 500) entries
    wanted.interval

structure LoggingEntries (entries : Entries) (wanted : LoggingSection) : Prop where
  level : Keyed "level" Spelling.text (some "info") entries wanted.level
  directory : Keyed "directory" Spelling.text (some "") entries wanted.directory

/-- The entries spell the sections of a configuration, of which only that of the enable line may
be missing. -/
structure SectionEntries (entries : Entries) (wanted : Config) : Prop where
  device : Keyed "device" (Spelling.table ChipEntries) none entries wanted.device
  spi : Keyed "spi" (Spelling.table SpiEntries) none entries wanted.spi
  enable : Keyed "enable" (Spelling.present (Spelling.table EnableEntries)) (some none) entries
    wanted.enable
  channels : Keyed "channels" (Spelling.table ChannelEntries) none entries wanted.channels
  monitor : Keyed "monitor" (Spelling.table MonitorEntries) none entries wanted.monitor
  logging : Keyed "logging" (Spelling.table LoggingEntries) none entries wanted.logging

def Spelled (document : Value) (config : Config) : Prop :=
  Spelling.table SectionEntries document config

/-! ## Sections are read -/

theorem reads_functions : Reads Fields.functions.decode
    (Spelling.four (Spelling.named functionName)) :=
  .four (.variant fun wanted ↦ by cases wanted <;> rfl)

theorem reads_limits : Reads Fields.limits.decode (Spelling.four (Spelling.named limitName)) :=
  .four (.variant fun wanted ↦ by cases wanted <;> rfl)

theorem reads_transport : Reads Fields.transport.decode (Spelling.named transportName) :=
  .variant fun wanted ↦ by cases wanted <;> rfl

theorem reads_chip : Reads (Decode.record chipSection) (Spelling.table ChipEntries) := by
  refine .record fun entries wanted h ↦ ?_
  have hchecked : Fields.checked.Read entries wanted.checked := h.checked.read .boolean
  have hchip : Fields.chip.Read entries wanted.chip := h.chip.read .byte
  refine ⟨List.forall_mem_cons.mpr ⟨hchecked.check, List.forall_mem_singleton.mpr hchip.check⟩, ?_⟩
  simp only [chipSection, hchecked.inTable, hchip.inTable]
  rfl

theorem reads_spi : Reads (Decode.record spiSection) (Spelling.table SpiEntries) := by
  refine .record fun entries wanted h ↦ ?_
  have hbus : Fields.bus.Read entries wanted.bus := h.bus.read .byte
  have hselect : Fields.select.Read entries wanted.select := h.select.read .byte
  have hclock : Fields.clock.Read entries wanted.clock := h.clock.read .word32
  refine ⟨List.forall_mem_cons.mpr ⟨hbus.check, List.forall_mem_cons.mpr
    ⟨hselect.check, List.forall_mem_singleton.mpr hclock.check⟩⟩, ?_⟩
  simp only [spiSection, hbus.inTable, hselect.inTable, hclock.inTable]
  rfl

theorem reads_enable : Reads (Decode.record enableSection) (Spelling.table EnableEntries) := by
  refine .record fun entries wanted h ↦ ?_
  have hpin : Fields.pin.Read entries wanted.pin := h.pin.read .byte
  refine ⟨List.forall_mem_singleton.mpr hpin.check, ?_⟩
  simp only [enableSection, hpin.inTable]
  rfl

theorem reads_channels : Reads (Decode.record channelSection) (Spelling.table ChannelEntries) := by
  refine .record fun entries wanted h ↦ ?_
  have hfunctions : Fields.functions.Read entries wanted.functions :=
    h.functions.read reads_functions
  have hlimits : Fields.limits.Read entries wanted.limits := h.limits.read reads_limits
  refine ⟨List.forall_mem_cons.mpr
    ⟨hfunctions.check, List.forall_mem_singleton.mpr hlimits.check⟩, ?_⟩
  simp only [channelSection, hfunctions.inTable, hlimits.inTable]
  rfl

theorem reads_monitor : Reads (Decode.record monitorSection) (Spelling.table MonitorEntries) := by
  refine .record fun entries wanted h ↦ ?_
  have htransport : Fields.transport.Read entries wanted.transport :=
    h.transport.read reads_transport
  have hinterval : Fields.interval.Read entries wanted.interval := h.interval.read .word64
  refine ⟨List.forall_mem_cons.mpr
    ⟨htransport.check, List.forall_mem_singleton.mpr hinterval.check⟩, ?_⟩
  simp only [monitorSection, htransport.inTable, hinterval.inTable]
  rfl

theorem reads_logging : Reads (Decode.record loggingSection) (Spelling.table LoggingEntries) := by
  refine .record fun entries wanted h ↦ ?_
  have hlevel : Fields.level.Read entries wanted.level := h.level.read .text
  have hdirectory : Fields.directory.Read entries wanted.directory := h.directory.read .text
  refine ⟨List.forall_mem_cons.mpr
    ⟨hlevel.check, List.forall_mem_singleton.mpr hdirectory.check⟩, ?_⟩
  simp only [loggingSection, hlevel.inTable, hdirectory.inTable]
  rfl

/-- A configuration is read from every document that spells it. -/
theorem reads_ofDocument : Reads ofDocument Spelled := by
  refine .record fun entries wanted h ↦ ?_
  have hdevice : Sections.device.Read entries wanted.device := h.device.read reads_chip
  have hspi : Sections.spi.Read entries wanted.spi := h.spi.read reads_spi
  have henable : Sections.enable.Read entries wanted.enable :=
    h.enable.read (.present reads_enable)
  have hchannels : Sections.channels.Read entries wanted.channels :=
    h.channels.read reads_channels
  have hmonitor : Sections.monitor.Read entries wanted.monitor := h.monitor.read reads_monitor
  have hlogging : Sections.logging.Read entries wanted.logging := h.logging.read reads_logging
  constructor
  · simp only [shape, List.forall_mem_cons]
    exact ⟨hdevice.check, hspi.check, henable.check, hchannels.check, hmonitor.check,
      hlogging.check, List.forall_mem_nil _⟩
  · simp only [shape, hdevice.inTable, hspi.inTable, henable.inTable, hchannels.inTable,
      hmonitor.inTable, hlogging.inTable]
    rfl

/-! ## Configurations are read back or refused -/

/-- From a text whose document spells a configuration that configuration is read if it keeps all
rules. Otherwise the first of the rules that it breaks is reported, by its own text. -/
theorem parse_of_spelled {text : String} {document : Value} {config : Config}
    (htext : Toml.parse text = some document) (hspelled : Spelled document config) :
    ((∀ rule : Rule, rule.Kept config) → Config.parse text = .ok config) ∧
    ((¬ ∀ rule : Rule, rule.Kept config) → ∃ rule, FirstBroken config rule ∧
      Config.parse text = .error (.outOfRange rule) ∧
      CommandLine.configText text.toList (.outOfRange rule) = rule.message ++ "\n") := by
  have hread : ofDocument document = .ok config := reads_ofDocument document config hspelled
  constructor
  · intro hkept
    simp only [parse, htext, accept, hread, broken?_eq_none.mpr hkept]
  · intro hbroken
    cases hfirst : config.broken? with
    | none => exact absurd (broken?_eq_none.mp hfirst) hbroken
    | some rule =>
      refine ⟨rule, firstBroken_of_broken? hfirst, ?_, ?_⟩
      · simp only [parse, htext, accept, hread, hfirst]
      · exact congrArg (· ++ "\n") String.empty_append

/-- A text that sets an interval before a chip address, both out of range, and a mood. -/
def muddle : String :=
  "mood = \"calm\"\n[logging]\n[monitor]\npoll_interval_ms = 0\n[channels]\n[device]\n" ++
    "chip_address = 9\n[spi]\n"

def muddleDocument : Value :=
  .table (some ⟨0, 13⟩) .header
    [(⟨"mood", some ⟨0, 4⟩⟩, .scalar (some ⟨7, 13⟩) (.string "calm")),
      (⟨"logging", some ⟨15, 22⟩⟩, .table (some ⟨14, 23⟩) .header []),
      (⟨"monitor", some ⟨25, 32⟩⟩, .table (some ⟨24, 54⟩) .header
        [(⟨"poll_interval_ms", some ⟨34, 50⟩⟩, .scalar (some ⟨53, 54⟩) (.integer 0))]),
      (⟨"channels", some ⟨56, 64⟩⟩, .table (some ⟨55, 65⟩) .header []),
      (⟨"device", some ⟨67, 73⟩⟩, .table (some ⟨66, 91⟩) .header
        [(⟨"chip_address", some ⟨75, 87⟩⟩, .scalar (some ⟨90, 91⟩) (.integer 9))]),
      (⟨"spi", some ⟨93, 96⟩⟩, .table (some ⟨92, 97⟩) .header [])]

def muddled : Config where
  device := ⟨true, 9⟩
  spi := ⟨0, 0, 1000000⟩
  enable := none
  channels := ⟨Vector.replicate 4 .highZ, Vector.replicate 4 .milliamps130⟩
  monitor := ⟨.simulated, 0⟩
  logging := ⟨"info", ""⟩

theorem spelled_muddled : Spelled muddleDocument muddled :=
  ⟨_, _, _, rfl,
    { device := .given rfl ⟨_, _, _, rfl, .leftOut rfl, .given rfl ⟨_, rfl⟩⟩
      spi := .given rfl ⟨_, _, _, rfl, .leftOut rfl, .leftOut rfl, .leftOut rfl⟩
      enable := .leftOut rfl
      channels := .given rfl ⟨_, _, _, rfl, .leftOut rfl, .leftOut rfl⟩
      monitor := .given rfl ⟨_, _, _, rfl, .leftOut rfl, .given rfl ⟨_, rfl⟩⟩
      logging := .given rfl ⟨_, _, _, rfl, .leftOut rfl, .leftOut rfl⟩ }⟩

/-- Of two broken rules the one about the chip is reported, though the interval comes first. -/
theorem parse_of_muddle :
    (Toml.parse muddle = some muddleDocument ∧ Spelled muddleDocument muddled) ∧
      ¬ Rule.interval.Kept muddled ∧ Config.parse muddle = .error (.outOfRange .chip) ∧
      CommandLine.configText muddle.toList (.outOfRange .chip) =
        "chip_address must be between 0 and 3\n" := by
  have htext : Toml.parse muddle = some muddleDocument := by cbv
  have hchip : ¬ Rule.chip.Kept muddled := by
    unfold Rule.Kept
    decide
  obtain ⟨rule, hfirst, hparse, hmessage⟩ :=
    (parse_of_spelled htext spelled_muddled).2 fun hkept ↦ hchip (hkept .chip)
  have hrule : rule = .chip := by
    cases rule with
    | chip => rfl
    | _ => exact absurd (hfirst.earlier .chip (by decide)) hchip
  subst hrule
  refine ⟨⟨htext, spelled_muddled⟩, ?_, hparse, hmessage⟩
  unfold Rule.Kept
  decide

end QuadPort.Config
