import QuadPort.Device.Channels

/-!
# Setting up and observing all channels

A setup gives every channel its current limit and its function, the limit first so that an
output comes up limited. A snapshot is what one look at the chip shows: four levels and
the fault registers.
-/

namespace QuadPort

open Register Channel Conversation

structure ChannelSetup where
  functions : Vector Function 4
  limits : Vector CurrentLimit 4
  deriving DecidableEq, Repr

structure Snapshot where
  levels : Vector Bool 4
  faults : LatchedFaults
  deriving DecidableEq, Repr

def Snapshot.of (level0 level1 level2 level3 : Bool) (faults : LatchedFaults) : Snapshot :=
  { levels := #v[level0, level1, level2, level3], faults }

def Snapshot.levelsLabel (snapshot : Snapshot) : String :=
  "[" ++ ", ".intercalate (snapshot.levels.toList.map toString) ++ "]"

namespace Device

variable {σ : Type} [Link σ]

/-- Sets up one channel, the limit before the function. -/
def setUpChannel (device : Device) (channel : UInt8) (function : Function)
    (limit : CurrentLimit) : Conversation σ Unit := do
  setLimit device channel limit
  setFunction device channel function
  report .info .monitor s!"Channel {channel}: {function.label}, limit {limit.milliamps} mA"

/-- Sets up every channel in ascending order and stops at the first failure. -/
def setUp (device : Device) (setup : ChannelSetup) : Conversation σ Unit := do
  setUpChannel device 0 setup.functions[0] setup.limits[0]
  setUpChannel device 1 setup.functions[1] setup.limits[1]
  setUpChannel device 2 setup.functions[2] setup.limits[2]
  setUpChannel device 3 setup.functions[3] setup.limits[3]

/-- Reads the four levels, then the fault registers. -/
def snapshot (device : Device) : Conversation σ Snapshot := do
  let level0 ← level device 0
  let level1 ← level device 1
  let level2 ← level device 2
  let level3 ← level device 3
  let faults ← readFaults device
  return .of level0 level1 level2 level3 faults

end Device

end QuadPort
