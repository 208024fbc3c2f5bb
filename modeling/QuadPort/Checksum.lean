/-!
# The five-bit frame checksum

A shift register of five bits divides a message, most significant bit first, by the
polynomial `x^5 + x^4 + x^2 + 1`. `step` feeds one bit. `feedByte` feeds eight at once by
looking up what a register aligned to the top of a byte becomes after eight shifts.

Both directions of a frame are checked from the same start value and end with three zero
bits. A request covers the whole command byte; a response leaves out the two top bits of
its first byte.
-/

namespace QuadPort.Checksum

/-- The polynomial without its leading term. -/
def polynomial : UInt8 := 0x15

/-- The register before the first bit. -/
def start : UInt8 := 0x1F

/-! ## Bit by bit -/

def step (register : UInt8) (bit : Bool) : UInt8 :=
  let shifted := (register <<< 1) &&& 0x1F
  if bit != ((register >>> 4) &&& 1 == 1) then shifted ^^^ polynomial else shifted

/-- The lowest `count` bits of a byte, most significant first. -/
def lowBits (byte : UInt8) : Nat → List Bool
  | 0 => []
  | count + 1 => byte.toNat.testBit count :: lowBits byte count

def feed (register : UInt8) (bits : List Bool) : UInt8 :=
  bits.foldl step register

/-! ## Byte by byte -/

/-- One shift of a register that is aligned to the top of a byte. -/
def alignedStep (register : UInt8) : UInt8 :=
  if register &&& 0x80 != 0 then (register <<< 1) ^^^ (polynomial <<< 3) else register <<< 1

def alignedShifts (register : UInt8) : Nat → UInt8
  | 0 => register
  | count + 1 => alignedShifts (alignedStep register) count

/-- What each aligned register becomes after eight shifts. -/
def table : Vector UInt8 256 :=
  Vector.ofFn fun entry ↦ alignedShifts (UInt8.ofNat entry.val) 8

def feedByte (register byte : UInt8) : UInt8 :=
  table.get ⟨((register <<< 3) ^^^ byte).toNat, UInt8.toNat_lt _⟩ >>> 3

/-! ## Frames -/

/-- Three zero bits follow the data byte of every frame. -/
def padding : List Bool := [false, false, false]

/-- The checksum of a request: command byte, data byte, padding. -/
def ofRequest (command data : UInt8) : UInt8 :=
  feed (feedByte (feedByte start command) data) padding

/-- The checksum of a response: the six low bits of the status byte, data byte, padding. -/
def ofResponse (status data : UInt8) : UInt8 :=
  feed (feedByte (feed start (lowBits status 6)) data) padding

end QuadPort.Checksum
