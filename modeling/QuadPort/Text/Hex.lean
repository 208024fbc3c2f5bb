/-!
# Two-digit hexadecimal bytes

A byte is written with exactly two digits, the high half first. Frames and register
files are written in lowercase without separators; messages use an uppercase byte
behind `0x`.
-/

namespace QuadPort.Text.Hex

def lowerDigit (value : Nat) : Char :=
  if value < 10 then Char.ofNat (48 + value) else Char.ofNat (87 + value)

def upperDigit (value : Nat) : Char :=
  if value < 10 then Char.ofNat (48 + value) else Char.ofNat (55 + value)

def lower (byte : UInt8) : List Char :=
  [lowerDigit (byte.toNat / 16), lowerDigit (byte.toNat % 16)]

def upper (byte : UInt8) : List Char :=
  [upperDigit (byte.toNat / 16), upperDigit (byte.toNat % 16)]

def ofBytes (bytes : List UInt8) : String :=
  String.ofList (bytes.flatMap lower)

/-- The byte as messages show it, such as `0x0D`. -/
def ofByte (byte : UInt8) : String :=
  "0x" ++ String.ofList (upper byte)

def digit? (c : Char) : Option Nat :=
  if '0' ≤ c ∧ c ≤ '9' then some (c.toNat - 48)
  else if 'a' ≤ c ∧ c ≤ 'f' then some (c.toNat - 87)
  else if 'A' ≤ c ∧ c ≤ 'F' then some (c.toNat - 55)
  else none

def toBytes? : List Char → Option (List UInt8)
  | [] => some []
  | high :: low :: rest => do
    let h ← digit? high
    let l ← digit? low
    let bytes ← toBytes? rest
    return UInt8.ofNat (16 * h + l) :: bytes
  | [_] => none

end QuadPort.Text.Hex
