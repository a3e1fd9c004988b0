/-!
How a byte is written in a message: two lower-case hexadecimal digits after `0x`.
-/

namespace CallHandle.Byte

/-- The hexadecimal digits, each at the index it stands for. -/
def digits : List Char :=
  ['0', '1', '2', '3', '4', '5', '6', '7', '8', '9', 'a', 'b', 'c', 'd', 'e', 'f']

/-- The digit for a value below sixteen. -/
def digit (n : Nat) : Char :=
  digits.getD n '0'

/-- Both digits are always written, so `7` is `0x07`. -/
def hex (b : UInt8) : String :=
  String.ofList ['0', 'x', digit (b.toNat / 16), digit (b.toNat % 16)]

end CallHandle.Byte
