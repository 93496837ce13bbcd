/-!
Byte sequences, and the digits among the bytes.
-/

namespace SkinRelay

/-- Text as it travels: a sequence of octets, not yet known to be UTF-8. -/
abbrev Bytes := List UInt8

namespace Bytes

/-- The value of an ASCII hexadecimal digit of either case. -/
def hexValue? (b : UInt8) : Option Nat :=
  if 0x30 ≤ b ∧ b ≤ 0x39 then some (b.toNat - 0x30)
  else if 0x41 ≤ b ∧ b ≤ 0x46 then some (b.toNat - 0x41 + 10)
  else if 0x61 ≤ b ∧ b ≤ 0x66 then some (b.toNat - 0x61 + 10)
  else none

def isDigit (b : UInt8) : Bool := 0x30 ≤ b && b ≤ 0x39

end Bytes

end SkinRelay
