import SkinRelay.Text.Utf8

/-!
Percent-encoding: bytes written as a percent sign and two hexadecimal digits.
-/

namespace SkinRelay.Percent

/-- The bytes that a text stands for. A percent sign without two digits behind it stands for
itself. -/
def decode : Bytes → Bytes
  | [] => []
  | 0x25 :: a :: b :: rest =>
    match Bytes.hexValue? a, Bytes.hexValue? b with
    | some x, some y => UInt8.ofNat (x * 16 + y) :: decode rest
    | _, _ => 0x25 :: decode (a :: b :: rest)
  | b :: rest => b :: decode rest
termination_by s => s.length

/-- The digit of a percent-encoded byte. -/
def hexDigit (n : Nat) : UInt8 :=
  if n < 10 then UInt8.ofNat (0x30 + n) else UInt8.ofNat (0x37 + n)

def encodeByte (b : UInt8) : Bytes := [0x25, hexDigit (b.toNat / 16), hexDigit (b.toNat % 16)]

/-- The bytes with those that satisfy `escape` percent-encoded. -/
def encode (escape : UInt8 → Bool) (s : Bytes) : Bytes :=
  s.flatMap fun b => if escape b then encodeByte b else [b]

end SkinRelay.Percent
