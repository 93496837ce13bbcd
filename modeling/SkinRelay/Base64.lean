import SkinRelay.Bytes

/-!
Base64 with padding. Decoding is strict: the padding must be there, and the bits of the last
symbol that carry nothing must be zero, so a byte sequence has one encoding per alphabet.
-/

namespace SkinRelay.Base64

/-- An alphabet: letters and digits, and the two symbols that differ from use to use. -/
structure Alphabet where
  sixtyTwo : UInt8
  sixtyThree : UInt8

/-- The alphabet with `+` and `/`. -/
def standard : Alphabet := ⟨0x2B, 0x2F⟩

/-- The alphabet with `-` and `_`, which may stand in a URL. -/
def urlSafe : Alphabet := ⟨0x2D, 0x5F⟩

def Alphabet.symbol (alphabet : Alphabet) (n : Nat) : UInt8 :=
  if n < 26 then UInt8.ofNat (0x41 + n)
  else if n < 52 then UInt8.ofNat (0x61 + (n - 26))
  else if n < 62 then UInt8.ofNat (0x30 + (n - 52))
  else if n = 62 then alphabet.sixtyTwo
  else alphabet.sixtyThree

def Alphabet.value? (alphabet : Alphabet) (b : UInt8) : Option Nat :=
  if 0x41 ≤ b ∧ b ≤ 0x5A then some (b.toNat - 0x41)
  else if 0x61 ≤ b ∧ b ≤ 0x7A then some (b.toNat - 0x61 + 26)
  else if 0x30 ≤ b ∧ b ≤ 0x39 then some (b.toNat - 0x30 + 52)
  else if b = alphabet.sixtyTwo then some 62
  else if b = alphabet.sixtyThree then some 63
  else none

/-- The byte that fills the last group. -/
def pad : UInt8 := 0x3D

/-- Why a text is not an encoding. -/
inductive Fault where
  /-- This byte cannot stand at this offset. -/
  | symbol (byte : UInt8) (offset : Nat)
  /-- No group can be made of this many symbols. -/
  | length (symbols : Nat)
  | padding
  /-- The symbol at this offset has bits that belong to no byte. -/
  | lastSymbol (byte : UInt8) (offset : Nat)
  deriving DecidableEq, Repr

def Fault.message : Fault → String
  | .symbol byte offset => s!"Invalid symbol {byte.toNat}, offset {offset}."
  | .length symbols => s!"Invalid input length: {symbols}"
  | .padding => "Invalid padding"
  | .lastSymbol byte offset => s!"Invalid last symbol {byte.toNat}, offset {offset}."

/-! ### Encoding -/

def encode (alphabet : Alphabet) : Bytes → Bytes
  | [] => []
  | [a] =>
    [alphabet.symbol (a.toNat / 4), alphabet.symbol (a.toNat % 4 * 16), pad, pad]
  | [a, b] =>
    [alphabet.symbol (a.toNat / 4), alphabet.symbol (a.toNat % 4 * 16 + b.toNat / 16),
      alphabet.symbol (b.toNat % 16 * 4), pad]
  | a :: b :: c :: rest =>
    alphabet.symbol (a.toNat / 4) :: alphabet.symbol (a.toNat % 4 * 16 + b.toNat / 16) ::
      alphabet.symbol (b.toNat % 16 * 4 + c.toNat / 64) :: alphabet.symbol (c.toNat % 64) ::
        encode alphabet rest

/-! ### Decoding -/

/-- The value of a symbol that stands at `offset`. -/
def Alphabet.valueAt (alphabet : Alphabet) (offset : Nat) (b : UInt8) : Except Fault Nat :=
  match alphabet.value? b with
  | some n => .ok n
  | none => .error (.symbol b offset)

/-- The bytes of a full group of four symbols. -/
def group (w x y z : Nat) : Bytes :=
  [UInt8.ofNat (w * 4 + x / 16), UInt8.ofNat (x % 16 * 16 + y / 4), UInt8.ofNat (y % 4 * 64 + z)]

/-- The values of the symbols in the last group. Padding comes third at the earliest, and after
it nothing but padding. -/
def lastValues (alphabet : Alphabet) (start index : Nat) (firstPad : Option Nat) :
    Bytes → Except Fault (List Nat)
  | [] => .ok []
  | b :: rest =>
    if b = pad then
      if index < 2 then .error (.symbol pad (start + index))
      else lastValues alphabet start (index + 1) (firstPad.or (some (start + index))) rest
    else
      match firstPad with
      | some offset => .error (.symbol pad offset)
      | none =>
        match alphabet.valueAt (start + index) b with
        | .error f => .error f
        | .ok n =>
          match lastValues alphabet start (index + 1) none rest with
          | .error f => .error f
          | .ok ns => .ok (n :: ns)

/-- The bytes of the last group, which begins at `start`. -/
def decodeLast (alphabet : Alphabet) (start : Nat) (last : Bytes) : Except Fault Bytes :=
  match lastValues alphabet start 0 none last with
  | .error f => .error f
  | .ok values =>
    if last = [] then .ok []
    else if values.length < 2 then .error (.length (start + values.length))
    else if last.length ≠ 4 then .error .padding
    else
      let unused (index : Nat) := Fault.lastSymbol (last.getD index 0) (start + index)
      match values with
      | [w, x] =>
        if x % 16 = 0 then .ok [UInt8.ofNat (w * 4 + x / 16)] else .error (unused 1)
      | [w, x, y] =>
        if y % 4 = 0 then
          .ok [UInt8.ofNat (w * 4 + x / 16), UInt8.ofNat (x % 16 * 16 + y / 4)]
        else .error (unused 2)
      | w :: x :: y :: z :: _ => .ok (group w x y z)
      | _ => .ok []

/-- The bytes of the groups from offset `start` on, all but the last of them full. -/
def decodeFrom (alphabet : Alphabet) (start : Nat) : Bytes → Except Fault Bytes
  | a :: b :: c :: d :: e :: rest => do
    let w ← alphabet.valueAt start a
    let x ← alphabet.valueAt (start + 1) b
    let y ← alphabet.valueAt (start + 2) c
    let z ← alphabet.valueAt (start + 3) d
    let bytes ← decodeFrom alphabet (start + 4) (e :: rest)
    return group w x y z ++ bytes
  | last => decodeLast alphabet start last

/-- A single symbol left over behind full groups is reported first, when it is none. -/
def strayByte? (alphabet : Alphabet) (s : Bytes) : Option Fault :=
  match s.getLast? with
  | some b =>
    if s.length % 4 = 1 ∧ b ≠ pad ∧ (alphabet.value? b).isNone then
      some (.symbol b (s.length - 1))
    else none
  | none => none

/-- The bytes that a text encodes. -/
def decode (alphabet : Alphabet) (s : Bytes) : Except Fault Bytes :=
  match strayByte? alphabet s with
  | some f => .error f
  | none => decodeFrom alphabet 0 s

end SkinRelay.Base64
