import SkinRelay.Bytes

/-!
UTF-8: characters to bytes, and bytes back to characters when they are well formed. A decoded
sequence must be the shortest form of a scalar value, so overlong forms, surrogates and values
beyond U+10FFFF are refused.
-/

namespace SkinRelay.Utf8

def encode (cs : List Char) : Bytes := cs.flatMap String.utf8EncodeChar

/-- The bytes of a text. -/
def ofString (s : String) : Bytes := encode s.toList

/-- The six low bits of a continuation byte. -/
def tail? (b : UInt8) : Option Nat :=
  if 0x80 ≤ b ∧ b ≤ 0xBF then some (b.toNat - 0x80) else none

/-- The character with scalar value `n`, provided a sequence as long as this one is needed
for it. -/
def scalar? (n least : Nat) : Option Char :=
  if h : least ≤ n ∧ n.isValidChar then some (Char.ofNatAux n h.2) else none

/-- The characters of a well-formed sequence. -/
def decode? : Bytes → Option (List Char)
  | [] => some []
  | a :: rest =>
    if a < 0x80 then do
      let c ← scalar? a.toNat 0
      let cs ← decode? rest
      some (c :: cs)
    else if a < 0xC0 then none
    else match rest with
      | [] => none
      | b :: rest =>
        match tail? b with
        | none => none
        | some y =>
          if a < 0xE0 then do
            let c ← scalar? ((a.toNat - 0xC0) * 0x40 + y) 0x80
            let cs ← decode? rest
            some (c :: cs)
          else match rest with
            | [] => none
            | d :: rest =>
              match tail? d with
              | none => none
              | some z =>
                if a < 0xF0 then do
                  let c ← scalar? (((a.toNat - 0xE0) * 0x40 + y) * 0x40 + z) 0x800
                  let cs ← decode? rest
                  some (c :: cs)
                else if a < 0xF8 then
                  match rest with
                  | [] => none
                  | e :: rest =>
                    match tail? e with
                    | none => none
                    | some w => do
                      let high := ((a.toNat - 0xF0) * 0x40 + y) * 0x40 + z
                      let c ← scalar? (high * 0x40 + w) 0x10000
                      let cs ← decode? rest
                      some (c :: cs)
                else none

/-- The text that these bytes spell, when they are well formed. -/
def toString? (bytes : Bytes) : Option String := (decode? bytes).map String.ofList

@[simp] theorem encode_nil : encode [] = [] := rfl

@[simp] theorem encode_cons (c : Char) (cs : List Char) :
    encode (c :: cs) = String.utf8EncodeChar c ++ encode cs := rfl

@[simp] theorem encode_append (cs ds : List Char) : encode (cs ++ ds) = encode cs ++ encode ds := by
  simp [encode]

@[simp] theorem decode?_nil : decode? [] = some [] := by simp [decode?]

end SkinRelay.Utf8
