import SkinRelay.Json.Numeral
import SkinRelay.Proofs.Json.Text

/-!
JSON texts. A `Node` is what is left of a value once its layout is forgotten: the white space between
its tokens, and how the characters of its texts are spelled. `Spells` says which texts a value has, with
any white space and any escapes.

Values that are skipped are not looked at closely. So a text may hold bytes or escapes that stand for no
character, and a number may be too large: they have a spelling but no meaning.
-/

namespace SkinRelay.Json

inductive Node where
  | null
  | flag (b : Bool)
  /-- A number, `none` if it is beyond all doubles. -/
  | number (value : Option Numeral)
  /-- A text, `none` if it does not consist of characters. -/
  | text (value : Option String)
  | list (items : List Node)
  | object (members : List (Option String × Node))

/-- White space. -/
def Blanks (s : Bytes) : Prop := ∀ b ∈ s, isBlank b = true

/-! ### Texts -/

/-- What a text is made of. -/
inductive Piece where
  /-- A byte that stands for itself. -/
  | byte (b : UInt8)
  /-- A character with a one-letter escape. -/
  | short (c : Char)
  /-- A UTF-16 unit, as four digits. -/
  | unit (n : Nat)

/-- The four hexadecimal digits of a unit. -/
inductive SpellsUnit : Nat → Bytes → Prop
  | mk {b₃ b₂ b₁ b₀ : UInt8} {n₃ n₂ n₁ n₀ : Nat} (h₃ : Bytes.hexValue? b₃ = some n₃)
      (h₂ : Bytes.hexValue? b₂ = some n₂) (h₁ : Bytes.hexValue? b₁ = some n₁)
      (h₀ : Bytes.hexValue? b₀ = some n₀) :
      SpellsUnit (((n₃ * 16 + n₂) * 16 + n₁) * 16 + n₀) [b₃, b₂, b₁, b₀]

/-- The texts of these pieces, from behind the opening quote. -/
inductive SpellsPieces : List Piece → Bytes → Prop
  | close : SpellsPieces [] [0x22]
  | byte {b : UInt8} {ps : List Piece} {s : Bytes} (plain : IsPlain b) (h : SpellsPieces ps s) :
      SpellsPieces (.byte b :: ps) (b :: s)
  | short {e : UInt8} {c : Char} {ps : List Piece} {s : Bytes} (letter : shortEscape? e = some c)
      (h : SpellsPieces ps s) : SpellsPieces (.short c :: ps) (0x5C :: e :: s)
  | unit {n : Nat} {u : Bytes} {ps : List Piece} {s : Bytes} (hu : SpellsUnit n u)
      (h : SpellsPieces ps s) : SpellsPieces (.unit n :: ps) (0x5C :: 0x75 :: (u ++ s))

/-- The character of a surrogate pair. -/
def paired (high low : Nat) : Char :=
  Char.ofNat (0x10000 + (high - 0xD800) * 0x400 + (low - 0xDC00))

/-- The bytes that pieces stand for, perhaps behind the first half of a surrogate pair. A half without
its partner stands for nothing. -/
def decode : Option Nat → List Piece → Option Bytes
  | none, [] => some []
  | none, .byte b :: ps => (decode none ps).map (b :: ·)
  | none, .short c :: ps => (decode none ps).map (String.utf8EncodeChar c ++ ·)
  | none, .unit n :: ps =>
    if isTrailing n then none
    else if isLeading n then decode (some n) ps
    else (decode none ps).map (String.utf8EncodeChar (Char.ofNat n) ++ ·)
  | some high, .unit low :: ps =>
    if isTrailing low then (decode none ps).map (String.utf8EncodeChar (paired high low) ++ ·)
    else none
  | some _, _ => none

/-- How a text is spelled, from behind its opening quote. -/
inductive SpellsText : Option String → Bytes → Prop
  | mk {ps : List Piece} {s : Bytes} (h : SpellsPieces ps s) :
      SpellsText ((decode none ps).bind Utf8.toString?) s

/-! ### Numbers -/

/-- One or more digits. -/
def AreDigits (ds : Bytes) : Prop := ds ≠ [] ∧ ∀ d ∈ ds, Bytes.isDigit d = true

/-- The digits before the point: a zero at the front stands alone. -/
def AreWhole (ds : Bytes) : Prop := AreDigits ds ∧ (ds.head? = some 0x30 → ds = [0x30])

inductive SpellsFraction : Option Bytes → Bytes → Prop
  | absent : SpellsFraction none []
  | present {ds : Bytes} (h : AreDigits ds) : SpellsFraction (some ds) (0x2E :: ds)

/-- The sign of an exponent: whether it is a minus sign. -/
inductive SpellsSign : Bool → Bytes → Prop
  | absent : SpellsSign false []
  | plus : SpellsSign false [0x2B]
  | minus : SpellsSign true [0x2D]

inductive SpellsExponent : Option Int → Bytes → Prop
  | absent : SpellsExponent none []
  | present {mark : UInt8} {negative : Bool} {sign ds : Bytes} (hmark : mark = 0x65 ∨ mark = 0x45)
      (hsign : SpellsSign negative sign) (h : AreDigits ds) :
      SpellsExponent (some (if negative then -(decimal ds : Int) else decimal ds))
        (mark :: (sign ++ ds))

/-- How a number is spelled, from behind its sign. -/
inductive SpellsNumber (negative : Bool) : Option Numeral → Bytes → Prop
  | mk {w a b : Bytes} {fraction : Option Bytes} {exponent : Option Int} (whole : AreWhole w)
      (ha : SpellsFraction fraction a) (hb : SpellsExponent exponent b) :
      SpellsNumber negative (denote negative w fraction exponent).toOption (w ++ (a ++ b))

/-! ### Lists and objects -/

/-- The rest of a list or an object behind an entry: these texts with commas before them, and the
closing bracket. -/
inductive Follows (closer : UInt8) : List Bytes → Bytes → Prop
  | close {a : Bytes} (ha : Blanks a) : Follows closer [] (a ++ [closer])
  | comma {a t s : Bytes} {ts : List Bytes} (ha : Blanks a) (h : Follows closer ts s) :
      Follows closer (t :: ts) (a ++ 0x2C :: (t ++ s))

/-- A list or an object from behind its opening bracket. -/
inductive Listed (closer : UInt8) : List Bytes → Bytes → Prop
  | close {a : Bytes} (ha : Blanks a) : Listed closer [] (a ++ [closer])
  | entry {t s : Bytes} {ts : List Bytes} (h : Follows closer ts s) :
      Listed closer (t :: ts) (t ++ s)

/-- A key and its colon, from behind the opening quote of the key. -/
inductive SpellsLabel : Option String → Bytes → Prop
  | mk {k c : Bytes} {key : Option String} (h : SpellsText key k) (hc : Blanks c) :
      SpellsLabel key (k ++ (c ++ [0x3A]))

/-- A key and its colon. -/
inductive SpellsKey : Option String → Bytes → Prop
  | mk {a k : Bytes} {key : Option String} (ha : Blanks a) (h : SpellsLabel key k) :
      SpellsKey key (a ++ 0x22 :: k)

/-- A member of an object, and how its key and its value are spelled. -/
structure SpelledMember where
  key : Option String
  node : Node
  keyText : Bytes
  valueText : Bytes

namespace SpelledMember

def member (m : SpelledMember) : Option String × Node := (m.key, m.node)

def text (m : SpelledMember) : Bytes := m.keyText ++ m.valueText

end SpelledMember

/-- `Spells node s`: the text `s`, which may begin with white space, is a text of the value. -/
inductive Spells : Node → Bytes → Prop
  | blank {b : UInt8} {node : Node} {s : Bytes} (hb : isBlank b = true) (h : Spells node s) :
      Spells node (b :: s)
  | null : Spells .null [0x6E, 0x75, 0x6C, 0x6C]
  | yes : Spells (.flag true) [0x74, 0x72, 0x75, 0x65]
  | no : Spells (.flag false) [0x66, 0x61, 0x6C, 0x73, 0x65]
  | unsigned {n : Option Numeral} {s : Bytes} (h : SpellsNumber false n s) : Spells (.number n) s
  | signed {n : Option Numeral} {s : Bytes} (h : SpellsNumber true n s) :
      Spells (.number n) (0x2D :: s)
  | text {t : Option String} {s : Bytes} (h : SpellsText t s) : Spells (.text t) (0x22 :: s)
  | list {items : List (Node × Bytes)} {s : Bytes} (each : ∀ i ∈ items, Spells i.1 i.2)
      (h : Listed 0x5D (items.map Prod.snd) s) : Spells (.list (items.map Prod.fst)) (0x5B :: s)
  | object {members : List SpelledMember} {s : Bytes}
      (keys : ∀ m ∈ members, SpellsKey m.key m.keyText)
      (values : ∀ m ∈ members, Spells m.node m.valueText)
      (h : Listed 0x7D (members.map SpelledMember.text) s) :
      Spells (.object (members.map SpelledMember.member)) (0x7B :: s)

/-- A whole text of a value: white space may follow. -/
inductive SpellsWhole : Node → Bytes → Prop
  | mk {node : Node} {s a : Bytes} (h : Spells node s) (ha : Blanks a) : SpellsWhole node (s ++ a)

end SkinRelay.Json
