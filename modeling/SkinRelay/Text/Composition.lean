import SkinRelay.Text.CompositionTable

/-!
The composed form of a text: characters that can be written as one are, and marks on the same
character stand in their canonical order. Texts that are equivalent have the same composed form.
-/

namespace SkinRelay.Text

namespace Composition

/-- The class of a mark, and zero for everything else. -/
def markClass (n : Nat) : Nat :=
  (markClassRows.findSome? fun
    | [first, last, kind] => if first ≤ n ∧ n ≤ last then some kind else none
    | _ => none).getD 0

/-! ### Syllables of the Korean alphabet, which are composed by a rule -/

def leadBase : Nat := 0x1100
def vowelBase : Nat := 0x1161
def tailBase : Nat := 0x11A7
def syllableBase : Nat := 0xAC00
def leadCount : Nat := 19
def vowelCount : Nat := 21
def tailCount : Nat := 28

/-- The letters of a syllable. -/
def syllableLetters? (n : Nat) : Option (List Nat) :=
  let i := n - syllableBase
  if syllableBase ≤ n ∧ i < leadCount * vowelCount * tailCount then
    let lead := leadBase + i / (vowelCount * tailCount)
    let vowel := vowelBase + i % (vowelCount * tailCount) / tailCount
    some (if i % tailCount = 0 then [lead, vowel] else [lead, vowel, tailBase + i % tailCount])
  else none

/-- The syllable of a lead and a vowel, or of a syllable without a tail and a tail. -/
def syllable? (a b : Nat) : Option Nat :=
  if leadBase ≤ a ∧ a < leadBase + leadCount ∧ vowelBase ≤ b ∧ b < vowelBase + vowelCount then
    some (syllableBase + ((a - leadBase) * vowelCount + (b - vowelBase)) * tailCount)
  else if syllableBase ≤ a ∧ a < syllableBase + leadCount * vowelCount * tailCount ∧
      (a - syllableBase) % tailCount = 0 ∧ tailBase < b ∧ b < tailBase + tailCount then
    some (a + (b - tailBase))
  else none

/-! ### The three steps -/

/-- The two parts of a character. -/
def parts? (n : Nat) : Option (Nat × Nat) :=
  compositionRows.findSome? fun
    | [a, b, whole] => if whole = n then some (a, b) else none
    | _ => none

/-- The character that two others make. -/
def whole? (a b : Nat) : Option Nat :=
  (syllable? a b).or <| compositionRows.findSome? fun
    | [x, y, whole] => if x = a ∧ y = b then some whole else none
    | _ => none

/-- A character taken to pieces, at most so often. -/
def decomposeOnce : Nat → Nat → List Nat
  | 0, n => [n]
  | depth + 1, n =>
    match parts? n with
    | some (a, b) => decomposeOnce depth a ++ [b]
    | none => (syllableLetters? n).getD [n]

/-- A character taken to pieces: no character has parts within parts within parts within parts. -/
def decompose (n : Nat) : List Nat := decomposeOnce 3 n

/-- Puts a character in front of others, or a mark behind marks of a lower class. -/
def place (n : Nat) : List Nat → List Nat
  | [] => [n]
  | m :: rest =>
    if 0 < markClass m ∧ markClass m < markClass n then m :: place n rest else n :: m :: rest

/-- Marks in their canonical order. -/
def order (ns : List Nat) : List Nat := ns.foldr place []

/-- Composes characters that come after `starter` and after marks on it, last mark first. A mark
is added to the starter if no mark of the same or a higher class stands between them. -/
def composeFrom (starter : Nat) (marks : List Nat) : List Nat → List Nat
  | [] => starter :: marks.reverse
  | n :: rest =>
    let reaches := match marks with
      | [] => true
      | m :: _ => markClass m < markClass n
    match if reaches then whole? starter n else none with
    | some whole => composeFrom whole marks rest
    | none =>
      if markClass n = 0 then starter :: marks.reverse ++ composeFrom n [] rest
      else composeFrom starter (n :: marks) rest

/-- Marks at the beginning have nothing to be added to. -/
def compose (ns : List Nat) : List Nat :=
  ns.takeWhile (0 < markClass ·) ++
    match ns.dropWhile (0 < markClass ·) with
    | [] => []
    | n :: rest => composeFrom n [] rest

end Composition

/-- The composed form of a text. -/
def composed (s : List Char) : List Char :=
  (Composition.compose (Composition.order (s.flatMap fun c => Composition.decompose c.toNat))).map
    Char.ofNat

end SkinRelay.Text
