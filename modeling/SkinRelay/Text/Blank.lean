import SkinRelay.Text.CodePoints

/-!
White space, by the Unicode property of that name, and its removal from both ends of a text.
-/

namespace SkinRelay.Text

/-- The characters with the property White_Space. -/
def blankSet : CodePoints := ⟨
  [0x9, 0xe, 0x20, 0x21, 0x85, 0x86, 0xa0, 0xa1, 0x1680, 0x1681, 0x2000, 0x200b, 0x2028,
   0x202a, 0x202f, 0x2030, 0x205f, 0x2060, 0x3000, 0x3001]⟩

def isBlank (c : Char) : Bool := blankSet.contains c

/-- Without the elements at both ends that satisfy `p`. -/
def trimBoth (p : α → Bool) (xs : List α) : List α :=
  ((xs.dropWhile p).reverse.dropWhile p).reverse

def trimBlank (cs : List Char) : List Char := trimBoth isBlank cs

end SkinRelay.Text
