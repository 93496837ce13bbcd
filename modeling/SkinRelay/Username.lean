import SkinRelay.Text.Lowercase

/-!
Player names: the names that can exist at all, and the one spelling under which a name is
looked up.
-/

namespace SkinRelay

namespace Username

/-- Letters, digits and the underscore, where a letter also counts if some case form of it is a
Latin letter: the long s and the Kelvin sign are forms of `s` and `k`. -/
def isNameChar (c : Char) : Bool :=
  c.isAlphanum || c == '_' || c == 'ſ' || c == '\u212A'

/-- Whether an account can have this name: three to sixteen name characters. -/
def isValid (name : String) : Bool :=
  3 ≤ name.toList.length && name.toList.length ≤ 16 && name.toList.all isNameChar

/-- The spelling that stands for every casing of a name. -/
def key (name : String) : String := Text.lowercase name

end Username

end SkinRelay
