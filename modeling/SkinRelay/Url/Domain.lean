import SkinRelay.Text.Split
import SkinRelay.Url.Domain.Label
import SkinRelay.Url.Punycode

/-!
Domain names in ASCII: the characters of a name are mapped, for example to lower case, and a label
with other characters than ASCII is then written in Punycode behind a mark.
-/

namespace SkinRelay.Domain

/-- Characters that would end a host, or that no host may hold. -/
def isForbidden (c : Char) : Bool :=
  c.toNat ≤ 0x20 || c.toNat == 0x7F || "#/:<>?@[\\]^|%".toList.contains c

/-- The mark of a label in Punycode. -/
def mark : List Char := "xn--".toList

/-- A label in two forms. -/
structure Label where
  ascii : List Char
  /-- As it is read by people. -/
  shown : List Char

/-- The label that a label in Punycode stands for, if it needs that form and can stand in a
name. -/
def decodedLabel? (label : List Char) : Option Label :=
  match Punycode.decode (label.drop mark.length) with
  | none => none
  | some shown =>
    if shown.any (0x80 ≤ ·.toNat) && Punycode.encode shown == label.drop mark.length &&
        isMapped shown && isLabel shown then
      some ⟨label, shown⟩
    else none

/-- Both forms of a label whose characters are mapped. -/
def label? (label : List Char) : Option Label :=
  if mark.isPrefixOf label then decodedLabel? label
  else if label.all (·.toNat < 0x80) then some ⟨label, label⟩
  else if isLabel label then some ⟨mark ++ Punycode.encode label, label⟩
  else none

/-- The ASCII form of a domain name. -/
def toAscii (name : List Char) : Option (List Char) := do
  let mapped ← mapName? name
  let labels ← (Text.splitOn '.' mapped).mapM label?
  let ascii := ['.'].intercalate (labels.map (·.ascii))
  let isMixed := labels.any fun label => label.shown.any turnsRight
  let isReadable := !isMixed || labels.all fun label => hasDirection label.shown
  if ascii.any isForbidden || !isReadable then none else some ascii

end SkinRelay.Domain
