import SkinRelay.Text.Composition
import SkinRelay.Url.Domain.DirectionTable
import SkinRelay.Url.Domain.JoiningTable
import SkinRelay.Url.Domain.MappingTable

/-!
Labels of domain names in any script: what their characters are mapped to, and which labels can
stand in a name.
-/

namespace SkinRelay.Domain

/-! ### Mapping -/

/-- The replacement of a character that is given by one row. -/
def replacementIn? (n : Nat) : List Nat → Option Nat
  | [one, replacement] => if n = one then some replacement else none
  | [first, last, stride, replacement] =>
    if first ≤ n ∧ n ≤ last ∧ (n - first) % stride = 0 then some (replacement + (n - first))
    else none
  | _ => none

def expansionIn? (n : Nat) : List Nat → Option (List Nat)
  | one :: expansion => if n = one then some expansion else none
  | [] => none

/-- What a character of a name is mapped to, if it can stand in one. -/
def mapped? (c : Char) : Option (List Char) :=
  if permittedSet.contains c then some [c]
  else if ignoredSet.contains c then some []
  else match replacementRows.findSome? (replacementIn? c.toNat) with
    | some n => some [Char.ofNat n]
    | none => (expansionRows.findSome? (expansionIn? c.toNat)).map (·.map Char.ofNat)

/-- A name with its characters mapped, in composed form. -/
def mapName? (name : List Char) : Option (List Char) :=
  (name.mapM mapped?).map fun parts => Text.composed parts.flatten

/-- Whether mapping leaves a text as it is. -/
def isMapped (s : List Char) : Bool := s.all permittedSet.contains && Text.composed s == s

/-! ### Joiners -/

def nonJoiner : Char := '\u200C'

def joiner : Char := '\u200D'

/-- Signs that suppress a vowel, behind which both joiners have a meaning. -/
def isVirama (c : Char) : Bool := Text.Composition.markClass c.toNat == 9

/-- Whether the first character that is not transparent is in a set. -/
def meets (set : Text.CodePoints) (s : List Char) : Bool :=
  match s.find? (!transparentSet.contains ·) with
  | some c => set.contains c
  | none => false

/-- Whether a character can stand behind some others, of which the last comes first, and in front of
others: a joiner must have something to join or to keep apart. -/
def isInPlace (before : List Char) (c : Char) (after : List Char) : Bool :=
  if c = joiner then before.head?.any isVirama
  else if c = nonJoiner then
    before.head?.any isVirama || (meets joinsNextSet before && meets joinsPreviousSet after)
  else true

/-- Whether all characters of the rest of a label can stand where they are. -/
def areInPlace (before : List Char) : List Char → Bool
  | [] => true
  | c :: rest => isInPlace before c rest && areInPlace (c :: before) rest

/-! ### Direction -/

/-- Whether a name with this character is written partly from right to left. -/
def turnsRight (c : Char) : Bool := rightSet.contains c || arabicNumberSet.contains c

/-- Characters of no direction of their own. -/
def isWeak (c : Char) : Bool := neutralSet.contains c || attachedSet.contains c

def isLeft (c : Char) : Bool :=
  !(turnsRight c || europeanNumberSet.contains c || isWeak c)

/-- The last character that is not attached to another one. -/
def lastBase? (label : List Char) : Option Char :=
  label.reverse.find? (!attachedSet.contains ·)

/-- Whether a label has one direction, so that it can be told from its neighbours in a name that
is written partly from right to left. -/
def hasDirection : List Char → Bool
  | [] => true
  | c :: rest =>
    let label := c :: rest
    if rightSet.contains c then
      label.all (fun d => turnsRight d || europeanNumberSet.contains d || isWeak d) &&
        (lastBase? label).any (fun d => turnsRight d || europeanNumberSet.contains d) &&
        !(label.any europeanNumberSet.contains && label.any arabicNumberSet.contains)
    else if isLeft c then
      label.all (fun d => isLeft d || europeanNumberSet.contains d || isWeak d) &&
        (lastBase? label).any (fun d => isLeft d || europeanNumberSet.contains d)
    else false

/-- Whether a label with characters other than ASCII can stand in a name, apart from its
direction. -/
def isLabel (label : List Char) : Bool :=
  !label.head?.any markSet.contains && areInPlace [] label

end SkinRelay.Domain
