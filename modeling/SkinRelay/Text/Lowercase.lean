import SkinRelay.Text.CaseTable

/-!
Lower case of a text, as the Unicode standard defines it without regard to language: each
character is replaced by its lower-case form, except that a capital sigma that ends a word
becomes the final form of the letter.
-/

namespace SkinRelay.Text

def CaseRun.lower? (run : CaseRun) (n : Nat) : Option Nat :=
  if run.first ≤ n ∧ n ≤ run.last ∧ (n - run.first) % run.stride = 0 then
    some (run.lowered + (n - run.first))
  else none

/-- The one character that a character is lowered to, itself when it has no partner. -/
def lowerPartner (c : Char) : Char :=
  match caseRuns.findSome? (·.lower? c.toNat) with
  | some n => Char.ofNat n
  | none => c

def capitalSigma : Char := 'Σ'

/-- The first character that is not case-ignorable is a cased one. -/
def meetsCased (cs : List Char) : Bool :=
  match cs.find? (!caseIgnorableSet.contains ·) with
  | some c => casedSet.contains c
  | none => false

/-- A capital sigma ends a word when a letter comes before it and none after it. -/
def lowerSigma (before after : List Char) : Char :=
  if meetsCased before && !meetsCased after then 'ς' else 'σ'

/-- The lower-case form of a character: the dotted capital I keeps its dot as a mark. -/
def lowerForm (c : Char) : List Char :=
  if c = 'İ' then ['i', '\u0307'] else [lowerPartner c]

/-- Lower case of the characters that follow `before`, which is given last character first. -/
def lowerAfter (before : List Char) : List Char → List Char
  | [] => []
  | c :: rest =>
    (if c = capitalSigma then [lowerSigma before rest] else lowerForm c) ++
      lowerAfter (c :: before) rest

/-- Lower case of a text. -/
def lowercase (s : String) : String := String.ofList (lowerAfter [] s.toList)

end SkinRelay.Text
