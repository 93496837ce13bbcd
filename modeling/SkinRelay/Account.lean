import SkinRelay.Json.Format

/-!
Accounts: what the account service says about a player name.
-/

namespace SkinRelay

/-- An account: its id, which is a UUID without dashes, and the name in the casing that its owner
chose. -/
structure Account where
  id : String
  name : String
  legacy : Bool := false
  demo : Bool := false
  deriving DecidableEq, Repr, Inhabited

namespace Account

def format : Json.Format Account where
  schema := .record <|
    .cons "id" .required .text <|
    .cons "name" .required .text <|
    .cons "legacy" .elided .flag <|
    .cons "demo" .elided .flag .nil
  ofCarrier := fun (id, name, legacy, demo, ()) => { id, name, legacy, demo }
  toCarrier := fun a => (a.id, a.name, a.legacy, a.demo, ())
  ofCarrier_toCarrier _ := rfl

/-- The accounts of a reply to a lookup of many names. -/
def readAll (body : Bytes) : Except Json.Fault (List Account) := (Json.Format.list format).read body

end Account

end SkinRelay
