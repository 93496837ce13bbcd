import SkinRelay.Time

/-!
Stores of names: what was last learnt about a player name, positive or negative, for thirty days.
A record is found under every casing of its name.
-/

namespace SkinRelay

/-- What a store knows about a name. -/
structure NameRecord where
  /-- The casing with which the record was stored. -/
  username : String
  /-- `none` if there is no account with this name. -/
  uuid : Option String
  deriving DecidableEq, Repr

/-- How long a record is believed. -/
def NameRecord.lifetime : Nat := Time.days 30

/-- A store as its users see it, when nothing fails. -/
class NameStore (σ : Type) where
  lookup : σ → (now : Nat) → (username : String) → Option NameRecord
  record : σ → (now : Nat) → (username : String) → (uuid : Option String) → σ

end SkinRelay
