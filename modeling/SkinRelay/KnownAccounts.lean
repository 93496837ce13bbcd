import SkinRelay.Account
import SkinRelay.LookupError
import SkinRelay.Stats
import SkinRelay.Store
import SkinRelay.Username

/-!
Known accounts: a store is asked first, and somebody else only about a name that the store does
not know. What is learnt then is stored, also that there is no such account. Errors are not
stored.
-/

namespace SkinRelay

/-- What a lookup of an account gives in the end. -/
abbrev AccountResult := Except LookupError (Option Account)

structure KnownAccounts (σ : Type) where
  store : σ
  stats : CacheStats := {}
  deriving DecidableEq, Repr

namespace KnownAccounts

/-- How far the lookup of a name has come. -/
inductive Stage where
  | reading
  /-- The store does not know the name, and somebody else has been asked. -/
  | asking
  | writing (found : Option Account)
  | done (result : AccountResult)
  deriving Repr

variable {σ : Type} [NameStore σ]

/-- The account in a record. -/
def account? (record : NameRecord) : Option Account :=
  record.uuid.map fun id => { id, name := record.username }

/-- Reads the store, or fails to. A record that is found is a hit. -/
def read (k : KnownAccounts σ) (now : Nat) (fault : Option StoreError) (username : String) :
    Stage × KnownAccounts σ :=
  match fault with
  | some error => (.done (.error (.storage error)), k)
  | none =>
    match NameStore.lookup k.store now (Username.key username) with
    | some record =>
      (.done (.ok (account? record)), { k with stats := { k.stats with hits := k.stats.hits + 1 } })
    | none => (.asking, k)

/-- Goes on with what somebody else answered. -/
def answered : AccountResult → Stage
  | .error error => .done (.error error)
  | .ok found => .writing found

/-- The name under which an answer is stored: the one that the account itself has. -/
def storedName (username : String) (found : Option Account) : String :=
  (found.map (·.name)).getD username

/-- Stores an answer, or fails to, which the caller does not notice. An answer that is stored is a
miss. -/
def write (k : KnownAccounts σ) (now : Nat) (fault : Option StoreError) (username : String)
    (found : Option Account) : Stage × KnownAccounts σ :=
  (.done (.ok found),
    match fault with
    | some _ => k
    | none =>
      { store := NameStore.record k.store now (storedName username found) (found.map (·.id))
        stats := { k.stats with misses := k.stats.misses + 1 } })

end KnownAccounts

end SkinRelay
