import SkinRelay.LookupError
import SkinRelay.Store
import SkinRelay.Table
import SkinRelay.Username

/-!
The store in a database: one table with a row for every name, written and read by two statements.
A row stays in the table when it is too old, and is then passed over.
-/

namespace SkinRelay

/-- A row, apart from its key. The time is that of the wall clock. -/
structure NameRow where
  username : String
  uuid : Option String
  storedAt : Int
  deriving DecidableEq, Repr

/-- The record in a row, unless the row is too old. -/
def NameRow.record? (row : NameRow) (now : Int) : Option NameRecord :=
  if now - row.storedAt ≥ NameRecord.lifetime then none
  else some { username := row.username, uuid := row.uuid }

/-- The table, in which the key of a row is the key of the name. -/
structure DatabaseStore where
  rows : Table String NameRow := {}
  deriving DecidableEq, Repr

namespace DatabaseStore

/-- A statement with the values that are bound to it. -/
inductive Statement where
  | select (key : String)
  /-- Puts in a row, which takes the place of one with the same key. -/
  | upsert (key : String) (row : NameRow)
  deriving DecidableEq, Repr

/-- The rows that a statement gives and the table after it. -/
def execute (s : DatabaseStore) : Statement → Option NameRow × DatabaseStore
  | .select key => (s.rows.get? key, s)
  | .upsert key row => (none, { rows := s.rows.insert key row })

def lookupStatement (username : String) : Statement := .select (Username.key username)

def recordStatement (now : Int) (username : String) (uuid : Option String) : Statement :=
  .upsert (Username.key username) { username, uuid, storedAt := now }

def lookup (s : DatabaseStore) (now : Int) (username : String) : Option NameRecord :=
  (s.execute (lookupStatement username)).1.bind (·.record? now)

def record (s : DatabaseStore) (now : Int) (username : String) (uuid : Option String) :
    DatabaseStore :=
  (s.execute (recordStatement now username uuid)).2

instance : NameStore DatabaseStore := ⟨fun s now => s.lookup now, fun s now => s.record now⟩

/-- What a failed statement tells the users of the store. -/
def errorOf (fault : DatabaseError) : StoreError := ⟨fault.message⟩

end DatabaseStore

end SkinRelay
