import SkinRelay.Expiring
import SkinRelay.Store
import SkinRelay.Username

/-!
The store in memory: an expiring table of records.
-/

namespace SkinRelay

structure MemoryStore where
  records : Expiring String NameRecord := { lifetime := NameRecord.lifetime }
  deriving DecidableEq, Repr

namespace MemoryStore

def ofLifetime (lifetime : Nat) : MemoryStore := { records := { lifetime } }

def lookup (s : MemoryStore) (now : Nat) (username : String) : Option NameRecord :=
  s.records.get? now (Username.key username)

def record (s : MemoryStore) (now : Nat) (username : String) (uuid : Option String) : MemoryStore :=
  { records := s.records.insert now (Username.key username) { username, uuid } }

instance : NameStore MemoryStore := ⟨lookup, record⟩

end MemoryStore

end SkinRelay
