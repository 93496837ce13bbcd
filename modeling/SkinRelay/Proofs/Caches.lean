import SkinRelay.KnownAccounts
import SkinRelay.Store.Memory
import SkinRelay.TexturesCache

/-!
What one step of a lookup can do in the store of known accounts and in the cache of profiles, as
relations.
-/

namespace SkinRelay

namespace KnownAccounts

variable {σ : Type} [NameStore σ] {k : KnownAccounts σ} {now : Nat} {username : String}

/-- `Reads k now username fault stage`: with this fault the lookup of a name goes on like this. -/
inductive Reads (k : KnownAccounts σ) (now : Nat) (username : String) :
    Option StoreError → Stage → Prop
  | fail (error : StoreError) : Reads k now username (some error) (.done (.error (.storage error)))
  | hit {r : NameRecord} (found : NameStore.lookup k.store now (Username.key username) = some r) :
      Reads k now username none (.done (.ok (account? r)))
  | miss (gone : NameStore.lookup k.store now (Username.key username) = none) :
      Reads k now username none .asking

theorem reads_read (k : KnownAccounts σ) (now : Nat) (fault : Option StoreError)
    (username : String) : Reads k now username fault (k.read now fault username).1 := by
  unfold read
  cases fault with
  | some error => exact .fail error
  | none =>
    cases h : NameStore.lookup k.store now (Username.key username) with
    | some r => exact .hit h
    | none => exact .miss h

@[simp] theorem read_store (k : KnownAccounts σ) (now : Nat) (fault : Option StoreError)
    (username : String) : (k.read now fault username).2.store = k.store := by
  unfold read
  cases fault with
  | some error => rfl
  | none => cases h : NameStore.lookup k.store now (Username.key username) <;> simp

end KnownAccounts

/-- The store in memory, asked about a name in lower case. -/
theorem MemoryStore.lookup_key (s : MemoryStore) (now : Nat) {key : String}
    (hkey : Username.key key = key) :
    NameStore.lookup s now (Username.key key) = s.records.get? now key := by
  simp only [NameStore.lookup, lookup, hkey]

namespace TexturesCache

variable {c d : TexturesCache} {now : Nat} {uuid : String} {stage next : Stage}

/-- `Advances c now uuid stage next d`: the lookup of an id goes from one stage to the next, and
leaves the cache like this. -/
inductive Advances (c : TexturesCache) (now : Nat) (uuid : String) :
    Stage → Stage → TexturesCache → Prop
  | hit {found : Option Fetched} {stats : CacheStats}
      (alive : c.entries.get? now uuid = some found) :
      Advances c now uuid .looking (.done (.ok found)) { c with stats }
  | miss {stats : CacheStats} (gone : c.entries.get? now uuid = none) :
      Advances c now uuid .looking .missed { c with stats }
  | request :
      Advances c now uuid .missed (.fetching c.requests) { c with requests := c.requests + 1 }
  | store {found : Option Fetched} :
      Advances c now uuid (.storing found) (.stored found)
        { c with entries := c.entries.insert now uuid found }
  | sweep {found : Option Fetched} {sweeper : Sweeper} {sweeps : List Nat} :
      Advances c now uuid (.stored found) (.done (.ok found)) { c with sweeper, sweeps }

theorem advances_of_advance? (h : c.advance? now uuid stage = some (next, d)) :
    Advances c now uuid stage next d := by
  cases stage with
  | looking =>
    simp only [advance?, look] at h
    split at h
    · rename_i hfound
      cases h
      exact .hit hfound
    · rename_i hgone
      cases h
      exact .miss hgone
  | missed =>
    cases h
    exact .request
  | storing =>
    cases h
    exact .store
  | stored found =>
    cases h
    unfold startSweeper
    split
    · exact .sweep
    · exact .sweep
    · exact .sweep
  | fetching | done => cases h

end TexturesCache

end SkinRelay
