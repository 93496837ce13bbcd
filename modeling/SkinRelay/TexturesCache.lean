import SkinRelay.Expiring
import SkinRelay.LookupError
import SkinRelay.Profile
import SkinRelay.Stats
import SkinRelay.Time

/-!
Cached profiles: what the session server said about an account is repeated for a fixed time,
counted from when it was said, also that there is no profile. Errors are not kept.
-/

namespace SkinRelay

/-- A profile as it came with one request. All who are given the outcome of that request share
it. -/
structure Fetched where
  request : Nat
  profile : Profile
  deriving DecidableEq, Repr

abbrev FetchResult := Except LookupError (Option Fetched)

namespace FetchResult

/-- What the reply to a request means. -/
def ofReply (request : Nat) : Except RemoteError (Option Profile) → FetchResult
  | .error error => .error (.remote error)
  | .ok profile => .ok (profile.map fun profile => { request, profile })

end FetchResult

namespace TexturesCache

/-- The sweeper takes out old entries from time to time. It is started once there is something to
take out. -/
inductive Sweeper where
  | notStarted
  | running
  | stopped
  deriving DecidableEq, Repr

/-- How far the lookup of an id has come. -/
inductive Stage where
  | looking
  /-- The cache does not help, and the session server is to be asked. -/
  | missed
  /-- The session server has been asked, with this request. -/
  | fetching (request : Nat)
  | storing (found : Option Fetched)
  /-- The outcome is stored, and the sweeper is to be started. -/
  | stored (found : Option Fetched)
  | done (result : FetchResult)
  deriving Repr

end TexturesCache

structure TexturesCache where
  entries : Expiring String (Option Fetched)
  sweeper : TexturesCache.Sweeper := .notStarted
  /-- When a sweeper was started. -/
  sweeps : List Nat := []
  /-- Requests sent to the session server. -/
  requests : Nat := 0
  stats : CacheStats := {}
  deriving Repr

namespace TexturesCache

def ofLifetime (lifetime : Nat) : TexturesCache := { entries := { lifetime } }

/-- Profiles are kept for a minute. -/
def default : TexturesCache := ofLifetime (Time.seconds 60)

/-- The time between two sweeps, which is never zero. -/
def sweepInterval (c : TexturesCache) : Nat := max c.entries.lifetime (Time.millis 10)

/-- Looks into the cache. -/
def look (c : TexturesCache) (now : Nat) (uuid : String) : Stage × TexturesCache :=
  match c.entries.get? now uuid with
  | some found => (.done (.ok found), { c with stats := { c.stats with hits := c.stats.hits + 1 } })
  | none => (.missed, { c with stats := { c.stats with misses := c.stats.misses + 1 } })

/-- Sends a request to the session server. -/
def request (c : TexturesCache) : Stage × TexturesCache :=
  (.fetching c.requests, { c with requests := c.requests + 1 })

/-- Goes on with the outcome of a request. -/
def fetched : FetchResult → Stage
  | .error error => .done (.error error)
  | .ok found => .storing found

def store (c : TexturesCache) (now : Nat) (uuid : String) (found : Option Fetched) :
    Stage × TexturesCache :=
  (.stored found, { c with entries := c.entries.insert now uuid found })

/-- Starts the sweeper, unless it has been started or stopped. -/
def startSweeper (c : TexturesCache) (now : Nat) : TexturesCache :=
  match c.sweeper with
  | .notStarted => { c with sweeper := .running, sweeps := c.sweeps ++ [now] }
  | .running | .stopped => c

def stopSweeper (c : TexturesCache) : TexturesCache := { c with sweeper := .stopped }

/-- One sweep. -/
def sweep (c : TexturesCache) (now : Nat) : TexturesCache :=
  { c with entries := c.entries.sweep now }

/-- The next thing that a lookup does by itself. -/
def advance? (c : TexturesCache) (now : Nat) (uuid : String) :
    Stage → Option (Stage × TexturesCache)
  | .looking => some (c.look now uuid)
  | .missed => some c.request
  | .storing found => some (c.store now uuid found)
  | .stored found => some (.done (.ok found), c.startSweeper now)
  | .fetching _ | .done _ => none

end TexturesCache

end SkinRelay
