import SkinRelay.Json.Value

/-!
Counters of what the parts of the service did, which nothing reads back.
-/

namespace SkinRelay

structure CacheStats where
  hits : Nat := 0
  misses : Nat := 0
  deriving DecidableEq, Repr, Inhabited

structure BatchStats where
  /-- Requests that were answered or failed. -/
  rounds : Nat := 0
  usernamesSent : Nat := 0
  lastBatchSize : Nat := 0
  /-- Jobs left behind by the last drain. -/
  lastQueueDepth : Nat := 0
  lastRoundMillis : Nat := 0
  deriving DecidableEq, Repr, Inhabited

structure ResolverStats where
  found : Nat := 0
  missed : Nat := 0
  failed : Nat := 0
  /-- Callers that joined a lookup already under way. -/
  joined : Nat := 0
  deriving DecidableEq, Repr, Inhabited

structure PipelineStats where
  uuidCache : CacheStats := {}
  batch : BatchStats := {}
  texturesCache : CacheStats := {}
  texturesRequests : Nat := 0
  resolver : ResolverStats := {}
  deriving DecidableEq, Repr, Inhabited

open Json (Value)

def CacheStats.toValue (s : CacheStats) : Value :=
  .object [("hits", .number s.hits), ("misses", .number s.misses)]

def BatchStats.toValue (s : BatchStats) : Value :=
  .object
    [("rounds", .number s.rounds), ("usernames_sent", .number s.usernamesSent),
      ("last_batch_size", .number s.lastBatchSize), ("last_queue_depth", .number s.lastQueueDepth),
      ("last_round_duration_ms", .number s.lastRoundMillis)]

def ResolverStats.toValue (s : ResolverStats) : Value :=
  .object
    [("found", .number s.found), ("missed", .number s.missed), ("failed", .number s.failed),
      ("shared", .number s.joined)]

def PipelineStats.toValue (s : PipelineStats) : Value :=
  .object
    [("uuid_cache", s.uuidCache.toValue), ("batch", s.batch.toValue),
      ("textures_cache", s.texturesCache.toValue),
      ("textures_requests", .number s.texturesRequests), ("resolver", s.resolver.toValue)]

end SkinRelay
