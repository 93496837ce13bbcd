import SkinRelay.Batch
import SkinRelay.Resolver

/-!
The whole way of a lookup: the run for a name asks the store of known accounts, then the batched
queue, and with the account the cache of profiles, then the session server.

`step?` is one atomic step of one participant: a call, a run, the loop of the queue, a server that
replies, or whoever stops the service. Every interleaving is a sequence of such steps.
-/

namespace SkinRelay

namespace Pipeline

/-- How far the work of a run has come. -/
inductive Work where
  /-- The account of this name is looked up. -/
  | naming (username : String) (stage : KnownAccounts.Stage)
  /-- The profile of this account is looked up. -/
  | dressing (account : Account) (stage : TexturesCache.Stage)
  deriving Repr

/-- The work for a name as it begins. -/
def Work.begin (username : String) : Work := .naming username .reading

inductive Action where
  | call (id : Nat) (username : String)
  | spawn (run : Nat)
  /-- A run moves on by itself, and the store fails if it is used and a fault is given. -/
  | work (run : Nat) (fault : Option StoreError)
  /-- The session server replies to a run. -/
  | fetched (run : Nat) (reply : Except RemoteError (Option Profile))
  | release (run : Nat)
  | publish (run : Nat)
  /-- A call returns. -/
  | collect (id : Nat)
  | drop (id : Nat)
  /-- A step of the queue that is not the step of a call. -/
  | batch (action : Batch.Action)
  | stopSweeper
  | sweep
  deriving Repr

end Pipeline

/-- The parts of the service. A run has its own number as a caller of the queue. -/
structure Pipeline (σ : Type) where
  resolver : Resolver Pipeline.Work := {}
  known : KnownAccounts σ
  batch : Batch
  textures : TexturesCache := .default
  deriving Repr

namespace Pipeline

variable {σ : Type} [NameStore σ]

def ofStore (store : σ) (settings : BatchSettings) : Pipeline σ where
  known := { store }
  batch := .ofSettings settings

def stats (p : Pipeline σ) : PipelineStats where
  uuidCache := p.known.stats
  batch := p.batch.stats
  texturesCache := p.textures.stats
  texturesRequests := p.textures.requests
  resolver := p.resolver.stats

def withGroup (p : Pipeline σ) (action : Flight.Action String Work FetchResult) :
    Option (Pipeline σ) :=
  (p.resolver.step? action).map fun resolver => { p with resolver }

def withBatch (p : Pipeline σ) (now : Nat) (action : Batch.Action) : Option (Pipeline σ) :=
  (p.batch.step? now action).map fun batch => { p with batch }

/-- A new call, unless no account can have the name. -/
def call (p : Pipeline σ) (id : Nat) (username : String) : Except LookupError (Pipeline σ) :=
  match p.resolver.call Work.begin id username with
  | .ok resolver => .ok { p with resolver }
  | .error error => .error error

/-- What a run does about a name that the store does not know: it queues the name, and waits. -/
def ask (p : Pipeline σ) (now run : Nat) (username : String) : Option (Pipeline σ) :=
  match p.batch.calls.get? run with
  | none => p.withBatch now (.enter run username none)
  | some call =>
    match call.phase with
    | .entered => p.withBatch now (.push run)
    | .signalling => p.withBatch now (.signal run)
    | .waiting => p.withBatch now (.collect run)
    | .returned result =>
      p.withGroup (.advance run (.naming username (KnownAccounts.answered result)))
    | .gone => none

/-- The next thing that a run does by itself. -/
def work (p : Pipeline σ) (now run : Nat) (fault : Option StoreError) : Option (Pipeline σ) :=
  match p.resolver.group.work? run with
  | some (.naming username .reading) =>
    let (stage, known) := p.known.read now fault username
    { p with known }.withGroup (.advance run (.naming username stage))
  | some (.naming username .asking) => p.ask now run username
  | some (.naming username (.writing found)) =>
    let (stage, known) := p.known.write now fault username found
    { p with known }.withGroup (.advance run (.naming username stage))
  | some (.naming _ (.done (.error error))) => p.withGroup (.finish run (.error error))
  | some (.naming _ (.done (.ok none))) => p.withGroup (.finish run (.ok none))
  | some (.naming _ (.done (.ok (some account)))) =>
    p.withGroup (.advance run (.dressing account .looking))
  | some (.dressing _ (.done result)) => p.withGroup (.finish run result)
  | some (.dressing account stage) =>
    match p.textures.advance? now account.id stage with
    | some (stage, textures) =>
      { p with textures }.withGroup (.advance run (.dressing account stage))
    | none => none
  | none => none

/-- Whether a step of the queue is its own and not that of a call. -/
def isOfQueue : Batch.Action → Bool
  | .enter .. | .push _ | .signal _ | .collect _ | .cancel _ | .drop _ => false
  | _ => true

def step? (now : Nat) (p : Pipeline σ) : Action → Option (Pipeline σ)
  | .call id username =>
    if p.resolver.group.calls.contains id then none
    else match p.call id username with
      | .ok p => some p
      | .error _ => none
  | .spawn run => p.withGroup (.spawn run)
  | .work run fault => p.work now run fault
  | .fetched run reply =>
    match p.resolver.group.work? run with
    | some (.dressing account (.fetching request)) =>
      p.withGroup <| .advance run <|
        .dressing account (TexturesCache.fetched (FetchResult.ofReply request reply))
    | _ => none
  | .release run => p.withGroup (.release run)
  | .publish run => p.withGroup (.publish run)
  | .collect id => p.withGroup (.collect id)
  | .drop id => p.withGroup (.drop id)
  | .batch action => if isOfQueue action then p.withBatch now action else none
  | .stopSweeper => some { p with textures := p.textures.stopSweeper }
  | .sweep => some { p with textures := p.textures.sweep now }

end Pipeline

end SkinRelay
