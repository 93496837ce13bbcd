import SkinRelay.Pipeline
import SkinRelay.Router
import SkinRelay.Simulation.Batches
import SkinRelay.Simulation.Flights
import SkinRelay.Store.Memory

/-!
The whole service in virtual time: the pipeline with a store in memory, the router in front of it,
and two servers behind it.
-/

namespace SkinRelay.Simulation

/-- A reply that is under way. -/
inductive Arrival where
  /-- To a batch. -/
  | accounts (round : Nat) (result : Except RemoteError (List Account))
  /-- To a run. -/
  | profile (run : Nat) (result : Except RemoteError (Option Profile))

/-- What a caller of the service gets. -/
inductive Served where
  | profile (result : FetchResult)
  | page (reply : Router.Reply)

structure Service (S : Type) where
  now : Nat := 0
  pipeline : Pipeline MemoryStore
  faults : StoreScript := {}
  servers : S
  /-- Which calls are requests of the router, and what they want. -/
  forms : Table Nat Router.Form := {}
  arrivals : Agenda Arrival := []
  ended : Endings Served := []

namespace Service

variable {S : Type} [Servers S]

def step? (w : Service S) (action : Pipeline.Action) : Option (Service S) :=
  (w.pipeline.step? w.now action).map fun pipeline => { w with pipeline }

/-- The step, if it can be taken. -/
def attempt (w : Service S) (action : Pipeline.Action) : Service S := (w.step? action).getD w

def finish (w : Service S) (id : Nat) (served : Served) : Service S :=
  { w with ended := w.ended ++ [(id, .returned w.now served)] }

/-- What a lookup gives, as a request wants it if it was made for one. -/
def present (w : Service S) (id : Nat) (result : FetchResult) : Served :=
  match w.forms.get? id with
  | none => .profile result
  | some form => .page (Router.answer form (result.map fun found => found.map (·.profile)))

/-- Looks up a name. -/
def call (w : Service S) (id : Nat) (username : String) : Service S :=
  match w.pipeline.call id username with
  | .ok pipeline => { w with pipeline }
  | .error error => w.finish id (w.present id (.error error))

/-- Serves a GET request. -/
def request (w : Service S) (id : Nat) (path : String) : Service S :=
  match Router.task "GET" (Router.route? path) with
  | .reply reply => w.finish id (.page reply)
  | .health =>
    w.finish id (.page (Router.health (Time.toMillis w.now / 1000) (some w.pipeline.stats)))
  | .lookup form name => { w with forms := w.forms.insert id form }.call id name

def drop (w : Service S) (id : Nat) : Service S :=
  match w.step? (.drop id) with
  | some w => { w with ended := w.ended ++ [(id, .dropped)] }
  | none => w

/-- Stops everything that goes on in the background. -/
def shutDown (w : Service S) : Service S :=
  ((w.attempt (.batch .haltLoop)).attempt (.batch .closeQueue)).attempt .stopSweeper

/-! ### What happens by itself -/

def receive (w : Service S) : Arrival → Service S
  | .accounts round result => w.attempt (.batch (.deliver round result))
  | .profile run result => w.attempt (.fetched run result)

/-- A reply that takes no time is there at once, and another one comes later. -/
def plan (w : Service S) (latency : Nat) (arrival : Arrival) : Service S :=
  if latency = 0 then w.receive arrival
  else { w with arrivals := w.arrivals.plan (w.now + latency) arrival }

def arrive? (w : Service S) : Option (Service S) :=
  (Agenda.take? w.now w.arrivals).map fun (arrival, arrivals) => { w with arrivals }.receive arrival

/-- Asks the session server for a run that has just begun to wait for it. -/
def ask (w : Service S) (run : Nat) : Service S :=
  match w.pipeline.resolver.group.work? run with
  | some (.dressing account (.fetching _)) =>
    let (reply, servers) := Servers.profile w.servers w.now account.id
    { w with servers }.plan reply.latency (.profile run reply.result)
  | _ => w

/-- What a run does next. -/
def work? (w : Service S) (run : Nat) : Option (Service S) :=
  match w.pipeline.resolver.group.work? run with
  | some (.naming username .reading) =>
    (w.step? (.work run w.faults.readFault)).map fun w =>
      { w with faults := w.faults.read (Username.key username) }
  | some (.naming username (.writing found)) =>
    (w.step? (.work run w.faults.writeFault)).map fun w =>
      { w with
        faults := w.faults.write (KnownAccounts.storedName username found) (found.map (·.id)) }
  | some (.dressing _ .missed) => (w.step? (.work run none)).map fun w => w.ask run
  | _ => w.step? (.work run none)

def run? (w : Service S) (id : Nat) (run : Flight.Run String Pipeline.Work FetchResult) :
    Option (Service S) :=
  match lifeStep? id run with
  | some (.spawn id) => w.step? (.spawn id)
  | some (.release id) => w.step? (.release id)
  | some (.publish id) => w.step? (.publish id)
  | _ => w.work? id

def collect? (w : Service S) : Option (Service S) :=
  w.pipeline.resolver.group.calls.entries.findSome? fun (id, _) =>
    (w.step? (.collect id)).map fun w =>
      match w.pipeline.resolver.group.calls.get? id with
      | some { phase := .returned result, .. } => w.finish id (w.present id result)
      | _ => w

def send? (w : Service S) : Option (Service S) :=
  (sendMove? w.now w.pipeline.batch w.servers).map fun (batch, servers, number, reply) =>
    { w with servers, pipeline := { w.pipeline with batch } }.plan reply.latency
      (.accounts number reply.result)

instance : World (Service S) where
  now := Service.now
  move? w :=
    w.collect? <|>
      (w.pipeline.resolver.group.runs.entries.findSome? fun (id, r) => w.run? id r) <|>
      w.arrive? <|> w.send? <|>
      (loopMove? w.now w.pipeline.batch).map fun batch =>
        { w with pipeline := { w.pipeline with batch } }
  next? w := earlier? (Agenda.time? w.arrivals) (loopTime? w.pipeline.batch)
  wait w time :=
    { w with
      now := time
      pipeline := { w.pipeline with batch := skipRounds w.pipeline.batch time } }
  size w :=
    w.pipeline.resolver.group.calls.size + w.pipeline.resolver.group.runs.size +
      w.pipeline.batch.rounds.size + w.arrivals.length

end Service

end SkinRelay.Simulation
