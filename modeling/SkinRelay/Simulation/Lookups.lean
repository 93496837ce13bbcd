import SkinRelay.Resolver
import SkinRelay.Simulation.Accounts
import SkinRelay.Simulation.Flights

/-!
Shared lookups of names in virtual time, right in front of the two servers: nothing is batched, and
nothing is kept.
-/

namespace SkinRelay.Simulation

/-- How far the work of a run has come when it asks the servers itself. -/
inductive DirectWork where
  | begin (username : String)
  | naming
  | dressing (request : Nat)

/-- A reply that is under way to a run. -/
inductive DirectReply where
  | accounts (result : Except RemoteError (List Account))
  | profile (result : Except RemoteError (Option Profile))

structure Lookups where
  now : Nat := 0
  resolver : Resolver DirectWork := {}
  /-- Requests sent to the session server. -/
  requests : Nat := 0
  script : Script
  replies : Agenda (Nat × DirectReply) := []
  ended : Endings FetchResult := []

namespace Lookups

def step? (w : Lookups) (action : Flight.Action String DirectWork FetchResult) : Option Lookups :=
  (w.resolver.step? action).map fun resolver => { w with resolver }

def attempt (w : Lookups) (action : Flight.Action String DirectWork FetchResult) : Lookups :=
  (w.step? action).getD w

def finish (w : Lookups) (id : Nat) (result : FetchResult) : Lookups :=
  { w with ended := w.ended ++ [(id, .returned w.now result)] }

def call (w : Lookups) (id : Nat) (username : String) : Lookups :=
  match w.resolver.call DirectWork.begin id username with
  | .ok resolver => { w with resolver }
  | .error error => w.finish id (.error error)

def drop (w : Lookups) (id : Nat) : Lookups :=
  match w.step? (.drop id) with
  | some w => { w with ended := w.ended ++ [(id, .dropped)] }
  | none => w

def plan (w : Lookups) (id latency : Nat) (reply : DirectReply) : Lookups :=
  { w with replies := w.replies.plan (w.now + latency) (id, reply) }

/-- A profile reaches its run. -/
def receiveProfile (w : Lookups) (id : Nat) (result : Except RemoteError (Option Profile)) :
    Lookups :=
  match w.resolver.group.work? id with
  | some (.dressing request) => w.attempt (.finish id (FetchResult.ofReply request result))
  | _ => w

/-- A run asks for the profile of an account. A reply that takes no time is there at once. -/
def askProfile (w : Lookups) (id : Nat) (account : Account) : Lookups :=
  let (reply, script) := w.script.askProfile w.now account.id
  let w := w.attempt (.advance id (.dressing w.requests))
  let w := { w with script, requests := w.requests + 1 }
  if reply.latency = 0 then w.receiveProfile id reply.result
  else w.plan id reply.latency (.profile reply.result)

/-- An account reaches its run. -/
def receiveAccounts (w : Lookups) (id : Nat) (result : Except RemoteError (List Account)) :
    Lookups :=
  match firstAccount result with
  | .error error => w.attempt (.finish id (.error error))
  | .ok none => w.attempt (.finish id (.ok none))
  | .ok (some account) => w.askProfile id account

/-- A run that has just begun asks for the account. -/
def begin? (w : Lookups) (id : Nat) : Option Lookups :=
  match w.resolver.group.work? id with
  | some (.begin username) =>
    let (reply, script) := w.script.askAccounts w.now [username]
    let w := { w.attempt (.advance id .naming) with script }
    if reply.latency = 0 then some (w.receiveAccounts id reply.result)
    else some (w.plan id reply.latency (.accounts reply.result))
  | _ => none

def reply? (w : Lookups) : Option Lookups :=
  (Agenda.take? w.now w.replies).map fun ((id, reply), replies) =>
    let w := { w with replies }
    match reply with
    | .accounts result => w.receiveAccounts id result
    | .profile result => w.receiveProfile id result

def run? (w : Lookups) (id : Nat) (run : Flight.Run String DirectWork FetchResult) :
    Option Lookups :=
  w.begin? id <|> (lifeStep? id run).bind w.step?

def collect? (w : Lookups) : Option Lookups :=
  w.resolver.group.calls.entries.findSome? fun (id, _) =>
    (w.step? (.collect id)).map fun w =>
      match w.resolver.group.calls.get? id with
      | some { phase := .returned result, .. } => w.finish id result
      | _ => w

instance : World Lookups where
  now := Lookups.now
  move? w :=
    w.collect? <|> (w.resolver.group.runs.entries.findSome? fun (id, r) => w.run? id r) <|> w.reply?
  next? w := Agenda.time? w.replies
  wait w time := { w with now := time }
  size w := w.resolver.group.calls.size + w.resolver.group.runs.size + w.replies.length

end Lookups

end SkinRelay.Simulation
