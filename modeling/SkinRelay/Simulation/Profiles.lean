import SkinRelay.Simulation.Agenda
import SkinRelay.Simulation.Script
import SkinRelay.TexturesCache

/-!
The cache of profiles in virtual time, in front of the session server.
-/

namespace SkinRelay.Simulation

structure ProfileLookup where
  uuid : String
  stage : TexturesCache.Stage := .looking

structure Profiles where
  now : Nat := 0
  cache : TexturesCache
  script : Script
  lookups : Table Nat ProfileLookup := {}
  replies : Agenda (Nat × Except RemoteError (Option Profile)) := []
  ended : Endings FetchResult := []

namespace Profiles

def call (w : Profiles) (id : Nat) (uuid : String) : Profiles :=
  { w with lookups := w.lookups.insert id { uuid } }

def drop (w : Profiles) (id : Nat) : Profiles :=
  if w.lookups.contains id then
    { w with lookups := w.lookups.erase id, ended := w.ended ++ [(id, .dropped)] }
  else w

/-- Moves a lookup on, which may end it. -/
def setStage (w : Profiles) (id : Nat) (lookup : ProfileLookup) (stage : TexturesCache.Stage) :
    Profiles :=
  match stage with
  | .done result =>
    { w with
      lookups := w.lookups.erase id
      ended := w.ended ++ [(id, .returned w.now result)] }
  | _ => { w with lookups := w.lookups.insert id { lookup with stage } }

/-- A reply reaches a lookup, unless that was dropped. -/
def receive (w : Profiles) (id : Nat) (reply : Except RemoteError (Option Profile)) : Profiles :=
  match w.lookups.get? id with
  | some l =>
    match l.stage with
    | .fetching request =>
      w.setStage id l (TexturesCache.fetched (FetchResult.ofReply request reply))
    | _ => w
  | none => w

/-- Asks the session server. A reply that takes no time is there at once. -/
def ask (w : Profiles) (id : Nat) (uuid : String) : Profiles :=
  let (reply, script) := w.script.askProfile w.now uuid
  let w := { w with script }
  if reply.latency = 0 then w.receive id reply.result
  else { w with replies := w.replies.plan (w.now + reply.latency) (id, reply.result) }

def lookup? (w : Profiles) (id : Nat) (l : ProfileLookup) : Option Profiles :=
  match w.cache.advance? w.now l.uuid l.stage with
  | none => none
  | some (stage, cache) =>
    let w := { w with cache }.setStage id l stage
    match stage with
    | .fetching _ => some (w.ask id l.uuid)
    | _ => some w

def reply? (w : Profiles) : Option Profiles :=
  (Agenda.take? w.now w.replies).map fun ((id, reply), replies) =>
    { w with replies }.receive id reply

instance : World Profiles where
  now := Profiles.now
  move? w := (w.lookups.entries.findSome? fun (id, l) => w.lookup? id l) <|> w.reply?
  next? w := Agenda.time? w.replies
  wait w time := { w with now := time }
  size w := w.lookups.size + w.replies.length

end Profiles

end SkinRelay.Simulation
