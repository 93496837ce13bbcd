import SkinRelay.KnownAccounts
import SkinRelay.Simulation.Agenda
import SkinRelay.Simulation.Script
import SkinRelay.Store.Memory

/-!
The store of known accounts in virtual time, in front of the account service, which is asked for
one name at a time.
-/

namespace SkinRelay.Simulation

/-- What the account service says about one name: the first account of its reply. -/
def firstAccount : Except RemoteError (List Account) → AccountResult
  | .error error => .error (.remote error)
  | .ok accounts => .ok accounts.head?

structure AccountLookup where
  username : String
  stage : KnownAccounts.Stage := .reading

structure Accounts where
  now : Nat := 0
  known : KnownAccounts MemoryStore
  faults : StoreScript := {}
  script : Script
  lookups : Table Nat AccountLookup := {}
  replies : Agenda (Nat × Except RemoteError (List Account)) := []
  ended : Endings AccountResult := []

namespace Accounts

def call (w : Accounts) (id : Nat) (username : String) : Accounts :=
  { w with lookups := w.lookups.insert id { username } }

/-- Moves a lookup on, which may end it. -/
def setStage (w : Accounts) (id : Nat) (lookup : AccountLookup) (stage : KnownAccounts.Stage) :
    Accounts :=
  match stage with
  | .done result =>
    { w with
      lookups := w.lookups.erase id
      ended := w.ended ++ [(id, .returned w.now result)] }
  | _ => { w with lookups := w.lookups.insert id { lookup with stage } }

def drop (w : Accounts) (id : Nat) : Accounts :=
  if w.lookups.contains id then
    { w with lookups := w.lookups.erase id, ended := w.ended ++ [(id, .dropped)] }
  else w

/-- A reply reaches a lookup, unless that was dropped. -/
def receive (w : Accounts) (id : Nat) (result : Except RemoteError (List Account)) : Accounts :=
  match w.lookups.get? id with
  | some l => w.setStage id l (KnownAccounts.answered (firstAccount result))
  | none => w

/-- Asks the account service. A reply that takes no time is there at once. -/
def ask (w : Accounts) (id : Nat) (username : String) : Accounts :=
  let (reply, script) := w.script.askAccounts w.now [username]
  let w := { w with script }
  if reply.latency = 0 then w.receive id reply.result
  else { w with replies := w.replies.plan (w.now + reply.latency) (id, reply.result) }

def lookup? (w : Accounts) (id : Nat) (l : AccountLookup) : Option Accounts :=
  match l.stage with
  | .reading =>
    let (stage, known) := w.known.read w.now w.faults.readFault l.username
    let w := { w with known, faults := w.faults.read (Username.key l.username) }
    let w := w.setStage id l stage
    match stage with
    | .asking => some (w.ask id l.username)
    | _ => some w
  | .writing found =>
    let (stage, known) := w.known.write w.now w.faults.writeFault l.username found
    let faults :=
      w.faults.write (KnownAccounts.storedName l.username found) (found.map (·.id))
    some ({ w with known, faults }.setStage id l stage)
  | .asking | .done _ => none

def reply? (w : Accounts) : Option Accounts :=
  (Agenda.take? w.now w.replies).map fun ((id, result), replies) =>
    { w with replies }.receive id result

instance : World Accounts where
  now := Accounts.now
  move? w := (w.lookups.entries.findSome? fun (id, l) => w.lookup? id l) <|> w.reply?
  next? w := Agenda.time? w.replies
  wait w time := { w with now := time }
  size w := w.lookups.size + w.replies.length

end Accounts

end SkinRelay.Simulation
