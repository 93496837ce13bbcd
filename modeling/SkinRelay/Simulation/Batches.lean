import SkinRelay.Batch
import SkinRelay.Simulation.Agenda
import SkinRelay.Simulation.Script

/-!
The batched queue in virtual time.
-/

namespace SkinRelay.Simulation

/-! ### The loop in virtual time -/

/-- The first of these steps that can be taken. -/
def firstStep? (now : Nat) (b : Batch) (actions : List Batch.Action) : Option Batch :=
  actions.findSome? (b.step? now)

/-- The next thing that the loop does without waiting. -/
def loopMove? (now : Nat) (b : Batch) : Option Batch :=
  firstStep? now b [.fire, .drain, .park, .exit, .wake .full, .wake .delay]

/-- When the loop wakes up by itself to a queue with jobs in it. -/
def loopTime? (b : Batch) : Option Nat :=
  match b.loop with
  | .parked deadline _ => if b.queue.isEmpty then none else some deadline
  | _ => none

/-- Where the loop is at a later time if nothing was queued: rounds without jobs only move the
deadline. -/
def skipRounds (b : Batch) (now : Nat) : Batch :=
  match b.loop with
  | .parked deadline false =>
    if b.queue.isEmpty && deadline ≤ now then
      let period := Time.millis b.settings.delay
      { b with loop := .parked (deadline + ((now - deadline) / period + 1) * period) false }
    else b
  | _ => b

/-- The first batch that waits to be sent. -/
def unsent? (b : Batch) : Option (Nat × Batch.Round) :=
  b.rounds.entries.find? fun (_, round) => round.phase = .ready

/-- Sends the first batch that waits to be sent, which gives its number and the reply. -/
def sendMove? {S : Type} [Servers S] (now : Nat) (b : Batch) (servers : S) :
    Option (Batch × S × Nat × Timed (List Account)) :=
  match unsent? b with
  | none => none
  | some (number, round) =>
    match b.step? now (.send number) with
    | none => none
    | some b =>
      let (reply, servers) := Servers.accounts servers now (round.jobs.map (·.username))
      some (b, servers, number, reply)

/-! ### Callers of the queue -/

structure Batches where
  now : Nat := 0
  batch : Batch
  script : Script
  /-- Replies to rounds that are under way. -/
  replies : Agenda (Nat × Except RemoteError (List Account)) := []
  ended : Endings AccountResult := []

namespace Batches

def step? (w : Batches) (action : Batch.Action) : Option Batches :=
  (w.batch.step? w.now action).map fun batch => { w with batch }

/-- The step, if it can be taken. -/
def attempt (w : Batches) (action : Batch.Action) : Batches := (w.step? action).getD w

/-- Notes that a call has returned. -/
def noteReturn (w : Batches) (id : Nat) : Batches :=
  match w.batch.calls.get? id with
  | some { phase := .returned result, .. } =>
    { w with ended := w.ended ++ [(id, .returned w.now result)] }
  | _ => w

/-- A call goes as far as it can at once. -/
def call (w : Batches) (id : Nat) (username : String) (token : Option Bool) : Batches :=
  let w := w.attempt (.enter id username token)
  let w := w.attempt (.push id)
  let w := w.attempt (.signal id)
  let w := w.attempt (.collect id)
  w.noteReturn id

def drop (w : Batches) (id : Nat) : Batches :=
  match w.step? (.drop id) with
  | some w => { w with ended := w.ended ++ [(id, .dropped)] }
  | none => w

def stop (w : Batches) : Batches := (w.attempt .haltLoop).attempt .closeQueue

def deliver? (w : Batches) : Option Batches :=
  (Agenda.take? w.now w.replies).map fun ((number, result), replies) =>
    Batches.attempt { w with replies } (.deliver number result)

def collect? (w : Batches) : Option Batches :=
  w.batch.calls.entries.findSome? fun (id, _) =>
    (w.step? (.collect id)).map fun w => w.noteReturn id

/-- Sends a batch. A reply that takes no time is there at once. -/
def send? (w : Batches) : Option Batches :=
  (sendMove? w.now w.batch w.script).map fun (batch, script, number, reply) =>
    let w := { w with batch, script }
    if reply.latency = 0 then w.attempt (.deliver number reply.result)
    else { w with replies := w.replies.plan (w.now + reply.latency) (number, reply.result) }

instance : World Batches where
  now := Batches.now
  move? w :=
    w.collect? <|> w.deliver? <|> w.send? <|>
      (loopMove? w.now w.batch).map fun batch => { w with batch }
  next? w := earlier? (Agenda.time? w.replies) (loopTime? w.batch)
  wait w time := { w with now := time, batch := skipRounds w.batch time }
  size w := w.batch.calls.size + w.batch.rounds.size + w.replies.length

end Batches

end SkinRelay.Simulation
