import SkinRelay.Batch.Queue
import SkinRelay.KnownAccounts
import SkinRelay.Settings
import SkinRelay.Table
import SkinRelay.Time

/-!
Batched lookups: names are queued, and a loop takes them out of the queue, at most a batch at a
time, and has one request sent for each batch. The delay between its rounds is what keeps the
requests below the limits of the account service; a full batch need not wait for it, if the
settings say so.

`step?` is one atomic step of one participant: a call, a start, a stop, the loop, or a request
under way. Every interleaving of the participants is a sequence of such steps.
-/

namespace SkinRelay

namespace Batch

inductive Lifecycle where
  | idle
  | running
  | stopped
  deriving DecidableEq, Repr

/-- Why the loop woke up. -/
inductive Wake where
  | delay
  | full
  deriving DecidableEq, Repr

/-- Where the loop is. -/
inductive Loop where
  | absent
  /-- About to wait for the next round. -/
  | ready
  /-- Waiting for the deadline or for a notification, which may have come already. -/
  | parked (deadline : Nat) (notified : Bool)
  | draining (wake : Wake)
  /-- About to have a request sent for these jobs, having left so many others. -/
  | firing (wake : Wake) (jobs : List Job) (left : Nat)
  | exited
  /-- The buffer for a batch could not be had. -/
  | crashed
  deriving DecidableEq, Repr

inductive CallPhase where
  /-- The loop is running, and the name is not yet queued. -/
  | entered
  /-- The name is queued, and the loop is to be told that a batch is full. -/
  | signalling
  | waiting
  | returned (result : AccountResult)
  /-- Dropped by whoever called. -/
  | gone
  deriving Repr

structure Call where
  username : String
  /-- Whether the token of the call has fired, if it has one. -/
  token : Option Bool := none
  phase : CallPhase := .entered
  deriving Repr

/-- What became of a job that has left the queue for good. -/
inductive Fate where
  | discarded
  /-- The queue was stopped while the job was in it. -/
  | cleared
  | answered (reply : Except RemoteError (Option Account))
  deriving Repr

inductive RoundPhase where
  | ready
  | sent (time : Nat)
  | answered
  deriving DecidableEq, Repr

/-- A batch that was taken out of the queue, and the request for it. -/
structure Round where
  jobs : List Job
  /-- What woke the loop that took it. -/
  wake : Wake
  drainedAt : Nat
  phase : RoundPhase := .ready
  deriving DecidableEq, Repr

inductive Action where
  | enter (id : Nat) (username : String) (token : Option Bool)
  | push (id : Nat)
  | signal (id : Nat)
  /-- A call returns. -/
  | collect (id : Nat)
  /-- The token of a call fires. -/
  | cancel (id : Nat)
  | drop (id : Nat)
  | start
  /-- The first half of a stop, which ends the loop. -/
  | haltLoop
  /-- The second half of a stop, which empties the queue. -/
  | closeQueue
  | park
  | wake (cause : Wake)
  | exit
  | drain
  | fire
  | send (round : Nat)
  | deliver (round : Nat) (result : Except RemoteError (List Account))
  deriving Repr

end Batch

/-- The queue with everything that goes on around it. Calls have the numbers that their callers
gave them, and a job the number of its call; rounds are numbered in the order in which they were
taken out. -/
structure Batch where
  settings : BatchSettings
  lifecycle : Batch.Lifecycle := .idle
  /-- When a loop was started. -/
  starts : List Nat := []
  loop : Batch.Loop := .absent
  /-- A notification that nobody was waiting for. -/
  permit : Bool := false
  queue : List Batch.Job := []
  /-- Nothing is queued any more. -/
  closed : Bool := false
  /-- Stops that are halfway through. -/
  halfStops : Nat := 0
  calls : Table Nat Batch.Call := {}
  fates : Table Nat Batch.Fate := {}
  rounds : Table Nat Batch.Round := {}
  stats : BatchStats := {}
  deriving Repr

namespace Batch

/-- An idle queue. A batch holds at least one name. -/
def ofSettings (settings : BatchSettings) : Batch :=
  { settings := { settings with batchSize := max settings.batchSize 1 } }

/-- The most jobs for which a buffer can be had: a job takes 32 bytes, and a buffer fewer than
`2 ^ 63`. -/
def maxBuffered : Nat := (Nat.pow 2 63 - 1) / 32

def setCall (b : Batch) (id : Nat) (call : Call) (phase : CallPhase) : Batch :=
  { b with calls := b.calls.insert id { call with phase } }

/-- Whether nobody waits for a job any more. -/
def isGone (b : Batch) (job : Job) : Bool :=
  match b.calls.get? job.id with
  | some { phase := .returned _, .. } | some { phase := .gone, .. } => true
  | _ => false

def setFates (b : Batch) (jobs : List Job) (fate : Job → Fate) : Batch :=
  { b with fates := jobs.foldl (fun t job => t.insert job.id (fate job)) b.fates }

/-- Starts the loop, unless it has been started. A stopped queue does not start again. -/
def start (b : Batch) (now : Nat) : Except LookupError Batch :=
  match b.lifecycle with
  | .running => .ok b
  | .stopped => .error .queueStopped
  | .idle => .ok { b with lifecycle := .running, starts := b.starts ++ [now], loop := .ready }

/-- Tells the loop that a batch is full. Several notifications that come while it is not waiting
are one. -/
def notify (b : Batch) : Batch :=
  match b.loop with
  | .parked deadline false => { b with loop := .parked deadline true }
  | _ => { b with permit := true }

/-- Whether a queue of this length has just become a multiple of the batch. -/
def isFull (b : Batch) (length : Nat) : Bool :=
  b.settings.fireOnFull && length % b.settings.batchSize = 0

/-! ### Calls -/

/-- A call begins: it starts the loop if need be. -/
def enter (b : Batch) (now id : Nat) (username : String) (token : Option Bool) : Batch :=
  match b.start now with
  | .ok b => b.setCall id { username, token } .entered
  | .error error => b.setCall id { username, token } (.returned (.error error))

/-- A call queues its job. -/
def push (b : Batch) (id : Nat) (call : Call) : Batch :=
  if b.closed then b.setCall id call (.returned (.error .queueStopped))
  else
    let queue := b.queue ++ [⟨id, call.username⟩]
    let b := { b with queue }
    b.setCall id call (if b.isFull queue.length then .signalling else .waiting)

/-- What a waiting call returns, if it can return. A token that has fired comes first. -/
def result? (b : Batch) (id : Nat) (call : Call) : Option AccountResult :=
  if call.token = some true then some (.error .cancelled)
  else match b.fates.get? id with
    | some .cleared => some (.error .queueStopped)
    | some (.answered (.ok found)) => some (.ok found)
    | some (.answered (.error error)) => some (.error (.remote error))
    | some .discarded | none => none

/-! ### The loop -/

/-- The loop begins to wait. -/
def park (b : Batch) (now : Nat) : Batch :=
  let notified := b.settings.fireOnFull && b.permit
  { b with
    loop := .parked (now + Time.millis b.settings.delay) notified
    permit := b.permit && !notified }

/-- The loop takes a batch out of the queue. Without jobs the round is over. -/
def drainQueue (b : Batch) (wake : Wake) : Batch :=
  if b.settings.batchSize > maxBuffered then { b with loop := .crashed }
  else
    let d := drain b.isGone b.settings.batchSize b.queue
    let b := { b.setFates d.discarded fun _ => .discarded with queue := d.rest }
    if d.taken.isEmpty then { b with loop := .ready }
    else
      { b with
        loop := .firing wake d.taken d.rest.length
        stats := { b.stats with lastBatchSize := d.taken.length, lastQueueDepth := d.rest.length } }

/-- The loop has a request sent. Notifications are merged, so every full batch that is still in
the queue goes out in the same round. -/
def fire (b : Batch) (now : Nat) (wake : Wake) (jobs : List Job) (left : Nat) : Batch :=
  { b with
    rounds := b.rounds.insert b.rounds.size { jobs, wake, drainedAt := now }
    loop :=
      if b.settings.fireOnFull && b.settings.batchSize ≤ left then .draining wake else .ready }

/-! ### Requests -/

/-- Gives every job of a round what the reply holds for it. -/
def deliver (b : Batch) (now number : Nat) (round : Round) (sentAt : Nat)
    (result : Except RemoteError (List Account)) : Batch :=
  { b.setFates round.jobs fun job => .answered (job.reply result) with
    rounds := b.rounds.insert number { round with phase := .answered }
    stats :=
      { b.stats with
        rounds := b.stats.rounds + 1
        usernamesSent := b.stats.usernamesSent + round.jobs.length
        lastRoundMillis := Time.toMillis (now - sentAt) } }

/-! ### Steps -/

def step? (now : Nat) (b : Batch) : Action → Option Batch
  | .enter id username token =>
    if b.calls.contains id then none else some (b.enter now id username token)
  | .push id =>
    match b.calls.get? id with
    | some call =>
      match call.phase with
      | .entered => some (b.push id call)
      | _ => none
    | none => none
  | .signal id =>
    match b.calls.get? id with
    | some call =>
      match call.phase with
      | .signalling => some (b.notify.setCall id call .waiting)
      | _ => none
    | none => none
  | .collect id =>
    match b.calls.get? id with
    | some call =>
      match call.phase, b.result? id call with
      | .waiting, some result => some (b.setCall id call (.returned result))
      | _, _ => none
    | none => none
  | .cancel id =>
    match b.calls.get? id with
    | some call =>
      if call.token = some false then
        some { b with calls := b.calls.insert id { call with token := some true } }
      else none
    | none => none
  | .drop id =>
    match b.calls.get? id with
    | some call =>
      match call.phase with
      | .waiting => some (b.setCall id call .gone)
      | _ => none
    | none => none
  | .start =>
    match b.start now with
    | .ok b => some b
    | .error _ => none
  | .haltLoop => some { b with lifecycle := .stopped, halfStops := b.halfStops + 1 }
  | .closeQueue =>
    if b.halfStops = 0 then none
    else
      some { b.setFates b.queue fun _ => .cleared with
        queue := [], closed := true, halfStops := b.halfStops - 1 }
  | .park =>
    match b.loop with
    | .ready => some (b.park now)
    | _ => none
  | .wake .delay =>
    match b.loop with
    | .parked deadline notified =>
      if deadline ≤ now then
        some { b with loop := .draining .delay, permit := b.permit || notified }
      else none
    | _ => none
  | .wake .full =>
    match b.loop with
    | .parked _ true => some { b with loop := .draining .full }
    | _ => none
  | .exit =>
    match b.loop, b.lifecycle with
    | .parked _ notified, .stopped =>
      some { b with loop := .exited, permit := b.permit || notified }
    | _, _ => none
  | .drain =>
    match b.loop with
    | .draining wake => some (b.drainQueue wake)
    | _ => none
  | .fire =>
    match b.loop with
    | .firing wake jobs left => some (b.fire now wake jobs left)
    | _ => none
  | .send number =>
    match b.rounds.get? number with
    | some round =>
      match round.phase with
      | .ready => some { b with rounds := b.rounds.insert number { round with phase := .sent now } }
      | _ => none
    | none => none
  | .deliver number result =>
    match b.rounds.get? number with
    | some round =>
      match round.phase with
      | .sent time => some (b.deliver now number round time result)
      | _ => none
    | none => none

end Batch

end SkinRelay
