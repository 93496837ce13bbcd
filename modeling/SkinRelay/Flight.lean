import SkinRelay.Table

/-!
Shared runs: calls with the same key share one run of the work, as long as it is under way. A run
goes on when its callers are gone. Its key becomes free again once the work has ended, and only
then the callers see the output.

`step?` is one atomic step of one participant; every interleaving of the participants is a sequence
of such steps.
-/

namespace SkinRelay

namespace Flight

/-- How far a run has come. The work itself has states of type `ω` and gives an output of type
`τ`. -/
inductive Phase (ω τ : Type) where
  /-- The key is taken, and the task is about to be started with this work. -/
  | entered (work : ω)
  | working (work : ω)
  | finished (output : τ)
  /-- The key is free again, and the output is not yet to be seen. -/
  | released (output : τ)
  | published (output : τ)
  /-- The work has panicked. -/
  | broken
  /-- The key is free again after a panic. -/
  | unwound
  /-- The callers know that there will be no output. -/
  | lost
  deriving DecidableEq, Repr

structure Run (κ ω τ : Type) where
  key : κ
  phase : Phase ω τ
  deriving DecidableEq, Repr

inductive CallPhase (τ : Type) where
  | waiting
  | returned (output : τ)
  /-- The work panicked, and so did the caller. -/
  | failed
  /-- Dropped by whoever called. -/
  | gone
  deriving DecidableEq, Repr

structure Call (τ : Type) where
  /-- The run that the call waits for. -/
  run : Nat
  /-- Whether the run was under way already. -/
  joined : Bool
  phase : CallPhase τ := .waiting
  deriving DecidableEq, Repr

inductive Action (κ ω τ : Type) where
  /-- A call looks up the key, and takes it if it is free. -/
  | call (id : Nat) (key : κ) (work : ω)
  | spawn (run : Nat)
  /-- The work moves on. -/
  | advance (run : Nat) (work : ω)
  | finish (run : Nat) (output : τ)
  | panic (run : Nat)
  /-- The key of a run that has ended is set free. -/
  | release (run : Nat)
  /-- The callers are told how a run has ended. -/
  | publish (run : Nat)
  /-- A call returns. -/
  | collect (id : Nat)
  | drop (id : Nat)
  deriving DecidableEq, Repr

end Flight

/-- A group of runs. Runs are numbered in the order in which they began, and calls have the numbers
that their callers gave them. -/
structure Flight (κ ω τ : Type) where
  /-- The keys that are taken, each with its run. -/
  keys : Table κ Nat := {}
  runs : Table Nat (Flight.Run κ ω τ) := {}
  calls : Table Nat (Flight.Call τ) := {}
  /-- How many runs have begun. -/
  begun : Nat := 0
  deriving DecidableEq, Repr

namespace Flight

variable {κ ω τ : Type} [DecidableEq κ]

/-- How many keys are taken. -/
def size (f : Flight κ ω τ) : Nat := f.keys.size

def phase? (f : Flight κ ω τ) (run : Nat) : Option (Phase ω τ) := (f.runs.get? run).map (·.phase)

def work? (f : Flight κ ω τ) (run : Nat) : Option ω :=
  match f.phase? run with
  | some (.working work) => some work
  | _ => none

def setPhase (f : Flight κ ω τ) (run : Nat) (key : κ) (phase : Phase ω τ) : Flight κ ω τ :=
  { f with runs := f.runs.insert run { key, phase } }

def setCall (f : Flight κ ω τ) (id : Nat) (call : Call τ) (phase : CallPhase τ) : Flight κ ω τ :=
  { f with calls := f.calls.insert id { call with phase } }

/-- A new call: it joins the run that has the key, or else begins one. -/
def call (f : Flight κ ω τ) (id : Nat) (key : κ) (work : ω) : Flight κ ω τ :=
  match f.keys.get? key with
  | some run => { f with calls := f.calls.insert id { run, joined := true } }
  | none =>
    { keys := f.keys.insert key f.begun
      runs := f.runs.insert f.begun { key, phase := .entered work }
      calls := f.calls.insert id { run := f.begun, joined := false }
      begun := f.begun + 1 }

/-- Whether a call is past the point up to which its caller cannot be dropped: a call that began a
run starts its task first. -/
def isWaiting (f : Flight κ ω τ) (call : Call τ) : Bool :=
  call.joined || match f.phase? call.run with
    | some (.entered _) => false
    | _ => true

def step? (f : Flight κ ω τ) : Action κ ω τ → Option (Flight κ ω τ)
  | .call id key work => if f.calls.contains id then none else some (f.call id key work)
  | .spawn run =>
    match f.runs.get? run with
    | some { key, phase := .entered work } => some (f.setPhase run key (.working work))
    | _ => none
  | .advance run work =>
    match f.runs.get? run with
    | some { key, phase := .working _ } => some (f.setPhase run key (.working work))
    | _ => none
  | .finish run output =>
    match f.runs.get? run with
    | some { key, phase := .working _ } => some (f.setPhase run key (.finished output))
    | _ => none
  | .panic run =>
    match f.runs.get? run with
    | some { key, phase := .working _ } => some (f.setPhase run key .broken)
    | _ => none
  | .release run =>
    match f.runs.get? run with
    | some { key, phase := .finished output } =>
      some { f.setPhase run key (.released output) with keys := f.keys.erase key }
    | some { key, phase := .broken } =>
      some { f.setPhase run key .unwound with keys := f.keys.erase key }
    | _ => none
  | .publish run =>
    match f.runs.get? run with
    | some { key, phase := .released output } => some (f.setPhase run key (.published output))
    | some { key, phase := .unwound } => some (f.setPhase run key .lost)
    | _ => none
  | .collect id =>
    match f.calls.get? id with
    | some call =>
      match call.phase, f.phase? call.run with
      | .waiting, some (.published output) => some (f.setCall id call (.returned output))
      | .waiting, some .lost => some (f.setCall id call .failed)
      | _, _ => none
    | none => none
  | .drop id =>
    match f.calls.get? id with
    | some call =>
      match call.phase with
      | .waiting => if f.isWaiting call then some (f.setCall id call .gone) else none
      | _ => none
    | none => none

end Flight

end SkinRelay
