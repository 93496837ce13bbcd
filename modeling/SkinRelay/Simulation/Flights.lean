import SkinRelay.Flight
import SkinRelay.Simulation.Agenda
import SkinRelay.Time

/-!
Shared runs in virtual time.
-/

namespace SkinRelay.Simulation

/-- What a run does next apart from its work. -/
def lifeStep? (id : Nat) (run : Flight.Run κ ω τ) : Option (Flight.Action κ ω τ) :=
  match run.phase with
  | .entered _ => some (.spawn id)
  | .finished _ | .broken => some (.release id)
  | .released _ | .unwound => some (.publish id)
  | .working _ | .published _ | .lost => none

/-- Work that waits, and then returns a text or panics. -/
structure Errand where
  /-- Milliseconds. -/
  latency : Nat
  output : String
  panics : Bool
  deriving Repr

/-- A work that starts or returns. -/
structure Milestone where
  time : Nat
  isStart : Bool
  key : String
  output : String

structure Flights where
  now : Nat := 0
  group : Flight String Errand String := {}
  /-- When the work of which run has waited long enough. -/
  wakeUps : Agenda Nat := []
  milestones : List Milestone := []
  /-- The outputs of calls, and whether they had joined a run. -/
  ended : Endings (String × Bool) := []

namespace Flights

def step? (w : Flights) (action : Flight.Action String Errand String) : Option Flights :=
  (w.group.step? action).map fun group => { w with group }

def attempt (w : Flights) (action : Flight.Action String Errand String) : Flights :=
  (w.step? action).getD w

def call (w : Flights) (id : Nat) (key : String) (errand : Errand) : Flights :=
  w.attempt (.call id key errand)

def drop (w : Flights) (id : Nat) : Flights :=
  match w.step? (.drop id) with
  | some w => { w with ended := w.ended ++ [(id, .dropped)] }
  | none => w

def note (w : Flights) (isStart : Bool) (key : String) (errand : Errand) : Flights :=
  { w with milestones := w.milestones ++ [⟨w.now, isStart, key, errand.output⟩] }

/-- The work of a run has waited long enough. -/
def complete (w : Flights) (id : Nat) : Flights :=
  match w.group.runs.get? id with
  | some { key, phase := .working errand } =>
    if errand.panics then w.attempt (.panic id)
    else (w.note false key errand).attempt (.finish id errand.output)
  | _ => w

def wakeUp? (w : Flights) : Option Flights :=
  (Agenda.take? w.now w.wakeUps).map fun (id, wakeUps) => { w with wakeUps }.complete id

/-- What a run does next, with its work starting as soon as there is a task for it. -/
def run? (w : Flights) (id : Nat) (run : Flight.Run String Errand String) : Option Flights :=
  match lifeStep? id run with
  | none => none
  | some action =>
    match w.step? action, run.phase with
    | some w, .entered errand =>
      let w := w.note true run.key errand
      if errand.latency = 0 then some (w.complete id)
      else
        let wakeUps := w.wakeUps.plan (w.now + Time.millis errand.latency) id
        some { w with wakeUps }
    | next, _ => next

def collect? (w : Flights) : Option Flights :=
  w.group.calls.entries.findSome? fun (id, _) =>
    match w.step? (.collect id) with
    | none => none
    | some w =>
      match w.group.calls.get? id with
      | some { joined, phase := .returned output, .. } =>
        some { w with ended := w.ended ++ [(id, .returned w.now (output, joined))] }
      | some { phase := .failed, .. } => some { w with ended := w.ended ++ [(id, .panicked)] }
      | _ => some w

instance : World Flights where
  now := Flights.now
  move? w :=
    w.collect? <|> (w.group.runs.entries.findSome? fun (id, r) => w.run? id r) <|> w.wakeUp?
  next? w := Agenda.time? w.wakeUps
  wait w time := { w with now := time }
  size w := w.group.calls.size + w.group.runs.size

end Flights

end SkinRelay.Simulation
