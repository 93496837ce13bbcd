/-!
Virtual time: what is to happen when, and how a simulated world moves from one moment to the
next. Within a moment everything happens that need not wait.
-/

namespace SkinRelay.Simulation

/-- Things that are to happen, each with its time, in the order in which they were planned. -/
abbrev Agenda (α : Type) := List (Nat × α)

namespace Agenda

/-- The earliest time for which something is planned. -/
def time? : Agenda α → Option Nat
  | [] => none
  | (time, _) :: rest => some ((time? rest).elim time (min time))

/-- Takes out the first thing that is due. -/
def take? (now : Nat) : Agenda α → Option (α × Agenda α)
  | [] => none
  | (time, a) :: rest =>
    if time ≤ now then some (a, rest)
    else (take? now rest).map fun (b, rest) => (b, (time, a) :: rest)

def plan (agenda : Agenda α) (time : Nat) (a : α) : Agenda α := agenda ++ [(time, a)]

end Agenda

/-- The earlier of two times. -/
def earlier? : Option Nat → Option Nat → Option Nat
  | some a, some b => some (min a b)
  | some a, none => some a
  | none, b => b

class World (W : Type) where
  now : W → Nat
  /-- The next thing that happens without waiting. -/
  move? : W → Option W
  /-- When the next thing happens for which there is nothing but to wait. -/
  next? : W → Option Nat
  /-- Lets time pass up to a moment before which nothing happens. -/
  wait : W → Nat → W
  /-- How many participants there are, each of which does only a few things in one moment. -/
  size : W → Nat

namespace World

variable {W : Type} [World W]

/-- At most so many moves. -/
def moves : Nat → W → W
  | 0, w => w
  | fuel + 1, w =>
    match move? w with
    | some next => moves fuel next
    | none => w

/-- Everything that happens without waiting. -/
def settle (w : W) : W := moves (64 * (size w + 1)) w

/-- What happens up to a time, in at most so many moments. -/
def moments (target : Nat) : Nat → W → W
  | 0, w => settle (wait w target)
  | fuel + 1, w =>
    match next? w with
    | some time =>
      if time ≤ target then moments target fuel (settle (wait w time)) else settle (wait w target)
    | none => settle (wait w target)

/-- Lets some time pass, with everything that happens in it. -/
def advance (w : W) (duration : Nat) : W := moments (now w + duration) duration w

end World

/-- How a simulated call ended, and when. -/
inductive Ended (α : Type) where
  | returned (time : Nat) (result : α)
  | panicked
  | dropped
  deriving Repr

/-- The calls that ended, with their numbers. -/
abbrev Endings (α : Type) := List (Nat × Ended α)

end SkinRelay.Simulation
