import SkinRelay.Flight
import SkinRelay.TexturesCache
import SkinRelay.Username

/-!
The entry point of lookups: the textures of a player name. Calls for one name in any casing share
one run, and a name that no account can have is turned away at once.
-/

namespace SkinRelay

/-- Runs for names, the work of which has states of type `ω`. -/
structure Resolver (ω : Type) where
  group : Flight String ω FetchResult := {}
  stats : ResolverStats := {}
  deriving Repr

namespace Resolver

variable {ω : Type}

/-- Counts a call that has returned. -/
def count (s : ResolverStats) (joined : Bool) (result : FetchResult) : ResolverStats :=
  let s := { s with joined := s.joined + joined.toNat }
  match result with
  | .ok (some _) => { s with found := s.found + 1 }
  | .ok none => { s with missed := s.missed + 1 }
  | .error _ => { s with failed := s.failed + 1 }

/-- A new call. The work of a run begins with the key of the name. -/
def call (r : Resolver ω) (begin : String → ω) (id : Nat) (username : String) :
    Except LookupError (Resolver ω) :=
  if Username.isValid username then
    let key := Username.key username
    .ok { r with group := r.group.call id key (begin key) }
  else .error (.invalidUsername username)

/-- A step of the group. A call that returns is counted. -/
def step? (r : Resolver ω) (action : Flight.Action String ω FetchResult) : Option (Resolver ω) :=
  match r.group.step? action with
  | none => none
  | some group =>
    match action with
    | .collect id =>
      match group.calls.get? id with
      | some { joined, phase := .returned result, .. } =>
        some { group, stats := count r.stats joined result }
      | _ => some { r with group }
    | _ => some { r with group }

end Resolver

end SkinRelay
