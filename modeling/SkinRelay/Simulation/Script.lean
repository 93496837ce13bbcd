import SkinRelay.Account
import SkinRelay.LookupError
import SkinRelay.Profile
import SkinRelay.RemoteError
import SkinRelay.Table
import SkinRelay.Time

/-!
Scripted servers: what the account service and the session server reply in a simulation, and after
what time.
-/

namespace SkinRelay.Simulation

/-- What a server replies, and how long that takes. -/
structure Timed (α : Type) where
  latency : Nat
  result : Except RemoteError α

/-- The two servers as a simulation sees them: a request changes what later requests get. -/
class Servers (S : Type) where
  accounts : S → (now : Nat) → (names : List String) → Timed (List Account) × S
  profile : S → (now : Nat) → (uuid : String) → Timed (Option Profile) × S

/-- One reply in a script. -/
structure Line (α : Type) where
  /-- Milliseconds, if they differ from those of the other replies. -/
  latency : Option Nat := none
  /-- A success without content is answered from the lists of the script. -/
  outcome : Except RemoteError (Option α) := .ok none

/-- The replies that are to come, first those of the lines and then those of the lists, and the
requests that have come. -/
structure Script where
  accounts : List Account := []
  profiles : List Profile := []
  /-- Milliseconds. -/
  accountsLatency : Nat := 0
  profilesLatency : Nat := 0
  accountLines : List (Line (List Account)) := []
  profileLines : Table String (List (Line (Option Profile))) := {}
  accountCalls : List (Nat × List String) := []
  profileCalls : List (Nat × String) := []

namespace Script

/-- The accounts with one of these names, in which only the case of ASCII letters may differ. -/
def accountsNamed (s : Script) (names : List String) : List Account :=
  s.accounts.filter fun account => names.any fun name => name.toLower = account.name.toLower

def profileOf (s : Script) (uuid : String) : Option Profile := s.profiles.find? (·.id = uuid)

/-- What a line says, if there is one. -/
def reply (latency : Nat) (fallback : α) : Option (Line α) → Timed α
  | none => ⟨Time.millis latency, .ok fallback⟩
  | some line =>
    ⟨Time.millis (line.latency.getD latency),
      match line.outcome with
      | .error error => .error error
      | .ok content => .ok (content.getD fallback)⟩

def askAccounts (s : Script) (now : Nat) (names : List String) : Timed (List Account) × Script :=
  (reply s.accountsLatency (s.accountsNamed names) s.accountLines.head?,
    { s with
      accountLines := s.accountLines.tail
      accountCalls := s.accountCalls ++ [(now, names)] })

def askProfile (s : Script) (now : Nat) (uuid : String) : Timed (Option Profile) × Script :=
  let lines := (s.profileLines.get? uuid).getD []
  (reply s.profilesLatency (s.profileOf uuid) lines.head?,
    { s with
      profileLines := s.profileLines.insert uuid lines.tail
      profileCalls := s.profileCalls ++ [(now, uuid)] })

instance : Servers Script := ⟨askAccounts, askProfile⟩

/-- The script without the record of past requests. -/
def forget (s : Script) : Script := { s with accountCalls := [], profileCalls := [] }

end Script

/-! ### Stores that fail at times -/

inductive StoreCall where
  | read (username : String)
  | write (username : String) (uuid : Option String)
  deriving DecidableEq, Repr

/-- Which reads and writes of a store fail, counted from zero, and the calls that have come. -/
structure StoreScript where
  readFaults : List Nat := []
  writeFaults : List Nat := []
  reads : Nat := 0
  writes : Nat := 0
  calls : List StoreCall := []

namespace StoreScript

/-- Whether the next read fails. -/
def readFault (s : StoreScript) : Option StoreError :=
  if s.readFaults.contains s.reads then some ⟨"read failed"⟩ else none

def writeFault (s : StoreScript) : Option StoreError :=
  if s.writeFaults.contains s.writes then some ⟨"write failed"⟩ else none

def read (s : StoreScript) (username : String) : StoreScript :=
  { s with reads := s.reads + 1, calls := s.calls ++ [.read username] }

def write (s : StoreScript) (username : String) (uuid : Option String) : StoreScript :=
  { s with writes := s.writes + 1, calls := s.calls ++ [.write username uuid] }

def forget (s : StoreScript) : StoreScript := { s with calls := [] }

end StoreScript

end SkinRelay.Simulation
