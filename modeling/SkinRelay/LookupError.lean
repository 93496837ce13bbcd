import SkinRelay.RemoteError
import SkinRelay.Text.Quoted

/-!
Failures of a lookup, from the name check to the reply of the last server asked.
-/

namespace SkinRelay

/-- A failure of the store of known accounts, with the words of the store. -/
structure StoreError where
  message : String
  deriving DecidableEq, Repr

inductive LookupError where
  | invalidUsername (name : String)
  | remote (error : RemoteError)
  | storage (error : StoreError)
  /-- The caller stopped waiting. -/
  | cancelled
  /-- The batching queue was stopped before the name was sent. -/
  | queueStopped
  deriving DecidableEq, Repr

namespace LookupError

def isRateLimit : LookupError → Bool
  | .remote error => error.isRateLimit
  | _ => false

def message : LookupError → String
  | .invalidUsername name =>
    s!"the username {Text.quoted name} doesn't meet Mojang's requirements"
  | .remote error => "Mojang API error: " ++ error.message
  | .storage error => "UUID store error: " ++ error.message
  | .cancelled => "UUID lookup cancelled"
  | .queueStopped => "UUID batching queue is stopped"

/-- How many causes are below this failure, when none of them is a failure of another
library. -/
def depth? : LookupError → Option Nat
  | .remote error => if error.hasCause then none else some 1
  | .storage _ => some 1
  | _ => some 0

end LookupError

/-! ### Failures of the process -/

inductive DatabaseError where
  | rowNotFound
  | poolClosed
  /-- What the database itself reported. -/
  | reported (message : String)
  deriving DecidableEq, Repr

def DatabaseError.message : DatabaseError → String
  | .rowNotFound =>
    "no rows returned by a query that expected to return at least one row"
  | .poolClosed => "attempted to acquire a connection on a closed pool"
  | .reported message => "error returned from database: " ++ message

/-- Failures that keep the process from serving. -/
inductive HostError where
  | configuration (message : String)
  | database (error : DatabaseError)
  | io (message : String)
  deriving DecidableEq, Repr

namespace HostError

def message : HostError → String
  | .configuration message => "Configuration error: " ++ message
  | .database error => "Database error: " ++ error.message
  | .io message => "IO error: " ++ message

def hasCause : HostError → Bool
  | .configuration _ => false
  | .database _ | .io _ => true

/-- The HTTP client could not be set up, for this reason. -/
def ofHttpClient (reason : String) : HostError := .configuration ("HTTP client: " ++ reason)

/-- A log directive names no level. -/
def ofLogLevel : HostError :=
  .configuration <|
    "error parsing level filter: expected one of \"off\", \"error\", \"warn\", " ++
      "\"info\", \"debug\", \"trace\", or a number 0-5"

def ofLookup (error : LookupError) : HostError :=
  .configuration ("Mojang pipeline: " ++ error.message)

end HostError

end SkinRelay
