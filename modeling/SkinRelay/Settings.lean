import SkinRelay.LookupError
import SkinRelay.Text.Blank
import SkinRelay.Url

/-!
Settings of the service, taken from environment variables. A number or a switch that cannot be
read counts as not given; a URL or a strategy that cannot be read is an error.
-/

namespace SkinRelay

/-- The default addresses of the account service and the session server. -/
def accountsAddress : String := "https://api.mojang.com/profiles/minecraft"

def profilesAddress : String := "https://sessionserver.mojang.com/session/minecraft/profile/"

/-- How lookups are put together into batches. -/
structure BatchSettings where
  /-- The most names that one request carries. -/
  batchSize : Nat := 10
  /-- Milliseconds between two rounds. -/
  delay : Nat := 2500
  /-- Whether a full batch is sent without waiting for the next round. -/
  fireOnFull : Bool := false
  deriving DecidableEq, Repr

structure Settings where
  port : Nat := 3005
  /-- Where accounts are remembered; in memory when there is no such address. -/
  databaseUrl : Option String := none
  texturesEnabled : Bool := true
  accountsUrl : String := accountsAddress
  /-- Ends in a slash. -/
  profilesUrl : String := profilesAddress
  batch : BatchSettings := {}
  /-- Seconds after which a request is given up. -/
  httpTimeout : Nat := 30
  deriving DecidableEq, Repr

namespace Settings

/-- The variables that are looked at. -/
inductive Variable where
  | port
  | databaseUrl
  | texturesEnabled
  | accountsUrl
  | profilesUrl
  | loopDelay
  | batchSize
  | strategy
  | httpTimeout
  deriving DecidableEq, Repr

def Variable.name : Variable → String
  | .port => "PORT"
  | .databaseUrl => "DATABASE_URL"
  | .texturesEnabled => "MOJANG_TEXTURES_ENABLED"
  | .accountsUrl => "MOJANG_BATCH_UUIDS_URL"
  | .profilesUrl => "MOJANG_PROFILE_URL"
  | .loopDelay => "QUEUE_LOOP_DELAY_MS"
  | .batchSize => "QUEUE_BATCH_SIZE"
  | .strategy => "QUEUE_STRATEGY"
  | .httpTimeout => "HTTP_TIMEOUT_SECS"

/-- What each variable is set to. -/
abbrev Environment := Variable → Option String

/-- Why the settings cannot be used. -/
inductive Fault where
  | invalidUrl (name : Variable) (fault : UrlFault)
  | notWeb (name : Variable)
  | unknownStrategy (text : String)
  deriving DecidableEq, Repr

def Fault.message : Fault → String
  | .invalidUrl name fault => s!"{name.name} is not a valid URL: {fault.message}"
  | .notWeb name => s!"{name.name} must be an http(s) URL"
  | .unknownStrategy text => "unknown queue strategy \"" ++ text ++ "\""

/-! ### Reading values -/

/-- The number that a text spells, if it is below `limit`: digits, perhaps behind a plus sign. -/
def number? (limit : Nat) (text : String) : Option Nat :=
  let ds := match text.toList with
    | '+' :: ds => ds
    | ds => ds
  if !ds.isEmpty ∧ ds.all Char.isDigit then
    let n := ds.foldl (fun n c => n * 10 + (c.toNat - 0x30)) 0
    if n < limit then some n else none
  else none

/-- The switch that a text spells, whatever its case and the blanks around it. -/
def switch? (text : String) : Option Bool :=
  let word := String.ofList ((Text.trimBlank text.toList).map Char.toLower)
  if word = "1" ∨ word = "true" ∨ word = "yes" ∨ word = "on" then some true
  else if word = "0" ∨ word = "false" ∨ word = "no" ∨ word = "off" then some false
  else none

def nonEmpty (text : String) : Option String := if text.isEmpty then none else some text

/-- The URL of a web server, as it is written; the default one for a variable that is not set or
empty. -/
def webUrl (env : Environment) (name : Variable) (default : String) : Except Fault String :=
  match (env name).bind nonEmpty with
  | none => .ok default
  | some text =>
    match Url.parse text with
    | .error fault => .error (.invalidUrl name fault)
    | .ok url => if url.isWeb then .ok text else .error (.notWeb name)

/-- A text with a slash at its end. -/
def withSlash (text : String) : String :=
  if text.toList.getLast? = some '/' then text else text ++ "/"

/-- Whether full batches are sent at once. -/
def strategy (env : Environment) : Except Fault Bool :=
  match env .strategy with
  | none => .ok false
  | some text =>
    if text = "periodic" then .ok false
    else if text = "full-bus" then .ok true
    else .error (.unknownStrategy text)

/-- The settings of an environment. Of several faults the first in the order of the fields
counts. -/
def ofEnvironment (env : Environment) : Except Fault Settings :=
  match webUrl env .accountsUrl accountsAddress with
  | .error fault => .error fault
  | .ok accountsUrl =>
    match webUrl env .profilesUrl profilesAddress with
    | .error fault => .error fault
    | .ok profilesUrl =>
      match strategy env with
      | .error fault => .error fault
      | .ok fireOnFull =>
        .ok
          { port := ((env .port).bind (number? (Nat.pow 2 16))).getD 3005
            databaseUrl := (env .databaseUrl).bind nonEmpty
            texturesEnabled := ((env .texturesEnabled).bind switch?).getD true
            accountsUrl
            profilesUrl := withSlash profilesUrl
            batch :=
              { batchSize :=
                  (((env .batchSize).bind (number? (Nat.pow 2 64))).filter (0 < ·)).getD 10
                delay :=
                  (((env .loopDelay).bind (number? (Nat.pow 2 64))).filter (0 < ·)).getD 2500
                fireOnFull }
            httpTimeout := ((env .httpTimeout).bind (number? (Nat.pow 2 64))).getD 30 }

end Settings

def HostError.ofSettings (fault : Settings.Fault) : HostError := .configuration fault.message

end SkinRelay
