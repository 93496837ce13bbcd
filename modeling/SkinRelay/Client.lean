import SkinRelay.Account
import SkinRelay.Profile
import SkinRelay.RemoteError
import SkinRelay.Settings

/-!
The client of the account service and the session server: which request an operation sends, and
what the reply to it means. Every operation hands one request to the network, without retries.
-/

namespace SkinRelay

/-- The addresses that a client talks to. -/
structure Client where
  accountsUrl : String
  /-- The id of an account is appended to it, so it ends in a slash. -/
  profilesUrl : String
  deriving DecidableEq, Repr

namespace Client

/-- A client of these addresses, the default ones standing in for empty texts. -/
def ofAddresses (accountsUrl profilesUrl : String) : Client where
  accountsUrl := (Settings.nonEmpty accountsUrl).getD accountsAddress
  profilesUrl := Settings.withSlash ((Settings.nonEmpty profilesUrl).getD profilesAddress)

/-- A client of the default addresses. -/
def default : Client := ofAddresses accountsAddress profilesAddress

inductive Method where
  | get
  | post
  deriving DecidableEq, Repr

def Method.name : Method → String
  | .get => "GET"
  | .post => "POST"

/-- A request as the server receives it. -/
structure Request where
  method : Method
  host : String
  /-- Path and query. -/
  target : String
  contentType : Option String
  body : String
  deriving DecidableEq, Repr

/-- What the HTTP library hands over in the end: the status and the whole body of a reply, or nothing
of use. Redirects that it follows by itself are part of the network. -/
inductive Reply where
  | received (status : Nat) (body : Bytes)
  | lost
  deriving DecidableEq, Repr

/-- Characters that an authority cannot hold although a host may. -/
def isUnsendable (c : Char) : Bool := "\"`\x7b\x7d".toList.contains c

/-- The web server that a URL leads to, if a request can be sent there. -/
def reach? (address : String) : Option Url :=
  match Url.parse address with
  | .error _ => none
  | .ok url => if url.isWeb && !url.hostText.any isUnsendable then some url else none

/-! ### Names to accounts -/

def namesFormat : Json.Format (List String) := .list .text

/-- The request for the accounts with these names. -/
def accountsRequest? (client : Client) (names : List String) : Option Request :=
  (reach? client.accountsUrl).map fun url =>
    { method := .post
      host := String.ofList url.hostText
      target := String.ofList url.target
      contentType := some "application/json"
      body := namesFormat.write names }

/-- The accounts that a reply lists, in its order. -/
def accountsOf : Reply → Except RemoteError (List Account)
  | .lost => .error .transport
  | .received status body =>
    if status = 200 then
      match Account.readAll body with
      | .ok accounts => .ok accounts
      | .error fault => .error (.unreadable fault)
    else .error (RemoteError.ofStatus status body)

/-! ### An id to a profile -/

/-- The address of the profile of an account, whose id may be written with dashes. -/
def profileAddress (client : Client) (id : String) (signed : Bool) : String :=
  client.profilesUrl ++ String.ofList (id.toList.filter (· != '-')) ++
    if signed then "?unsigned=false" else ""

/-- The request for the profile of an account. -/
def profileRequest? (client : Client) (id : String) (signed : Bool) : Option Request :=
  (reach? (client.profileAddress id signed)).map fun url =>
    { method := .get
      host := String.ofList url.hostText
      target := String.ofList url.target
      contentType := none
      body := "" }

/-- The profile in a reply, `none` when there is none. -/
def profileOf : Reply → Except RemoteError (Option Profile)
  | .lost => .error .transport
  | .received status body =>
    if status = 204 then .ok none
    else if status = 200 then
      match Profile.format.read body with
      | .ok profile => .ok (some profile)
      | .error fault => .error (.unreadable fault)
    else .error (RemoteError.ofStatus status body)

/-! ### Operations -/

/-- Carries out an operation on a network: without a usable address there is no request. -/
def call (network : Request → Reply) (request : Option Request)
    (read : Reply → Except RemoteError α) : Except RemoteError α :=
  match request with
  | none => .error .transport
  | some request => read (network request)

/-- The accounts with these names, of which those that do not exist are simply missing. -/
def accounts (client : Client) (network : Request → Reply) (names : List String) :
    Except RemoteError (List Account) :=
  call network (client.accountsRequest? names) accountsOf

/-- The profile of an account. -/
def profile (client : Client) (network : Request → Reply) (id : String) (signed : Bool) :
    Except RemoteError (Option Profile) :=
  call network (client.profileRequest? id signed) profileOf

end Client

end SkinRelay
