import SkinRelay.LookupError
import SkinRelay.Profile
import SkinRelay.Stats
import SkinRelay.Text.Percent
import SkinRelay.Text.Split

/-!
The HTTP interface: three routes, what they ask of the rest of the service, and what is answered.
Every answer may be read by scripts of any origin.
-/

namespace SkinRelay.Router

/-- What a lookup of a name gives in the end. -/
abbrev LookupResult := Except LookupError (Option Profile)

/-- The two forms in which a profile is served. -/
inductive Form where
  /-- Its textures in brief. -/
  | summary
  /-- The profile as it was signed. -/
  | signed
  deriving DecidableEq, Repr

/-- The routes, with the name still percent-encoded. -/
inductive Route where
  | health
  | textures (form : Form) (segment : List Char)
  deriving DecidableEq, Repr

/-- Query and fragment begin where the path ends. -/
def endsPath (c : Char) : Bool := c == '?' || c == '#'

/-- The route of a request target. Segments are compared as they are written, and a name is one
segment that is not empty. -/
def route? (target : String) : Option Route :=
  match Text.splitOn '/' (target.toList.takeWhile (!endsPath ·)) with
  | [[], a] => if a = "health".toList then some .health else none
  | [[], a, b] =>
    if a = "textures".toList ∧ b ≠ [] then some (.textures .summary b) else none
  | [[], a, b, c] =>
    if a = "textures".toList ∧ b = "signed".toList ∧ c ≠ [] then some (.textures .signed c)
    else none
  | _ => none

/-- The name that a segment spells, if that is UTF-8. -/
def username? (segment : List Char) : Option String :=
  Utf8.toString? (Percent.decode (Utf8.encode segment))

/-! ### Replies -/

inductive Body where
  | empty
  | json (value : Json.Value)
  | plain (text : String)

structure Reply where
  status : Nat
  body : Body := .empty

def errorReply (status : Nat) (message : String) : Reply :=
  ⟨status, .json (.object [("error", .text message)])⟩

def notFound : Reply := errorReply 404 "Profile not found"

def badGateway : Reply := errorReply 502 "Upstream error"

/-- A failed lookup shows nothing of its cause but the kind. -/
def failure : LookupError → Reply
  | .invalidUsername _ => notFound
  | .remote error => if error.isRateLimit then errorReply 429 "Too many requests" else badGateway
  | .storage _ | .cancelled | .queueStopped => errorReply 500 "Internal server error"

/-- The answer with a profile in brief, given what became of its textures. -/
def brief (profile : Profile) : Except TexturesRecord.Fault (Option TexturesRecord) → Reply
  | .error _ => badGateway
  | .ok record =>
    match Summary.of? profile record with
    | some summary => ⟨200, .json summary.toValue⟩
    | none => ⟨204, .empty⟩

/-- The answer to a lookup that was asked for in this form. -/
def answer (form : Form) : LookupResult → Reply
  | .error error => failure error
  | .ok none => notFound
  | .ok (some profile) =>
    match form with
    | .signed => ⟨200, .json (Profile.format.toValue profile)⟩
    | .summary => brief profile profile.textures

/-- The answer with a profile that others hold as well. -/
def serve (form : Form) (shared : SharedProfile) : Reply × SharedProfile :=
  match form with
  | .signed => (⟨200, .json (Profile.format.toValue shared.profile)⟩, shared)
  | .summary =>
    match shared.textures with
    | (outcome, shared) => (brief shared.profile outcome, shared)

/-- The answer to a health check. -/
def health (uptimeSeconds : Nat) (stats : Option PipelineStats) : Reply :=
  ⟨200, .json <| .object <|
    [("status", .text "ok"), ("uptime_secs", .number uptimeSeconds)] ++
      (stats.map fun s => ("stats", s.toValue)).toList⟩

/-! ### Requests -/

/-- What is to be done about a request. -/
inductive Task where
  /-- Answer without asking anybody. -/
  | reply (reply : Reply)
  | health
  | lookup (form : Form) (name : String)

/-- What a GET or HEAD request of a route asks for. -/
def Route.task : Route → Task
  | .health => .health
  | .textures form segment =>
    match username? segment with
    | some name => .lookup form name
    | none => .reply ⟨400, .plain "Invalid URL: Invalid UTF-8 in `username`"⟩

/-- What a request asks for: on a known route only GET and HEAD do anything, and an OPTIONS
request is answered everywhere. -/
def task (method : String) (route : Option Route) : Task :=
  if method = "OPTIONS" then .reply ⟨200, .empty⟩
  else match route with
    | none => .reply ⟨404, .empty⟩
    | some route =>
      if method = "GET" ∨ method = "HEAD" then route.task else .reply ⟨405, .empty⟩

/-! ### Responses -/

structure Response where
  status : Nat
  headers : List (String × String)
  body : String
  deriving DecidableEq, Repr

def Body.text : Body → String
  | .empty => ""
  | .json value => value.render
  | .plain text => text

def Body.contentType? : Body → Option String
  | .empty => none
  | .json _ => some "application/json"
  | .plain _ => some "text/plain; charset=utf-8"

/-- The headers that let scripts of any origin see the response. -/
def originHeaders (method : String) : List (String × String) :=
  [("vary", "origin, access-control-request-method, access-control-request-headers"),
    ("access-control-allow-origin", "*")] ++
  if method = "OPTIONS" then
    [("access-control-allow-methods", "*"), ("access-control-allow-headers", "*")]
  else [("access-control-expose-headers", "*")]

/-- The methods of a route are named when none of them was used. -/
def allowHeaders (method : String) (route : Option Route) : List (String × String) :=
  if route.isSome ∧ method ≠ "GET" ∧ method ≠ "HEAD" then [("allow", "GET,HEAD")] else []

/-- The response that carries a reply. On a known route its length is given, also when the body
itself is left out. -/
def respond (method : String) (route : Option Route) (reply : Reply) : Response where
  status := reply.status
  headers :=
    originHeaders method ++ allowHeaders method route ++
      (reply.body.contentType?.map (("content-type", ·))).toList ++
      if route.isSome then [("content-length", toString reply.body.text.utf8ByteSize)] else []
  body := if method = "HEAD" then "" else reply.body.text

/-- What comes of a request. -/
structure Exchange where
  /-- The names that are looked up for it. -/
  asked : List String
  response : Response
  deriving DecidableEq, Repr

/-- What comes of a request with this method, with what a lookup of each name gives and the answer to
a health check. -/
def exchange (find : String → LookupResult) (health : Reply) (method target : String) : Exchange :=
  let route := route? target
  match task method route with
  | .reply reply => ⟨[], respond method route reply⟩
  | .health => ⟨[], respond method route health⟩
  | .lookup form name => ⟨[name], respond method route (answer form (find name))⟩

/-- What comes of a GET request. -/
def get (find : String → LookupResult) (health : Reply) (target : String) : Exchange :=
  exchange find health "GET" target

end SkinRelay.Router
