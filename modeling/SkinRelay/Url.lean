import SkinRelay.Text.Blank
import SkinRelay.Text.Percent
import SkinRelay.Text.Utf8
import SkinRelay.Url.Domain
import SkinRelay.Url.Host

/-!
Absolute URLs, read the way browsers read them: blanks at the ends and line breaks are dropped, a
backslash counts as a slash in the schemes of the web, dot segments are resolved, and characters
that may not stand in a part are percent-encoded.
-/

namespace SkinRelay

/-- An absolute URL, without the fragment, which no server ever sees. -/
structure Url where
  /-- In lower case. -/
  scheme : List Char
  host : Option Host
  /-- `none` for the usual port of the scheme. -/
  port : Option Nat
  path : List Char
  query : Option (List Char)
  deriving DecidableEq, Repr

namespace Url

/-! ### Schemes -/

/-- How the part behind the scheme is to be read. -/
inductive Kind where
  /-- A scheme of the web: there is a host. -/
  | web
  | file
  | other
  deriving DecidableEq, Repr

def kind (scheme : List Char) : Kind :=
  if scheme = "file".toList then .file
  else if ["http", "https", "ws", "wss", "ftp"].any (·.toList = scheme) then .web
  else .other

def Kind.isSpecial : Kind → Bool
  | .other => false
  | _ => true

def usualPort (scheme : List Char) : Option Nat :=
  if scheme = "http".toList ∨ scheme = "ws".toList then some 80
  else if scheme = "https".toList ∨ scheme = "wss".toList then some 443
  else if scheme = "ftp".toList then some 21
  else none

def isSchemeChar (c : Char) : Bool := c.isAlphanum || c == '+' || c == '-' || c == '.'

/-- The scheme in lower case, and what follows its colon. -/
def takeScheme? (s : List Char) : Option (List Char × List Char) :=
  match s with
  | [] => none
  | c :: _ =>
    if c.isAlpha then
      match s.dropWhile isSchemeChar with
      | ':' :: rest => some ((s.takeWhile isSchemeChar).map Char.toLower, rest)
      | _ => none
    else none

/-! ### Percent-encoding -/

/-- Controls and everything beyond ASCII. -/
def isControl (b : UInt8) : Bool := b < 0x20 || 0x7E < b

def oneOf (s : String) (b : UInt8) : Bool := s.toList.any fun c => c.toNat == b.toNat

def escapeInPath (b : UInt8) : Bool := isControl b || oneOf " \"#<>?`\x7b\x7d" b

def escapeInQuery (special : Bool) (b : UInt8) : Bool :=
  isControl b || oneOf " \"#<>" b || (special && b == 0x27)

/-- A text with the bytes that satisfy `escape` percent-encoded. -/
def encodeText (escape : UInt8 → Bool) (s : List Char) : List Char :=
  (Percent.encode escape (Utf8.encode s)).map fun b => Char.ofNat b.toNat

/-! ### Authorities -/

/-- Whether a character ends the authority. -/
def endsAuthority (special : Bool) (c : Char) : Bool :=
  c == '/' || c == '?' || c == '#' || (special && c == '\\')

/-- The parts before and after the last `@`, if there is one. -/
def splitUserinfo? : List Char → Option (List Char × List Char)
  | [] => none
  | c :: rest =>
    match splitUserinfo? rest with
    | some (user, after) => some (c :: user, after)
    | none => if c = '@' then some ([], rest) else none

/-- The text behind the user information of the authority at the front, and whether a name or a
password was given. -/
def dropUserinfo (special : Bool) (s : List Char) : Except UrlFault (Bool × List Char) :=
  let authority := s.takeWhile (!endsAuthority special ·)
  let tail := s.dropWhile (!endsAuthority special ·)
  match splitUserinfo? authority with
  | none => .ok (false, s)
  | some (user, after) =>
    if user.isEmpty && after.isEmpty && !tail.isEmpty then .error .emptyHost
    else .ok (!user.isEmpty && user != [':'], after ++ tail)

/-- The host at the front, up to a colon outside brackets. -/
def takeHost (special : Bool) (inBrackets : Bool) : List Char → List Char × List Char
  | [] => ([], [])
  | c :: rest =>
    if (c = ':' ∧ !inBrackets) ∨ endsAuthority special c then ([], c :: rest)
    else
      let inBrackets := if c = '[' then true else if c = ']' then false else inBrackets
      let (host, after) := takeHost special inBrackets rest
      (c :: host, after)

/-- An IPv6 address in brackets, given from behind the opening one. -/
def bracketed (s : List Char) : Except UrlFault Host :=
  if s.getLast? = some ']' then
    match Host.ipv6? s.dropLast with
    | some pieces => .ok (.ipv6 pieces)
    | none => .error .ipv6
  else .error .ipv6

/-- The host of a scheme of the web: an address, or a domain name. -/
def webHost (s : List Char) : Except UrlFault Host :=
  match s with
  | '[' :: rest => bracketed rest
  | s =>
    match (Utf8.decode? (Percent.decode (Utf8.encode s))).bind Domain.toAscii with
    | none => .error .domain
    | some [] => .error .emptyHost
    | some name =>
      if Host.endsInNumber name then
        match Host.ipv4? name with
        | some address => .ok (.ipv4 address)
        | none => .error .ipv4
      else .ok (.domain name)

def isForbiddenInHost (c : Char) : Bool :=
  c == '\x00' || "\t\n\r #/:<>?@[\\]^|".toList.contains c

/-- The host of any other scheme: an address in brackets, or text. -/
def otherHost (s : List Char) : Except UrlFault Host :=
  match s with
  | '[' :: rest => bracketed rest
  | s =>
    if s.any isForbiddenInHost then .error .hostCharacter
    else .ok (.domain (encodeText isControl s))

/-- The port behind a colon: digits up to the end of the authority. -/
def takePort (usual : Option Nat) (s : List Char) : Except UrlFault (Option Nat × List Char) :=
  let ds := s.takeWhile Char.isDigit
  let rest := s.dropWhile Char.isDigit
  let port := ds.foldl (fun n c => n * 10 + (c.toNat - 0x30)) 0
  if 65535 < port then .error .port
  else
    match rest with
    | c :: _ =>
      if endsAuthority true c then
        .ok (if ds.isEmpty ∨ some port = usual then none else some port, rest)
      else .error .port
    | [] => .ok (if ds.isEmpty ∨ some port = usual then none else some port, [])

/-- Host and port, and what follows the authority. -/
def authority (kind : Kind) (usual : Option Nat) (s : List Char) :
    Except UrlFault (Option Host × Option Nat × List Char) := do
  let special := kind.isSpecial
  let (hasUser, s) ← dropUserinfo special s
  let (text, rest) := takeHost special false s
  if text.isEmpty then
    if special ∨ rest.head? = some ':' ∨ hasUser then .error .emptyHost
    else .ok (none, none, rest)
  else
    let host ← if special then webHost text else otherHost text
    match rest with
    | ':' :: rest =>
      let (port, rest) ← takePort usual rest
      return (some host, port, rest)
    | rest => return (some host, none, rest)

/-! ### Paths -/

/-- The segment up to the next slash, and what follows that slash if there is one. -/
def takeSegment (special : Bool) : List Char → List Char × Option (List Char)
  | [] => ([], none)
  | c :: rest =>
    if c = '/' ∨ (special ∧ c = '\\') then ([], some rest)
    else
      let (segment, after) := takeSegment special rest
      (c :: segment, after)

theorem length_lt_of_takeSegment {special : Bool} {s after segment : List Char}
    (h : takeSegment special s = (segment, some after)) : after.length < s.length := by
  induction s generalizing segment with
  | nil => simp [takeSegment] at h
  | cons c rest ih =>
    simp only [takeSegment] at h
    split at h
    · simp only [Prod.mk.injEq, Option.some.injEq] at h
      simp [h.2]
    · simp only [Prod.mk.injEq] at h
      have := @ih (takeSegment special rest).1 (by rw [← h.2])
      simp only [List.length_cons]
      omega

/-- The segments that stand for this place, and those that stand for the one above it. -/
def isSingleDot (segment : List Char) : Bool :=
  [".", "%2e"].any (·.toList = segment.map Char.toLower)

def isDoubleDot (segment : List Char) : Bool :=
  ["..", "%2e.", ".%2e", "%2e%2e"].any (·.toList = segment.map Char.toLower)

/-- The path up to and with its last slash. -/
def upToSlash (path : List Char) : List Char := (path.reverse.dropWhile (· != '/')).reverse

/-- Whether a text begins with a drive letter as its first segment. -/
def startsWithDrive : List Char → Bool
  | [letter, mark] => letter.isAlpha && (mark == ':' || mark == '|')
  | letter :: mark :: next :: _ =>
    letter.isAlpha && (mark == ':' || mark == '|') && endsAuthority true next
  | _ => false

/-- The path without its last segment, given with the slash behind that segment. A drive letter
and the root stay. -/
def parent (path : List Char) : List Char :=
  let shorter := path.dropLast
  match upToSlash shorter with
  | [] => path
  | above => if startsWithDrive (path.drop above.length) then path else above

/-- The path `done`, which ends in a slash, followed by the segments of `s`. -/
def walkPath (special : Bool) (done : List Char) (s : List Char) : List Char :=
  match _h : takeSegment special s with
  | (segment, after) =>
    let next :=
      if isDoubleDot segment then parent done
      else if isSingleDot segment then done
      else
        done ++ encodeText escapeInPath segment ++ (if after.isSome then ['/'] else [])
    match after with
    | none => next
    | some rest => walkPath special next rest
termination_by s.length
decreasing_by exact length_lt_of_takeSegment _h

/-- The path of a URL that has a host. -/
def hostPath (special : Bool) (s : List Char) : List Char :=
  match s with
  | [] => if special then ['/'] else []
  | c :: rest =>
    if c = '/' ∨ (special ∧ c = '\\') then walkPath special ['/'] rest
    else walkPath special ['/'] (c :: rest)

/-! ### Whole URLs -/

def isTrimmed (c : Char) : Bool := c.toNat ≤ 0x20

def isDropped (c : Char) : Bool := c == '\t' || c == '\n' || c == '\r'

/-- The text without what does not count: blanks and controls at the ends, and line breaks and
tabs anywhere. -/
def clean (s : String) : List Char := (Text.trimBoth isTrimmed s.toList).filter (!isDropped ·)

/-- Path and query from what follows the authority. -/
def pathAndQuery (special : Bool) (s : List Char) : List Char × Option (List Char) :=
  let s := s.takeWhile (· != '#')
  let path := hostPath special (s.takeWhile (· != '?'))
  match s.dropWhile (· != '?') with
  | [] => (path, none)
  | _ :: query => (path, some (encodeText (escapeInQuery special) query))

/-- A URL from what follows its authority's two slashes. -/
def ofAuthority (scheme : List Char) (kind : Kind) (s : List Char) : Except UrlFault Url := do
  let (host, port, rest) ← authority kind (usualPort scheme) s
  let (path, query) := pathAndQuery kind.isSpecial rest
  return { scheme, host, port, path, query }

/-- The host of a file URL may be missing. -/
def fileHost (s : List Char) : Except UrlFault (Option Host) :=
  let text := s.takeWhile (!endsAuthority true ·)
  if text.isEmpty ∨ startsWithDrive text then .ok none
  else match webHost text with
    | .error f => .error f
    | .ok host => .ok (some host)

/-- Reads an absolute URL. Only URLs of the web are kept in full: of others, the path is not
looked into. -/
def parse (text : String) : Except UrlFault Url :=
  match takeScheme? (clean text) with
  | none => .error .relative
  | some (scheme, rest) =>
    match kind scheme with
    | .web => ofAuthority scheme .web (rest.dropWhile fun c => c = '/' ∨ c = '\\')
    | .file =>
      let bare (host : Option Host) : Url := ⟨scheme, host, none, rest, none⟩
      match rest with
      | a :: b :: after =>
        if (a = '/' ∨ a = '\\') ∧ (b = '/' ∨ b = '\\') then (fileHost after).map bare
        else .ok (bare none)
      | _ => .ok (bare none)
    | .other =>
      match rest with
      | '/' :: '/' :: after => ofAuthority scheme .other after
      | _ => .ok ⟨scheme, none, none, rest, none⟩

/-- Whether a URL leads to a web server. -/
def isWeb (url : Url) : Bool := url.scheme = "http".toList || url.scheme = "https".toList

/-- Host and port as a request names them. -/
def hostText (url : Url) : List Char :=
  (url.host.map Host.chars).getD [] ++
    match url.port with
    | none => []
    | some port => ':' :: Nat.toDigits 10 port

/-- Path and query as a request names them. -/
def target (url : Url) : List Char :=
  url.path ++
    match url.query with
    | none => []
    | some query => '?' :: query

end Url

end SkinRelay
