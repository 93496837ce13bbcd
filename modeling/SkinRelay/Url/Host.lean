import SkinRelay.Text.Split

/-!
Hosts that are numbers: IPv4 addresses in the many forms that are accepted, IPv6 addresses, and
their one written form.
-/

namespace SkinRelay

/-- Why a text is not an absolute URL. -/
inductive UrlFault where
  | relative
  | emptyHost
  | port
  | ipv4
  | ipv6
  | domain
  | hostCharacter
  deriving DecidableEq, Repr

def UrlFault.message : UrlFault → String
  | .relative => "relative URL without a base"
  | .emptyHost => "empty host"
  | .port => "invalid port number"
  | .ipv4 => "invalid IPv4 address"
  | .ipv6 => "invalid IPv6 address"
  | .domain => "invalid international domain name"
  | .hostCharacter => "invalid domain character"

inductive Host where
  | domain (name : List Char)
  | ipv4 (address : Nat)
  /-- Eight pieces of sixteen bits. -/
  | ipv6 (pieces : List Nat)
  deriving DecidableEq, Repr

namespace Host

def hexValue? (c : Char) : Option Nat :=
  if '0' ≤ c ∧ c ≤ '9' then some (c.toNat - 0x30)
  else if 'a' ≤ c ∧ c ≤ 'f' then some (c.toNat - 0x61 + 10)
  else if 'A' ≤ c ∧ c ≤ 'F' then some (c.toNat - 0x41 + 10)
  else none

/-- The number that digits of the given base spell. -/
def ofDigits (base : Nat) (ds : List Char) : Option Nat :=
  ds.foldlM
    (fun n c => (hexValue? c).bind fun d => if d < base then some (n * base + d) else none) 0

/-! ### IPv4 -/

/-- A part of an IPv4 address: hexadecimal behind `0x`, octal behind another zero, else
decimal. -/
def ipv4Number? : List Char → Option Nat
  | [] => none
  | '0' :: 'x' :: ds => ofDigits 16 ds
  | '0' :: 'X' :: ds => ofDigits 16 ds
  | '0' :: d :: ds => ofDigits 8 (d :: ds)
  | ds => ofDigits 10 ds

/-- The parts of a domain name without the empty one behind a dot at the end. -/
def labels (name : List Char) : List (List Char) :=
  let parts := Text.splitOn '.' name
  if parts.getLast? = some [] then parts.dropLast else parts

/-- Whether a name can only be an address: its last label is a number. -/
def endsInNumber (name : List Char) : Bool :=
  match (labels name).getLast? with
  | none => false
  | some last => (!last.isEmpty && last.all Char.isDigit) || (ipv4Number? last).isSome

/-- The address of at most four numbers: all but the last are bytes, and the last one fills the
bytes that are left. -/
def ipv4OfNumbers? (numbers : List Nat) : Option Nat :=
  match numbers.reverse with
  | [] => none
  | last :: front =>
    let front := front.reverse
    if 3 < front.length ∨ Nat.pow 256 (4 - front.length) ≤ last ∨ front.any (255 < ·) then none
    else some (front.foldl (fun n b => n * 256 + b) 0 * Nat.pow 256 (4 - front.length) + last)

def ipv4? (name : List Char) : Option Nat :=
  match (labels name).mapM ipv4Number? with
  | some numbers => ipv4OfNumbers? numbers
  | none => none

/-! ### IPv6 -/

/-- A byte in decimal without leading zeros. -/
def decimalByte? (ds : List Char) : Option Nat :=
  match ds with
  | [] => none
  | '0' :: _ :: _ => none
  | ds => (ofDigits 10 ds).filter (· < 256)

/-- The two pieces of an IPv4 address at the end of an IPv6 address. -/
def ipv4Pieces? (s : List Char) : Option (List Nat) :=
  match Text.splitOn '.' s with
  | [a, b, c, d] => do
    let a ← decimalByte? a
    let b ← decimalByte? b
    let c ← decimalByte? c
    let d ← decimalByte? d
    some [a * 256 + b, c * 256 + d]
  | _ => none

/-- The pieces read so far, and how many of them come before the gap if there is one. -/
structure Pieces where
  read : List Nat
  gap : Option Nat

/-- The pieces of an address from here on. A second colon leaves a gap, and stands for a piece
itself. -/
def ipv6Pieces? (before : Pieces) (s : List Char) : Option Pieces :=
  match s with
  | [] => some before
  | c :: rest =>
    if before.read.length = 8 then none
    else if c = ':' then
      if before.gap.isSome then none
      else ipv6Pieces? ⟨before.read ++ [0], some (before.read.length + 1)⟩ rest
    else
      let ds := ((c :: rest).take 4).takeWhile fun c => (hexValue? c).isSome
      let piece := (ofDigits 16 ds).getD 0
      match _h : (c :: rest).drop ds.length with
      | [] => some { before with read := before.read ++ [piece] }
      | '.' :: _ =>
        if ds = [] ∨ 6 < before.read.length then none
        else (ipv4Pieces? (c :: rest)).map fun ps => { before with read := before.read ++ ps }
      | ':' :: after =>
        if after = [] then none
        else ipv6Pieces? { before with read := before.read ++ [piece] } after
      | _ => none
termination_by s.length
decreasing_by
  · simp
  · have := congrArg List.length _h
    simp only [List.length_drop, List.length_cons] at *
    omega

/-- The address between the brackets. -/
def ipv6? (s : List Char) : Option (List Nat) :=
  let pieces := match s with
    | ':' :: ':' :: rest => ipv6Pieces? ⟨[0], some 1⟩ rest
    | ':' :: _ => none
    | [] | [_] => none
    | s => ipv6Pieces? ⟨[], none⟩ s
  match pieces with
  | none => none
  | some ⟨read, none⟩ => if read.length = 8 then some read else none
  | some ⟨read, some gap⟩ =>
    some (read.take gap ++ List.replicate (8 - read.length) 0 ++ read.drop gap)

/-! ### Written forms -/

/-- The length of the run of zeros at the front. -/
def zeros (pieces : List Nat) : Nat := (pieces.takeWhile (· == 0)).length

/-- Where the longest run of at least two zeros begins, the first one if there are several, and
how long it is. -/
def longestZeros (pieces : List Nat) : Option (Nat × Nat) :=
  let runs := (List.range pieces.length).map fun i => (i, zeros (pieces.drop i))
  runs.foldl
    (fun best (i, n) =>
      if n < 2 then best
      else match best with
        | none => some (i, n)
        | some (_, m) => if m < n then some (i, n) else best)
    none

def hexPiece (n : Nat) : List Char := Nat.toDigits 16 n

def ipv6Chars (pieces : List Nat) : List Char :=
  match longestZeros pieces with
  | none => [':'].intercalate (pieces.map hexPiece)
  | some (start, count) =>
    [':'].intercalate ((pieces.take start).map hexPiece) ++ [':', ':'] ++
      [':'].intercalate ((pieces.drop (start + count)).map hexPiece)

def ipv4Chars (address : Nat) : List Char :=
  ['.'].intercalate
    ([24, 16, 8, 0].map fun shift => Nat.toDigits 10 (address / Nat.pow 2 shift % 256))

/-- The host as it is written in a URL. -/
def chars : Host → List Char
  | .domain name => name
  | .ipv4 address => ipv4Chars address
  | .ipv6 pieces => '[' :: ipv6Chars pieces ++ [']']

end Host

end SkinRelay
