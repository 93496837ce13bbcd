import SkinRelay.Json.Scan

/-!
Numbers of a JSON text. A numeral that is read is an integer or some other real number, and must
not exceed what a double can hold; a numeral that is skipped only has to have the right form.
-/

namespace SkinRelay.Json

/-- What a numeral denotes, as far as a reader of integers needs to know. Minus zero and
everything with a fraction or an exponent is not an integer. -/
inductive Numeral where
  | integer (n : Int)
  | real
  deriving DecidableEq, Repr

/-- The digits at the front, and what follows them. -/
def digits (s : Bytes) : Bytes × Bytes := (s.takeWhile Bytes.isDigit, s.dropWhile Bytes.isDigit)

theorem length_digits_le (s : Bytes) : (digits s).2.length ≤ s.length :=
  (List.dropWhile_sublist Bytes.isDigit).length_le

/-- The number that a sequence of decimal digits spells. -/
def decimal (ds : Bytes) : Nat := ds.foldl (fun n d => n * 10 + (d.toNat - 0x30)) 0

/-- `m` followed by as many of the digits as 64 bits can take, and the digits left over. -/
def significand (m : Nat) : Bytes → Nat × Bytes
  | [] => (m, [])
  | d :: ds =>
    let n := m * 10 + (d.toNat - 0x30)
    if n < Nat.pow 2 64 then significand n ds else (m, d :: ds)

/-- `n` to the nearest number with 53 significant bits, a tie going to the even neighbour. -/
def toDouble (n : Nat) : Nat :=
  let cut := n.log2 - 52
  let unit := Nat.pow 2 cut
  let q := n / unit
  let r := n % unit
  if 2 * r > unit ∨ (2 * r = unit ∧ q % 2 = 1) then (q + 1) * unit else q * unit

/-- Whether `m` times ten to the `e`, both factors rounded first, is too large for a double. -/
def exceedsDouble (m : Nat) (e : Int) : Bool :=
  m != 0 && (308 < e ||
    (0 ≤ e && Nat.pow 2 1024 ≤ toDouble (toDouble m * toDouble (Nat.pow 10 e.toNat))))

/-- One or more digits. -/
def someDigits (s : Bytes) : Except Fault (Bytes × Bytes) :=
  match digits s with
  | ([], []) => .error .truncated
  | ([], _ :: _) => .error .malformed
  | (d :: ds, rest) => .ok (d :: ds, rest)

/-- The sign of an exponent, and what follows it. -/
def exponentSign : Bytes → Bool × Bytes
  | 0x2D :: s => (true, s)
  | 0x2B :: s => (false, s)
  | s => (false, s)

/-- The exponent part, `none` when there is none. -/
def exponent : Bytes → Except Fault (Option Int × Bytes)
  | 0x65 :: s | 0x45 :: s =>
    match someDigits (exponentSign s).2 with
    | .error f => .error f
    | .ok (ds, rest) =>
      .ok (some (if (exponentSign s).1 then -(decimal ds : Int) else decimal ds), rest)
  | s => .ok (none, s)

/-- The digits behind the point, `none` when there is no point. -/
def fraction : Bytes → Except Fault (Option Bytes × Bytes)
  | 0x2E :: s =>
    match someDigits s with
    | .error f => .error f
    | .ok (ds, rest) => .ok (some ds, rest)
  | s => .ok (none, s)

/-- The whole digits of a numeral: a zero stands alone. -/
def whole : Bytes → Except Fault (Bytes × Bytes)
  | [] => .error .truncated
  | 0x30 :: s =>
    match s with
    | [] => .ok ([0x30], [])
    | b :: s => if Bytes.isDigit b then .error .malformed else .ok ([0x30], b :: s)
  | b :: s => if Bytes.isDigit b then .ok (digits (b :: s)) else .error .malformed

/-- What the parts of a numeral denote, unless it is beyond all doubles. -/
def denote (negative : Bool) (whole : Bytes) (fraction : Option Bytes) (exponent : Option Int) :
    Except Fault Numeral :=
  let (m, excess) := significand 0 whole
  let (m, used) := match fraction with
    | none => (m, 0)
    | some ds =>
      let (m, left) := significand m ds
      (m, ds.length - left.length)
  if exceedsDouble m (excess.length - used + exponent.getD 0) then .error .malformed
  else if fraction.isSome || exponent.isSome then .ok .real
  else
    let n := decimal whole
    if negative then (if n = 0 then .ok .real else .ok (.integer (-n))) else .ok (.integer n)

/-- A numeral, read from behind its sign. -/
def numeral (negative : Bool) (s : Bytes) : Except Fault (Numeral × Bytes) :=
  match whole s with
  | .error f => .error f
  | .ok (w, s) =>
    match fraction s with
    | .error f => .error f
    | .ok (fr, s) =>
      match exponent s with
      | .error f => .error f
      | .ok (e, s) =>
        match denote negative w fr e with
        | .error f => .error f
        | .ok n => .ok (n, s)

theorem length_lt_of_whole {s w rest : Bytes} (h : whole s = .ok (w, rest)) :
    rest.length < s.length := by
  unfold whole at h
  split at h
  · simp at h
  · split at h
    · simp only [Except.ok.injEq, Prod.mk.injEq] at h
      simp [← h.2]
    · split at h
      · simp at h
      · simp only [Except.ok.injEq, Prod.mk.injEq] at h
        simp [← h.2]
  · split at h
    · next b s _ hb =>
      simp only [Except.ok.injEq, digits, Prod.mk.injEq] at h
      rw [List.dropWhile_cons, if_pos hb] at h
      have := (List.dropWhile_sublist Bytes.isDigit (l := s)).length_le
      simp only [List.length_cons, ← h.2]
      omega
    · simp at h

theorem length_le_of_someDigits {s ds rest : Bytes} (h : someDigits s = .ok (ds, rest)) :
    rest.length ≤ s.length := by
  have := length_digits_le s
  unfold someDigits at h
  split at h
  · simp at h
  · simp at h
  · next hd =>
    simp only [Except.ok.injEq, Prod.mk.injEq] at h
    simpa [hd, h.2] using this

theorem length_exponentSign_le (s : Bytes) : (exponentSign s).2.length ≤ s.length := by
  unfold exponentSign
  split <;> simp

theorem length_le_of_fraction {s rest : Bytes} {ds : Option Bytes}
    (h : fraction s = .ok (ds, rest)) : rest.length ≤ s.length := by
  unfold fraction at h
  split at h
  · split at h
    · simp at h
    · next hd =>
      have := length_le_of_someDigits hd
      simp only [Except.ok.injEq, Prod.mk.injEq] at h
      simp only [List.length_cons, ← h.2]
      omega
  · simp only [Except.ok.injEq, Prod.mk.injEq] at h
    simp [← h.2]

theorem length_le_of_exponent {s rest : Bytes} {e : Option Int}
    (h : exponent s = .ok (e, rest)) : rest.length ≤ s.length := by
  unfold exponent at h
  split at h
  · next s' =>
    split at h
    · simp at h
    · next hd =>
      have := length_le_of_someDigits hd
      have := length_exponentSign_le s'
      simp only [Except.ok.injEq, Prod.mk.injEq] at h
      simp only [List.length_cons, ← h.2]
      omega
  · next s' =>
    split at h
    · simp at h
    · next hd =>
      have := length_le_of_someDigits hd
      have := length_exponentSign_le s'
      simp only [Except.ok.injEq, Prod.mk.injEq] at h
      simp only [List.length_cons, ← h.2]
      omega
  · simp only [Except.ok.injEq, Prod.mk.injEq] at h
    simp [← h.2]

theorem length_lt_of_numeral {negative : Bool} {s rest : Bytes} {n : Numeral}
    (h : numeral negative s = .ok (n, rest)) : rest.length < s.length := by
  unfold numeral at h
  split at h
  · simp at h
  · next hw =>
    split at h
    · simp at h
    · next hf =>
      split at h
      · simp at h
      · next he =>
        split at h
        · simp at h
        · have := length_lt_of_whole hw
          have := length_le_of_fraction hf
          have := length_le_of_exponent he
          simp only [Except.ok.injEq, Prod.mk.injEq] at h
          rw [← h.2]
          omega

/-! ### Numerals that are only looked at -/

/-- What follows one or more digits: here even the end of the input is an error of form. -/
def skipDigits (s : Bytes) : Except Fault Bytes :=
  match digits s with
  | ([], _) => .error .malformed
  | (_ :: _, rest) => .ok rest

def skipExponent : Bytes → Except Fault Bytes
  | 0x65 :: s | 0x45 :: s => skipDigits (exponentSign s).2
  | s => .ok s

def skipFraction : Bytes → Except Fault Bytes
  | 0x2E :: s =>
    match skipDigits s with
    | .error f => .error f
    | .ok rest => skipExponent rest
  | s => skipExponent s

/-- What follows a numeral, read from behind its sign. -/
def skipNumeral (s : Bytes) : Except Fault Bytes :=
  match whole s with
  | .error _ => .error .malformed
  | .ok (_, rest) => skipFraction rest

theorem length_le_of_skipDigits {s rest : Bytes} (h : skipDigits s = .ok rest) :
    rest.length ≤ s.length := by
  have := length_digits_le s
  unfold skipDigits at h
  split at h
  · simp at h
  · next hd =>
    simp only [Except.ok.injEq] at h
    simpa [hd, h] using this

theorem length_le_of_skipExponent {s rest : Bytes} (h : skipExponent s = .ok rest) :
    rest.length ≤ s.length := by
  unfold skipExponent at h
  split at h
  · next s' =>
    have := length_le_of_skipDigits h
    have := length_exponentSign_le s'
    simp only [List.length_cons]
    omega
  · next s' =>
    have := length_le_of_skipDigits h
    have := length_exponentSign_le s'
    simp only [List.length_cons]
    omega
  · simp only [Except.ok.injEq] at h
    simp [← h]

theorem length_le_of_skipFraction {s rest : Bytes} (h : skipFraction s = .ok rest) :
    rest.length ≤ s.length := by
  unfold skipFraction at h
  split at h
  · split at h
    · simp at h
    · next hd =>
      have := length_le_of_skipDigits hd
      have := length_le_of_skipExponent h
      simp only [List.length_cons]
      omega
  · exact length_le_of_skipExponent h

theorem length_lt_of_skipNumeral {s rest : Bytes} (h : skipNumeral s = .ok rest) :
    rest.length < s.length := by
  unfold skipNumeral at h
  split at h
  · simp at h
  · next hw =>
    have := length_lt_of_whole hw
    have := length_le_of_skipFraction h
    omega

end SkinRelay.Json
