/-!
Punycode: a label of a domain name in ASCII. The ASCII characters of the label come first; the
others are inserted one by one in the order of their code points, each by the distance that a
walk over all places and code points has to go to reach it.
-/

namespace SkinRelay.Punycode

/-- The last code point of the basic characters, and the first one that is inserted. -/
def firstInserted : Nat := 0x80

def digit (n : Nat) : Char :=
  if n < 26 then Char.ofNat (0x61 + n) else Char.ofNat (0x30 + (n - 26))

def digitValue? (c : Char) : Option Nat :=
  let n := c.toNat
  if 0x61 ≤ n ∧ n ≤ 0x7A then some (n - 0x61)
  else if 0x41 ≤ n ∧ n ≤ 0x5A then some (n - 0x41)
  else if 0x30 ≤ n ∧ n ≤ 0x39 then some (n - 0x30 + 26)
  else none

/-- The threshold of the digit at place `k`, a multiple of 36: a digit below it is the last. -/
def threshold (bias k : Nat) : Nat :=
  if k ≤ bias then 1 else if bias + 26 ≤ k then 26 else k - bias

theorem threshold_pos (bias k : Nat) : 0 < threshold bias k := by
  unfold threshold
  split
  · omega
  · split <;> omega

/-- Divides by 35 until at most 455 is left, counting 36 for each division. -/
def shrink (delta : Nat) : Nat × Nat :=
  if 455 < delta then
    let (d, k) := shrink (delta / 35)
    (d, k + 36)
  else (delta, 0)
termination_by delta
decreasing_by exact Nat.div_lt_self (by omega) (by omega)

/-- The bias after a distance of `delta` that led to the `count`th character. -/
def adapt (delta count : Nat) (first : Bool) : Nat :=
  let delta := if first then delta / 700 else delta / 2
  let (d, k) := shrink (delta + delta / count)
  k + 36 * d / (d + 38)

/-! ### Encoding -/

/-- The digits of a distance, least significant first, from place `k` on. -/
def distance (bias k q : Nat) : List Char :=
  let t := threshold bias k
  if q < t then [digit q]
  else digit (t + (q - t) % (36 - t)) :: distance bias (k + 36) ((q - t) / (36 - t))
termination_by q
decreasing_by
  have ht := threshold_pos bias k
  exact Nat.lt_of_le_of_lt (Nat.div_le_self _ _) (by omega)

/-- What is known between two insertions. -/
structure Walk where
  delta : Nat
  bias : Nat
  /-- Characters of the label that are already there. -/
  handled : Nat
  written : List Char

/-- Walks past one character of the label while looking for `n`. -/
def Walk.pass (basic n : Nat) (w : Walk) (c : Char) : Walk :=
  if c.toNat < n then { w with delta := w.delta + 1 }
  else if c.toNat = n then
    { delta := 0
      bias := adapt w.delta (w.handled + 1) (w.handled = basic)
      handled := w.handled + 1
      written := w.written ++ distance w.bias 36 w.delta }
  else w

/-- The least code point of the label from `n` on. -/
def nextCodePoint? (label : List Char) (n : Nat) : Option Nat :=
  ((label.map Char.toNat).filter (n ≤ ·)).min?

/-- Inserts the characters from `n` on, at most `rounds` different ones. -/
def insertFrom (label : List Char) (basic : Nat) : Nat → Nat → Walk → Walk
  | 0, _, w => w
  | rounds + 1, n, w =>
    match nextCodePoint? label n with
    | none => w
    | some m =>
      let w := { w with delta := w.delta + (m - n) * (w.handled + 1) }
      let w := label.foldl (Walk.pass basic m) w
      insertFrom label basic rounds (m + 1) { w with delta := w.delta + 1 }

/-- The ASCII form of a label, without the mark that tells it from other labels. -/
def encode (label : List Char) : List Char :=
  let basic := label.filter (·.toNat < firstInserted)
  let w := insertFrom label basic.length label.length firstInserted ⟨0, 72, basic.length, []⟩
  (if basic.isEmpty then [] else basic ++ ['-']) ++ w.written

/-! ### Decoding -/

/-- Adds the distance at the front to `i`, and gives what follows it. -/
def takeDistance (bias : Nat) (k weight i : Nat) : List Char → Option (Nat × List Char)
  | [] => none
  | c :: rest =>
    match digitValue? c with
    | none => none
    | some d =>
      let t := threshold bias k
      if d < t then some (i + d * weight, rest)
      else takeDistance bias (k + 36) (weight * (36 - t)) (i + d * weight) rest

theorem length_lt_of_takeDistance {bias k weight i j : Nat} {s rest : List Char}
    (h : takeDistance bias k weight i s = some (j, rest)) : rest.length < s.length := by
  induction s generalizing k weight i with
  | nil => simp [takeDistance] at h
  | cons c s ih =>
    simp only [takeDistance] at h
    split at h
    · simp at h
    · split at h
      · simp only [Option.some.injEq, Prod.mk.injEq] at h
        simp [h.2]
      · have := ih h
        simp only [List.length_cons]
        omega

/-- Inserts the characters that the distances lead to. -/
def insertAll (bias n i : Nat) (label : List Char) (s : List Char) : Option (List Char) :=
  match s with
  | [] => some label
  | c :: s =>
    match _h : takeDistance bias 36 1 i (c :: s) with
    | none => none
    | some (j, rest) =>
      let count := label.length + 1
      let n := n + j / count
      if n.isValidChar then
        insertAll (adapt (j - i) count (i = 0)) n (j % count + 1)
          (label.insertIdx (j % count) (Char.ofNat n)) rest
      else none
termination_by s.length
decreasing_by exact length_lt_of_takeDistance _h

/-- The parts before and after the last hyphen; all is after it when there is none. -/
def splitLastHyphen (s : List Char) : List Char × List Char :=
  let tail := (s.reverse.takeWhile (· != '-')).reverse
  ((s.take (s.length - tail.length)).dropLast, tail)

/-- The label of an ASCII form. -/
def decode (s : List Char) : Option (List Char) :=
  let (basic, inserted) := splitLastHyphen s
  if basic.all (·.toNat < firstInserted) then insertAll 72 firstInserted 0 basic inserted
  else none

end SkinRelay.Punycode
