import SkinRelay.Json.Numeral

/-!
Skipping a value that nobody asks for. It must be JSON, but its texts are not decoded, its
numbers are not measured, and it may be nested to any depth: the brackets still open are kept on
a stack.
-/

namespace SkinRelay.Json

/-- An open bracket. -/
inductive Frame where
  | list
  | object
  deriving DecidableEq, Repr

/-- The byte that closes it. -/
def Frame.closer : Frame → UInt8
  | .list => 0x5D
  | .object => 0x7D

/-- What follows a value that is neither a list nor an object. -/
def skipScalar : Bytes → Except Fault Bytes
  | [] => .error .truncated
  | 0x6E :: s => afterWord [0x75, 0x6C, 0x6C] s
  | 0x74 :: s => afterWord [0x72, 0x75, 0x65] s
  | 0x66 :: s => afterWord [0x61, 0x6C, 0x73, 0x65] s
  | 0x22 :: s => skipText s
  | 0x2D :: s => skipNumeral s
  | b :: s => if Bytes.isDigit b then skipNumeral (b :: s) else .error .malformed

theorem length_lt_of_skipScalar {s rest : Bytes} (h : skipScalar s = .ok rest) :
    rest.length < s.length := by
  unfold skipScalar at h
  split at h
  · simp at h
  · exact Nat.lt_succ_of_le (length_le_of_afterWord h)
  · exact Nat.lt_succ_of_le (length_le_of_afterWord h)
  · exact Nat.lt_succ_of_le (length_le_of_afterWord h)
  · exact Nat.lt_succ_of_lt (length_lt_of_skipText h)
  · exact Nat.lt_succ_of_lt (length_lt_of_skipNumeral h)
  · split at h
    · exact length_lt_of_skipNumeral h
    · simp at h

/-- What follows the colon behind a key. -/
def afterColon (s : Bytes) : Except Fault Bytes := expect 0x3A (skipBlank s)

theorem length_lt_of_afterColon {s rest : Bytes} (h : afterColon s = .ok rest) :
    rest.length < s.length :=
  Nat.lt_of_lt_of_le (length_lt_of_expect h) (length_skipBlank_le s)

/-- What follows a key and its colon. -/
def skipKey (s : Bytes) : Except Fault Bytes :=
  match expect 0x22 (skipBlank s) with
  | .error f => .error f
  | .ok s =>
    match skipText s with
    | .error f => .error f
    | .ok s => afterColon s

theorem length_lt_of_skipKey {s rest : Bytes} (h : skipKey s = .ok rest) :
    rest.length < s.length := by
  unfold skipKey at h
  split at h
  · simp at h
  · next hq =>
    split at h
    · simp at h
    · next ht =>
      have := length_skipBlank_le s
      have := length_lt_of_expect hq
      have := length_lt_of_skipText ht
      have := length_lt_of_afterColon h
      omega

mutual

/-- What follows a value and all the brackets open around it. -/
def skipInside (stack : List Frame) (s : Bytes) : Except Fault Bytes :=
  match hb : skipBlank s with
  | [] => .error .truncated
  | b :: r =>
    have : r.length < s.length := by
      have := length_skipBlank_le s
      simp only [hb, List.length_cons] at this
      omega
    if b = 0x5B then skipOpened .list stack r
    else if b = 0x7B then skipOpened .object stack r
    else
      match _hs : skipScalar (b :: r) with
      | .error f => .error f
      | .ok rest => skipClosed stack rest
termination_by (s.length, 0)
decreasing_by
  · exact Prod.Lex.left _ _ this
  · exact Prod.Lex.left _ _ this
  · have := length_lt_of_skipScalar _hs
    have := length_skipBlank_le s
    rw [hb] at this
    exact Prod.Lex.left _ _ (by omega)

/-- What follows when the bracket `frame` has just been opened. -/
def skipOpened (frame : Frame) (stack : List Frame) (s : Bytes) : Except Fault Bytes :=
  match hb : skipBlank s with
  | [] => .error .truncated
  | b :: r =>
    have : r.length < s.length := by
      have := length_skipBlank_le s
      simp only [hb, List.length_cons] at this
      omega
    if b = frame.closer then skipClosed stack r
    else skipEntry frame stack s
termination_by (s.length, 2)

/-- What follows when a value has just ended. -/
def skipClosed (stack : List Frame) (s : Bytes) : Except Fault Bytes :=
  match stack with
  | [] => .ok s
  | frame :: outer =>
    match hb : skipBlank s with
    | [] => .error .truncated
    | b :: r =>
      have : r.length < s.length := by
        have := length_skipBlank_le s
        simp only [hb, List.length_cons] at this
        omega
      if b = 0x2C then skipEntry frame outer r
      else if b = frame.closer then skipClosed outer r
      else .error .malformed
termination_by (s.length, 0)

/-- What follows when an item or a member of `frame` comes next. -/
def skipEntry (frame : Frame) (outer : List Frame) (s : Bytes) : Except Fault Bytes :=
  match frame with
  | .list => skipInside (.list :: outer) s
  | .object =>
    match _hk : skipKey s with
    | .error f => .error f
    | .ok rest => skipInside (.object :: outer) rest
termination_by (s.length, 1)
decreasing_by
  · exact Prod.Lex.right _ (by decide)
  · exact Prod.Lex.left _ _ (length_lt_of_skipKey _hk)

end

/-- What follows one value. -/
def skipValue (s : Bytes) : Except Fault Bytes := skipInside [] s

mutual

theorem length_lt_of_skipInside {stack : List Frame} {s rest : Bytes}
    (h : skipInside stack s = .ok rest) : rest.length < s.length := by
  rw [skipInside] at h
  split at h
  · simp at h
  · next b r hb =>
    have hr : r.length < s.length := by
      have := length_skipBlank_le s
      simp only [hb, List.length_cons] at this
      omega
    split at h
    · exact Nat.lt_trans (length_lt_of_skipOpened h) hr
    · split at h
      · exact Nat.lt_trans (length_lt_of_skipOpened h) hr
      · split at h
        · simp at h
        · next hs =>
          have hs : _ < s.length :=
            Nat.lt_of_lt_of_le (length_lt_of_skipScalar hs) (Nat.succ_le_of_lt hr)
          exact Nat.lt_of_le_of_lt (length_le_of_skipClosed h) hs
termination_by (s.length, 0)

theorem length_lt_of_skipOpened {frame : Frame} {stack : List Frame} {s rest : Bytes}
    (h : skipOpened frame stack s = .ok rest) : rest.length < s.length := by
  rw [skipOpened] at h
  split at h
  · simp at h
  · next b r hb =>
    have hr : r.length < s.length := by
      have := length_skipBlank_le s
      simp only [hb, List.length_cons] at this
      omega
    split at h
    · exact Nat.lt_of_le_of_lt (length_le_of_skipClosed h) hr
    · exact length_lt_of_skipEntry h
termination_by (s.length, 2)

theorem length_le_of_skipClosed {stack : List Frame} {s rest : Bytes}
    (h : skipClosed stack s = .ok rest) : rest.length ≤ s.length := by
  unfold skipClosed at h
  split at h
  · simp only [Except.ok.injEq] at h
    simp [h]
  · split at h
    · simp at h
    · next b r hb =>
      have hr : r.length < s.length := by
        have := length_skipBlank_le s
        simp only [hb, List.length_cons] at this
        omega
      split at h
      · have := length_lt_of_skipEntry h
        omega
      · split at h
        · have := length_le_of_skipClosed h
          omega
        · simp at h
termination_by (s.length, 0)

theorem length_lt_of_skipEntry {frame : Frame} {outer : List Frame} {s rest : Bytes}
    (h : skipEntry frame outer s = .ok rest) : rest.length < s.length := by
  unfold skipEntry at h
  split at h
  · exact length_lt_of_skipInside h
  · split at h
    · simp at h
    · next hk =>
      have h₁ := length_lt_of_skipKey hk
      have h₂ := length_lt_of_skipInside h
      omega
termination_by (s.length, 1)

end

theorem length_lt_of_skipValue {s rest : Bytes} (h : skipValue s = .ok rest) :
    rest.length < s.length := length_lt_of_skipInside h

end SkinRelay.Json
