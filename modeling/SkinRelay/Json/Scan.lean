import SkinRelay.Text.Utf8

/-!
The lexical layer of a JSON reader that works from left to right over bytes and stops at the
first problem. Texts and numbers come in two strengths: those that are read must be good UTF-8
and fit a double, those that are skipped only have to look right.
-/

namespace SkinRelay.Json

/-- Why reading stopped: the text is not JSON, it is JSON of the wrong shape, or it ends too
early. -/
inductive Fault where
  | malformed
  | mistyped
  | truncated
  deriving DecidableEq, Repr

def isBlank (b : UInt8) : Bool := b == 0x20 || b == 0x09 || b == 0x0A || b == 0x0D

def skipBlank (s : Bytes) : Bytes := s.dropWhile isBlank

theorem length_skipBlank_le (s : Bytes) : (skipBlank s).length ≤ s.length :=
  (List.dropWhile_sublist isBlank).length_le

/-- What follows the rest of a keyword. -/
def afterWord : Bytes → Bytes → Except Fault Bytes
  | [], s => .ok s
  | _ :: _, [] => .error .truncated
  | w :: ws, b :: s => if b = w then afterWord ws s else .error .malformed

theorem length_le_of_afterWord {w s rest : Bytes} (h : afterWord w s = .ok rest) :
    rest.length ≤ s.length := by
  induction w generalizing s with
  | nil => simp [afterWord] at h; simp [h]
  | cons w ws ih =>
    cases s with
    | nil => simp [afterWord] at h
    | cons b s =>
      simp only [afterWord] at h
      split at h
      · have := ih h
        simp only [List.length_cons]
        omega
      · simp at h

/-! ### Texts -/

/-- The characters with a one-letter escape. -/
def shortEscape? (b : UInt8) : Option Char :=
  if b = 0x22 then some '"'
  else if b = 0x5C then some '\\'
  else if b = 0x2F then some '/'
  else if b = 0x62 then some '\x08'
  else if b = 0x66 then some '\x0c'
  else if b = 0x6E then some '\n'
  else if b = 0x72 then some '\r'
  else if b = 0x74 then some '\t'
  else none

/-- The four hexadecimal digits of a UTF-16 unit. -/
def unit : Bytes → Except Fault (Nat × Bytes)
  | a :: b :: c :: d :: rest =>
    match Bytes.hexValue? a, Bytes.hexValue? b, Bytes.hexValue? c, Bytes.hexValue? d with
    | some a, some b, some c, some d => .ok (((a * 16 + b) * 16 + c) * 16 + d, rest)
    | _, _, _, _ => .error .malformed
  | _ => .error .truncated

theorem length_lt_of_unit {s rest : Bytes} {n : Nat} (h : unit s = .ok (n, rest)) :
    rest.length < s.length := by
  unfold unit at h
  split at h
  · split at h
    · simp only [Except.ok.injEq, Prod.mk.injEq] at h
      simp [← h.2]
      omega
    · simp at h
  · simp at h

def isLeading (n : Nat) : Bool := 0xD800 ≤ n && n ≤ 0xDBFF

def isTrailing (n : Nat) : Bool := 0xDC00 ≤ n && n ≤ 0xDFFF

/-- The byte that must come next. -/
def expect (b : UInt8) : Bytes → Except Fault Bytes
  | [] => .error .truncated
  | a :: rest => if a = b then .ok rest else .error .malformed

theorem length_lt_of_expect {b : UInt8} {s rest : Bytes} (h : expect b s = .ok rest) :
    rest.length < s.length := by
  unfold expect at h
  split at h
  · simp at h
  · split at h
    · simp only [Except.ok.injEq] at h
      simp [h]
    · simp at h

/-- The second half of a surrogate pair whose first half is `high`. -/
def lowHalf (high : Nat) (s : Bytes) : Except Fault (Char × Bytes) :=
  match expect 0x5C s with
  | .error f => .error f
  | .ok s =>
    match expect 0x75 s with
    | .error f => .error f
    | .ok s =>
      match unit s with
      | .error f => .error f
      | .ok (low, s) =>
        if isTrailing low then
          .ok (Char.ofNat (0x10000 + (high - 0xD800) * 0x400 + (low - 0xDC00)), s)
        else .error .malformed

theorem length_lt_of_lowHalf {high : Nat} {s rest : Bytes} {c : Char}
    (h : lowHalf high s = .ok (c, rest)) : rest.length < s.length := by
  unfold lowHalf at h
  split at h
  · simp at h
  · next h₁ =>
    split at h
    · simp at h
    · next h₂ =>
      split at h
      · simp at h
      · next h₃ =>
        split at h
        · simp only [Except.ok.injEq, Prod.mk.injEq] at h
          have := length_lt_of_expect h₁
          have := length_lt_of_expect h₂
          have := length_lt_of_unit h₃
          obtain ⟨_, rfl⟩ := h
          omega
        · simp at h

/-- The character that an escape stands for, read from behind its backslash. -/
def escape : Bytes → Except Fault (Char × Bytes)
  | [] => .error .truncated
  | e :: s =>
    match shortEscape? e with
    | some c => .ok (c, s)
    | none =>
      if e = 0x75 then
        match unit s with
        | .error f => .error f
        | .ok (n, s) =>
          if isTrailing n then .error .malformed
          else if isLeading n then lowHalf n s
          else .ok (Char.ofNat n, s)
      else .error .malformed

theorem length_lt_of_escape {s rest : Bytes} {c : Char} (h : escape s = .ok (c, rest)) :
    rest.length < s.length := by
  unfold escape at h
  split at h
  · simp at h
  · split at h
    · simp only [Except.ok.injEq, Prod.mk.injEq] at h
      simp [h.2]
    · split at h
      · split at h
        · simp at h
        · next hu =>
          have := length_lt_of_unit hu
          split at h
          · simp at h
          · split at h
            · have := length_lt_of_lowHalf h
              simp only [List.length_cons]
              omega
            · simp only [Except.ok.injEq, Prod.mk.injEq] at h
              obtain ⟨_, rfl⟩ := h
              simp only [List.length_cons]
              omega
      · simp at h

/-- The bytes of a text up to its closing quote, with the escapes replaced. -/
def textBytes (s : Bytes) : Except Fault (Bytes × Bytes) :=
  match s with
  | [] => .error .truncated
  | b :: s =>
    if b = 0x22 then .ok ([], s)
    else if b = 0x5C then
      match _he : escape s with
      | .error f => .error f
      | .ok (c, s) =>
        match textBytes s with
        | .error f => .error f
        | .ok (bytes, rest) => .ok (String.utf8EncodeChar c ++ bytes, rest)
    else if b < 0x20 then .error .malformed
    else
      match textBytes s with
      | .error f => .error f
      | .ok (bytes, rest) => .ok (b :: bytes, rest)
termination_by s.length
decreasing_by
  · have := length_lt_of_escape ‹_›
    simp only [List.length_cons]
    omega
  · simp

theorem length_lt_of_textBytes {s bytes rest : Bytes} (h : textBytes s = .ok (bytes, rest)) :
    rest.length < s.length := by
  fun_induction textBytes s generalizing bytes rest with
  | case1 | case3 | case4 | case6 | case7 => simp at h
  | case2 =>
    simp only [Except.ok.injEq, Prod.mk.injEq] at h
    simp [← h.2]
  | case5 _ _ _ _ _ _ _ _ ih =>
    have := length_lt_of_escape ‹_›
    have := ih ‹_›
    simp only [Except.ok.injEq, Prod.mk.injEq] at h
    simp only [List.length_cons, ← h.2]
    omega
  | case8 _ _ _ _ _ _ _ _ ih =>
    have := ih ‹_›
    simp only [Except.ok.injEq, Prod.mk.injEq] at h
    simp only [List.length_cons, ← h.2]
    omega

/-- A text, read from behind its opening quote. Its bytes must be UTF-8 once the escapes are
replaced. -/
def text (s : Bytes) : Except Fault (String × Bytes) :=
  match textBytes s with
  | .error f => .error f
  | .ok (bytes, rest) =>
    match Utf8.toString? bytes with
    | some t => .ok (t, rest)
    | none => .error .malformed

theorem length_lt_of_text {s rest : Bytes} {t : String} (h : text s = .ok (t, rest)) :
    rest.length < s.length := by
  unfold text at h
  split at h
  · simp at h
  · next ht =>
    split at h
    · simp only [Except.ok.injEq, Prod.mk.injEq] at h
      exact h.2 ▸ length_lt_of_textBytes ht
    · simp at h

/-- What follows an escape that is only looked at. -/
def skipEscape : Bytes → Except Fault Bytes
  | [] => .error .truncated
  | e :: s =>
    if (shortEscape? e).isSome then .ok s
    else if e = 0x75 then
      match unit s with
      | .error f => .error f
      | .ok (_, s) => .ok s
    else .error .malformed

theorem length_lt_of_skipEscape {s rest : Bytes} (h : skipEscape s = .ok rest) :
    rest.length < s.length := by
  unfold skipEscape at h
  split at h
  · simp at h
  · split at h
    · simp only [Except.ok.injEq] at h
      simp [h]
    · split at h
      · split at h
        · simp at h
        · next hu =>
          have := length_lt_of_unit hu
          simp only [Except.ok.injEq] at h
          simp only [List.length_cons, ← h]
          omega
      · simp at h

/-- What follows the closing quote of a text that is only looked at. -/
def skipText (s : Bytes) : Except Fault Bytes :=
  match s with
  | [] => .error .truncated
  | b :: s =>
    if b = 0x22 then .ok s
    else if b = 0x5C then
      match _he : skipEscape s with
      | .error f => .error f
      | .ok s => skipText s
    else if b < 0x20 then .error .malformed
    else skipText s
termination_by s.length
decreasing_by
  · have := length_lt_of_skipEscape ‹_›
    simp only [List.length_cons]
    omega
  · simp

theorem length_lt_of_skipText {s rest : Bytes} (h : skipText s = .ok rest) :
    rest.length < s.length := by
  fun_induction skipText s with
  | case1 | case3 | case5 => simp at h
  | case2 =>
    simp only [Except.ok.injEq] at h
    simp [h]
  | case4 _ _ _ _ ih =>
    have := length_lt_of_skipEscape ‹_›
    have := ih h
    simp only [List.length_cons]
    omega
  | case6 _ _ _ _ _ ih =>
    have := ih h
    simp only [List.length_cons]
    omega

end SkinRelay.Json
