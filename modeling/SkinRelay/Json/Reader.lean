import SkinRelay.Json.Skip

/-!
Readers: each takes one value off the front of a byte sequence, or says why it cannot. A reader
never succeeds without consuming something, so lists and objects are read by recursion on what
is left.
-/

namespace SkinRelay.Json

structure Reader (α : Type) where
  run : Bytes → Except Fault (α × Bytes)
  shortens : ∀ {s : Bytes} {a : α} {rest : Bytes}, run s = .ok (a, rest) → rest.length < s.length

/-- The fault of a value that has the wrong kind: it is noticed as soon as the value has started,
a number, a text or a keyword being read first. -/
def mismatch : Bytes → Fault
  | [] => .truncated
  | 0x5B :: _ => .mistyped
  | 0x7B :: _ => .mistyped
  | 0x6E :: s => fault (afterWord [0x75, 0x6C, 0x6C] s)
  | 0x74 :: s => fault (afterWord [0x72, 0x75, 0x65] s)
  | 0x66 :: s => fault (afterWord [0x61, 0x6C, 0x73, 0x65] s)
  | 0x22 :: s => fault (text s)
  | 0x2D :: s => fault (numeral true s)
  | b :: s => if Bytes.isDigit b then fault (numeral false (b :: s)) else .malformed
where
  /-- The fault of a reading, a mistyped value when it succeeded. -/
  fault {α : Type} : Except Fault α → Fault
    | .error f => f
    | .ok _ => .mistyped

namespace Reader

def map (f : α → β) (r : Reader α) : Reader β where
  run s := match r.run s with
    | .error e => .error e
    | .ok (a, rest) => .ok (f a, rest)
  shortens {s b rest} h := by
    split at h
    · simp at h
    · next hr =>
      simp only [Except.ok.injEq, Prod.mk.injEq] at h
      exact h.2 ▸ r.shortens hr

/-- A reader of what comes after blanks and a given first byte. -/
def startingWith (b : UInt8) (body : Bytes → Except Fault (α × Bytes)) (s : Bytes) :
    Except Fault (α × Bytes) :=
  match skipBlank s with
  | [] => .error .truncated
  | a :: rest => if a = b then body rest else .error (mismatch (a :: rest))

theorem length_lt_of_startingWith {b : UInt8} {body : Bytes → Except Fault (α × Bytes)}
    (hbody : ∀ {s : Bytes} {a : α} {rest : Bytes}, body s = .ok (a, rest) →
      rest.length ≤ s.length)
    {s : Bytes} {a : α} {rest : Bytes} (h : startingWith b body s = .ok (a, rest)) :
    rest.length < s.length := by
  unfold startingWith at h
  have := length_skipBlank_le s
  split at h
  · simp at h
  · next hs =>
    split at h
    · have := hbody h
      simp only [hs, List.length_cons] at *
      omega
    · simp at h

/-- Reads a text. -/
protected def text : Reader String where
  run := startingWith 0x22 text
  shortens := length_lt_of_startingWith fun h => Nat.le_of_lt (length_lt_of_text h)

/-- Reads `true` or `false`. -/
protected def flag : Reader Bool where
  run s := match skipBlank s with
    | [] => .error .truncated
    | 0x74 :: rest => (afterWord [0x72, 0x75, 0x65] rest).map (true, ·)
    | 0x66 :: rest => (afterWord [0x61, 0x6C, 0x73, 0x65] rest).map (false, ·)
    | b :: rest => .error (mismatch (b :: rest))
  shortens {s a rest} h := by
    have hs := length_skipBlank_le s
    split at h
    · simp at h
    · next r hr =>
      cases hw : afterWord [0x72, 0x75, 0x65] r with
      | error f => simp [hw, Except.map] at h
      | ok r' =>
        have := length_le_of_afterWord hw
        simp only [hw, Except.map, Except.ok.injEq, Prod.mk.injEq] at h
        simp only [hr, List.length_cons, ← h.2] at *
        omega
    · next r hr =>
      cases hw : afterWord [0x61, 0x6C, 0x73, 0x65] r with
      | error f => simp [hw, Except.map] at h
      | ok r' =>
        have := length_le_of_afterWord hw
        simp only [hw, Except.map, Except.ok.injEq, Prod.mk.injEq] at h
        simp only [hr, List.length_cons, ← h.2] at *
        omega
    · simp at h

/-- The integer of a numeral, when 64 bits hold it. -/
def toInt64 : Numeral → Except Fault Int64
  | .real => .error .mistyped
  | .integer n =>
    if Int64.minValue.toInt ≤ n ∧ n ≤ Int64.maxValue.toInt then .ok (Int64.ofInt n)
    else .error .mistyped

/-- Reads a 64-bit integer, from behind its sign. -/
def signedInt64 (negative : Bool) (s : Bytes) : Except Fault (Int64 × Bytes) :=
  match numeral negative s with
  | .error f => .error f
  | .ok (n, rest) =>
    match toInt64 n with
    | .error f => .error f
    | .ok n => .ok (n, rest)

theorem length_lt_of_signedInt64 {negative : Bool} {s rest : Bytes} {n : Int64}
    (h : signedInt64 negative s = .ok (n, rest)) : rest.length < s.length := by
  unfold signedInt64 at h
  split at h
  · simp at h
  · next hn =>
    split at h
    · simp at h
    · simp only [Except.ok.injEq, Prod.mk.injEq] at h
      exact h.2 ▸ length_lt_of_numeral hn

/-- Reads a 64-bit integer. -/
protected def int64 : Reader Int64 where
  run s := match skipBlank s with
    | [] => .error .truncated
    | 0x2D :: rest => signedInt64 true rest
    | b :: rest =>
      if Bytes.isDigit b then signedInt64 false (b :: rest) else .error (mismatch (b :: rest))
  shortens {s a rest} h := by
    have hs := length_skipBlank_le s
    split at h
    · simp at h
    · next hr =>
      have := length_lt_of_signedInt64 h
      simp only [hr, List.length_cons] at hs
      omega
    · next hr =>
      split at h
      · have := length_lt_of_signedInt64 h
        simp only [hr] at hs
        omega
      · simp at h

/-- Reads `null` or what `r` reads. -/
protected def option (r : Reader α) : Reader (Option α) where
  run s := match skipBlank s with
    | 0x6E :: rest => (afterWord [0x75, 0x6C, 0x6C] rest).map (none, ·)
    | s => (r.map some).run s
  shortens {s a rest} h := by
    have hs := length_skipBlank_le s
    split at h
    · next r' hr =>
      cases hw : afterWord [0x75, 0x6C, 0x6C] r' with
      | error f => simp [hw, Except.map] at h
      | ok r'' =>
        have := length_le_of_afterWord hw
        simp only [hw, Except.map, Except.ok.injEq, Prod.mk.injEq] at h
        simp only [hr, List.length_cons, ← h.2] at *
        omega
    · have := (r.map some).shortens h
      omega

end Reader

/-! ### Lists -/

/-- Where a list or an object stands between its entries: more comes at `rest`, or it has been
closed and `rest` follows. -/
inductive Turn where
  | more (rest : Bytes)
  | closed (rest : Bytes)

def Turn.bytes : Turn → Bytes
  | .more rest => rest
  | .closed rest => rest

/-- After the opening bracket of a list. -/
def firstItem (s : Bytes) : Except Fault Turn :=
  match skipBlank s with
  | [] => .error .truncated
  | b :: rest => .ok (if b = 0x5D then .closed rest else .more (b :: rest))

/-- After an item of a list: a comma must be followed by another item. -/
def nextItem (s : Bytes) : Except Fault Turn :=
  match skipBlank s with
  | [] => .error .truncated
  | b :: rest =>
    if b = 0x5D then .ok (.closed rest)
    else if b = 0x2C then
      match skipBlank rest with
      | [] => .error .truncated
      | b :: rest => if b = 0x5D then .error .malformed else .ok (.more (b :: rest))
    else .error .malformed

theorem length_le_of_firstItem {s : Bytes} {t : Turn} (h : firstItem s = .ok t) :
    t.bytes.length ≤ s.length := by
  unfold firstItem at h
  have hs := length_skipBlank_le s
  split at h
  · simp at h
  · next hb =>
    simp only [Except.ok.injEq] at h
    subst h
    simp only [hb, List.length_cons] at hs
    split <;> simp only [Turn.bytes, List.length_cons] <;> omega

theorem length_le_of_nextItem {s : Bytes} {t : Turn} (h : nextItem s = .ok t) :
    t.bytes.length ≤ s.length := by
  unfold nextItem at h
  have hs := length_skipBlank_le s
  split at h
  · simp at h
  · next r hb =>
    simp only [hb, List.length_cons] at hs
    split at h
    · simp only [Except.ok.injEq] at h
      simp only [← h, Turn.bytes]
      omega
    · split at h
      · have hr := length_skipBlank_le r
        split at h
        · simp at h
        · next hb' =>
          split at h
          · simp at h
          · simp only [Except.ok.injEq] at h
            simp only [hb', List.length_cons] at hr
            simp only [← h, Turn.bytes, List.length_cons]
            omega
      · simp at h

/-- The items of a list from `turn` on, and what follows its closing bracket. -/
def items (item : Reader α) (turn : Turn) : Except Fault (List α × Bytes) :=
  match turn with
  | .closed rest => .ok ([], rest)
  | .more s =>
    match _hi : item.run s with
    | .error f => .error f
    | .ok (a, s') =>
      match _hn : nextItem s' with
      | .error f => .error f
      | .ok turn' =>
        match items item turn' with
        | .error f => .error f
        | .ok (as, rest) => .ok (a :: as, rest)
termination_by turn.bytes.length
decreasing_by exact Nat.lt_of_le_of_lt (length_le_of_nextItem _hn) (item.shortens _hi)

theorem length_le_of_items {item : Reader α} {turn : Turn} {as : List α} {rest : Bytes}
    (h : items item turn = .ok (as, rest)) : rest.length ≤ turn.bytes.length := by
  fun_induction items item turn generalizing as rest with
  | case1 =>
    simp only [Except.ok.injEq, Prod.mk.injEq] at h
    simp [Turn.bytes, h.2]
  | case2 | case3 | case4 => simp at h
  | case5 _ _ _ hi _ hn _ _ hr ih =>
    have := item.shortens hi
    have := length_le_of_nextItem hn
    have := ih hr
    simp only [Except.ok.injEq, Prod.mk.injEq] at h
    simp only [Turn.bytes, ← h.2] at *
    omega

/-- Reads a list. -/
protected def Reader.list (item : Reader α) : Reader (List α) where
  run := startingWith 0x5B fun s =>
    match firstItem s with
    | .error f => .error f
    | .ok turn => items item turn
  shortens := length_lt_of_startingWith fun h => by
    split at h
    · simp at h
    · next hf =>
      exact Nat.le_trans (length_le_of_items h) (length_le_of_firstItem hf)

end SkinRelay.Json
