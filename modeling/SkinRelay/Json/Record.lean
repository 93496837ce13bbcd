import SkinRelay.Json.Reader

/-!
Records: objects with known keys. Members with other keys are skipped, a known key must not come
twice. The same record may also come as a list of its fields in their order, of which the last
ones may be missing.
-/

namespace SkinRelay.Json

/-- How one known key acts on the fields collected so far: whether its field is already there,
and how to read the field and put it there. -/
structure Entry (σ : Type) where
  filled : σ → Bool
  fill : Reader (σ → σ)

/-- The entry of the field at the front. -/
def Entry.front (r : Reader α) : Entry (Option α × σ) where
  filled st := st.1.isSome
  fill := r.map fun a st => (some a, st.2)

/-- An entry of the fields behind the front one. -/
def Entry.behind (e : Entry σ) : Entry (α × σ) where
  filled st := e.filled st.2
  fill := e.fill.map fun update st => (st.1, update st.2)

/-- The key at the front of an object, from behind its opening quote or its closing brace. -/
def firstMember (s : Bytes) : Except Fault Turn :=
  match skipBlank s with
  | [] => .error .truncated
  | b :: rest =>
    if b = 0x7D then .ok (.closed rest)
    else if b = 0x22 then .ok (.more rest)
    else .error .malformed

/-- After a member of an object: a comma must be followed by another key. -/
def nextMember (s : Bytes) : Except Fault Turn :=
  match skipBlank s with
  | [] => .error .truncated
  | b :: rest =>
    if b = 0x7D then .ok (.closed rest)
    else if b = 0x2C then
      match expect 0x22 (skipBlank rest) with
      | .error f => .error f
      | .ok rest => .ok (.more rest)
    else .error .malformed

theorem length_le_of_firstMember {s : Bytes} {t : Turn} (h : firstMember s = .ok t) :
    t.bytes.length ≤ s.length := by
  unfold firstMember at h
  have hs := length_skipBlank_le s
  split at h
  · simp at h
  · next hb =>
    simp only [hb, List.length_cons] at hs
    split at h
    · simp only [Except.ok.injEq] at h
      simp only [← h, Turn.bytes]
      omega
    · split at h
      · simp only [Except.ok.injEq] at h
        simp only [← h, Turn.bytes]
        omega
      · simp at h

theorem length_le_of_nextMember {s : Bytes} {t : Turn} (h : nextMember s = .ok t) :
    t.bytes.length ≤ s.length := by
  unfold nextMember at h
  have hs := length_skipBlank_le s
  split at h
  · simp at h
  · next r hb =>
    simp only [hb, List.length_cons] at hs
    split at h
    · simp only [Except.ok.injEq] at h
      simp only [← h, Turn.bytes]
      omega
    · split at h
      · split at h
        · simp at h
        · next he =>
          have := length_lt_of_expect he
          have := length_skipBlank_le r
          simp only [Except.ok.injEq] at h
          simp only [← h, Turn.bytes]
          omega
      · simp at h

/-- The value of a member, from behind its key. An unknown key leaves the fields as they are. -/
def memberValue (entry : Option (Entry σ)) (st : σ) (s : Bytes) : Except Fault (σ × Bytes) :=
  match entry with
  | none =>
    match afterColon s with
    | .error f => .error f
    | .ok s =>
      match skipValue s with
      | .error f => .error f
      | .ok rest => .ok (st, rest)
  | some e =>
    if e.filled st then .error .mistyped
    else
      match afterColon s with
      | .error f => .error f
      | .ok s =>
        match e.fill.run s with
        | .error f => .error f
        | .ok (update, rest) => .ok (update st, rest)

theorem length_lt_of_memberValue {entry : Option (Entry σ)} {st st' : σ} {s rest : Bytes}
    (h : memberValue entry st s = .ok (st', rest)) : rest.length < s.length := by
  unfold memberValue at h
  split at h
  · split at h
    · simp at h
    · next hc =>
      split at h
      · simp at h
      · next hv =>
        have := length_lt_of_afterColon hc
        have := length_lt_of_skipValue hv
        simp only [Except.ok.injEq, Prod.mk.injEq] at h
        rw [← h.2]
        omega
  · next e =>
    split at h
    · simp at h
    · split at h
      · simp at h
      · next hc =>
        split at h
        · simp at h
        · next hv =>
          have := length_lt_of_afterColon hc
          have := e.fill.shortens hv
          simp only [Except.ok.injEq, Prod.mk.injEq] at h
          rw [← h.2]
          omega

/-- The fields after the members from `turn` on, and what follows the closing brace. -/
def members (lookup : String → Option (Entry σ)) (st : σ) (turn : Turn) :
    Except Fault (σ × Bytes) :=
  match turn with
  | .closed rest => .ok (st, rest)
  | .more s =>
    match _ht : text s with
    | .error f => .error f
    | .ok (key, s₁) =>
      match _hv : memberValue (lookup key) st s₁ with
      | .error f => .error f
      | .ok (st', s₂) =>
        match _hn : nextMember s₂ with
        | .error f => .error f
        | .ok turn' => members lookup st' turn'
termination_by turn.bytes.length
decreasing_by
  have := length_lt_of_text _ht
  have := length_lt_of_memberValue _hv
  have := length_le_of_nextMember _hn
  simp only [Turn.bytes] at *
  omega

theorem length_le_of_members {lookup : String → Option (Entry σ)} {st st' : σ} {turn : Turn}
    {rest : Bytes} (h : members lookup st turn = .ok (st', rest)) :
    rest.length ≤ turn.bytes.length := by
  fun_induction members lookup st turn with
  | case1 =>
    simp only [Except.ok.injEq, Prod.mk.injEq] at h
    simp [Turn.bytes, h.2]
  | case2 | case3 | case4 => simp at h
  | case5 _ _ _ _ ht _ _ hv _ hn ih =>
    have := length_lt_of_text ht
    have := length_lt_of_memberValue hv
    have := length_le_of_nextMember hn
    have := ih h
    simp only [Turn.bytes] at *
    omega

/-! ### Records as lists -/

/-- Where a record that comes as a list stands: just opened, behind a field, or closed. -/
inductive Position where
  | opened (s : Bytes)
  | between (s : Bytes)
  | closed (rest : Bytes)

def Position.bytes : Position → Bytes
  | .opened s => s
  | .between s => s
  | .closed rest => rest

/-- The next field, if there is one. -/
def Position.turn : Position → Except Fault Turn
  | .opened s => firstItem s
  | .between s => nextItem s
  | .closed rest => .ok (.closed rest)

theorem Position.length_le_of_turn {p : Position} {t : Turn} (h : p.turn = .ok t) :
    t.bytes.length ≤ p.bytes.length := by
  cases p with
  | opened s => exact length_le_of_firstItem h
  | between s => exact length_le_of_nextItem h
  | closed rest =>
    simp only [Position.turn, Except.ok.injEq] at h
    simp [← h, Turn.bytes, Position.bytes]

/-- A reader of fields in their order, up to and with the closing bracket. -/
structure Sequence (σ : Type) where
  run : Position → Except Fault (σ × Bytes)
  keeps : ∀ {p : Position} {st : σ} {rest : Bytes}, run p = .ok (st, rest) →
    rest.length ≤ p.bytes.length

/-- What follows the bracket that must come now. -/
def closeList (s : Bytes) : Except Fault Bytes := expect 0x5D (skipBlank s)

theorem length_lt_of_closeList {s rest : Bytes} (h : closeList s = .ok rest) :
    rest.length < s.length :=
  Nat.lt_of_lt_of_le (length_lt_of_expect h) (length_skipBlank_le s)

/-- What follows when no field is left. -/
def Position.finish : Position → Except Fault Bytes
  | .opened s => closeList s
  | .between s => closeList s
  | .closed rest => .ok rest

theorem Position.length_le_of_finish {p : Position} {rest : Bytes} (h : p.finish = .ok rest) :
    rest.length ≤ p.bytes.length := by
  cases p with
  | opened s => exact Nat.le_of_lt (length_lt_of_closeList h)
  | between s => exact Nat.le_of_lt (length_lt_of_closeList h)
  | closed r =>
    simp only [Position.finish, Except.ok.injEq] at h
    simp [← h, Position.bytes]

/-- No field is left. -/
def Sequence.nil : Sequence Unit where
  run p := match p.finish with
    | .error f => .error f
    | .ok rest => .ok ((), rest)
  keeps {p st rest} h := by
    split at h
    · simp at h
    · next hf =>
      simp only [Except.ok.injEq, Prod.mk.injEq] at h
      exact h.2 ▸ p.length_le_of_finish hf

/-- One more field at the front, which is missing once the list has been closed. -/
def Sequence.cons (r : Reader α) (fields : Sequence σ) : Sequence (Option α × σ) where
  run p := match p.turn with
    | .error f => .error f
    | .ok (.closed rest) =>
      match fields.run (.closed rest) with
      | .error f => .error f
      | .ok (st, rest) => .ok ((none, st), rest)
    | .ok (.more s) =>
      match r.run s with
      | .error f => .error f
      | .ok (a, s) =>
        match fields.run (.between s) with
        | .error f => .error f
        | .ok (st, rest) => .ok ((some a, st), rest)
  keeps {p st rest} h := by
    split at h
    · simp at h
    · next ht =>
      have hp := p.length_le_of_turn ht
      split at h
      · simp at h
      · next hf =>
        have hk := fields.keeps hf
        simp only [Except.ok.injEq, Prod.mk.injEq] at h
        rw [← h.2]
        exact Nat.le_trans hk hp
    · next ht =>
      have hp := p.length_le_of_turn ht
      split at h
      · simp at h
      · next hr =>
        have hr := r.shortens hr
        split at h
        · simp at h
        · next hf =>
          have hk := fields.keeps hf
          simp only [Except.ok.injEq, Prod.mk.injEq] at h
          rw [← h.2]
          exact Nat.le_trans hk (Nat.le_trans (Nat.le_of_lt hr) hp)

/-! ### Both forms -/

/-- The fields of a record from its opening bracket or brace on. -/
def recordFields (empty : σ) (lookup : String → Option (Entry σ)) (fields : Sequence σ)
    (s : Bytes) : Except Fault (σ × Bytes) :=
  match skipBlank s with
  | [] => .error .truncated
  | 0x7B :: rest =>
    match firstMember rest with
    | .error f => .error f
    | .ok turn => members lookup empty turn
  | 0x5B :: rest => fields.run (.opened rest)
  | b :: rest => .error (mismatch (b :: rest))

theorem length_lt_of_recordFields {empty : σ} {lookup : String → Option (Entry σ)}
    {fields : Sequence σ} {s rest : Bytes} {st : σ}
    (h : recordFields empty lookup fields s = .ok (st, rest)) : rest.length < s.length := by
  unfold recordFields at h
  have hs := length_skipBlank_le s
  split at h
  · simp at h
  · next hb =>
    simp only [hb, List.length_cons] at hs
    split at h
    · simp at h
    · next hf =>
      have := length_le_of_firstMember hf
      have := length_le_of_members h
      omega
  · next hb =>
    simp only [hb, List.length_cons] at hs
    have := fields.keeps h
    simp only [Position.bytes] at this
    omega
  · simp at h

/-- Reads a record: its fields are collected into `σ`, and `complete?` turns them into the value
unless one is missing that must be there. -/
protected def Reader.record (empty : σ) (lookup : String → Option (Entry σ))
    (fields : Sequence σ) (complete? : σ → Option α) : Reader α where
  run s := match recordFields empty lookup fields s with
    | .error f => .error f
    | .ok (st, rest) =>
      match complete? st with
      | none => .error .mistyped
      | some a => .ok (a, rest)
  shortens {s a rest} h := by
    split at h
    · simp at h
    · next hf =>
      split at h
      · simp at h
      · simp only [Except.ok.injEq, Prod.mk.injEq] at h
        exact h.2 ▸ length_lt_of_recordFields hf

end SkinRelay.Json
