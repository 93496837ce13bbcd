import SkinRelay.Json.Skip
import SkinRelay.Proofs.Json.Digits

/-!
Skipped values. Whatever has a spelling is skipped (`skipValue_spelled`), and what can be skipped has a
spelling (`exists_spelling`). What a stack of open brackets still asks for is taken apart one bracket at
a time.
-/

namespace SkinRelay.Json

variable {s rest : Bytes} {ts : List Bytes}

/-! ### Entries -/

/-- Whether a text begins like an entry of a list or an object. -/
def Starts (t : Bytes) : Prop :=
  ∃ b r, skipBlank t = b :: r ∧ b ≠ 0x5D ∧ b ≠ 0x7D ∧ ∀ s, skipBlank (t ++ s) = b :: (r ++ s)

theorem starts_of {a r : Bytes} {b : UInt8} (ha : Blanks a) (hb : isBlank b = false)
    (hne : b ≠ 0x5D ∧ b ≠ 0x7D) : Starts (a ++ b :: r) := by
  refine ⟨b, r, ?_, hne.1, hne.2, fun s => ?_⟩
  · rw [skipBlank_append ha, skipBlank_cons hb]
  · rw [List.append_assoc, skipBlank_append ha, List.cons_append, skipBlank_cons hb]

theorem blanks_nil : Blanks [] := fun _ hb => nomatch hb

theorem ne_of_isDigit {b c : UInt8} (hb : Bytes.isDigit b = true) (hc : Bytes.isDigit c = false) :
    b ≠ c := by
  rintro rfl
  rw [hb] at hc
  cases hc

theorem isBlank_digit {b : UInt8} (hb : Bytes.isDigit b = true) : isBlank b = false := by
  have space := @ne_of_isDigit b 0x20 hb rfl
  have tab := @ne_of_isDigit b 0x09 hb rfl
  have feed := @ne_of_isDigit b 0x0A hb rfl
  have back := @ne_of_isDigit b 0x0D hb rfl
  simp [isBlank, space, tab, feed, back]

theorem exists_digit_of_number {negative : Bool} {n : Option Numeral}
    (h : SpellsNumber negative n s) : ∃ d ds, s = d :: ds ∧ Bytes.isDigit d = true := by
  obtain ⟨⟨⟨nonempty, hdigits⟩, -⟩, -, -⟩ := h
  rename_i w _ _ _ _
  cases w with
  | nil => exact absurd rfl nonempty
  | cons d ds => exact ⟨d, _, rfl, hdigits d List.mem_cons_self⟩

theorem Starts.blank {b : UInt8} (hb : isBlank b = true) (h : Starts s) : Starts (b :: s) := by
  obtain ⟨c, r, hs, hlist, hobject, happend⟩ := h
  exact ⟨c, r, (skipBlank_blank hb _).trans hs, hlist, hobject,
    fun t => (skipBlank_blank hb _).trans (happend t)⟩

theorem Spells.starts {node : Node} (h : Spells node s) : Starts s := by
  have first : ∀ (b : UInt8) (r : Bytes), isBlank b = false → b ≠ 0x5D ∧ b ≠ 0x7D →
      Starts (b :: r) := fun b r => @starts_of [] r b blanks_nil
  induction h with
  | blank hb _ ih => exact ih.blank hb
  | unsigned h =>
    obtain ⟨d, ds, rfl, hd⟩ := exists_digit_of_number h
    exact first d ds (isBlank_digit hd) ⟨ne_of_isDigit hd rfl, ne_of_isDigit hd rfl⟩
  | null | yes | no | signed | text | list | object => exact first _ _ (by decide) (by decide)

theorem starts_of_key {key : Option String} {k : Bytes} (h : SpellsKey key k) (s : Bytes) :
    Starts (k ++ s) := by
  obtain ⟨ha, -⟩ := h
  rw [List.append_assoc]
  exact starts_of ha (by decide) (by decide)

/-! ### What follows an entry -/

theorem ends_of_blank {b : UInt8} (hb : isBlank b = true) (s : Bytes) : Ends (b :: s) := by
  simp only [isBlank, Bool.or_eq_true, beq_iff_eq] at hb
  rcases hb with ((rfl | rfl) | rfl) | rfl <;> exact ⟨by decide, by decide, by decide, by decide⟩

theorem ends_of_blanks {a : Bytes} (ha : Blanks a) {s : Bytes} (ends : Ends s) : Ends (a ++ s) := by
  cases a with
  | nil => exact ends
  | cons b a => exact ends_of_blank (ha b List.mem_cons_self) _

theorem ends_of_follows {closer : UInt8} (hcloser : Ends [closer]) (h : Follows closer ts s)
    (rest : Bytes) : Ends (s ++ rest) := by
  cases h with
  | close ha =>
    rw [List.append_assoc]
    exact ends_of_blanks ha hcloser
  | comma ha =>
    rw [List.append_assoc]
    exact ends_of_blanks ha ⟨by decide, by decide, by decide, by decide⟩

theorem Frame.ends_closer (frame : Frame) : Ends [frame.closer] := by
  cases frame <;> exact ⟨by decide, by decide, by decide, by decide⟩

/-! ### The equations of skipping -/

theorem skipInside_eq (stack : List Frame) (s : Bytes) :
    skipInside stack s =
      match skipBlank s with
      | [] => .error .truncated
      | b :: r =>
        if b = 0x5B then skipOpened .list stack r
        else if b = 0x7B then skipOpened .object stack r
        else
          match skipScalar (b :: r) with
          | .error f => .error f
          | .ok rest => skipClosed stack rest := by
  rw [skipInside.eq_def]
  split
  · simp only [*]
  · simp only [*]
    split
    · rfl
    · split
      · rfl
      · split <;> simp only [*]

theorem skipOpened_eq (frame : Frame) (stack : List Frame) (s : Bytes) :
    skipOpened frame stack s =
      match skipBlank s with
      | [] => .error .truncated
      | b :: r => if b = frame.closer then skipClosed stack r else skipEntry frame stack s := by
  rw [skipOpened.eq_def]
  split <;> simp only [*]

theorem skipClosed_eq (frame : Frame) (outer : List Frame) (s : Bytes) :
    skipClosed (frame :: outer) s =
      match skipBlank s with
      | [] => .error .truncated
      | b :: r =>
        if b = 0x2C then skipEntry frame outer r
        else if b = frame.closer then skipClosed outer r
        else .error .malformed := by
  rw [skipClosed.eq_def]
  dsimp only
  split <;> simp only [*]

theorem skipEntry_list (outer : List Frame) (s : Bytes) :
    skipEntry .list outer s = skipInside (.list :: outer) s := by
  rw [skipEntry.eq_def]

theorem skipEntry_object (outer : List Frame) (s : Bytes) :
    skipEntry .object outer s =
      match skipKey s with
      | .error f => .error f
      | .ok rest => skipInside (.object :: outer) rest := by
  rw [skipEntry.eq_def]
  dsimp only
  split <;> simp only [*]

theorem Frame.closer_ne_comma (frame : Frame) : frame.closer ≠ 0x2C := by
  cases frame <;> decide

theorem Frame.isBlank_closer (frame : Frame) : isBlank frame.closer = false := by
  cases frame <;> rfl

/-- The byte that opens a bracket. -/
def Frame.opener : Frame → UInt8
  | .list => 0x5B
  | .object => 0x7B

theorem skipInside_opener (frame : Frame) (stack : List Frame) (s : Bytes) :
    skipInside stack (frame.opener :: s) = skipOpened frame stack s := by
  cases frame <;> rw [skipInside_eq, skipBlank_cons rfl] <;> rfl

/-! ### Skipping what is spelled -/

/-- Whether a text is skipped as an entry, whatever is open around it. -/
def IsSkipped (frame : Frame) (t : Bytes) : Prop :=
  ∀ outer rest, Ends rest → skipEntry frame outer (t ++ rest) = skipClosed (frame :: outer) rest

theorem skipBlank_last {a : Bytes} (ha : Blanks a) {b : UInt8} (hb : isBlank b = false)
    (rest : Bytes) : skipBlank (a ++ [b] ++ rest) = b :: rest := by
  rw [List.append_assoc, skipBlank_append ha, List.singleton_append, skipBlank_cons hb]

theorem skipBlank_comma {a : Bytes} (ha : Blanks a) (t s rest : Bytes) :
    skipBlank (a ++ 0x2C :: (t ++ s) ++ rest) = 0x2C :: (t ++ (s ++ rest)) := by
  rw [List.append_assoc, skipBlank_append ha, List.cons_append, List.append_assoc]
  exact skipBlank_cons (by decide) _

theorem skipClosed_follows {frame : Frame} (h : Follows frame.closer ts s)
    (skipped : ∀ t ∈ ts, IsSkipped frame t) (outer : List Frame) (rest : Bytes) :
    skipClosed (frame :: outer) (s ++ rest) = skipClosed outer rest := by
  induction h with
  | close ha =>
    simp only [skipClosed_eq, skipBlank_last ha frame.isBlank_closer, frame.closer_ne_comma, if_false, if_true]
  | comma ha h ih =>
    obtain ⟨hfirst, hothers⟩ := List.forall_mem_cons.mp skipped
    simp only [skipClosed_eq frame outer, skipBlank_comma ha, if_true]
    rw [hfirst outer _ (ends_of_follows frame.ends_closer h rest), ih hothers]

theorem skipOpened_listed (frame : Frame) (h : Listed frame.closer ts s)
    (starts : ∀ t ∈ ts, Starts t) (skipped : ∀ t ∈ ts, IsSkipped frame t) (stack : List Frame)
    (rest : Bytes) : skipOpened frame stack (s ++ rest) = skipClosed stack rest := by
  cases h with
  | close ha => simp only [skipOpened_eq, skipBlank_last ha frame.isBlank_closer, if_true]
  | @entry t s ts h =>
    obtain ⟨hfirst, hothers⟩ := List.forall_mem_cons.mp skipped
    obtain ⟨b, r, -, hlist, hobject, hskip⟩ := starts t List.mem_cons_self
    have hne : b ≠ frame.closer := by
      cases frame
      · exact hlist
      · exact hobject
    rw [List.append_assoc]
    simp only [skipOpened_eq, hskip, hne, if_false]
    rw [hfirst stack _ (ends_of_follows frame.ends_closer h rest), skipClosed_follows h hothers]

theorem afterColon_spelled {c : Bytes} (hc : Blanks c) (s : Bytes) :
    afterColon (c ++ 0x3A :: s) = .ok s := by
  rw [afterColon, skipBlank_append hc, skipBlank_cons (by decide)]
  rfl

theorem skipBlank_key {a k : Bytes} (ha : Blanks a) (s : Bytes) :
    skipBlank (a ++ 0x22 :: k ++ s) = 0x22 :: (k ++ s) := by
  rw [List.append_assoc, skipBlank_append ha, List.cons_append, skipBlank_cons (by decide)]

theorem skipKey_spelled {key : Option String} {k : Bytes} (h : SpellsKey key k) (s : Bytes) :
    skipKey (k ++ s) = .ok s := by
  obtain ⟨ha, ⟨⟨hk⟩, hc⟩⟩ := h
  rename_i a k c ps
  have hexpect : expect 0x22 (0x22 :: (k ++ (c ++ [0x3A]) ++ s)) = .ok (k ++ (c ++ 0x3A :: s)) := by
    simp [expect]
  simp only [skipKey, skipBlank_key ha, hexpect, skipText_spelled hk, afterColon_spelled hc]

theorem skipScalar_digit {b : UInt8} (hb : Bytes.isDigit b = true) (s : Bytes) :
    skipScalar (b :: s) = skipNumeral (b :: s) := by
  unfold skipScalar
  split
  · rename_i heq
    cases heq
  · rename_i heq
    cases heq
    cases hb
  · rename_i heq
    cases heq
    cases hb
  · rename_i heq
    cases heq
    cases hb
  · rename_i heq
    cases heq
    cases hb
  · rename_i heq
    cases heq
    cases hb
  · rename_i heq
    cases heq
    exact if_pos hb

/-- A value that is neither a list nor an object is skipped at once. -/
theorem skipInside_scalar {b : UInt8} (hb : isBlank b = false ∧ b ≠ 0x5B ∧ b ≠ 0x7B)
    (stack : List Frame) (h : skipScalar (b :: s) = .ok rest) :
    skipInside stack (b :: s) = skipClosed stack rest := by
  simp only [skipInside_eq, skipBlank_cons hb.1, hb.2.1, hb.2.2, if_false, h]

theorem skipInside_blank {b : UInt8} (hb : isBlank b = true) (stack : List Frame) (s : Bytes) :
    skipInside stack (b :: s) = skipInside stack s := by
  rw [skipInside_eq, skipInside_eq, skipBlank_blank hb]

/-- A value is skipped, whatever is open around it. -/
theorem skipInside_spelled {node : Node} (h : Spells node s) (stack : List Frame) (rest : Bytes)
    (ends : Ends rest) : skipInside stack (s ++ rest) = skipClosed stack rest := by
  induction h generalizing stack rest with
  | blank hb _ ih => rw [List.cons_append, skipInside_blank hb, ih stack rest ends]
  | null => exact skipInside_scalar (by decide) stack (afterWord_append [0x75, 0x6C, 0x6C] rest)
  | yes => exact skipInside_scalar (by decide) stack (afterWord_append [0x72, 0x75, 0x65] rest)
  | no => exact skipInside_scalar (by decide) stack (afterWord_append [0x61, 0x6C, 0x73, 0x65] rest)
  | unsigned h =>
    have hskip := skipNumeral_spelled h ends
    obtain ⟨d, ds, rfl, hd⟩ := exists_digit_of_number h
    have hb := And.intro (isBlank_digit hd)
      (And.intro (@ne_of_isDigit d 0x5B hd rfl) (@ne_of_isDigit d 0x7B hd rfl))
    exact skipInside_scalar hb stack ((skipScalar_digit hd _).trans hskip)
  | signed h => exact skipInside_scalar (by decide) stack (skipNumeral_spelled h ends)
  | text h =>
    obtain ⟨h⟩ := h
    exact skipInside_scalar (by decide) stack (skipText_spelled h rest)
  | list each h ih =>
    have skipped := fun i hi outer rest ends =>
      (skipEntry_list outer (_ ++ rest)).trans (ih i hi (.list :: outer) rest ends)
    exact (skipInside_opener .list stack _).trans (skipOpened_listed .list h
      (List.forall_mem_map.mpr fun i hi => (each i hi).starts) (List.forall_mem_map.mpr skipped)
      stack rest)
  | @object members s keys values h ih =>
    have skipped : ∀ m ∈ members, IsSkipped .object m.text := by
      intro m hm outer rest ends
      rw [SpelledMember.text, List.append_assoc, skipEntry_object, skipKey_spelled (keys m hm)]
      exact ih m hm (.object :: outer) rest ends
    exact (skipInside_opener .object stack _).trans (skipOpened_listed .object h
      (List.forall_mem_map.mpr fun m hm => starts_of_key (keys m hm) _)
      (List.forall_mem_map.mpr skipped) stack rest)

/-- A value is skipped. -/
theorem skipValue_spelled {node : Node} (h : Spells node s) (ends : Ends rest) :
    skipValue (s ++ rest) = .ok rest := by
  rw [skipValue, skipInside_spelled h [] rest ends, skipClosed.eq_def]

/-! ### Spelling what was skipped -/

/-- Whether a text is an entry of a list or a member of an object. -/
def IsEntry : Frame → Bytes → Prop
  | .list, t => ∃ node, Spells node t
  | .object, t => ∃ m : SpelledMember,
      m.text = t ∧ SpellsKey m.key m.keyText ∧ Spells m.node m.valueText

theorem IsEntry.length_pos {frame : Frame} {t : Bytes} (h : IsEntry frame t) : 0 < t.length := by
  have starts : Starts t := by
    cases frame with
    | list =>
      obtain ⟨node, hnode⟩ := h
      exact hnode.starts
    | object =>
      obtain ⟨m, rfl, hkey, -⟩ := h
      exact starts_of_key hkey _
  obtain ⟨b, r, hb, -⟩ := starts
  rw [List.length_pos_iff]
  rintro rfl
  cases hb

theorem length_lt_of_entry {frame : Frame} {t : Bytes} (h : IsEntry frame t) (hs : s = t ++ rest) :
    rest.length < s.length := by
  have := h.length_pos
  rw [hs, List.length_append]
  omega

theorem exists_list {α β : Type} {P : α → Prop} {f : α → β} {bs : List β}
    (h : ∀ b ∈ bs, ∃ a, f a = b ∧ P a) : ∃ as : List α, as.map f = bs ∧ ∀ a ∈ as, P a := by
  induction bs with
  | nil => exact ⟨[], rfl, fun _ ha => nomatch ha⟩
  | cons b bs ih =>
    obtain ⟨⟨a, ha, hp⟩, hothers⟩ := List.forall_mem_cons.mp h
    obtain ⟨as, has, hps⟩ := ih hothers
    exact ⟨a :: as, by rw [List.map_cons, ha, has], List.forall_mem_cons.mpr ⟨hp, hps⟩⟩

/-- Entries between brackets are a value. -/
theorem exists_node {frame : Frame} (entries : ∀ t ∈ ts, IsEntry frame t)
    (h : Listed frame.closer ts s) : ∃ node, Spells node (frame.opener :: s) := by
  cases frame with
  | list =>
    have pairs : ∀ t ∈ ts, ∃ i : Node × Bytes, i.2 = t ∧ Spells i.1 i.2 := fun t ht => by
      obtain ⟨node, hnode⟩ := entries t ht
      exact ⟨(node, t), rfl, hnode⟩
    obtain ⟨items, rfl, each⟩ := exists_list pairs
    exact ⟨_, .list each h⟩
  | object =>
    obtain ⟨members, rfl, each⟩ := exists_list entries
    exact ⟨_, .object (fun m hm => (each m hm).1) (fun m hm => (each m hm).2) h⟩

theorem blanks_append_of_skipBlank {b : UInt8} {r : Bytes} (h : skipBlank s = b :: r) :
    ∃ a, Blanks a ∧ s = a ++ b :: r := by
  obtain ⟨a, ha, hs⟩ := exists_blanks s
  exact ⟨a, ha, h ▸ hs⟩

theorem Spells.blanks {node : Node} {a : Bytes} (ha : Blanks a) (h : Spells node s) :
    Spells node (a ++ s) := by
  induction a with
  | nil => exact h
  | cons b a ih =>
    obtain ⟨hb, ha⟩ := List.forall_mem_cons.mp ha
    exact .blank hb (ih ha)

theorem exists_scalar (h : skipScalar s = .ok rest) :
    ∃ node front, Spells node front ∧ s = front ++ rest := by
  unfold skipScalar at h
  split at h
  · cases h
  · exact ⟨_, _, .null, congrArg _ (eq_append_of_afterWord h)⟩
  · exact ⟨_, _, .yes, congrArg _ (eq_append_of_afterWord h)⟩
  · exact ⟨_, _, .no, congrArg _ (eq_append_of_afterWord h)⟩
  · obtain ⟨ps, front, hps, rfl⟩ := exists_pieces h
    exact ⟨_, _, .text ⟨hps⟩, rfl⟩
  · obtain ⟨n, front, hn, rfl⟩ := exists_number true h
    exact ⟨_, _, .signed hn, rfl⟩
  · split at h
    · obtain ⟨n, front, hn, hfront⟩ := exists_number false h
      exact ⟨_, _, .unsigned hn, hfront⟩
    · cases h

theorem exists_colon (h : afterColon s = .ok rest) : ∃ c, Blanks c ∧ s = c ++ 0x3A :: rest :=
  blanks_append_of_skipBlank (eq_cons_of_expect h)

theorem exists_key (h : skipKey s = .ok rest) :
    ∃ key k, SpellsKey key k ∧ s = k ++ rest := by
  unfold skipKey at h
  split at h
  · cases h
  · rename_i hquote
    split at h
    · cases h
    · rename_i htext
      obtain ⟨a, ha, rfl⟩ := blanks_append_of_skipBlank (eq_cons_of_expect hquote)
      obtain ⟨ps, k, hk, rfl⟩ := exists_pieces htext
      obtain ⟨c, hc, rfl⟩ := exists_colon h
      exact ⟨_, _, .mk ha (.mk ⟨hk⟩ hc), by simp⟩

mutual

theorem exists_inside {stack : List Frame} {s rest : Bytes} (h : skipInside stack s = .ok rest) :
    ∃ node front s', Spells node front ∧ s = front ++ s' ∧ skipClosed stack s' = .ok rest := by
  rw [skipInside_eq] at h
  split at h
  · cases h
  · rename_i b r hb
    obtain ⟨a, ha, hs⟩ := blanks_append_of_skipBlank hb
    have hr : r.length < s.length := by
      rw [hs, List.length_append, List.length_cons]
      omega
    split at h
    · rename_i hopen
      obtain ⟨ts, front, s', entries, hlisted, hr₁, hrest⟩ := exists_opened h
      obtain ⟨node, hnode⟩ := exists_node entries hlisted
      exact ⟨node, _, s', hnode.blanks ha, by simp [hs, hopen, hr₁, Frame.opener], hrest⟩
    · split at h
      · rename_i hopen
        obtain ⟨ts, front, s', entries, hlisted, hr₁, hrest⟩ := exists_opened h
        obtain ⟨node, hnode⟩ := exists_node entries hlisted
        exact ⟨node, _, s', hnode.blanks ha, by simp [hs, hopen, hr₁, Frame.opener], hrest⟩
      · split at h
        · cases h
        · rename_i s' hscalar
          obtain ⟨node, front, hnode, hfront⟩ := exists_scalar hscalar
          exact ⟨node, _, s', hnode.blanks ha, by rw [hs, hfront, List.append_assoc], h⟩
termination_by (s.length, 0)

theorem exists_opened {frame : Frame} {stack : List Frame} {s rest : Bytes}
    (h : skipOpened frame stack s = .ok rest) :
    ∃ ts front s', (∀ t ∈ ts, IsEntry frame t) ∧ Listed frame.closer ts front ∧ s = front ++ s' ∧
      skipClosed stack s' = .ok rest := by
  rw [skipOpened_eq] at h
  split at h
  · cases h
  · rename_i b r hb
    split at h
    · rename_i hclose
      obtain ⟨a, ha, hs⟩ := blanks_append_of_skipBlank hb
      exact ⟨[], _, r, fun _ ht => (nomatch ht), .close ha, by simp [hs, hclose], h⟩
    · obtain ⟨t, s₁, hentry, hs, hrest⟩ := exists_entry h
      have hlt := length_lt_of_entry hentry hs
      obtain ⟨ts, front, s', entries, hfollows, hs₁, hclosed⟩ := exists_closed hrest
      exact ⟨t :: ts, t ++ front, s', List.forall_mem_cons.mpr ⟨hentry, entries⟩, .entry hfollows,
        by rw [hs, hs₁, List.append_assoc], hclosed⟩
termination_by (s.length, 2)

theorem exists_closed {frame : Frame} {outer : List Frame} {s rest : Bytes}
    (h : skipClosed (frame :: outer) s = .ok rest) :
    ∃ ts front s', (∀ t ∈ ts, IsEntry frame t) ∧ Follows frame.closer ts front ∧ s = front ++ s' ∧
      skipClosed outer s' = .ok rest := by
  rw [skipClosed_eq] at h
  split at h
  · cases h
  · rename_i b r hb
    obtain ⟨a, ha, hs⟩ := blanks_append_of_skipBlank hb
    have hr : r.length < s.length := by
      rw [hs, List.length_append, List.length_cons]
      omega
    split at h
    · rename_i hcomma
      obtain ⟨t, s₁, hentry, hr₁, hrest⟩ := exists_entry h
      have hlt := length_lt_of_entry hentry hr₁
      obtain ⟨ts, front, s', entries, hfollows, hs₁, hclosed⟩ := exists_closed hrest
      exact ⟨t :: ts, a ++ 0x2C :: (t ++ front), s', List.forall_mem_cons.mpr ⟨hentry, entries⟩,
        .comma ha hfollows, by simp [hs, hcomma, hr₁, hs₁], hclosed⟩
    · split at h
      · rename_i hclose
        exact ⟨[], _, r, fun _ ht => (nomatch ht), .close ha, by simp [hs, hclose], h⟩
      · cases h
termination_by (s.length, 0)

theorem exists_entry {frame : Frame} {outer : List Frame} {s rest : Bytes}
    (h : skipEntry frame outer s = .ok rest) :
    ∃ t s', IsEntry frame t ∧ s = t ++ s' ∧ skipClosed (frame :: outer) s' = .ok rest := by
  cases frame with
  | list =>
    rw [skipEntry_list] at h
    obtain ⟨node, front, s', hnode, hs, hrest⟩ := exists_inside h
    exact ⟨front, s', ⟨node, hnode⟩, hs, hrest⟩
  | object =>
    rw [skipEntry_object] at h
    split at h
    · cases h
    · rename_i r hkey
      have hlt := length_lt_of_skipKey hkey
      obtain ⟨key, k, hk, hs⟩ := exists_key hkey
      obtain ⟨node, front, s', hnode, hr, hrest⟩ := exists_inside h
      exact ⟨k ++ front, s', ⟨⟨key, node, k, front⟩, rfl, hk, hnode⟩,
        by rw [hs, hr, List.append_assoc], hrest⟩
termination_by (s.length, 1)

end

/-- What can be skipped as a value is one. -/
theorem exists_spelling (h : skipValue s = .ok rest) :
    ∃ node front, Spells node front ∧ s = front ++ rest := by
  obtain ⟨node, front, s', hnode, rfl, hrest⟩ := exists_inside h
  rw [skipClosed.eq_def] at hrest
  cases hrest
  exact ⟨node, front, hnode, rfl⟩

end SkinRelay.Json
