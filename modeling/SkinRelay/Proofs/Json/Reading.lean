import SkinRelay.Json.Reader
import SkinRelay.Proofs.Json.Meaning
import SkinRelay.Proofs.Json.Skipping

/-!
Readers and what values mean to them. `r.Reads meaning` says that the reader `r` gives every value the
meaning that `meaning` gives it, however it is spelled, fails where there is none, and reads nothing
else. A lemma for each way to build a reader says which meaning goes with it.
-/

namespace SkinRelay.Json

variable {α β : Type} {s rest : Bytes} {node : Node} {nodes : List Node}

structure Reader.Reads (r : Reader α) (meaning : Node → Option α) : Prop where
  blank : ∀ s, r.run (skipBlank s) = r.run s
  spelled : ∀ {node s rest}, Spells node s → Ends rest →
    (r.run (s ++ rest)).toOption = (meaning node).map (·, rest)
  complete : ∀ {s a rest}, r.run s = .ok (a, rest) →
    ∃ node front, Spells node front ∧ s = front ++ rest

namespace Reader

theorem run_blank {r : Reader α} (blank : ∀ s, r.run (skipBlank s) = r.run s) {b : UInt8}
    (hb : isBlank b = true) (s : Bytes) : r.run (b :: s) = r.run s := by
  rw [← blank (b :: s), skipBlank_blank hb, blank]

theorem toOption_map (r : Reader α) (f : α → β) (s : Bytes) :
    ((r.map f).run s).toOption = (r.run s).toOption.map fun read => (f read.1, read.2) := by
  simp only [Reader.map]
  cases r.run s <;> rfl

theorem Reads.map {r : Reader α} {meaning : Node → Option α} (h : r.Reads meaning) (f : α → β) :
    (r.map f).Reads fun node => (meaning node).map f where
  blank s := by
    simp only [Reader.map, h.blank]
  spelled {node s rest} hs ends := by
    rw [toOption_map, h.spelled hs ends]
    cases meaning node <;> rfl
  complete {s b rest} hrun := by
    simp only [Reader.map] at hrun
    split at hrun
    · cases hrun
    · rename_i hr
      cases hrun
      exact h.complete hr

/-! ### Texts, flags and integers -/

variable {body : Bytes → Except Fault (α × Bytes)} {a b : UInt8}

theorem startingWith_skipBlank (s : Bytes) :
    startingWith b body (skipBlank s) = startingWith b body s := by
  simp only [startingWith, skipBlank_skipBlank]

theorem startingWith_same (hb : isBlank b = false) (s : Bytes) :
    startingWith b body (b :: s) = body s := by
  simp only [startingWith, skipBlank_cons hb, if_true]

theorem startingWith_other (ha : isBlank a = false) (hne : a ≠ b) (s : Bytes) :
    (startingWith b body (a :: s)).toOption = none := by
  simp only [startingWith, skipBlank_cons ha, hne, if_false]
  rfl

theorem exists_of_startingWith {x : α} (h : startingWith b body s = .ok (x, rest)) :
    ∃ c r, Blanks c ∧ s = c ++ b :: r ∧ body r = .ok (x, rest) := by
  unfold startingWith at h
  split at h
  · cases h
  · rename_i hskip
    split at h
    · rename_i hb
      subst hb
      obtain ⟨c, hc, hs⟩ := blanks_append_of_skipBlank hskip
      exact ⟨c, _, hc, hs, h⟩
    · cases h

theorem reads_text : Reader.text.Reads Node.text? where
  blank s := startingWith_skipBlank s
  spelled {node s rest} h ends := by
    have other : ∀ a s, isBlank a = false → a ≠ 0x22 → (Reader.text.run (a :: s)).toOption = none :=
      fun _ s ha hne => startingWith_other ha hne s
    induction h with
    | blank hb _ ih => rw [List.cons_append, run_blank startingWith_skipBlank hb, ih]
    | text h => exact (congrArg _ (startingWith_same (b := 0x22) rfl _)).trans (text_spelled h rest)
    | unsigned h =>
      obtain ⟨d, ds, rfl, hd⟩ := exists_digit_of_number h
      exact other d _ (isBlank_digit hd) (ne_of_isDigit hd rfl)
    | null | yes | no | signed | list | object => exact other _ _ rfl (by decide)
  complete {s t rest} h := by
    obtain ⟨c, r, hc, rfl, htext⟩ := exists_of_startingWith h
    obtain ⟨t', front, ht, rfl⟩ := exists_text htext
    exact ⟨_, _, (Spells.text ht).blanks hc, by simp⟩

theorem eq_append_of_map {w r : Bytes} {x y : α} (h : (afterWord w r).map (x, ·) = .ok (y, rest)) :
    r = w ++ rest := by
  cases hafter : afterWord w r with
  | error f =>
    rw [hafter] at h
    cases h
  | ok r' =>
    rw [hafter] at h
    cases h
    exact eq_append_of_afterWord hafter

theorem flag_skipBlank (s : Bytes) : Reader.flag.run (skipBlank s) = Reader.flag.run s := by
  simp only [Reader.flag, skipBlank_skipBlank]

theorem flag_other {a : UInt8} (ha : isBlank a = false) (yes : a ≠ 0x74) (no : a ≠ 0x66)
    (s : Bytes) : (Reader.flag.run (a :: s)).toOption = none := by
  simp only [Reader.flag, skipBlank_cons ha]
  rfl

theorem reads_flag : Reader.flag.Reads Node.flag? where
  blank := flag_skipBlank
  spelled {node s rest} h ends := by
    induction h with
    | blank hb _ ih => rw [List.cons_append, run_blank flag_skipBlank hb, ih]
    | yes | no => rfl
    | unsigned h =>
      obtain ⟨d, ds, rfl, hd⟩ := exists_digit_of_number h
      exact flag_other (isBlank_digit hd) (ne_of_isDigit hd rfl) (ne_of_isDigit hd rfl) _
    | null | text | signed | list | object => exact flag_other rfl (by decide) (by decide) _
  complete {s t rest} h := by
    simp only [Reader.flag] at h
    split at h
    · cases h
    · rename_i hskip
      obtain ⟨c, hc, hs⟩ := blanks_append_of_skipBlank hskip
      exact ⟨_, _, Spells.yes.blanks hc, by rw [hs, eq_append_of_map h]; simp⟩
    · rename_i hskip
      obtain ⟨c, hc, hs⟩ := blanks_append_of_skipBlank hskip
      exact ⟨_, _, Spells.no.blanks hc, by rw [hs, eq_append_of_map h]; simp⟩
    · cases h

theorem int64_skipBlank (s : Bytes) : Reader.int64.run (skipBlank s) = Reader.int64.run s := by
  simp only [Reader.int64, skipBlank_skipBlank]

theorem int64_other {a : UInt8} (ha : isBlank a = false) (minus : a ≠ 0x2D)
    (digit : Bytes.isDigit a = false) (s : Bytes) :
    (Reader.int64.run (a :: s)).toOption = none := by
  simp only [Reader.int64, skipBlank_cons ha, digit, Bool.false_eq_true, if_false]
  rfl

theorem int64_digit {d : UInt8} (hd : Bytes.isDigit d = true) (s : Bytes) :
    Reader.int64.run (d :: s) = signedInt64 false (d :: s) := by
  simp only [Reader.int64, skipBlank_cons (isBlank_digit hd)]
  split
  · rename_i heq
    cases heq
  · rename_i heq
    cases heq
    cases hd
  · rename_i heq
    cases heq
    rw [hd]
    rfl

theorem signedInt64_spelled {negative : Bool} {n : Option Numeral} (h : SpellsNumber negative n s)
    (ends : Ends rest) :
    (signedInt64 negative (s ++ rest)).toOption = (Node.int64? (.number n)).map (·, rest) := by
  have hnumeral := numeral_spelled h ends
  simp only [signedInt64]
  cases n with
  | none =>
    obtain ⟨f, hf⟩ := toOption_eq_none.mp hnumeral
    rw [hf]
    rfl
  | some n =>
    rw [toOption_eq_some.mp hnumeral]
    dsimp only [Node.int64?, Option.bind_some]
    cases toInt64 n <;> rfl

theorem exists_numeral {negative : Bool} {n : Int64} (h : signedInt64 negative s = .ok (n, rest)) :
    ∃ n front, SpellsNumber negative n front ∧ s = front ++ rest := by
  unfold signedInt64 at h
  split at h
  · cases h
  · rename_i hnumeral
    split at h
    · cases h
    · cases h
      exact exists_number negative (skipNumeral_of_numeral hnumeral)

theorem reads_int64 : Reader.int64.Reads Node.int64? where
  blank := int64_skipBlank
  spelled {node s rest} h ends := by
    induction h with
    | blank hb _ ih => rw [List.cons_append, run_blank int64_skipBlank hb, ih]
    | unsigned h =>
      have hread := signedInt64_spelled h ends
      obtain ⟨d, ds, rfl, hd⟩ := exists_digit_of_number h
      exact (congrArg _ (int64_digit hd _)).trans hread
    | signed h => exact signedInt64_spelled h ends
    | null | yes | no | text | list | object => exact int64_other rfl (by decide) rfl _
  complete {s n rest} h := by
    simp only [Reader.int64] at h
    split at h
    · cases h
    · rename_i hskip
      obtain ⟨c, hc, hs⟩ := blanks_append_of_skipBlank hskip
      obtain ⟨n, front, hn, rfl⟩ := exists_numeral h
      exact ⟨_, _, (Spells.signed hn).blanks hc, by simp [hs]⟩
    · rename_i hskip
      obtain ⟨c, hc, hs⟩ := blanks_append_of_skipBlank hskip
      split at h
      · obtain ⟨n, front, hn, hfront⟩ := exists_numeral h
        exact ⟨_, _, (Spells.unsigned hn).blanks hc, by rw [hs, hfront, List.append_assoc]⟩
      · cases h

/-! ### Options -/

theorem Reads.option {r : Reader α} {meaning : Node → Option α} (h : r.Reads meaning) :
    (Reader.option r).Reads (Node.option? meaning) := by
  have hmap := h.map some
  have blank : ∀ s, (Reader.option r).run (skipBlank s) = (Reader.option r).run s := fun s => by
    simp only [Reader.option, skipBlank_skipBlank]
  have other : ∀ {a : UInt8} {s : Bytes} {x}, isBlank a = false → a ≠ 0x6E →
      ((r.map some).run (a :: s)).toOption = x →
      ((Reader.option r).run (a :: s)).toOption = x := by
    intro a s x ha hne hx
    simp only [Reader.option, skipBlank_cons ha]
    split
    · rename_i heq
      exact absurd (List.cons.inj heq).1 hne
    · exact hx
  refine ⟨blank, fun {node s rest} hs ends => ?_, fun {s a rest} hrun => ?_⟩
  · induction hs with
    | blank hb _ ih => rw [List.cons_append, run_blank blank hb, ih]
    | null => rfl
    | unsigned h =>
      have hread := hmap.spelled (.unsigned h) ends
      obtain ⟨d, ds, rfl, hd⟩ := exists_digit_of_number h
      exact other (isBlank_digit hd) (ne_of_isDigit hd rfl) hread
    | yes => exact other rfl (by decide) (hmap.spelled .yes ends)
    | no => exact other rfl (by decide) (hmap.spelled .no ends)
    | signed h => exact other rfl (by decide) (hmap.spelled (.signed h) ends)
    | text h => exact other rfl (by decide) (hmap.spelled (.text h) ends)
    | list each h => exact other rfl (by decide) (hmap.spelled (.list each h) ends)
    | object keys values h => exact other rfl (by decide) (hmap.spelled (.object keys values h) ends)
  · simp only [Reader.option] at hrun
    split at hrun
    · rename_i hskip
      obtain ⟨c, hc, hs⟩ := blanks_append_of_skipBlank hskip
      exact ⟨_, _, Spells.null.blanks hc, by rw [hs, eq_append_of_map hrun]; simp⟩
    · rw [hmap.blank] at hrun
      exact hmap.complete hrun

end Reader

end SkinRelay.Json
