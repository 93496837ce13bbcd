import Mathlib.Data.List.TakeWhile
import SkinRelay.Proofs.Json.Grammar
import SkinRelay.Proofs.Json.Number

/-!
Texts are read as the grammar has them, whatever follows (`text_spelled`), and what can be read as a text
is one (`exists_text`). Every character may be spelled as it is or as an escape
(`spellsText_of_characters`).
-/

namespace SkinRelay.Json

variable {α : Type} {s s' rest : Bytes}

/-! ### White space -/

theorem skipBlank_append {a : Bytes} (ha : Blanks a) (s : Bytes) :
    skipBlank (a ++ s) = skipBlank s :=
  List.dropWhile_append_of_pos ha

theorem skipBlank_blank {b : UInt8} (hb : isBlank b = true) (s : Bytes) :
    skipBlank (b :: s) = skipBlank s := by
  simp [skipBlank, hb]

theorem exists_blanks (s : Bytes) : ∃ a, Blanks a ∧ s = a ++ skipBlank s :=
  ⟨s.takeWhile isBlank, fun _ hb => List.mem_takeWhile_imp hb, List.takeWhile_append_dropWhile.symm⟩

@[simp] theorem skipBlank_skipBlank (s : Bytes) : skipBlank (skipBlank s) = skipBlank s := by
  cases h : skipBlank s with
  | nil => rfl
  | cons b r =>
    have hb : isBlank b = false := by
      have hhead := List.head?_dropWhile_not isBlank s
      rw [← skipBlank, h] at hhead
      simpa using hhead
    exact skipBlank_cons hb r

/-! ### Texts -/

@[simp] theorem toOption_ok (a : α) : (Except.ok a : Except Fault α).toOption = some a := rfl

@[simp] theorem toOption_error (f : Fault) : (Except.error f : Except Fault α).toOption = none := rfl

theorem toOption_eq_some {x : Except Fault α} {a : α} : x.toOption = some a ↔ x = .ok a := by
  cases x <;> simp [Except.toOption]

theorem toOption_eq_none {x : Except Fault α} : x.toOption = none ↔ ∃ f, x = .error f := by
  cases x <;> simp [Except.toOption]

theorem textBytes_byte {b : UInt8} (plain : IsPlain b) (s : Bytes) :
    (textBytes (b :: s)).toOption =
      (textBytes s).toOption.map fun read => (b :: read.1, read.2) := by
  obtain ⟨hquote, hbackslash, hcontrol⟩ := plain
  rw [textBytes.eq_def]
  simp only [hquote, hbackslash, hcontrol, if_false]
  cases textBytes s <;> rfl

/-- What is read behind a backslash, from what its escape is read as. -/
def behindEscape (x : Except Fault (Char × Bytes)) : Option (Bytes × Bytes) :=
  x.toOption.bind fun e =>
    (textBytes e.2).toOption.map fun read => (String.utf8EncodeChar e.1 ++ read.1, read.2)

theorem textBytes_backslash (s : Bytes) :
    (textBytes (0x5C :: s)).toOption = behindEscape (escape s) := by
  rw [textBytes.eq_def]
  simp only [show ¬(0x5C : UInt8) = 0x22 by decide, if_true, if_false]
  split
  · rename_i hf
    rw [hf]
    rfl
  · rename_i s' hok
    rw [hok]
    dsimp only [behindEscape, Except.toOption, Option.bind_some]
    cases textBytes s' <;> rfl

theorem behindEscape_ok {c : Char} {bytes : Option Bytes}
    (h : (textBytes s).toOption = bytes.map (·, rest)) :
    behindEscape (.ok (c, s)) = (bytes.map (String.utf8EncodeChar c ++ ·)).map (·, rest) := by
  simp only [behindEscape, Except.toOption, Option.bind_some] at h ⊢
  rw [h]
  cases bytes <;> rfl

theorem escape_short {e : UInt8} {c : Char} (letter : shortEscape? e = some c) (s : Bytes) :
    escape (e :: s) = .ok (c, s) := by
  simp only [escape, letter]

theorem escape_unit (n : Nat) {u : Bytes} (hu : unit u = .ok (n, s)) :
    escape (0x75 :: u) =
      if isTrailing n then .error .malformed
      else if isLeading n then lowHalf n s
      else .ok (Char.ofNat n, s) := by
  have hshort : shortEscape? 0x75 = none := rfl
  simp only [escape, hshort, if_true, hu]

theorem unit_spelled {n : Nat} {u : Bytes} (hu : SpellsUnit n u) (s : Bytes) :
    unit (u ++ s) = .ok (n, s) := by
  obtain ⟨h₃, h₂, h₁, h₀⟩ := hu
  simp only [List.cons_append, List.nil_append, unit, h₃, h₂, h₁, h₀]

theorem exists_unit {n : Nat} (h : unit s = .ok (n, rest)) :
    ∃ u, SpellsUnit n u ∧ s = u ++ rest := by
  unfold unit at h
  split at h
  · split at h
    · rename_i h₃ h₂ h₁ h₀
      cases h
      exact ⟨_, .mk h₃ h₂ h₁ h₀, rfl⟩
    · cases h
  · cases h

/-- The second half of a pair must come at once. -/
theorem lowHalf_unit {high low : Nat} {u : Bytes} (hu : unit u = .ok (low, s)) :
    lowHalf high (0x5C :: 0x75 :: u) =
      if isTrailing low then .ok (paired high low, s) else .error .malformed := by
  have hbackslash : expect 0x5C (0x5C :: 0x75 :: u) = .ok (0x75 :: u) := rfl
  have hletter : expect 0x75 (0x75 :: u) = .ok u := rfl
  simp only [lowHalf, hbackslash, hletter, hu, paired]

theorem lowHalf_short {high : Nat} {e : UInt8} {c : Char} (letter : shortEscape? e = some c)
    (s : Bytes) : lowHalf high (0x5C :: e :: s) = .error .malformed := by
  have hne : e ≠ 0x75 := by
    rintro rfl
    cases letter
  have hbackslash : expect 0x5C (0x5C :: e :: s) = .ok (e :: s) := rfl
  have hletter : expect 0x75 (e :: s) = .error .malformed := if_neg hne
  simp only [lowHalf, hbackslash, hletter]

theorem lowHalf_other {high : Nat} {b : UInt8} (hb : b ≠ 0x5C) (s : Bytes) :
    lowHalf high (b :: s) = .error .malformed := by
  have hbackslash : expect 0x5C (b :: s) = .error .malformed := if_neg hb
  simp only [lowHalf, hbackslash]

/-- The pieces of a text are read as they are decoded, also behind the first half of a pair. -/
theorem textBytes_spelled {ps : List Piece} (h : SpellsPieces ps s) (rest : Bytes) :
    (textBytes (s ++ rest)).toOption = (decode none ps).map (·, rest) ∧
      ∀ high, behindEscape (lowHalf high (s ++ rest)) = (decode (some high) ps).map (·, rest) := by
  induction h with
  | close =>
    refine ⟨?_, fun high => ?_⟩
    · rw [List.singleton_append, textBytes_quote]
      rfl
    · rw [List.singleton_append, lowHalf_other (by decide)]
      rfl
  | byte plain _ ih =>
    refine ⟨?_, fun high => ?_⟩
    · rw [List.cons_append, textBytes_byte plain, ih.1, decode]
      cases decode none _ <;> rfl
    · rw [List.cons_append, lowHalf_other plain.2.1]
      rfl
  | short letter _ ih =>
    refine ⟨?_, fun high => ?_⟩
    · rw [List.cons_append, List.cons_append, textBytes_backslash, escape_short letter,
        behindEscape_ok ih.1, decode]
    · rw [List.cons_append, List.cons_append, lowHalf_short letter]
      rfl
  | @unit _ _ _ s hu _ ih =>
    have hunit := unit_spelled hu (s ++ rest)
    rw [List.cons_append, List.cons_append, List.append_assoc]
    refine ⟨?_, fun high => ?_⟩
    · rw [textBytes_backslash, escape_unit _ hunit, decode]
      split
      · rfl
      · split
        · exact ih.2 _
        · exact behindEscape_ok ih.1
    · rw [lowHalf_unit hunit, decode]
      split
      · exact behindEscape_ok ih.1
      · rfl

theorem text_spelled {t : Option String} (h : SpellsText t s) (rest : Bytes) :
    (text (s ++ rest)).toOption = t.map (·, rest) := by
  obtain ⟨h⟩ := h
  have hbytes := (textBytes_spelled h rest).1
  cases hdecode : decode none _ with
  | none =>
    rw [hdecode] at hbytes
    obtain ⟨f, hf⟩ := toOption_eq_none.mp hbytes
    simp only [text, hf]
    rfl
  | some bytes =>
    rw [hdecode] at hbytes
    simp only [text, toOption_eq_some.mp hbytes, Option.bind_some]
    cases Utf8.toString? bytes <;> rfl

theorem skipText_byte {b : UInt8} (plain : IsPlain b) (s : Bytes) :
    skipText (b :: s) = skipText s := by
  obtain ⟨hquote, hbackslash, hcontrol⟩ := plain
  rw [skipText.eq_def]
  simp only [hquote, hbackslash, hcontrol, if_false]

theorem skipText_escape (he : skipEscape s = .ok s') : skipText (0x5C :: s) = skipText s' := by
  rw [skipText.eq_def]
  simp only [show ¬(0x5C : UInt8) = 0x22 by decide, if_true, if_false]
  split
  · rename_i hf
    rw [he] at hf
    cases hf
  · rename_i hok
    rw [he] at hok
    cases hok
    rfl

theorem skipEscape_short {e : UInt8} (letter : (shortEscape? e).isSome) (s : Bytes) :
    skipEscape (e :: s) = .ok s := by
  simp only [skipEscape, letter, if_true]

theorem skipEscape_unit {n : Nat} {u : Bytes} (hu : unit u = .ok (n, s)) :
    skipEscape (0x75 :: u) = .ok s := by
  have hshort : shortEscape? 0x75 = none := rfl
  simp [skipEscape, hshort, hu]

/-- A text is skipped whatever it stands for. -/
theorem skipText_spelled {ps : List Piece} (h : SpellsPieces ps s) (rest : Bytes) :
    skipText (s ++ rest) = .ok rest := by
  induction h with
  | close =>
    rw [List.singleton_append, skipText.eq_def]
    rfl
  | byte plain _ ih => rw [List.cons_append, skipText_byte plain, ih]
  | short letter _ ih =>
    have hshort := skipEscape_short (Option.isSome_of_eq_some letter)
    rw [List.cons_append, List.cons_append, skipText_escape (hshort _), ih]
  | @unit _ _ _ s hu _ ih =>
    rw [List.cons_append, List.cons_append, List.append_assoc,
      skipText_escape (skipEscape_unit (unit_spelled hu (s ++ rest))), ih]

/-- An escape that can be skipped is a piece of a text. -/
theorem exists_piece (h : skipEscape s = .ok s') : ∃ p front, s = front ++ s' ∧
    ∀ ps t, SpellsPieces ps t → SpellsPieces (p :: ps) (0x5C :: (front ++ t)) := by
  unfold skipEscape at h
  split at h
  · cases h
  · rename_i e r
    split at h
    · rename_i letter
      obtain ⟨c, hc⟩ := Option.isSome_iff_exists.mp letter
      cases h
      exact ⟨.short c, [e], rfl, fun _ _ => .short hc⟩
    · split at h
      · rename_i he
        subst he
        split at h
        · cases h
        · rename_i hu
          cases h
          obtain ⟨u, hdigits, rfl⟩ := exists_unit hu
          exact ⟨_, 0x75 :: u, rfl, fun ps t => .unit hdigits⟩
      · cases h

/-- What can be skipped as a text is one. -/
theorem exists_pieces (h : skipText s = .ok rest) :
    ∃ ps front, SpellsPieces ps front ∧ s = front ++ rest := by
  fun_induction skipText s with
  | case1 | case3 | case5 => cases h
  | case2 =>
    cases h
    exact ⟨[], [0x22], .close, rfl⟩
  | case4 _ _ he _ ih =>
    obtain ⟨ps, front, hps, rfl⟩ := ih h
    obtain ⟨p, escape, rfl, hp⟩ := exists_piece he
    exact ⟨p :: ps, _, hp ps front hps, by simp⟩
  | case6 b _ hquote hbackslash hcontrol ih =>
    obtain ⟨ps, front, hps, rfl⟩ := ih h
    exact ⟨.byte b :: ps, b :: front, .byte ⟨hquote, hbackslash, hcontrol⟩ hps, rfl⟩

theorem eq_cons_of_expect {b : UInt8} (h : expect b s = .ok rest) : s = b :: rest := by
  unfold expect at h
  split at h
  · cases h
  · split at h
    · rename_i hb
      cases h
      rw [hb]
    · cases h

theorem exists_unit_of_lowHalf {high : Nat} {c : Char} (h : lowHalf high s = .ok (c, s')) :
    ∃ low u, s = 0x5C :: 0x75 :: u ∧ unit u = .ok (low, s') := by
  unfold lowHalf at h
  split at h
  · cases h
  · rename_i hbackslash
    split at h
    · cases h
    · rename_i hletter
      split at h
      · cases h
      · rename_i hunit
        split at h
        · simp only [Except.ok.injEq, Prod.mk.injEq] at h
          obtain ⟨-, rfl⟩ := h
          obtain rfl := eq_cons_of_expect hbackslash
          obtain rfl := eq_cons_of_expect hletter
          exact ⟨_, _, rfl, hunit⟩
        · cases h

/-- An escape that is read is skipped, the two of a pair one after the other. -/
theorem skipText_of_escape {c : Char} (h : escape s = .ok (c, s')) :
    skipText (0x5C :: s) = skipText s' := by
  unfold escape at h
  split at h
  · cases h
  · split at h
    · rename_i hc
      cases h
      exact skipText_escape (skipEscape_short (Option.isSome_of_eq_some hc) _)
    · split at h
      · rename_i he
        subst he
        split at h
        · cases h
        · rename_i hunit
          have hfirst := skipText_escape (skipEscape_unit hunit)
          split at h
          · cases h
          · split at h
            · obtain ⟨low, u, rfl, hlow⟩ := exists_unit_of_lowHalf h
              exact hfirst.trans (skipText_escape (skipEscape_unit hlow))
            · cases h
              exact hfirst
      · cases h

theorem skipText_of_textBytes {bytes : Bytes} (h : textBytes s = .ok (bytes, rest)) :
    skipText s = .ok rest := by
  fun_induction textBytes s generalizing bytes rest with
  | case1 | case3 | case4 | case6 | case7 => cases h
  | case2 =>
    cases h
    rw [skipText.eq_def]
    rfl
  | case5 _ _ _ _ _ _ _ _ ih =>
    rw [skipText_of_escape ‹_›]
    cases h
    exact ih ‹_›
  | case8 _ _ hquote hbackslash hcontrol _ _ _ ih =>
    rw [skipText_byte ⟨hquote, hbackslash, hcontrol⟩]
    cases h
    exact ih ‹_›

/-- What can be read as a text is one. -/
theorem exists_text {t : String} (h : text s = .ok (t, rest)) :
    ∃ t' front, SpellsText t' front ∧ s = front ++ rest := by
  unfold text at h
  split at h
  · cases h
  · rename_i hbytes
    split at h
    · cases h
      obtain ⟨ps, front, hps, rfl⟩ := exists_pieces (skipText_of_textBytes hbytes)
      exact ⟨_, front, ⟨hps⟩, rfl⟩
    · cases h

/-! ### Escapes -/

/-- How a character may be spelled: as it is, or as an escape. -/
inductive SpellsCharacter : Char → Bytes → Prop
  | plain {c : Char} (quote : c ≠ '"') (backslash : c ≠ '\\') (control : 0x20 ≤ c.toNat) :
      SpellsCharacter c (String.utf8EncodeChar c)
  | short {e : UInt8} {c : Char} (letter : shortEscape? e = some c) : SpellsCharacter c [0x5C, e]
  | unit {c : Char} {u : Bytes} (hu : SpellsUnit c.toNat u) : SpellsCharacter c (0x5C :: 0x75 :: u)
  | pair {high low : Nat} {u v : Bytes} (leading : isLeading high = true)
      (trailing : isTrailing low = true) (hu : SpellsUnit high u) (hv : SpellsUnit low v) :
      SpellsCharacter (paired high low) (0x5C :: 0x75 :: (u ++ 0x5C :: 0x75 :: v))

theorem decode_bytes (bs : Bytes) (ps : List Piece) :
    decode none (bs.map Piece.byte ++ ps) = (decode none ps).map (bs ++ ·) := by
  induction bs with
  | nil => simp
  | cons b bs ih =>
    rw [List.map_cons, List.cons_append, decode, ih]
    cases decode none ps <;> rfl

theorem spellsPieces_bytes {bs : Bytes} (plain : ∀ b ∈ bs, IsPlain b) {ps : List Piece}
    (h : SpellsPieces ps s) : SpellsPieces (bs.map Piece.byte ++ ps) (bs ++ s) := by
  induction bs with
  | nil => exact h
  | cons b bs ih =>
    obtain ⟨hb, hbs⟩ := List.forall_mem_cons.mp plain
    exact .byte hb (ih hbs)

/-- No character is a surrogate. -/
theorem not_surrogate (c : Char) : isTrailing c.toNat = false ∧ isLeading c.toNat = false := by
  have hvalid : c.toNat < 0xD800 ∨ 0xDFFF < c.toNat := by
    rcases c.valid with h | h
    · exact .inl h
    · exact .inr h.1
  simp only [isTrailing, isLeading, Bool.and_eq_false_iff, decide_eq_false_iff_not]
  omega

theorem not_trailing_of_leading {n : Nat} (h : isLeading n = true) : isTrailing n = false := by
  simp only [isLeading, Bool.and_eq_true, decide_eq_true_eq] at h
  simp only [isTrailing, Bool.and_eq_false_iff, decide_eq_false_iff_not]
  omega

/-- Each spelling of a character is made of pieces that stand for it. -/
theorem SpellsCharacter.exists_pieces {c : Char} {t : Bytes} (h : SpellsCharacter c t) :
    ∃ front, ∀ {ps s}, SpellsPieces ps s → SpellsPieces (front ++ ps) (t ++ s) ∧
      decode none (front ++ ps) = (decode none ps).map (String.utf8EncodeChar c ++ ·) := by
  cases h with
  | plain quote backslash control =>
    have plain : ∀ b ∈ String.utf8EncodeChar c, IsPlain b :=
      fun b hb => isPlain_of_mem quote backslash control hb
    exact ⟨_, fun h => ⟨spellsPieces_bytes plain h, decode_bytes _ _⟩⟩
  | short letter => exact ⟨[.short c], fun h => ⟨.short letter h, rfl⟩⟩
  | unit hu =>
    obtain ⟨trailing, leading⟩ := not_surrogate c
    refine ⟨[.unit c.toNat], fun h => ⟨.unit hu h, ?_⟩⟩
    simp [decode, trailing, leading]
  | @pair high low u v leading trailing hu hv =>
    refine ⟨[.unit high, .unit low], fun h => ⟨?_, ?_⟩⟩
    · have hpair := SpellsPieces.unit hu (.unit hv h)
      simpa using hpair
    · simp [decode, not_trailing_of_leading leading, leading, trailing]

/-- The characters of a text may be spelled in any way. -/
theorem spellsText_of_characters {cs : List Char} {ts : List Bytes}
    (h : List.Forall₂ SpellsCharacter cs ts) :
    SpellsText (some (String.ofList cs)) (ts.flatten ++ [0x22]) := by
  have pieces : ∃ ps, SpellsPieces ps (ts.flatten ++ [0x22]) ∧
      decode none ps = some (Utf8.encode cs) := by
    induction h with
    | nil => exact ⟨[], .close, rfl⟩
    | cons hc _ ih =>
      obtain ⟨ps, hps, hdecode⟩ := ih
      obtain ⟨front, hfront⟩ := hc.exists_pieces
      obtain ⟨hspells, hmeaning⟩ := hfront hps
      refine ⟨front ++ ps, by simpa using hspells, ?_⟩
      rw [hmeaning, hdecode]
      rfl
  obtain ⟨ps, hps, hdecode⟩ := pieces
  have hread : Utf8.toString? (Utf8.encode cs) = some (String.ofList cs) := by
    have hof := Utf8.toString?_ofString (String.ofList cs)
    rwa [Utf8.ofString, String.toList_ofList] at hof
  have htext := SpellsText.mk hps
  rwa [hdecode, Option.bind_some, hread] at htext

end SkinRelay.Json
