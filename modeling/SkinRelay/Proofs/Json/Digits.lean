import SkinRelay.Proofs.Json.Pieces

/-!
Numbers and words are read as the grammar has them, whatever follows (`numeral_spelled`), and what can be
skipped as a number is one (`exists_number`).
-/

namespace SkinRelay.Json

variable {s rest : Bytes}

theorem someDigits_spelled {ds : Bytes} (h : AreDigits ds) (stops : Stops rest) :
    someDigits (ds ++ rest) = .ok (ds, rest) := by
  have hdigits := digits_append h.2 stops
  cases ds with
  | nil => exact absurd rfl h.1
  | cons d ds => simp only [someDigits, hdigits]

theorem whole_spelled {w : Bytes} (h : AreWhole w) (stops : Stops rest) :
    whole (w ++ rest) = .ok (w, rest) := by
  obtain ⟨⟨nonempty, hdigits⟩, hzero⟩ := h
  cases w with
  | nil => exact absurd rfl nonempty
  | cons d ds =>
    exact whole_append hdigits (fun hd => (List.cons.inj (hzero (congrArg some hd))).2) stops

/-- What begins behind the digits before the exponent: neither a digit nor a point. -/
theorem stops_of_exponent {e : Option Int} {b : Bytes} (h : SpellsExponent e b) (ends : Ends rest) :
    Stops (b ++ rest) ∧ (b ++ rest).head? ≠ some 0x2E := by
  cases h with
  | absent =>
    refine ⟨ends.stops, fun hpoint => ?_⟩
    cases rest with
    | nil => cases hpoint
    | cons c rest => exact ends.2.1 (Option.some.inj hpoint)
  | present hmark =>
    rcases hmark with rfl | rfl
    · exact ⟨fun c hc => by cases hc; rfl, by simp⟩
    · exact ⟨fun c hc => by cases hc; rfl, by simp⟩

theorem stops_of_fraction {f : Option Bytes} {a : Bytes} (h : SpellsFraction f a)
    (stops : Stops rest) : Stops (a ++ rest) := by
  cases h with
  | absent => exact stops
  | present => exact fun c hc => by cases hc; rfl

theorem fraction_spelled {f : Option Bytes} {a : Bytes} (h : SpellsFraction f a)
    (stops : Stops rest) (point : rest.head? ≠ some 0x2E) :
    fraction (a ++ rest) = .ok (f, rest) := by
  cases h with
  | absent =>
    rw [List.nil_append]
    unfold fraction
    split
    · exact absurd rfl point
    · rfl
  | present h => simp only [List.cons_append, fraction, someDigits_spelled h stops]

theorem exponentSign_spelled {negative : Bool} {sign ds : Bytes} (h : SpellsSign negative sign)
    (hds : AreDigits ds) (rest : Bytes) :
    exponentSign (sign ++ (ds ++ rest)) = (negative, ds ++ rest) := by
  cases h with
  | plus => rfl
  | minus => rfl
  | absent =>
    cases ds with
    | nil => exact absurd rfl hds.1
    | cons d ds =>
      have hd := hds.2 d List.mem_cons_self
      rw [List.nil_append, List.cons_append]
      unfold exponentSign
      split
      · rename_i heq
        cases heq
        cases hd
      · rename_i heq
        cases heq
        cases hd
      · rfl

theorem exponent_spelled {e : Option Int} {b : Bytes} (h : SpellsExponent e b) (ends : Ends rest) :
    exponent (b ++ rest) = .ok (e, rest) := by
  cases h with
  | absent => exact exponent_of_ends ends
  | @present mark negative sign ds hmark hsign hds =>
    have hsome := someDigits_spelled hds ends.stops
    have hexponent := exponentSign_spelled hsign hds rest
    rw [List.cons_append, List.append_assoc]
    rcases hmark with rfl | rfl
    · simp only [exponent, hexponent, hsome]
    · simp only [exponent, hexponent, hsome]

theorem numeral_spelled {negative : Bool} {n : Option Numeral} (h : SpellsNumber negative n s)
    (ends : Ends rest) : (numeral negative (s ++ rest)).toOption = n.map (·, rest) := by
  obtain ⟨whole, ha, hb⟩ := h
  obtain ⟨stops, point⟩ := stops_of_exponent hb ends
  rw [List.append_assoc, List.append_assoc]
  simp only [numeral, whole_spelled whole (stops_of_fraction ha stops),
    fraction_spelled ha stops point, exponent_spelled hb ends]
  cases denote negative _ _ _ <;> rfl

/-! A number that is skipped is scanned like one that is read. -/

theorem toOption_skipDigits (s : Bytes) :
    (skipDigits s).toOption = (someDigits s).toOption.map Prod.snd := by
  unfold skipDigits someDigits
  rcases digits s with ⟨_ | ⟨d, ds⟩, _ | ⟨b, r⟩⟩ <;> rfl

theorem toOption_skipExponent (s : Bytes) :
    (skipExponent s).toOption = (exponent s).toOption.map Prod.snd := by
  unfold skipExponent
  split
  · rename_i s'
    rw [toOption_skipDigits, exponent]
    cases someDigits (exponentSign s').2 <;> rfl
  · rename_i s'
    rw [toOption_skipDigits, exponent]
    cases someDigits (exponentSign s').2 <;> rfl
  · rename_i small capital
    unfold exponent
    split
    · exact absurd rfl (small _)
    · exact absurd rfl (capital _)
    · rfl

theorem toOption_skipFraction (s : Bytes) :
    (skipFraction s).toOption =
      (fraction s).toOption.bind fun f => (exponent f.2).toOption.map Prod.snd := by
  unfold skipFraction
  split
  · rename_i s'
    have hdigits := toOption_skipDigits s'
    rw [fraction]
    cases hsome : someDigits s' with
    | error f =>
      rw [hsome] at hdigits
      obtain ⟨f', hf'⟩ := toOption_eq_none.mp hdigits
      rw [hf']
      rfl
    | ok ds =>
      rw [hsome] at hdigits
      rw [toOption_eq_some.mp hdigits]
      exact toOption_skipExponent _
  · rename_i point
    unfold fraction
    split
    · exact absurd rfl (point _)
    · exact toOption_skipExponent _

theorem toOption_skipNumeral (s : Bytes) :
    (skipNumeral s).toOption = (whole s).toOption.bind fun w =>
      (fraction w.2).toOption.bind fun f => (exponent f.2).toOption.map Prod.snd := by
  unfold skipNumeral
  cases whole s with
  | error f => rfl
  | ok w => exact toOption_skipFraction w.2

theorem skipNumeral_spelled {negative : Bool} {n : Option Numeral} (h : SpellsNumber negative n s)
    (ends : Ends rest) : skipNumeral (s ++ rest) = .ok rest := by
  obtain ⟨whole, ha, hb⟩ := h
  obtain ⟨stops, point⟩ := stops_of_exponent hb ends
  rw [← toOption_eq_some, toOption_skipNumeral, List.append_assoc, List.append_assoc,
    whole_spelled whole (stops_of_fraction ha stops)]
  simp [Except.toOption, fraction_spelled ha stops point, exponent_spelled hb ends]

theorem areDigits_of_someDigits {ds : Bytes} (h : someDigits s = .ok (ds, rest)) :
    AreDigits ds ∧ s = ds ++ rest := by
  unfold someDigits at h
  split at h
  · cases h
  · cases h
  · rename_i d ds' r hdigits
    cases h
    obtain ⟨htake, hdrop⟩ := Prod.mk.inj hdigits
    have happend : s.takeWhile Bytes.isDigit ++ s.dropWhile Bytes.isDigit = s :=
      List.takeWhile_append_dropWhile
    rw [htake, hdrop] at happend
    refine ⟨⟨by simp, fun b hb => ?_⟩, happend.symm⟩
    rw [← htake] at hb
    exact List.mem_takeWhile_imp hb

theorem areWhole_of_whole {w : Bytes} (h : whole s = .ok (w, rest)) :
    AreWhole w ∧ s = w ++ rest := by
  have zero : AreWhole [0x30] := by
    refine ⟨⟨by simp, fun b hb => ?_⟩, fun _ => rfl⟩
    rw [List.mem_singleton.mp hb]
    decide
  unfold whole at h
  split at h
  · cases h
  · split at h
    · cases h
      exact ⟨zero, rfl⟩
    · split at h
      · cases h
      · cases h
        exact ⟨zero, rfl⟩
  · rename_i b r nonzero
    split at h
    · rename_i hb
      have hdigits : digits (b :: r) = (w, rest) := Except.ok.inj h
      have hsome : someDigits (b :: r) = .ok (w, rest) := by
        have hfirst : (digits (b :: r)).1 = b :: r.takeWhile Bytes.isDigit :=
          List.takeWhile_cons_of_pos hb
        rw [hdigits] at hfirst
        obtain rfl : w = b :: r.takeWhile Bytes.isDigit := hfirst
        simp only [someDigits, hdigits]
      obtain ⟨hw, happend⟩ := areDigits_of_someDigits hsome
      refine ⟨⟨hw, fun hzero => ?_⟩, happend⟩
      cases w with
      | nil => cases hzero
      | cons d ds =>
        cases Option.some.inj hzero
        exact absurd (List.cons.inj happend).1 nonzero
    · cases h

theorem exists_fraction {f : Option Bytes} (h : fraction s = .ok (f, rest)) :
    ∃ a, SpellsFraction f a ∧ s = a ++ rest := by
  unfold fraction at h
  split at h
  · split at h
    · cases h
    · rename_i hsome
      cases h
      obtain ⟨hdigits, rfl⟩ := areDigits_of_someDigits hsome
      exact ⟨_, .present hdigits, rfl⟩
  · cases h
    exact ⟨[], .absent, rfl⟩

theorem exists_sign (s : Bytes) :
    ∃ sign, SpellsSign (exponentSign s).1 sign ∧ s = sign ++ (exponentSign s).2 := by
  unfold exponentSign
  split
  · exact ⟨_, .minus, rfl⟩
  · exact ⟨_, .plus, rfl⟩
  · exact ⟨_, .absent, rfl⟩

theorem exists_exponent {e : Option Int} (h : exponent s = .ok (e, rest)) :
    ∃ b, SpellsExponent e b ∧ s = b ++ rest := by
  have present : ∀ mark s' ds, mark = 0x65 ∨ mark = 0x45 →
      someDigits (exponentSign s').2 = .ok (ds, rest) →
      ∃ b, SpellsExponent (some (if (exponentSign s').1 then -(decimal ds : Int) else decimal ds)) b ∧
        mark :: s' = b ++ rest := by
    intro mark s' ds hmark hsome
    obtain ⟨hdigits, htail⟩ := areDigits_of_someDigits hsome
    obtain ⟨sign, hsign, hs'⟩ := exists_sign s'
    refine ⟨_, .present hmark hsign hdigits, ?_⟩
    rw [List.cons_append, List.append_assoc, ← htail, ← hs']
  unfold exponent at h
  split at h
  · split at h
    · cases h
    · cases h
      exact present _ _ _ (.inl rfl) ‹_›
  · split at h
    · cases h
    · cases h
      exact present _ _ _ (.inr rfl) ‹_›
  · cases h
    exact ⟨[], .absent, rfl⟩

/-- What can be skipped as a number is one. -/
theorem exists_number (negative : Bool) (h : skipNumeral s = .ok rest) :
    ∃ n front, SpellsNumber negative n front ∧ s = front ++ rest := by
  have hparts := (toOption_skipNumeral s).symm.trans (toOption_eq_some.mpr h)
  simp only [Option.bind_eq_some_iff, Option.map_eq_some_iff, toOption_eq_some] at hparts
  obtain ⟨⟨w, s₁⟩, hwhole, ⟨f, s₂⟩, hfraction, ⟨e, s₃⟩, hexponent, rfl⟩ := hparts
  obtain ⟨whole, rfl⟩ := areWhole_of_whole hwhole
  obtain ⟨a, ha, rfl⟩ := exists_fraction hfraction
  obtain ⟨b, hb, rfl⟩ := exists_exponent hexponent
  exact ⟨_, _, .mk whole ha hb, by simp⟩

theorem skipNumeral_of_numeral {negative : Bool} {n : Numeral}
    (h : numeral negative s = .ok (n, rest)) : skipNumeral s = .ok rest := by
  rw [← toOption_eq_some, toOption_skipNumeral]
  unfold numeral at h
  split at h
  · cases h
  · rename_i hwhole
    split at h
    · cases h
    · rename_i hfraction
      split at h
      · cases h
      · rename_i hexponent
        split at h
        · cases h
        · cases h
          simp [Except.toOption, hwhole, hfraction, hexponent]

/-! ### Words -/

theorem afterWord_append (w s : Bytes) : afterWord w (w ++ s) = .ok s := by
  induction w with
  | nil => rfl
  | cons b w ih => rw [List.cons_append, afterWord, if_pos rfl, ih]

theorem eq_append_of_afterWord {w : Bytes} (h : afterWord w s = .ok rest) : s = w ++ rest := by
  induction w generalizing s with
  | nil => exact Except.ok.inj h
  | cons b w ih =>
    cases s with
    | nil => cases h
    | cons c s =>
      rw [afterWord] at h
      split at h
      · rename_i hc
        rw [hc, ih h, List.cons_append]
      · cases h

end SkinRelay.Json
