import Mathlib.Data.List.Basic
import Mathlib.Tactic.Common
import SkinRelay.Proofs.Text.Utf8
import SkinRelay.Url

/-!
URLs that are written on. What is put behind a slash of a path becomes its last segment
(`walkPath_segment`), and a path that does not end in a slash gets one first (`walkPath_slashed`); host
and port do not depend on what follows them (`authority_append`).
-/

namespace SkinRelay.Url

/-- A text with a slash at its end. -/
def slashed (s : List Char) : List Char := if s.getLast? = some '/' then s else s ++ ['/']

theorem slashed_of_getLast? {s : List Char} (h : s.getLast? = some '/') : slashed s = s := if_pos h

theorem slashed_of_ne {s : List Char} (h : s.getLast? ≠ some '/') : slashed s = s ++ ['/'] :=
  if_neg h

theorem slashed_append {s t : List Char} (h : t ≠ [] ∨ s.getLast? ≠ some '/') :
    slashed (s ++ t) = s ++ slashed t := by
  cases t with
  | nil =>
    rw [List.append_nil, slashed_of_ne (h.resolve_left (· rfl)), slashed_of_ne (by simp)]
    rfl
  | cons c t =>
    unfold slashed
    rw [List.getLast?_append_of_ne_nil _ (by simp)]
    split
    · rfl
    · exact List.append_assoc _ _ _

/-! ### Percent-encoding -/

section

variable {escape : UInt8 → Bool} {s : List Char}

theorem encodeText_append (s t : List Char) :
    encodeText escape (s ++ t) = encodeText escape s ++ encodeText escape t := by
  simp [encodeText, Percent.encode]

/-- A text of ASCII characters none of which is escaped stays as it is. -/
theorem encodeText_of_plain
    (plain : ∀ c ∈ s, c.toNat < 0x80 ∧ escape (UInt8.ofNat c.toNat) = false) :
    encodeText escape s = s := by
  induction s with
  | nil => rfl
  | cons c s ih =>
    obtain ⟨⟨ascii, kept⟩, hs⟩ := List.forall_mem_cons.mp plain
    have hbyte : String.utf8EncodeChar c = [UInt8.ofNat c.toNat] := by
      rcases Utf8.utf8EncodeChar_spec c with ⟨-, hbyte⟩ | ⟨hlarge, -⟩
      · exact hbyte
      · omega
    have hchar : encodeText escape [c] = [c] := by
      simp [encodeText, Percent.encode, hbyte, kept, Nat.mod_eq_of_lt (show c.toNat < 256 by omega)]
    rw [← List.singleton_append, encodeText_append, hchar, ih hs]

theorem encodeText_ne_nil (h : s ≠ []) : encodeText escape s ≠ [] := by
  cases s with
  | nil => exact absurd rfl h
  | cons c s =>
    obtain ⟨b, bytes, hbytes⟩ : ∃ b bytes, String.utf8EncodeChar c = b :: bytes :=
      List.exists_cons_of_ne_nil String.utf8EncodeChar_ne_nil
    have hlength : 0 < (encodeText escape (c :: s)).length := by
      simp only [encodeText, Percent.encode, Utf8.encode_cons, hbytes, List.cons_append,
        List.flatMap_cons, List.map_append, List.length_append, List.length_map]
      split
      · simp only [Percent.encodeByte, List.length_cons]
        omega
      · simp only [List.length_cons]
        omega
    exact List.ne_nil_of_length_pos hlength

/-- No slash comes from anything but a slash. -/
theorem slash_not_mem_encodeText (h : '/' ∉ s) : '/' ∉ encodeText escape s := by
  have digit : ∀ n : Fin 16, Percent.hexDigit n ≠ 0x2F := by decide
  have plain : ∀ b ∈ Utf8.encode s, b ≠ 0x2F := by
    rintro b hb rfl
    obtain ⟨c, hc, hb⟩ := List.mem_flatMap.mp hb
    rcases Utf8.utf8EncodeChar_spec c with ⟨ascii, hbyte⟩ | ⟨-, hlarge⟩
    · rw [hbyte, List.mem_singleton] at hb
      have hvalue := congrArg UInt8.toNat hb
      rw [Utf8.toNat_byte (by omega)] at hvalue
      refine h ?_
      rwa [show '/' = c from Char.ext (UInt32.ext hvalue)]
    · exact absurd (hlarge _ hb) (by decide)
  intro hmem
  obtain ⟨b, hb, hslash⟩ := List.mem_map.mp hmem
  have hb' : b ≠ 0x2F := by
    obtain ⟨a, ha, hb⟩ := List.mem_flatMap.mp hb
    have hsmall := a.toNat_lt
    split at hb
    · simp only [Percent.encodeByte, List.mem_cons, List.not_mem_nil, or_false] at hb
      rcases hb with rfl | rfl | rfl
      · decide
      · exact digit ⟨a.toNat / 16, by omega⟩
      · exact digit ⟨a.toNat % 16, by omega⟩
    · rw [List.mem_singleton.mp hb]
      exact plain a ha
  have hvalid : b.toNat.isValidChar := .inl (by have := b.toNat_lt; omega)
  have hvalue : (Char.ofNat b.toNat).toNat = b.toNat := by
    rw [Char.ofNat, dif_pos hvalid]
    rfl
  rw [hslash] at hvalue
  exact hb' (UInt8.toNat_inj.mp hvalue.symm)

end

/-! ### Segments -/

/-- Whether a character separates the segments of a path. -/
def IsSeparator (special : Bool) (c : Char) : Prop := c = '/' ∨ (special = true ∧ c = '\\')

variable {special : Bool}

theorem takeSegment_separator {c : Char} (h : IsSeparator special c) (s : List Char) :
    takeSegment special (c :: s) = ([], some s) := if_pos h

theorem takeSegment_other {c : Char} (h : ¬IsSeparator special c) (s : List Char) :
    takeSegment special (c :: s) = (c :: (takeSegment special s).1, (takeSegment special s).2) :=
  if_neg h

/-- Up to the next separator nothing depends on what follows it. -/
theorem takeSegment_append {s segment after : List Char}
    (h : takeSegment special s = (segment, some after)) (x : List Char) :
    takeSegment special (s ++ x) = (segment, some (after ++ x)) := by
  induction s generalizing segment with
  | nil => simp [takeSegment] at h
  | cons c s ih =>
    rw [List.cons_append]
    by_cases hc : IsSeparator special c
    · rw [takeSegment_separator hc] at h ⊢
      cases h
      rfl
    · rw [takeSegment_other hc, Prod.mk.injEq] at h
      rw [takeSegment_other hc, ih (Prod.ext rfl h.2)]
      exact congrArg (·, _) h.1

/-- A segment that nothing ends is the whole text, and goes on up to a slash that is put behind it. -/
theorem takeSegment_none {s segment : List Char}
    (h : takeSegment special s = (segment, none)) :
    segment = s ∧ (∀ c ∈ s, ¬IsSeparator special c) ∧
      ∀ x, takeSegment special (s ++ '/' :: x) = (segment, some x) := by
  induction s generalizing segment with
  | nil =>
    cases h
    exact ⟨rfl, by simp, fun x => takeSegment_separator (.inl rfl) x⟩
  | cons c s ih =>
    by_cases hc : IsSeparator special c
    · rw [takeSegment_separator hc] at h
      cases h
    · rw [takeSegment_other hc, Prod.mk.injEq] at h
      obtain ⟨rfl, hnone⟩ := h
      obtain ⟨hsegment, hs, hslash⟩ := ih (Prod.ext rfl hnone)
      refine ⟨congrArg (c :: ·) hsegment, List.forall_mem_cons.mpr ⟨hc, hs⟩, fun x => ?_⟩
      rw [List.cons_append, takeSegment_other hc, hslash]

theorem takeSegment_of_forall {s : List Char} (h : ∀ c ∈ s, ¬IsSeparator special c) :
    takeSegment special s = (s, none) := by
  induction s with
  | nil => rfl
  | cons c s ih =>
    obtain ⟨hc, hs⟩ := List.forall_mem_cons.mp h
    rw [takeSegment_other hc, ih hs]

/-- What a text is around its first separator. -/
theorem takeSegment_some {s segment after : List Char}
    (h : takeSegment special s = (segment, some after)) :
    ∃ c, IsSeparator special c ∧ s = segment ++ c :: after := by
  induction s generalizing segment with
  | nil => simp [takeSegment] at h
  | cons c s ih =>
    by_cases hc : IsSeparator special c
    · rw [takeSegment_separator hc] at h
      cases h
      exact ⟨c, hc, rfl⟩
    · rw [takeSegment_other hc, Prod.mk.injEq] at h
      obtain ⟨rfl, hsome⟩ := h
      obtain ⟨d, hd, hs⟩ := ih (Prod.ext rfl hsome)
      exact ⟨d, hd, congrArg (c :: ·) hs⟩

/-- Whether nothing stands behind the last slash of a text. -/
def AtSegment (s : List Char) : Prop := s = [] ∨ s.getLast? = some '/'

theorem AtSegment.after {s front after : List Char} {c : Char} (h : AtSegment s)
    (hs : s = front ++ c :: after) : AtSegment after := by
  rcases h with rfl | h
  · simp at hs
  · subst hs
    rw [List.getLast?_append_cons] at h
    cases after with
    | nil => exact .inl rfl
    | cons d after =>
      rw [List.getLast?_cons_cons] at h
      exact .inr h

/-! ### Paths -/

/-- The path after one more segment, behind which a slash may stand. -/
def stepPath (done segment : List Char) (slash : Bool) : List Char :=
  if isDoubleDot segment then parent done
  else if isSingleDot segment then done
  else done ++ encodeText escapeInPath segment ++ (if slash then ['/'] else [])

theorem walkPath_none {done s segment : List Char} (h : takeSegment special s = (segment, none)) :
    walkPath special done s = stepPath done segment false := by
  rw [walkPath]
  split
  rename_i hs
  rw [h] at hs
  cases hs
  rfl

theorem walkPath_some {done s segment after : List Char}
    (h : takeSegment special s = (segment, some after)) :
    walkPath special done s = walkPath special (stepPath done segment true) after := by
  rw [walkPath]
  split
  rename_i hs
  rw [h] at hs
  cases hs
  rfl

theorem walkPath_nil (done : List Char) : walkPath special done [] = done := by
  rw [walkPath_none rfl]
  show done ++ [] ++ [] = done
  simp

/-- A walk along the segments of a text, one after another. -/
theorem walkPath_induction {P : List Char → List Char → Prop}
    (last : ∀ done s, (∀ c ∈ s, ¬IsSeparator special c) →
      takeSegment special s = (s, none) → P done s)
    (step : ∀ done segment c after, IsSeparator special c →
      takeSegment special (segment ++ c :: after) = (segment, some after) →
      P (stepPath done segment true) after → P done (segment ++ c :: after))
    (done s : List Char) : P done s := by
  induction hn : s.length using Nat.strongRecOn generalizing done s with
  | _ n ih =>
    cases hs : takeSegment special s with
    | mk segment after =>
      cases after with
      | none =>
        obtain ⟨rfl, hseparator, -⟩ := takeSegment_none hs
        exact last done _ hseparator hs
      | some after =>
        have hlt := length_lt_of_takeSegment hs
        obtain ⟨c, hc, rfl⟩ := takeSegment_some hs
        exact step done segment c after hc hs (ih after.length (by omega) _ after rfl)

/-- Behind a slash the walk goes on from the path so far. -/
theorem walkPath_slash (done s x : List Char) :
    walkPath special done (s ++ '/' :: x) =
      walkPath special (walkPath special done (s ++ ['/'])) x := by
  induction done, s using @walkPath_induction special with
  | last done s _ hs =>
    have hslash := (takeSegment_none hs).2.2
    rw [walkPath_some (hslash x), walkPath_some (hslash []), walkPath_nil]
  | step done segment c after _ hs ih =>
    rw [walkPath_some (takeSegment_append hs _), walkPath_some (takeSegment_append hs _)]
    exact ih

theorem walkPath_append {s : List Char} (h : AtSegment s) (done x : List Char) :
    walkPath special done (s ++ x) = walkPath special (walkPath special done s) x := by
  rcases h with rfl | h
  · rw [walkPath_nil, List.nil_append]
  · obtain ⟨front, rfl⟩ := List.getLast?_eq_some_iff.mp h
    rw [List.append_assoc]
    exact walkPath_slash done front x

theorem getLast?_upToSlash {s : List Char} (h : upToSlash s ≠ []) :
    (upToSlash s).getLast? = some '/' := by
  unfold upToSlash at h ⊢
  rw [List.getLast?_reverse]
  cases hs : s.reverse.dropWhile (· != '/') with
  | nil => simp [hs] at h
  | cons c rest =>
    have hc := List.head?_dropWhile_not (· != '/') s.reverse
    simp only [hs, List.head?_cons] at hc ⊢
    simpa using hc

theorem getLast?_parent {s : List Char} (h : s.getLast? = some '/') :
    (parent s).getLast? = some '/' := by
  unfold parent
  dsimp only
  split
  · exact h
  · rename_i above hne
    split
    · exact h
    · exact getLast?_upToSlash fun heq => hne heq

/-- A slash behind a segment is all that tells the path with it from the one without, if the segment
is there at all. -/
theorem stepPath_true {done segment : List Char} (hdone : done.getLast? = some '/')
    (hsegment : segment ≠ []) (hslash : '/' ∉ segment) :
    stepPath done segment true = slashed (stepPath done segment false) := by
  unfold stepPath
  split
  · exact (slashed_of_getLast? (getLast?_parent hdone)).symm
  · split
    · exact (slashed_of_getLast? hdone).symm
    · simp only [if_true, Bool.false_eq_true, if_false, List.append_nil]
      refine (slashed_of_ne fun hlast => ?_).symm
      rw [List.getLast?_append_of_ne_nil _ (encodeText_ne_nil hsegment)] at hlast
      exact slash_not_mem_encodeText hslash (List.mem_of_getLast? hlast)

theorem getLast?_stepPath {done : List Char} (h : done.getLast? = some '/') (segment : List Char) :
    (stepPath done segment true).getLast? = some '/' := by
  unfold stepPath
  split
  · exact getLast?_parent h
  · split
    · exact h
    · simp

/-- A walk that begins and ends behind a slash comes to a path that does so. -/
theorem getLast?_walkPath {done s : List Char} (hdone : done.getLast? = some '/')
    (hs : AtSegment s) : (walkPath special done s).getLast? = some '/' := by
  induction done, s using @walkPath_induction special with
  | last done s hseparator _ =>
    have hnil : s = [] := hs.resolve_right fun hlast =>
      hseparator _ (List.mem_of_getLast? hlast) (.inl rfl)
    rwa [hnil, walkPath_nil]
  | step done segment c after _ htake ih =>
    rw [walkPath_some htake]
    exact ih (getLast?_stepPath hdone segment) (hs.after rfl)

/-- A slash behind a text that ends in a segment is put behind its path, unless one is there. -/
theorem walkPath_slashed {done s : List Char} (hdone : done.getLast? = some '/')
    (hlast : ∃ c, s.getLast? = some c ∧ ¬IsSeparator special c) :
    walkPath special done (s ++ ['/']) = slashed (walkPath special done s) := by
  obtain ⟨c, hlast, hc⟩ := hlast
  induction done, s using @walkPath_induction special with
  | last done s hseparator htake =>
    have hne : s ≠ [] := by
      rintro rfl
      cases hlast
    have hslash : '/' ∉ s := fun hmem => hseparator _ hmem (.inl rfl)
    rw [walkPath_some ((takeSegment_none htake).2.2 []), walkPath_nil, walkPath_none htake,
      stepPath_true hdone hne hslash]
  | step done segment d after hd htake ih =>
    have hafter : after.getLast? = some c := by
      rw [List.getLast?_append_cons] at hlast
      cases after with
      | nil =>
        cases hlast
        exact absurd hd hc
      | cons e after => rwa [List.getLast?_cons_cons] at hlast
    rw [walkPath_some (takeSegment_append htake _), walkPath_some htake]
    exact ih (getLast?_stepPath hdone segment) hafter

/-! ### Hexadecimal segments -/

/-- The hexadecimal digits. -/
def hexDigits : List Char := "0123456789abcdefABCDEF".toList

/-- What a hexadecimal digit is not. -/
structure IsInert (c : Char) : Prop where
  ascii : c.toNat < 0x80
  kept : escapeInPath (UInt8.ofNat c.toNat) = false
  separator : c ≠ '/' ∧ c ≠ '\\'
  dot : c.toLower ≠ '.' ∧ c.toLower ≠ '%'
  mark : c ≠ '?' ∧ c ≠ '#'
  shown : isTrimmed c = false ∧ isDropped c = false

theorem isInert_of_mem {c : Char} (h : c ∈ hexDigits) : IsInert c := by
  have all : hexDigits.all fun c =>
      c.toNat < 0x80 ∧ escapeInPath (UInt8.ofNat c.toNat) = false ∧ (c ≠ '/' ∧ c ≠ '\\') ∧
        (c.toLower ≠ '.' ∧ c.toLower ≠ '%') ∧ (c ≠ '?' ∧ c ≠ '#') ∧
          isTrimmed c = false ∧ isDropped c = false := by
    decide +kernel
  obtain ⟨ascii, kept, separator, dot, mark, shown⟩ :=
    of_decide_eq_true (List.all_eq_true.mp all c h)
  exact ⟨ascii, kept, separator, dot, mark, shown⟩

variable {s : List Char}

/-- A segment without dots and escapes stands for no other place. -/
theorem not_isDot (h : ∀ c ∈ s, c.toLower ≠ '.' ∧ c.toLower ≠ '%') :
    isDoubleDot s = false ∧ isSingleDot s = false := by
  have differs : ∀ first rest, (first = '.' ∨ first = '%') → first :: rest ≠ s.map Char.toLower := by
    intro first rest hfirst heq
    have hmem : first ∈ s.map Char.toLower := heq ▸ List.mem_cons_self
    obtain ⟨c, hc, rfl⟩ := List.mem_map.mp hmem
    exact hfirst.elim (h c hc).1 (h c hc).2
  constructor
  · simp only [isDoubleDot, List.any_cons, List.any_nil, Bool.or_false, Bool.or_eq_false_iff,
      decide_eq_false_iff_not]
    exact ⟨differs '.' _ (.inl rfl), differs '%' _ (.inr rfl), differs '.' _ (.inl rfl),
      differs '%' _ (.inr rfl)⟩
  · simp only [isSingleDot, List.any_cons, List.any_nil, Bool.or_false, Bool.or_eq_false_iff,
      decide_eq_false_iff_not]
    exact ⟨differs '.' _ (.inl rfl), differs '%' _ (.inr rfl)⟩

/-- Hexadecimal digits are a segment as they are. -/
theorem walkPath_segment (done : List Char) (h : ∀ c ∈ s, c ∈ hexDigits) :
    walkPath special done s = done ++ s := by
  have inert : ∀ c ∈ s, IsInert c := fun c hc => isInert_of_mem (h c hc)
  have hseparator : ∀ c ∈ s, ¬IsSeparator special c := by
    rintro c hc (hslash | ⟨-, hback⟩)
    · exact (inert c hc).separator.1 hslash
    · exact (inert c hc).separator.2 hback
  obtain ⟨hdouble, hsingle⟩ := not_isDot fun c hc => (inert c hc).dot
  have hkept : encodeText escapeInPath s = s :=
    encodeText_of_plain fun c hc => ⟨(inert c hc).ascii, (inert c hc).kept⟩
  rw [walkPath_none (takeSegment_of_forall hseparator), stepPath]
  simp [hdouble, hsingle, hkept]

end SkinRelay.Url
