import SkinRelay.Proofs.Text.Lowercase

/-!
Which names are looked up, and in which spelling. Besides Latin letters, digits and underscores a
name may have the two other characters that are case forms of Latin letters. Of these the Kelvin sign
becomes a `k` in the spelling of the name, but the long s stays as it is (`spelling_of_isValid`).
-/

namespace SkinRelay.Username

/-- A Latin letter, a digit or the underscore. -/
def IsPlain (c : Char) : Prop := c.isAlphanum = true ∨ c = '_'

/-- A Latin letter in lower case, a digit or the underscore. -/
def IsPlainLower (c : Char) : Prop := c.isLower = true ∨ c.isDigit = true ∨ c = '_'

/-- The long s or the Kelvin sign. -/
def IsStray (c : Char) : Prop := c = 'ſ' ∨ c = '\u212A'

instance (c : Char) : Decidable (IsPlain c) := inferInstanceAs (Decidable (_ ∨ _))

instance (c : Char) : Decidable (IsPlainLower c) := inferInstanceAs (Decidable (_ ∨ _ ∨ _))

/-- Whether a name has three to sixteen characters, all of this kind. -/
def Consists (P : Char → Prop) (name : String) : Prop :=
  3 ≤ name.toList.length ∧ name.toList.length ≤ 16 ∧ ∀ c ∈ name.toList, P c

-- The characters of the name are checked, and not all there are.
instance (P : Char → Prop) [DecidablePred P] (name : String) : Decidable (Consists P name) :=
  have := List.decidableBAll P name.toList
  inferInstanceAs (Decidable (_ ∧ _ ∧ _))

/-- How a character of a name is spelled in lower case. -/
def lowerChar (c : Char) : Char := if c = '\u212A' then 'k' else c.toLower

def lowered (name : String) : String := String.ofList (name.toList.map lowerChar)

variable {c : Char} {name : String} {P Q : Char → Prop}

/-! ### Characters -/

theorem isNameChar_iff : isNameChar c = true ↔ IsPlain c ∨ IsStray c := by
  simp [isNameChar, IsPlain, IsStray, or_assoc]

theorem toNat_lt_of_isPlain (h : IsPlain c) : c.toNat < 128 := by
  rcases h with halnum | rfl
  · have hranges : (decide (65 ≤ c.val ∧ c.val ≤ 90) || (97 ≤ c.val && c.val ≤ 122) ||
        (48 ≤ c.val && c.val ≤ 57)) = true := halnum
    simp only [Bool.or_eq_true, Bool.and_eq_true, decide_eq_true_eq,
      UInt32.le_iff_toNat_le] at hranges
    change ((65 ≤ c.toNat ∧ c.toNat ≤ 90) ∨ (97 ≤ c.toNat ∧ c.toNat ≤ 122)) ∨
      (48 ≤ c.toNat ∧ c.toNat ≤ 57) at hranges
    omega
  · decide

theorem lowerChar_of_isPlain (h : IsPlain c) : lowerChar c = c.toLower := by
  unfold lowerChar
  rw [if_neg]
  rintro rfl
  exact absurd (toNat_lt_of_isPlain h) (by decide)

theorem lowerForm_of_isNameChar (h : IsPlain c ∨ IsStray c) :
    c ≠ Text.capitalSigma ∧ Text.lowerForm c = [lowerChar c] := by
  rcases h with hplain | rfl | rfl
  · have hlt := toNat_lt_of_isPlain hplain
    refine ⟨?_, ?_⟩
    · rintro rfl
      revert hlt
      decide
    · rw [Text.lowerForm_ascii hlt, lowerChar_of_isPlain hplain]
  · exact ⟨by decide, by decide +kernel⟩
  · exact ⟨by decide, by decide +kernel⟩

theorem isPlainLower_lowerChar (h : IsPlain c) : IsPlainLower (lowerChar c) := by
  rw [lowerChar_of_isPlain h]
  have hlower : IsPlain c → IsPlainLower c.toLower := by
    apply Text.forall_ascii (P := fun c => IsPlain c → IsPlainLower c.toLower) _
      (toNat_lt_of_isPlain h)
    decide +kernel
  exact hlower h

theorem lowerChar_of_isNameChar (h : IsPlain c ∨ IsStray c) :
    IsPlainLower (lowerChar c) ∨ lowerChar c = 'ſ' := by
  rcases h with hplain | rfl | rfl
  · exact .inl (isPlainLower_lowerChar hplain)
  · exact .inr (by decide)
  · exact .inl (by decide)

/-! ### Names -/

theorem Consists.lowered (h : Consists P name) (hchar : ∀ c, P c → Q (lowerChar c)) :
    Consists Q (lowered name) := by
  obtain ⟨hmin, hmax, hall⟩ := h
  refine ⟨?_, ?_, ?_⟩
  · simpa [Username.lowered] using hmin
  · simpa [Username.lowered] using hmax
  · intro d hd
    rw [Username.lowered, String.toList_ofList] at hd
    obtain ⟨c, hc, rfl⟩ := List.mem_map.mp hd
    exact hchar c (hall c hc)

/-- Which names an account can have, as far as the gate knows. -/
theorem isValid_iff : isValid name = true ↔ Consists (fun c => IsPlain c ∨ IsStray c) name := by
  simp [isValid, Consists, and_assoc, isNameChar_iff]

theorem spelling_of_isValid (h : isValid name = true) : key name = lowered name := by
  obtain ⟨-, -, hall⟩ := isValid_iff.mp h
  unfold key Text.lowercase lowered
  rw [Text.lowerAfter_map fun c hc => lowerForm_of_isNameChar (hall c hc)]

theorem lowered_of_plain (h : Consists IsPlain name) :
    lowered name = String.ofList (name.toList.map Char.toLower) := by
  unfold lowered
  rw [List.map_congr_left fun c hc => lowerChar_of_isPlain (h.2.2 c hc)]

/-- The spelling of a name has the kind of characters that the name has, but in lower case. -/
theorem consists_key (h : isValid name = true) :
    Consists (fun c => IsPlainLower c ∨ c = 'ſ') (key name) := by
  rw [spelling_of_isValid h]
  exact (isValid_iff.mp h).lowered fun _ => lowerChar_of_isNameChar

end SkinRelay.Username
