import Mathlib.Data.List.Basic
import SkinRelay.Proofs.Text.Utf8
import SkinRelay.Text.Percent

/-!
Percent-encoding as a relation: in how many ways a segment of a path can spell some bytes. All of
them are decoded to these bytes (`Spells.decode`), and what is encoded is one of them, whatever is
escaped and whatever is not (`spells_encode`).
-/

namespace SkinRelay.Percent

/-- Whether a character can stand for itself: an ASCII character that does not end a segment and does
not begin an escape. -/
def IsLiteral (c : Char) : Prop := c.toNat < 0x80 ∧ c ≠ '%' ∧ c ≠ '/' ∧ c ≠ '?' ∧ c ≠ '#'

instance (c : Char) : Decidable (IsLiteral c) :=
  inferInstanceAs (Decidable (_ ∧ _ ∧ _ ∧ _ ∧ _))

/-- Whether a character is the hexadecimal digit for a number, in either case. -/
def IsDigit (c : Char) (n : Fin 16) : Prop :=
  c = "0123456789abcdef".toList[n]! ∨ c = "0123456789ABCDEF".toList[n]!

/-- `Spells segment bytes`: the segment is these bytes, each as itself or as an escape. -/
inductive Spells : List Char → Bytes → Prop
  | nil : Spells [] []
  | literal {c : Char} {segment : List Char} {bytes : Bytes} (literal : IsLiteral c)
      (rest : Spells segment bytes) : Spells (c :: segment) (UInt8.ofNat c.toNat :: bytes)
  | escape {a b : Char} {m n : Fin 16} {segment : List Char} {bytes : Bytes} (high : IsDigit a m)
      (low : IsDigit b n) (rest : Spells segment bytes) :
      Spells ('%' :: a :: b :: segment) (UInt8.ofNat (16 * m + n) :: bytes)

section

variable {segment : List Char} {bytes : Bytes} {c : Char} {n : Fin 16}

/-- A digit is one byte, and does not end a segment. -/
theorem IsDigit.byte (h : IsDigit c n) :
    (∃ b, String.utf8EncodeChar c = [b] ∧ Bytes.hexValue? b = some n.val) ∧
      c ≠ '/' ∧ c ≠ '?' ∧ c ≠ '#' := by
  -- A bounded quantifier over the list would be decided by going through all characters.
  have all : ∀ n : Fin 16,
      ["0123456789abcdef".toList[n]!, "0123456789ABCDEF".toList[n]!].all fun c =>
        (String.utf8EncodeChar c).map Bytes.hexValue? = [some n.val] ∧
          c ≠ '/' ∧ c ≠ '?' ∧ c ≠ '#' := by
    decide
  obtain ⟨hbyte, hother⟩ :=
    of_decide_eq_true (List.all_eq_true.mp (all n) c (List.mem_pair.mpr h))
  exact ⟨by simpa using List.map_eq_singleton_iff.mp hbyte, hother⟩

theorem IsLiteral.byte (h : IsLiteral c) :
    String.utf8EncodeChar c = [UInt8.ofNat c.toNat] ∧ UInt8.ofNat c.toNat ≠ 0x25 := by
  obtain ⟨ascii, percent, -⟩ := h
  constructor
  · rcases Utf8.utf8EncodeChar_spec c with ⟨-, hbyte⟩ | ⟨hlarge, -⟩
    · exact hbyte
    · omega
  · intro heq
    refine percent (Char.ext (UInt32.ext ?_))
    have hvalue := congrArg UInt8.toNat heq
    rw [Utf8.toNat_byte (by omega)] at hvalue
    exact hvalue

/-- A segment ends nowhere in what it spells. -/
theorem Spells.inSegment (h : Spells segment bytes) : ∀ c ∈ segment, c ≠ '/' ∧ c ≠ '?' ∧ c ≠ '#' := by
  induction h with
  | nil => simp
  | literal literal _ ih =>
    rw [List.forall_mem_cons]
    exact ⟨literal.2.2, ih⟩
  | escape high low _ ih =>
    rw [List.forall_mem_cons, List.forall_mem_cons, List.forall_mem_cons]
    exact ⟨by decide, high.byte.2, low.byte.2, ih⟩

theorem Spells.ne_nil (h : Spells segment bytes) (some : bytes ≠ []) : segment ≠ [] := by
  cases h with
  | nil => exact absurd rfl some
  | literal | escape => simp

theorem decode_of_ne {b : UInt8} (h : b ≠ 0x25) (rest : Bytes) :
    decode (b :: rest) = b :: decode rest := by
  rw [decode]
  rintro _ _ _ rfl
  exact absurd rfl h

/-- A segment is decoded to what it spells. -/
theorem Spells.decode (h : Spells segment bytes) : decode (Utf8.encode segment) = bytes := by
  induction h with
  | nil => simp [Percent.decode]
  | literal literal _ ih =>
    obtain ⟨hbyte, hother⟩ := literal.byte
    rw [Utf8.encode_cons, hbyte, List.singleton_append, decode_of_ne hother, ih]
  | escape high low _ ih =>
    obtain ⟨⟨x, hx, hhigh⟩, -⟩ := high.byte
    obtain ⟨⟨y, hy, hlow⟩, -⟩ := low.byte
    have hpercent : String.utf8EncodeChar '%' = [0x25] := rfl
    simp only [Utf8.encode_cons, hpercent, hx, hy, List.singleton_append]
    rw [Percent.decode]
    simp only [hhigh, hlow, ih, Nat.mul_comm 16]

end

/-- What is encoded is spelt, if nothing that must be escaped is left as it is. -/
theorem spells_encode {escape : UInt8 → Bool}
    (enough : ∀ b, escape b = false → IsLiteral (Char.ofNat b.toNat)) (bytes : Bytes) :
    Spells ((encode escape bytes).map fun b => Char.ofNat b.toNat) bytes := by
  have digit : ∀ n : Fin 16, IsDigit (Char.ofNat (hexDigit n).toNat) n := by
    intro n
    have all : ∀ n : Fin 16,
        Char.ofNat (hexDigit n).toNat = "0123456789ABCDEF".toList[n]! := by decide
    exact .inr (all n)
  induction bytes with
  | nil => exact .nil
  | cons b bytes ih =>
    have hb := b.toNat_lt
    unfold encode at ih ⊢
    rw [List.flatMap_cons, List.map_append]
    by_cases h : escape b = true
    · rw [if_pos h]
      have spelt := Spells.escape (digit ⟨b.toNat / 16, by omega⟩) (digit ⟨b.toNat % 16, by omega⟩) ih
      rwa [Nat.div_add_mod, UInt8.ofNat_toNat] at spelt
    · rw [if_neg h]
      have spelt := Spells.literal (enough b (by simpa using h)) ih
      have hvalue : (Char.ofNat b.toNat).toNat = b.toNat := by
        have hvalid : b.toNat.isValidChar := .inl (by omega)
        rw [Char.ofNat, dif_pos hvalid]
        rfl
      rwa [hvalue, UInt8.ofNat_toNat] at spelt

/-- All bytes can be spelt: whatever cannot stand for itself can be escaped. -/
theorem exists_spells (bytes : Bytes) : ∃ segment, Spells segment bytes :=
  ⟨_, @spells_encode (fun b => !decide (IsLiteral (Char.ofNat b.toNat))) (by simp) bytes⟩

end SkinRelay.Percent
