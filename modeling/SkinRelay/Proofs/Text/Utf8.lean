import Mathlib.Tactic.Common
import SkinRelay.Text.Utf8

/-!
Decoding undoes encoding: a text that is written as UTF-8 is read back as it was
(`toString?_ofString`). A character beyond ASCII has no byte in common with ASCII.
-/

namespace SkinRelay.Utf8

theorem toNat_lt (c : Char) : c.toNat < 0x110000 := by
  have h : c.toNat.isValidChar := c.valid
  unfold Nat.isValidChar at h
  omega

theorem scalar?_toNat (c : Char) {n least : Nat} (hn : n = c.toNat) (h : least ≤ n) :
    scalar? n least = some c := by
  subst hn
  have hv : c.toNat.isValidChar := c.valid
  unfold scalar?
  rw [dif_pos ⟨h, hv⟩]
  exact congrArg some (Char.ext (UInt32.ext rfl))

theorem toNat_byte {n : Nat} (h : n < 256) : (UInt8.ofNat n).toNat = n := by
  rw [UInt8.toNat_ofNat']
  omega

theorem byte_lt {n : Nat} (m : UInt8) (h : n < 256) : UInt8.ofNat n < m ↔ n < m.toNat := by
  rw [UInt8.lt_iff_toNat_lt, toNat_byte h]

theorem tail?_byte {n : Nat} (h : n < 64) : tail? (UInt8.ofNat (n + 128)) = some n := by
  have hn : (UInt8.ofNat (n + 128)).toNat = n + 128 := toNat_byte (by omega)
  have hlow : (0x80 : UInt8) ≤ UInt8.ofNat (n + 128) := by
    rw [UInt8.le_iff_toNat_le, hn]
    exact Nat.le_add_left 128 n
  have hhigh : UInt8.ofNat (n + 128) ≤ 0xBF := by
    rw [UInt8.le_iff_toNat_le, hn]
    show n + 128 ≤ 191
    omega
  unfold tail?
  rw [if_pos ⟨hlow, hhigh⟩, hn]
  exact congrArg some (Nat.add_sub_cancel n 128)

section

variable {rest : Bytes} {a b d e : UInt8} {y z w : Nat} {c : Char}

theorem decode?_one (ha : a < 0x80) (hc : scalar? a.toNat 0 = some c) :
    decode? (a :: rest) = (decode? rest).map (c :: ·) := by
  rw [decode?.eq_def]
  simp only [ha, if_true, hc]
  cases decode? rest <;> rfl

theorem decode?_two (ha : ¬a < 0xC0) (ha' : a < 0xE0) (hb : tail? b = some y)
    (hc : scalar? ((a.toNat - 0xC0) * 0x40 + y) 0x80 = some c) :
    decode? (a :: b :: rest) = (decode? rest).map (c :: ·) := by
  have hone : ¬a < 0x80 := by
    simp only [UInt8.lt_iff_toNat_lt] at ha ⊢
    exact fun h => ha (Nat.lt_trans h (by decide))
  rw [decode?.eq_def]
  simp only [hone, ha, ha', if_true, if_false, hb, hc]
  cases decode? rest <;> rfl

theorem decode?_three (ha : ¬a < 0xE0) (ha' : a < 0xF0) (hb : tail? b = some y)
    (hd : tail? d = some z)
    (hc : scalar? (((a.toNat - 0xE0) * 0x40 + y) * 0x40 + z) 0x800 = some c) :
    decode? (a :: b :: d :: rest) = (decode? rest).map (c :: ·) := by
  have hbelow : ∀ m : UInt8, m ≤ 0xE0 → ¬a < m := by
    intro m hm h
    exact ha (UInt8.lt_of_lt_of_le h hm)
  rw [decode?.eq_def]
  simp only [hbelow 0x80 (by decide), hbelow 0xC0 (by decide), ha, ha', if_true, if_false, hb, hd,
    hc]
  cases decode? rest <;> rfl

theorem decode?_four (ha : ¬a < 0xF0) (ha' : a < 0xF8) (hb : tail? b = some y)
    (hd : tail? d = some z) (he : tail? e = some w)
    (hc : scalar? ((((a.toNat - 0xF0) * 0x40 + y) * 0x40 + z) * 0x40 + w) 0x10000 = some c) :
    decode? (a :: b :: d :: e :: rest) = (decode? rest).map (c :: ·) := by
  have hbelow : ∀ m : UInt8, m ≤ 0xF0 → ¬a < m := by
    intro m hm h
    exact ha (UInt8.lt_of_lt_of_le h hm)
  rw [decode?.eq_def]
  simp only [hbelow 0x80 (by decide), hbelow 0xC0 (by decide), hbelow 0xE0 (by decide), ha, ha',
    if_true, if_false, hb, hd, he, hc]
  cases decode? rest <;> rfl

end

/-- A character is read off the front of what follows it. -/
theorem decode?_utf8EncodeChar (c : Char) (rest : Bytes) :
    decode? (String.utf8EncodeChar c ++ rest) = (decode? rest).map (c :: ·) := by
  have hc := toNat_lt c
  have hval : c.val.toNat = c.toNat := rfl
  unfold String.utf8EncodeChar
  simp only [hval]
  split
  · rename_i h
    exact decode?_one ((byte_lt _ (by omega)).mpr (Nat.lt_succ_of_le h))
      (scalar?_toNat c (toNat_byte (by omega)) (Nat.zero_le _))
  · split
    · rename_i above below
      refine decode?_two ?_ ?_ (tail?_byte (by omega)) (scalar?_toNat c ?_ ?_)
      · rw [byte_lt _ (by omega)]
        exact Nat.not_lt.mpr (Nat.le_add_left 192 _)
      · rw [byte_lt _ (by omega)]
        show _ < 224
        omega
      · rw [toNat_byte (by omega)]
        omega
      · rw [toNat_byte (by omega)]
        omega
    · split
      · rename_i above below
        refine decode?_three ?_ ?_ (tail?_byte (by omega)) (tail?_byte (by omega))
          (scalar?_toNat c ?_ ?_)
        · rw [byte_lt _ (by omega)]
          exact Nat.not_lt.mpr (Nat.le_add_left 224 _)
        · rw [byte_lt _ (by omega)]
          show _ < 240
          omega
        · rw [toNat_byte (by omega)]
          omega
        · rw [toNat_byte (by omega)]
          omega
      · rename_i above
        refine decode?_four ?_ ?_ (tail?_byte (by omega)) (tail?_byte (by omega))
          (tail?_byte (by omega)) (scalar?_toNat c ?_ ?_)
        · rw [byte_lt _ (by omega)]
          exact Nat.not_lt.mpr (Nat.le_add_left 240 _)
        · rw [byte_lt _ (by omega)]
          show _ < 248
          omega
        · rw [toNat_byte (by omega)]
          omega
        · rw [toNat_byte (by omega)]
          omega

/-- The bytes of a character are that character, if it is an ASCII one, and else none of them is
an ASCII character. -/
theorem utf8EncodeChar_spec (c : Char) :
    c.toNat < 0x80 ∧ String.utf8EncodeChar c = [UInt8.ofNat c.toNat] ∨
      0x80 ≤ c.toNat ∧ ∀ b ∈ String.utf8EncodeChar c, 0x80 ≤ b.toNat := by
  have hc := toNat_lt c
  have hval : c.val.toNat = c.toNat := rfl
  unfold String.utf8EncodeChar
  simp only [hval]
  split
  · exact .inl ⟨by omega, rfl⟩
  · refine .inr ⟨by omega, ?_⟩
    have byte : ∀ n, 0x80 ≤ n → n < 256 → 0x80 ≤ (UInt8.ofNat n).toNat := by
      intro n hlow hhigh
      rwa [toNat_byte hhigh]
    split
    · rw [List.forall_mem_cons, List.forall_mem_cons]
      exact ⟨byte _ (by omega) (by omega), byte _ (by omega) (by omega), by simp⟩
    · split
      · rw [List.forall_mem_cons, List.forall_mem_cons, List.forall_mem_cons]
        exact ⟨byte _ (by omega) (by omega), byte _ (by omega) (by omega),
          byte _ (by omega) (by omega), by simp⟩
      · rw [List.forall_mem_cons, List.forall_mem_cons, List.forall_mem_cons, List.forall_mem_cons]
        exact ⟨byte _ (by omega) (by omega), byte _ (by omega) (by omega),
          byte _ (by omega) (by omega), byte _ (by omega) (by omega), by simp⟩

/-- A well-formed sequence is read back as it was written. -/
@[simp] theorem decode?_encode (cs : List Char) : decode? (encode cs) = some cs := by
  induction cs with
  | nil => simp
  | cons c cs ih => rw [encode_cons, decode?_utf8EncodeChar, ih, Option.map_some]

theorem toString?_ofString (s : String) : toString? (ofString s) = some s := by
  simp [toString?, ofString]

/-- Bytes that are ASCII characters are the encoding of these characters. -/
theorem ofString_ascii {bs : Bytes} (ascii : ∀ b ∈ bs, b.toNat < 0x80) :
    ofString (String.ofList (bs.map fun b => Char.ofNat b.toNat)) = bs := by
  rw [ofString, String.toList_ofList]
  induction bs with
  | nil => rfl
  | cons b bs ih =>
    obtain ⟨hb, hbs⟩ := List.forall_mem_cons.mp ascii
    have hvalid : b.toNat.isValidChar := .inl (by omega)
    have hvalue : (Char.ofNat b.toNat).toNat = b.toNat := by
      rw [Char.ofNat, dif_pos hvalid]
      rfl
    rw [List.map_cons, encode_cons, ih hbs]
    rcases utf8EncodeChar_spec (Char.ofNat b.toNat) with ⟨-, hbytes⟩ | ⟨hlarge, -⟩
    · rw [hbytes, hvalue, UInt8.ofNat_toNat]
      rfl
    · omega

end SkinRelay.Utf8
