import SkinRelay.Json.Scan
import SkinRelay.Json.Value
import SkinRelay.Proofs.Text.Utf8

/-!
Texts in JSON: whatever characters a text holds, it is read back as it was written (`text_chars`).
-/

namespace SkinRelay.Json

variable {s s' bytes rest : Bytes} {c : Char}

theorem textBytes_quote (s : Bytes) : textBytes (0x22 :: s) = .ok ([], s) := by
  rw [textBytes.eq_def]
  simp

theorem textBytes_escape (he : escape s = .ok (c, s')) (h : textBytes s' = .ok (bytes, rest)) :
    textBytes (0x5C :: s) = .ok (String.utf8EncodeChar c ++ bytes, rest) := by
  have hne : ¬(0x5C : UInt8) = 0x22 := by decide
  rw [textBytes.eq_def]
  simp only [hne, if_true, if_false]
  split
  · rename_i hf
    rw [he] at hf
    cases hf
  · rename_i hok
    rw [he] at hok
    cases hok
    rw [h]

/-- Whether a byte stands for itself in a text. -/
def IsPlain (b : UInt8) : Prop := b ≠ 0x22 ∧ b ≠ 0x5C ∧ ¬b < 0x20

theorem textBytes_plain {bs : Bytes} (plain : ∀ b ∈ bs, IsPlain b)
    (h : textBytes s = .ok (bytes, rest)) : textBytes (bs ++ s) = .ok (bs ++ bytes, rest) := by
  induction bs with
  | nil => exact h
  | cons b bs ih =>
    obtain ⟨⟨hq, hb, hc⟩, hrest⟩ := List.forall_mem_cons.mp plain
    rw [List.cons_append, textBytes.eq_def]
    simp only [hq, hb, hc, if_false, ih hrest]
    rfl

/-! ### Characters -/

/-- A character that needs no escape is made of plain bytes. -/
theorem isPlain_of_mem {c : Char} (quote : c ≠ '"') (backslash : c ≠ '\\') (control : 0x20 ≤ c.toNat)
    {b : UInt8} (hb : b ∈ String.utf8EncodeChar c) : IsPlain b := by
  have plain : 0x20 ≤ b.toNat → b.toNat ≠ 0x22 → b.toNat ≠ 0x5C → IsPlain b := by
    intro hlow hquote hbackslash
    refine ⟨?_, ?_, Nat.not_lt.mpr hlow⟩
    · rintro rfl
      exact hquote rfl
    · rintro rfl
      exact hbackslash rfl
  have other : ∀ d : Char, c ≠ d → c.toNat ≠ d.toNat := by
    intro d hne heq
    exact hne (Char.ext (UInt32.ext heq))
  rcases Utf8.utf8EncodeChar_spec c with ⟨hlt, hbytes⟩ | ⟨-, hbytes⟩
  · rw [hbytes, List.mem_singleton] at hb
    subst hb
    rw [Utf8.toNat_byte (by omega)] at plain
    exact plain control (other '"' quote) (other '\\' backslash)
  · have := hbytes b hb
    exact plain (by omega) (by omega) (by omega)

/-- A hexadecimal digit is one byte, and read back. -/
theorem hexDigit_bytes {n : Nat} (h : n < 16) :
    ∃ b, String.utf8EncodeChar (hexDigit n) = [b] ∧ Bytes.hexValue? b = some n := by
  have all : ∀ n : Fin 16,
      (String.utf8EncodeChar (hexDigit n)).map Bytes.hexValue? = [some n.val] := by
    decide
  simpa using List.map_eq_singleton_iff.mp (all ⟨n, h⟩)

theorem escape_control {c : Char} (control : c.toNat < 0x20) (s : Bytes) :
    escape (Utf8.encode ['u', '0', '0', hexDigit (c.toNat / 16), hexDigit (c.toNat % 16)] ++ s) =
      .ok (c, s) := by
  obtain ⟨a, ha, hvalue⟩ := hexDigit_bytes (n := c.toNat / 16) (by omega)
  obtain ⟨b, hb, hvalue'⟩ := hexDigit_bytes (n := c.toNat % 16) (by omega)
  have hbytes : Utf8.encode ['u', '0', '0', hexDigit (c.toNat / 16), hexDigit (c.toNat % 16)] ++ s =
      0x75 :: 0x30 :: 0x30 :: a :: b :: s := by
    simp only [Utf8.encode_cons, Utf8.encode_nil, ha, hb]
    rfl
  have hunit : unit (0x30 :: 0x30 :: a :: b :: s) = .ok (c.toNat, s) := by
    have hzero : Bytes.hexValue? 0x30 = some 0 := rfl
    simp only [unit, hzero, hvalue, hvalue']
    congr 2
    omega
  have hshort : shortEscape? 0x75 = none := rfl
  have htrailing : isTrailing c.toNat = false := by
    simp only [isTrailing, Bool.and_eq_false_iff, decide_eq_false_iff_not]
    omega
  have hleading : isLeading c.toNat = false := by
    simp only [isLeading, Bool.and_eq_false_iff, decide_eq_false_iff_not]
    omega
  rw [hbytes, escape]
  simp only [hshort, if_true, hunit, htrailing, hleading, Bool.false_eq_true, if_false,
    Char.ofNat_toNat]

/-- A character is read back as it was written. -/
theorem textBytes_escaped (c : Char) (h : textBytes s = .ok (bytes, rest)) :
    textBytes (Utf8.encode (escaped c) ++ s) = .ok (String.utf8EncodeChar c ++ bytes, rest) := by
  unfold escaped
  split
  · exact textBytes_escape rfl h
  · exact textBytes_escape rfl h
  · exact textBytes_escape rfl h
  · exact textBytes_escape rfl h
  · exact textBytes_escape rfl h
  · exact textBytes_escape rfl h
  · exact textBytes_escape rfl h
  · split
    · rename_i control
      exact textBytes_escape (escape_control control s) h
    · rename_i quote backslash _ _ _ _ _ control
      rw [Utf8.encode_cons, Utf8.encode_nil, List.append_nil]
      exact textBytes_plain (fun b hb => isPlain_of_mem quote backslash (by omega) hb) h

theorem textBytes_chars (cs : List Char) (rest : Bytes) :
    textBytes (Utf8.encode (cs.flatMap escaped) ++ 0x22 :: rest) = .ok (Utf8.encode cs, rest) := by
  induction cs with
  | nil => exact textBytes_quote rest
  | cons c cs ih =>
    rw [List.flatMap_cons, Utf8.encode_append, List.append_assoc]
    exact textBytes_escaped c ih

/-- A text is read back as it was written. -/
theorem text_chars (t : String) (rest : Bytes) :
    text (Utf8.encode (t.toList.flatMap escaped) ++ 0x22 :: rest) = .ok (t, rest) := by
  have hread : Utf8.toString? (Utf8.encode t.toList) = some t := Utf8.toString?_ofString t
  simp only [text, textBytes_chars, hread]

end SkinRelay.Json
