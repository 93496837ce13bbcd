import Mathlib.Tactic.Common
import SkinRelay.Base64

/-!
Decoding undoes encoding in an alphabet whose symbols can be told apart (`decode_encode`), and an
encoding is a row of symbols and at most two bytes of padding (`padded_encode`).
-/

namespace SkinRelay.Base64

/-- The symbols of an alphabet can be told apart, and from the padding. -/
structure Alphabet.IsLawful (alphabet : Alphabet) : Prop where
  value_symbol : ∀ n < 64, alphabet.value? (alphabet.symbol n) = some n
  symbol_ne_pad : ∀ n < 64, alphabet.symbol n ≠ pad

theorem urlSafe_isLawful : urlSafe.IsLawful where
  value_symbol := by decide
  symbol_ne_pad := by decide

section

variable {alphabet : Alphabet}

theorem valueAt_symbol (lawful : alphabet.IsLawful) (offset : Nat) {n : Nat} (h : n < 64) :
    alphabet.valueAt offset (alphabet.symbol n) = .ok n := by
  simp only [Alphabet.valueAt, lawful.value_symbol n h]

/-! ### The last group -/

theorem lastValues_pads (start k : Nat) {index : Nat} (firstPad : Option Nat) (h : 2 ≤ index) :
    lastValues alphabet start index firstPad (List.replicate k pad) = .ok [] := by
  induction k generalizing index firstPad with
  | zero => rw [List.replicate_zero, lastValues.eq_def]
  | succ k ih =>
    rw [List.replicate_succ, lastValues.eq_def]
    simp only [if_true, if_neg (Nat.not_lt.mpr h)]
    exact ih _ (Nat.le_succ_of_le h)

/-- Symbols have their values, and what pads them has none. -/
theorem lastValues_symbols (lawful : alphabet.IsLawful) (start k : Nat) {ns : List Nat}
    (small : ∀ n ∈ ns, n < 64) {index : Nat} (h : 2 ≤ index + ns.length) :
    lastValues alphabet start index none (ns.map alphabet.symbol ++ List.replicate k pad) =
      .ok ns := by
  induction ns generalizing index with
  | nil => exact lastValues_pads start k none h
  | cons n ns ih =>
    obtain ⟨hn, hns⟩ := List.forall_mem_cons.mp small
    rw [List.length_cons] at h
    have hrest : lastValues alphabet start (index + 1) none
        (ns.map alphabet.symbol ++ List.replicate k pad) = .ok ns := ih hns (by omega)
    rw [List.map_cons, List.cons_append, lastValues.eq_def]
    simp only [if_neg (lawful.symbol_ne_pad n hn), valueAt_symbol lawful _ hn, hrest]

section

variable {start : Nat} {last : Bytes} {w x y z : Nat}

theorem decodeLast_two (hlength : last.length = 4) (unused : x % 16 = 0)
    (h : lastValues alphabet start 0 none last = .ok [w, x]) :
    decodeLast alphabet start last = .ok [UInt8.ofNat (w * 4 + x / 16)] := by
  have hne : last ≠ [] := List.ne_nil_of_length_eq_add_one hlength
  have htwo : ¬[w, x].length < 2 := by simp
  simp only [decodeLast, h, hne, htwo, hlength, unused, ne_eq, not_true_eq_false, if_false, if_true]

theorem decodeLast_three (hlength : last.length = 4) (unused : y % 4 = 0)
    (h : lastValues alphabet start 0 none last = .ok [w, x, y]) :
    decodeLast alphabet start last =
      .ok [UInt8.ofNat (w * 4 + x / 16), UInt8.ofNat (x % 16 * 16 + y / 4)] := by
  have hne : last ≠ [] := List.ne_nil_of_length_eq_add_one hlength
  have htwo : ¬[w, x, y].length < 2 := by simp
  simp only [decodeLast, h, hne, htwo, hlength, unused, ne_eq, not_true_eq_false, if_false, if_true]

theorem decodeLast_four (hlength : last.length = 4)
    (h : lastValues alphabet start 0 none last = .ok [w, x, y, z]) :
    decodeLast alphabet start last = .ok (group w x y z) := by
  have hne : last ≠ [] := List.ne_nil_of_length_eq_add_one hlength
  have htwo : ¬[w, x, y, z].length < 2 := by simp
  simp only [decodeLast, h, hne, htwo, hlength, ne_eq, not_true_eq_false, if_false]

end

/-! ### The values of bytes -/

/-- The values of the symbols that a byte is written as. -/
def oneValues (a : UInt8) : List Nat := [a.toNat / 4, a.toNat % 4 * 16]

def twoValues (a b : UInt8) : List Nat :=
  [a.toNat / 4, a.toNat % 4 * 16 + b.toNat / 16, b.toNat % 16 * 4]

def threeValues (a b c : UInt8) : List Nat :=
  [a.toNat / 4, a.toNat % 4 * 16 + b.toNat / 16, b.toNat % 16 * 4 + c.toNat / 64, c.toNat % 64]

section

variable (a b c : UInt8)

theorem oneValues_lt : ∀ n ∈ oneValues a, n < 64 := by
  have ha := a.toNat_lt
  simp only [oneValues, List.forall_mem_cons]
  exact ⟨by omega, by omega, by simp⟩

theorem twoValues_lt : ∀ n ∈ twoValues a b, n < 64 := by
  have ha := a.toNat_lt
  have hb := b.toNat_lt
  simp only [twoValues, List.forall_mem_cons]
  exact ⟨by omega, by omega, by omega, by simp⟩

theorem threeValues_lt : ∀ n ∈ threeValues a b c, n < 64 := by
  have ha := a.toNat_lt
  have hb := b.toNat_lt
  have hc := c.toNat_lt
  simp only [threeValues, List.forall_mem_cons]
  exact ⟨by omega, by omega, by omega, by omega, by simp⟩

theorem encode_one : encode alphabet [a] =
    (oneValues a).map alphabet.symbol ++ List.replicate 2 pad := rfl

theorem encode_two : encode alphabet [a, b] =
    (twoValues a b).map alphabet.symbol ++ List.replicate 1 pad := rfl

theorem encode_three (rest : Bytes) : encode alphabet (a :: b :: c :: rest) =
    (threeValues a b c).map alphabet.symbol ++ encode alphabet rest := rfl

theorem byte_eq {n : Nat} (h : n = a.toNat) : UInt8.ofNat n = a := by
  rw [h, UInt8.ofNat_toNat]

theorem decodeLast_encode_one (lawful : alphabet.IsLawful) (start : Nat) :
    decodeLast alphabet start (encode alphabet [a]) = .ok [a] := by
  have ha := a.toNat_lt
  have hvalues : lastValues alphabet start 0 none
      ((oneValues a).map alphabet.symbol ++ List.replicate 2 pad) = .ok (oneValues a) :=
    lastValues_symbols lawful start 2 (oneValues_lt a) (by simp [oneValues])
  rw [encode_one, decodeLast_two rfl (Nat.mul_mod_left ..) hvalues, byte_eq a (by omega)]

theorem decodeLast_encode_two (lawful : alphabet.IsLawful) (start : Nat) :
    decodeLast alphabet start (encode alphabet [a, b]) = .ok [a, b] := by
  have ha := a.toNat_lt
  have hb := b.toNat_lt
  have hvalues : lastValues alphabet start 0 none
      ((twoValues a b).map alphabet.symbol ++ List.replicate 1 pad) = .ok (twoValues a b) :=
    lastValues_symbols lawful start 1 (twoValues_lt a b) (by simp [twoValues])
  rw [encode_two, decodeLast_three rfl (Nat.mul_mod_left ..) hvalues, byte_eq a (by omega),
    byte_eq b (by omega)]

/-- The values of the symbols that three bytes are written as give them back. -/
theorem group_values :
    group (a.toNat / 4) (a.toNat % 4 * 16 + b.toNat / 16) (b.toNat % 16 * 4 + c.toNat / 64)
      (c.toNat % 64) = [a, b, c] := by
  have ha := a.toNat_lt
  have hb := b.toNat_lt
  have hc := c.toNat_lt
  rw [group, byte_eq a (by omega), byte_eq b (by omega), byte_eq c (by omega)]

theorem decodeLast_encode_three (lawful : alphabet.IsLawful) (start : Nat) :
    decodeLast alphabet start (encode alphabet [a, b, c]) = .ok [a, b, c] := by
  have hvalues : lastValues alphabet start 0 none
      ((threeValues a b c).map alphabet.symbol ++ List.replicate 0 pad) = .ok (threeValues a b c) :=
    lastValues_symbols lawful start 0 (threeValues_lt a b c) (by simp [threeValues])
  have hlast : encode alphabet [a, b, c] =
      (threeValues a b c).map alphabet.symbol ++ List.replicate 0 pad := rfl
  rw [hlast, decodeLast_four rfl hvalues, group_values]

end

/-! ### All groups -/

/-- A full group with another one behind it. -/
theorem decodeFrom_group (lawful : alphabet.IsLawful) (a b c : UInt8) {start : Nat}
    {s bytes : Bytes} (more : s ≠ []) (h : decodeFrom alphabet (start + 4) s = .ok bytes) :
    decodeFrom alphabet start ((threeValues a b c).map alphabet.symbol ++ s) =
      .ok (a :: b :: c :: bytes) := by
  obtain ⟨e, rest, rfl⟩ := List.exists_cons_of_ne_nil more
  have hlt := threeValues_lt a b c
  simp only [threeValues, List.forall_mem_cons] at hlt
  obtain ⟨hw, hx, hy, hz, -⟩ := hlt
  simp only [threeValues, List.map_cons, List.map_nil, List.cons_append, List.nil_append]
  rw [decodeFrom, valueAt_symbol lawful _ hw, valueAt_symbol lawful _ hx,
    valueAt_symbol lawful _ hy, valueAt_symbol lawful _ hz, h]
  exact congrArg (fun bytes' => Except.ok (bytes' ++ bytes)) (group_values a b c)

theorem encode_ne_nil {bs : Bytes} (h : bs ≠ []) : encode alphabet bs ≠ [] := by
  match bs, h with
  | [_], _ | [_, _], _ | _ :: _ :: _ :: _, _ => simp [encode]

theorem decodeFrom_encode (lawful : alphabet.IsLawful) (bs : Bytes) (start : Nat) :
    decodeFrom alphabet start (encode alphabet bs) = .ok bs := by
  induction bs using encode.induct generalizing start with
  | case1 => rfl
  | case2 a => exact decodeLast_encode_one a lawful start
  | case3 a b => exact decodeLast_encode_two a b lawful start
  | case4 a b c rest ih =>
    cases rest with
    | nil => exact decodeLast_encode_three a b c lawful start
    | cons d rest =>
      exact decodeFrom_group lawful a b c (encode_ne_nil (List.cons_ne_nil d rest)) (ih (start + 4))

end

theorem length_encode (alphabet : Alphabet) (bs : Bytes) :
    (encode alphabet bs).length % 4 = 0 := by
  induction bs using encode.induct with
  | case1 | case2 | case3 => simp [encode]
  | case4 a b c rest ih =>
    simp only [encode, List.length_cons]
    omega

/-- What is encoded is decoded again. -/
theorem decode_encode {alphabet : Alphabet} (lawful : alphabet.IsLawful) (bs : Bytes) :
    decode alphabet (encode alphabet bs) = .ok bs := by
  have hlength := length_encode alphabet bs
  have hstray : strayByte? alphabet (encode alphabet bs) = none := by
    unfold strayByte?
    split
    · rw [if_neg]
      omega
    · rfl
  simp only [decode, hstray, decodeFrom_encode lawful]

/-- An encoding is a row of symbols, with at most two bytes of padding behind them. -/
theorem padded_encode (alphabet : Alphabet) (bs : Bytes) :
    ∃ (ns : List Nat) (k : Nat),
      encode alphabet bs = ns.map alphabet.symbol ++ List.replicate k pad ∧ (∀ n ∈ ns, n < 64) ∧ k ≤ 2 := by
  induction bs using encode.induct with
  | case1 => exact ⟨[], 0, rfl, by simp, by decide⟩
  | case2 a => exact ⟨_, 2, encode_one a, oneValues_lt a, by decide⟩
  | case3 a b => exact ⟨_, 1, encode_two a b, twoValues_lt a b, by decide⟩
  | case4 a b c rest ih =>
    obtain ⟨ns, k, hrest, small, hk⟩ := ih
    refine ⟨threeValues a b c ++ ns, k, ?_, ?_, hk⟩
    · rw [encode_three, hrest, List.map_append, List.append_assoc]
    · exact List.forall_mem_append.mpr ⟨threeValues_lt a b c, small⟩

end SkinRelay.Base64
