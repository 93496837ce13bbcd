import SkinRelay.Proofs.Base64

/-!
What a decoder accepts. It accepts encodings and nothing else (`decode_eq_ok_iff`), so every text
that it accepts encodes one byte sequence, and if a text is an encoding in both alphabets, then it
is one of the same bytes (`bytes_unique`). A text that has symbols which only one alphabet knows and
symbols which only the other knows is an encoding in neither (`not_encodes_of_mixed`).
-/

namespace SkinRelay.Base64

section

variable {alphabet : Alphabet}

/-! ### Symbols and their values -/

/-- Only the symbol of a value has it. -/
theorem symbol_value {b : UInt8} {n : Nat} (h : alphabet.value? b = some n) :
    n < 64 ∧ alphabet.symbol n = b := by
  have hrange : ∀ low high : UInt8, low ≤ b ∧ b ≤ high ↔
      low.toNat ≤ b.toNat ∧ b.toNat ≤ high.toNat := by
    intro low high
    rw [UInt8.le_iff_toNat_le, UInt8.le_iff_toNat_le]
  simp only [Alphabet.value?, hrange, UInt8.toNat_ofNat] at h
  simp only [Alphabet.symbol]
  split at h
  · rename_i capital
    cases h
    refine ⟨by omega, ?_⟩
    rw [if_pos (by omega)]
    exact byte_eq b (by omega)
  · split at h
    · rename_i small
      cases h
      refine ⟨by omega, ?_⟩
      rw [if_neg (by omega), if_pos (by omega)]
      exact byte_eq b (by omega)
    · split at h
      · rename_i digit
        cases h
        refine ⟨by omega, ?_⟩
        rw [if_neg (by omega), if_neg (by omega), if_pos (by omega)]
        exact byte_eq b (by omega)
      · split at h
        · rename_i sixtyTwo
          cases h
          exact ⟨by decide, sixtyTwo.symm⟩
        · split at h
          · rename_i sixtyThree
            cases h
            exact ⟨by decide, sixtyThree.symm⟩
          · cases h

theorem symbol_of_valueAt {offset n : Nat} {b : UInt8} (h : alphabet.valueAt offset b = .ok n) :
    n < 64 ∧ alphabet.symbol n = b := by
  unfold Alphabet.valueAt at h
  split at h
  · rename_i hvalue
    cases h
    exact symbol_value hvalue
  · cases h

/-! ### The last group -/

/-- Behind a byte of padding there is only padding. -/
theorem pads_of_lastValues {start index offset : Nat} {last : Bytes} {ns : List Nat}
    (h : lastValues alphabet start index (some offset) last = .ok ns) :
    ns = [] ∧ last = List.replicate last.length pad := by
  induction last generalizing index with
  | nil =>
    rw [lastValues.eq_def] at h
    cases h
    exact ⟨rfl, rfl⟩
  | cons b rest ih =>
    rw [lastValues.eq_def] at h
    simp only at h
    split at h
    · rename_i hpad
      split at h
      · cases h
      · obtain ⟨hns, hrest⟩ := ih h
        exact ⟨hns, by rw [List.length_cons, List.replicate_succ, ← hrest, hpad]⟩
    · cases h

/-- A last group is a row of symbols, with padding behind two of them at least. -/
theorem symbols_of_lastValues {start index : Nat} {last : Bytes} {ns : List Nat}
    (h : lastValues alphabet start index none last = .ok ns) :
    (∀ n ∈ ns, n < 64) ∧ ∃ k, last = ns.map alphabet.symbol ++ List.replicate k pad ∧
      (0 < k → 2 ≤ index + ns.length) := by
  induction last generalizing index ns with
  | nil =>
    rw [lastValues.eq_def] at h
    cases h
    exact ⟨by simp, 0, rfl, by simp⟩
  | cons b rest ih =>
    rw [lastValues.eq_def] at h
    simp only at h
    split at h
    · rename_i hpad
      split at h
      · cases h
      · rename_i late
        obtain ⟨rfl, hrest⟩ := pads_of_lastValues h
        refine ⟨by simp, rest.length + 1, ?_, fun _ => Nat.le_of_not_lt late⟩
        rw [List.map_nil, List.nil_append, List.replicate_succ, ← hrest, hpad]
    · split at h
      · cases h
      · rename_i n hvalue
        split at h
        · cases h
        · rename_i ms hms
          cases h
          obtain ⟨small, k, hrest, late⟩ := ih hms
          obtain ⟨hn, hsymbol⟩ := symbol_of_valueAt hvalue
          refine ⟨List.forall_mem_cons.mpr ⟨hn, small⟩, k, ?_, ?_⟩
          · rw [List.map_cons, hsymbol, List.cons_append, ← hrest]
          · intro hk
            have := late hk
            rw [List.length_cons]
            omega

section

variable {w x y z : Nat}

/-! ### The bytes of values -/

theorem toNat_byte {n : Nat} (h : n < 256) : (UInt8.ofNat n).toNat = n := by
  rw [UInt8.toNat_ofNat']
  omega

/-- Two values make a byte if the rest of the second one is zero. -/
theorem oneValues_bytes (hw : w < 64) (hx : x < 64) (unused : x % 16 = 0) :
    oneValues (UInt8.ofNat (w * 4 + x / 16)) = [w, x] := by
  rw [oneValues, toNat_byte (by omega)]
  congr 1
  · omega
  · congr 1
    omega

theorem twoValues_bytes (hw : w < 64) (hx : x < 64) (hy : y < 64) (unused : y % 4 = 0) :
    twoValues (UInt8.ofNat (w * 4 + x / 16)) (UInt8.ofNat (x % 16 * 16 + y / 4)) = [w, x, y] := by
  rw [twoValues, toNat_byte (by omega), toNat_byte (by omega)]
  congr 1
  · omega
  · congr 1
    · omega
    · congr 1
      omega

theorem threeValues_bytes (hw : w < 64) (hx : x < 64) (hy : y < 64) (hz : z < 64) :
    threeValues (UInt8.ofNat (w * 4 + x / 16)) (UInt8.ofNat (x % 16 * 16 + y / 4))
      (UInt8.ofNat (y % 4 * 64 + z)) = [w, x, y, z] := by
  rw [threeValues, toNat_byte (by omega), toNat_byte (by omega), toNat_byte (by omega)]
  congr 1
  · omega
  · congr 1
    · omega
    · congr 1
      · omega
      · congr 1
        omega

/-- A full group is encoded by its own symbols. -/
theorem encode_group (alphabet : Alphabet) (hw : w < 64) (hx : x < 64) (hy : y < 64) (hz : z < 64)
    (bytes : Bytes) : encode alphabet (group w x y z ++ bytes) =
      [w, x, y, z].map alphabet.symbol ++ encode alphabet bytes := by
  rw [← threeValues_bytes hw hx hy hz, ← encode_three]
  rfl

end

/-- What a last group is decoded to: its symbols make one, two or three bytes. -/
theorem eq_encode_of_decodeLast {start : Nat} {last bytes : Bytes}
    (h : decodeLast alphabet start last = .ok bytes) : last = encode alphabet bytes := by
  unfold decodeLast at h
  split at h
  · cases h
  · rename_i values hvalues
    obtain ⟨small, k, hlast, -⟩ := symbols_of_lastValues hvalues
    split at h
    · rename_i hnil
      cases h
      exact hnil
    · split at h
      · cases h
      · rename_i hlong
        split at h
        · cases h
        · rename_i hfour
          have hlength : values.length + k = 4 := by
            rw [hlast] at hfour
            simpa using hfour
          match values, hlong with
          | [], hlong | [_], hlong => simp at hlong
          | [w, x], _ =>
            obtain rfl : k = 2 := by simp only [List.length_cons, List.length_nil] at hlength; omega
            simp only [List.forall_mem_cons] at small
            obtain ⟨hw, hx, -⟩ := small
            dsimp only at h
            split at h
            · rename_i unused
              cases h
              rw [encode_one, oneValues_bytes hw hx unused, hlast]
            · cases h
          | [w, x, y], _ =>
            obtain rfl : k = 1 := by simp only [List.length_cons, List.length_nil] at hlength; omega
            simp only [List.forall_mem_cons] at small
            obtain ⟨hw, hx, hy, -⟩ := small
            dsimp only at h
            split at h
            · rename_i unused
              cases h
              rw [encode_two, twoValues_bytes hw hx hy unused, hlast]
            · cases h
          | w :: x :: y :: z :: rest, _ =>
            obtain ⟨rfl, rfl⟩ : rest = [] ∧ k = 0 := by
              simp only [List.length_cons] at hlength
              exact ⟨List.length_eq_zero_iff.mp (by omega), by omega⟩
            simp only [List.forall_mem_cons] at small
            obtain ⟨hw, hx, hy, hz, -⟩ := small
            cases h
            have hgroup := encode_group alphabet hw hx hy hz []
            rw [List.append_nil] at hgroup
            rw [hgroup, hlast]
            rfl

/-! ### Whole texts -/

theorem ok_of_bind {ε α β : Type} {x : Except ε α} {f : α → Except ε β} {b : β}
    (h : x >>= f = .ok b) : ∃ a, x = .ok a ∧ f a = .ok b := by
  cases x with
  | error => cases h
  | ok a => exact ⟨a, rfl, h⟩

theorem eq_encode_of_decodeFrom {start : Nat} {s bytes : Bytes}
    (h : decodeFrom alphabet start s = .ok bytes) : s = encode alphabet bytes := by
  induction start, s using decodeFrom.induct generalizing bytes with
  | case1 start a b c d e rest ih =>
    rw [decodeFrom] at h
    obtain ⟨w, hw, h⟩ := ok_of_bind h
    obtain ⟨x, hx, h⟩ := ok_of_bind h
    obtain ⟨y, hy, h⟩ := ok_of_bind h
    obtain ⟨z, hz, h⟩ := ok_of_bind h
    obtain ⟨more, hmore, h⟩ := ok_of_bind h
    cases h
    obtain ⟨hw64, rfl⟩ := symbol_of_valueAt hw
    obtain ⟨hx64, rfl⟩ := symbol_of_valueAt hx
    obtain ⟨hy64, rfl⟩ := symbol_of_valueAt hy
    obtain ⟨hz64, rfl⟩ := symbol_of_valueAt hz
    rw [encode_group alphabet hw64 hx64 hy64 hz64, ← ih hmore]
    rfl
  | case2 start last short =>
    rw [decodeFrom.eq_2 _ _ _ short] at h
    exact eq_encode_of_decodeLast h

/-- A text is decoded to some bytes exactly if it is their encoding. -/
theorem decode_eq_ok_iff (lawful : alphabet.IsLawful) {s bytes : Bytes} :
    decode alphabet s = .ok bytes ↔ s = encode alphabet bytes := by
  constructor
  · intro h
    unfold decode at h
    split at h
    · cases h
    · exact eq_encode_of_decodeFrom h
  · rintro rfl
    exact decode_encode lawful bytes

end

/-! ### Both alphabets -/

theorem standard_isLawful : standard.IsLawful where
  value_symbol := by decide
  symbol_ne_pad := by decide

/-- Whether a text is the encoding of these bytes in one of the alphabets. -/
def Encodes (s bytes : Bytes) : Prop := s = encode urlSafe bytes ∨ s = encode standard bytes

/-- The standard symbol of the same value. -/
def toStandard (b : UInt8) : UInt8 :=
  if b = urlSafe.sixtyTwo then standard.sixtyTwo
  else if b = urlSafe.sixtyThree then standard.sixtyThree
  else b

theorem toStandard_symbol {n : Nat} (h : n < 64) :
    toStandard (urlSafe.symbol n) = standard.symbol n ∧
      toStandard (standard.symbol n) = standard.symbol n := by
  have all : ∀ n < 64, toStandard (urlSafe.symbol n) = standard.symbol n ∧
      toStandard (standard.symbol n) = standard.symbol n := by
    decide
  exact all n h

theorem map_toStandard {ns : List Nat} (small : ∀ n ∈ ns, n < 64) :
    (ns.map urlSafe.symbol).map toStandard = ns.map standard.symbol ∧
      (ns.map standard.symbol).map toStandard = ns.map standard.symbol := by
  simp only [List.map_map]
  constructor
  · exact List.map_congr_left fun n hn => (toStandard_symbol (small n hn)).1
  · exact List.map_congr_left fun n hn => (toStandard_symbol (small n hn)).2

/-- The two encodings of the same bytes differ only in the two symbols. -/
theorem encode_standard (bytes : Bytes) :
    encode standard bytes = (encode urlSafe bytes).map toStandard := by
  induction bytes using encode.induct with
  | case1 => rfl
  | case2 a =>
    rw [encode_one, encode_one, List.map_append, (map_toStandard (oneValues_lt a)).1]
    rfl
  | case3 a b =>
    rw [encode_two, encode_two, List.map_append, (map_toStandard (twoValues_lt a b)).1]
    rfl
  | case4 a b c rest ih =>
    rw [encode_three, encode_three, List.map_append, (map_toStandard (threeValues_lt a b c)).1, ih]

/-- A standard encoding has nothing that would have to be replaced. -/
theorem map_toStandard_encode (bytes : Bytes) :
    (encode standard bytes).map toStandard = encode standard bytes := by
  obtain ⟨ns, k, hencode, small, -⟩ := padded_encode standard bytes
  rw [hencode, List.map_append, (map_toStandard small).2, List.map_replicate]
  rfl

theorem encode_injective {alphabet : Alphabet} (lawful : alphabet.IsLawful) {bytes bytes' : Bytes}
    (h : encode alphabet bytes = encode alphabet bytes') : bytes = bytes' := by
  have hdecode := decode_encode lawful bytes
  rw [h, decode_encode lawful] at hdecode
  cases hdecode
  rfl

/-- No text is the encoding of two byte sequences, be it in the same alphabet or in both. -/
theorem bytes_unique {s bytes bytes' : Bytes} (h : Encodes s bytes) (h' : Encodes s bytes') :
    bytes = bytes' := by
  have standardised : ∀ {bytes}, Encodes s bytes → s.map toStandard = encode standard bytes := by
    rintro bytes (rfl | rfl)
    · exact (encode_standard bytes).symm
    · exact map_toStandard_encode bytes
  exact encode_injective standard_isLawful ((standardised h).symm.trans (standardised h'))

/-- Whether a text has a symbol that only the URL-safe alphabet knows and one that only the standard
alphabet knows. -/
def Mixed (s : Bytes) : Prop :=
  (urlSafe.sixtyTwo ∈ s ∨ urlSafe.sixtyThree ∈ s) ∧
    (standard.sixtyTwo ∈ s ∨ standard.sixtyThree ∈ s)

theorem not_mem_encode {alphabet : Alphabet} {b : UInt8} (symbol : ∀ n < 64, alphabet.symbol n ≠ b)
    (hpad : pad ≠ b) (bytes : Bytes) : b ∉ encode alphabet bytes := by
  intro hb
  obtain ⟨ns, k, hencode, small, -⟩ := padded_encode alphabet bytes
  rw [hencode] at hb
  rcases List.mem_append.mp hb with hb | hb
  · obtain ⟨n, hn, rfl⟩ := List.mem_map.mp hb
    exact symbol n (small n hn) rfl
  · exact hpad (List.eq_of_mem_replicate hb).symm

theorem not_encodes_of_mixed {s : Bytes} (mixed : Mixed s) (bytes : Bytes) :
    ¬Encodes s bytes := by
  obtain ⟨hurl, hstandard⟩ := mixed
  rintro (rfl | rfl)
  · rcases hstandard with h | h
    · exact not_mem_encode (by decide) (by decide) bytes h
    · exact not_mem_encode (by decide) (by decide) bytes h
  · rcases hurl with h | h
    · exact not_mem_encode (by decide) (by decide) bytes h
    · exact not_mem_encode (by decide) (by decide) bytes h

end SkinRelay.Base64
