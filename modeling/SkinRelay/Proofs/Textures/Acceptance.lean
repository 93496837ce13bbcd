import SkinRelay.Proofs.Base64.Acceptance
import SkinRelay.Proofs.Textures

/-!
Which values of a textures property are decoded, and to what. A value is accepted exactly if it is
the base64 of some bytes, in one of the alphabets, and then these bytes are read; it does not matter
which alphabet is tried first (`encodings_are_accepted`).
-/

namespace SkinRelay.TexturesRecord

/-- The text of an encoding. -/
def spell (alphabet : Base64.Alphabet) (bytes : Bytes) : String :=
  String.ofList ((Base64.encode alphabet bytes).map fun b => Char.ofNat b.toNat)

/-- Whether a value is the encoding of these bytes in one of the alphabets. -/
def Spells (value : String) (bytes : Bytes) : Prop :=
  value = spell Base64.urlSafe bytes ∨ value = spell Base64.standard bytes

theorem ofString_spell (alphabet : Base64.Alphabet)
    (ascii : ∀ n < 64, (alphabet.symbol n).toNat < 0x80) (bytes : Bytes) :
    Utf8.ofString (spell alphabet bytes) = Base64.encode alphabet bytes := by
  refine Utf8.ofString_ascii fun b hb => ?_
  obtain ⟨ns, k, hencode, small, -⟩ := Base64.padded_encode alphabet bytes
  rw [hencode] at hb
  rcases List.mem_append.mp hb with hb | hb
  · obtain ⟨n, hn, rfl⟩ := List.mem_map.mp hb
    exact ascii n (small n hn)
  · rw [List.eq_of_mem_replicate hb]
    decide

theorem ofString_injective : Function.Injective Utf8.ofString := by
  intro s t h
  have hs := Utf8.toString?_ofString s
  rw [h, Utf8.toString?_ofString] at hs
  exact (Option.some.inj hs).symm

theorem spells_iff {value : String} {bytes : Bytes} :
    Spells value bytes ↔ Base64.Encodes (Utf8.ofString value) bytes := by
  unfold Spells Base64.Encodes
  rw [← ofString_spell Base64.urlSafe (by decide), ← ofString_spell Base64.standard (by decide),
    ofString_injective.eq_iff, ofString_injective.eq_iff]

/-- The bytes inside a value are those that it encodes, whichever alphabet that takes. -/
theorem unwrap_eq_ok_iff {value bytes : Bytes} :
    unwrap value = .ok bytes ↔ Base64.Encodes value bytes := by
  have hurl : ∀ {bytes}, Base64.decode Base64.urlSafe value = .ok bytes ↔
      value = Base64.encode Base64.urlSafe bytes :=
    Base64.decode_eq_ok_iff Base64.urlSafe_isLawful
  have hstandard : ∀ {bytes}, Base64.decode Base64.standard value = .ok bytes ↔
      value = Base64.encode Base64.standard bytes :=
    Base64.decode_eq_ok_iff Base64.standard_isLawful
  unfold unwrap
  split
  · rename_i found hfound
    have first : Base64.Encodes value found := .inl (hurl.mp hfound)
    constructor
    · intro h
      cases h
      exact first
    · intro h
      rw [Base64.bytes_unique first h]
  · rename_i fault hfault
    have other : Base64.Encodes value bytes ↔ value = Base64.encode Base64.standard bytes := by
      constructor
      · rintro (h | h)
        · rw [← hurl, hfault] at h
          cases h
        · exact h
      · exact .inr
    rw [other, ← hstandard]
    split
    · rename_i hfound
      rw [hfound]
    · rename_i hfound
      rw [hfound]
      simp

theorem fault_of_unwrap {value : Bytes} {fault : Base64.Fault} (h : unwrap value = .error fault) :
    Base64.decode Base64.urlSafe value = .error fault := by
  unfold unwrap at h
  split at h
  · cases h
  · rename_i hfault
    split at h
    · cases h
    · cases h
      exact hfault

theorem decode_of_unwrap {value : String} {bytes : Bytes}
    (h : unwrap (Utf8.ofString value) = .ok bytes) :
    decode value = (format.read bytes).mapError .payload := by
  simp only [decode, h]
  cases format.read bytes <;> rfl

/-- A value cannot be decoded as base64 exactly if it has no bytes inside. -/
theorem decode_eq_encoding_iff {value : String} {fault : Base64.Fault} :
    decode value = .error (.encoding fault) ↔ unwrap (Utf8.ofString value) = .error fault := by
  cases hvalue : unwrap (Utf8.ofString value) with
  | error => simp [decode, hvalue]
  | ok bytes =>
    rw [decode_of_unwrap hvalue]
    cases format.read bytes <;> simp [Except.mapError]

/-- What becomes of a value, in terms of the bytes that it is the encoding of. -/
structure Accepted (value : String) : Prop where
  unique : ∀ bytes bytes', Spells value bytes → Spells value bytes' → bytes = bytes'
  /-- The alphabets can be tried in any order. -/
  order : ∀ alphabet bytes, alphabet = Base64.urlSafe ∨ alphabet = Base64.standard →
    Base64.decode alphabet (Utf8.ofString value) = .ok bytes →
    unwrap (Utf8.ofString value) = .ok bytes
  /-- Only a value that is no encoding is refused for its base64. -/
  refused : (∃ fault, decode value = .error (.encoding fault)) ↔ ∀ bytes, ¬Spells value bytes
  /-- The fault is that of the URL-safe alphabet. -/
  fault : ∀ fault, decode value = .error (.encoding fault) →
    Base64.decode Base64.urlSafe (Utf8.ofString value) = .error fault
  /-- The bytes of any other value are read. -/
  reads : ∀ bytes, Spells value bytes → decode value = (format.read bytes).mapError .payload
  mixed : Base64.Mixed (Utf8.ofString value) → ∃ fault, decode value = .error (.encoding fault)

theorem refused_iff {value : String} :
    (∃ fault, decode value = .error (.encoding fault)) ↔ ∀ bytes, ¬Spells value bytes := by
  simp only [decode_eq_encoding_iff, spells_iff, ← unwrap_eq_ok_iff]
  cases unwrap (Utf8.ofString value) <;> simp

/-- Exactly the encodings in one of the alphabets are decoded, each to the bytes that it encodes, and
a record is read from its standard encoding as from the one that is written. -/
theorem encodings_are_accepted :
    (∀ value, Accepted value) ∧
    ∀ r, decode (spell Base64.standard (Utf8.ofString (format.write r))) = decode (encode r) ∧
      decode (encode r) = .ok r := by
  constructor
  · intro value
    constructor
    case unique =>
      intro bytes bytes' h h'
      exact Base64.bytes_unique (spells_iff.mp h) (spells_iff.mp h')
    case order =>
      rintro alphabet bytes (rfl | rfl) h
      · exact unwrap_eq_ok_iff.mpr (.inl ((Base64.decode_eq_ok_iff Base64.urlSafe_isLawful).mp h))
      · exact unwrap_eq_ok_iff.mpr (.inr ((Base64.decode_eq_ok_iff Base64.standard_isLawful).mp h))
    case refused => exact refused_iff
    case fault =>
      intro fault h
      exact fault_of_unwrap (decode_eq_encoding_iff.mp h)
    case reads =>
      intro bytes h
      exact decode_of_unwrap (unwrap_eq_ok_iff.mpr (spells_iff.mp h))
    case mixed =>
      intro mixed
      refine refused_iff.mpr fun bytes h => ?_
      exact Base64.not_encodes_of_mixed mixed bytes (spells_iff.mp h)
  · intro r
    have hstandard : decode (spell Base64.standard (Utf8.ofString (format.write r))) = .ok r := by
      rw [decode_of_unwrap (unwrap_eq_ok_iff.mpr (spells_iff.mp (.inr rfl))), read_write]
      rfl
    exact ⟨hstandard.trans (decode_encode r).symm, decode_encode r⟩

/-- The symbols of both alphabets in one value. -/
example : decode "A-+A" = .error (.encoding (.symbol 0x2B 2)) := rfl

end SkinRelay.TexturesRecord
