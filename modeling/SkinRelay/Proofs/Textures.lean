import SkinRelay.Proofs.Base64
import SkinRelay.Proofs.Json.RoundTrip
import SkinRelay.Textures

/-!
Textures survive the way into a property and out of it: whatever a record holds, its encoding is
decoded to it again, in the alphabet that is tried first (`encode_faithful`).
-/

namespace SkinRelay.TexturesRecord

/-- The letters, the digits and the two other symbols that may stand in a URL. -/
def IsUrlSafe (c : Char) : Prop := c.isAlphanum = true ∨ c = '-' ∨ c = '_'

instance (c : Char) : Decidable (IsUrlSafe c) := inferInstanceAs (Decidable (_ ∨ _ ∨ _))

/-- A text of URL-safe symbols, padded to groups of four. -/
def IsPaddedUrlSafe (s : String) : Prop :=
  ∃ (symbols : List Char) (k : Nat), s.toList = symbols ++ List.replicate k '=' ∧
    (∀ c ∈ symbols, IsUrlSafe c) ∧ k ≤ 2 ∧ s.toList.length % 4 = 0

/-- The symbols of the URL-safe alphabet are URL-safe characters. -/
theorem isUrlSafe_symbol {n : Nat} (h : n < 64) :
    (Base64.urlSafe.symbol n).toNat < 0x80 ∧
      IsUrlSafe (Char.ofNat (Base64.urlSafe.symbol n).toNat) := by
  have all : ∀ n < 64, (Base64.urlSafe.symbol n).toNat < 0x80 ∧
      IsUrlSafe (Char.ofNat (Base64.urlSafe.symbol n).toNat) := by
    decide
  exact all n h

theorem isPaddedUrlSafe_encode (r : TexturesRecord) : IsPaddedUrlSafe (encode r) := by
  have hlength := Base64.length_encode Base64.urlSafe (Utf8.ofString (format.write r))
  obtain ⟨ns, k, hencode, small, hk⟩ :=
    Base64.padded_encode Base64.urlSafe (Utf8.ofString (format.write r))
  refine ⟨(ns.map Base64.urlSafe.symbol).map fun b => Char.ofNat b.toNat, k, ?_, ?_, hk, ?_⟩
  · rw [encode, String.toList_ofList, hencode, List.map_append, List.map_replicate]
    rfl
  · intro c hc
    obtain ⟨b, hb, rfl⟩ := List.mem_map.mp hc
    obtain ⟨n, hn, rfl⟩ := List.mem_map.mp hb
    exact (isUrlSafe_symbol (small n hn)).2
  · rw [encode, String.toList_ofList, List.length_map]
    exact hlength

/-- The bytes of an encoded record are those that base64 made. -/
theorem ofString_encode (r : TexturesRecord) :
    Utf8.ofString (encode r) = Base64.encode Base64.urlSafe (Utf8.ofString (format.write r)) := by
  obtain ⟨ns, k, hencode, small, -⟩ :=
    Base64.padded_encode Base64.urlSafe (Utf8.ofString (format.write r))
  refine Utf8.ofString_ascii fun b hb => ?_
  rw [hencode] at hb
  rcases List.mem_append.mp hb with hb | hb
  · obtain ⟨n, hn, rfl⟩ := List.mem_map.mp hb
    exact (isUrlSafe_symbol (small n hn)).1
  · rw [List.eq_of_mem_replicate hb]
    decide

theorem urlSafe_decode_encode (r : TexturesRecord) :
    Base64.decode Base64.urlSafe (Utf8.ofString (encode r)) =
      .ok (Utf8.ofString (format.write r)) := by
  rw [ofString_encode, Base64.decode_encode Base64.urlSafe_isLawful]

theorem read_write (r : TexturesRecord) : format.read (Utf8.ofString (format.write r)) = .ok r :=
  Json.Format.read_write rfl r

theorem decode_encode (r : TexturesRecord) : decode (encode r) = .ok r := by
  simp only [decode, unwrap, urlSafe_decode_encode, read_write]

/-- Every record is decoded to what was encoded, already in the URL-safe alphabet, of whose padded
texts the encoding is one; so no two records are encoded alike. -/
theorem encode_faithful :
    (∀ r, decode (encode r) = .ok r) ∧
    (∀ r, IsPaddedUrlSafe (encode r) ∧
      ∃ bytes, Base64.decode Base64.urlSafe (Utf8.ofString (encode r)) = .ok bytes ∧
        format.read bytes = .ok r) ∧
    Function.Injective encode := by
  refine ⟨decode_encode, ?_, ?_⟩
  · intro r
    exact ⟨isPaddedUrlSafe_encode r, _, urlSafe_decode_encode r, read_write r⟩
  · intro r r' h
    have hr := decode_encode r
    rw [h, decode_encode r'] at hr
    cases hr
    rfl

end SkinRelay.TexturesRecord
