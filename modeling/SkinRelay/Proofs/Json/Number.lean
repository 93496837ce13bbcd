import Mathlib.Tactic.Common
import SkinRelay.Json.Reader
import SkinRelay.Json.Value
import SkinRelay.Proofs.Text.Utf8

/-!
Integers in JSON: every 64-bit integer is read back as it was written (`int64_chars`). None of them
is too large for a double, however it is rounded.
-/

namespace SkinRelay.Json

/-- What can follow a value: nothing, or a byte that no numeral goes on with. -/
def Ends : Bytes → Prop
  | [] => True
  | b :: _ => Bytes.isDigit b = false ∧ b ≠ 0x2E ∧ b ≠ 0x65 ∧ b ≠ 0x45

/-- What a value can begin with, unless it is `null`. -/
def Begins (b : UInt8) : Prop := isBlank b = false ∧ b ≠ 0x5D ∧ b ≠ 0x6E

theorem skipBlank_cons {b : UInt8} (h : isBlank b = false) (s : Bytes) :
    skipBlank (b :: s) = b :: s := by
  simp [skipBlank, h]

/-! ### Decimal digits -/

/-- The bytes of a decimal numeral. -/
def digitBytes (n : Nat) : Bytes := Utf8.encode (Nat.toDigits 10 n)

theorem utf8EncodeChar_digitChar {d : Nat} (h : d < 10) :
    String.utf8EncodeChar (Nat.digitChar d) = [UInt8.ofNat (0x30 + d)] := by
  have all : ∀ d : Fin 10,
      String.utf8EncodeChar (Nat.digitChar d) = [UInt8.ofNat (0x30 + d.val)] := by
    decide
  exact all ⟨d, h⟩

theorem digitBytes_small {n : Nat} (h : n < 10) : digitBytes n = [UInt8.ofNat (0x30 + n)] := by
  rw [digitBytes, Nat.toDigits_of_lt_base h, Utf8.encode_cons, Utf8.encode_nil, List.append_nil,
    utf8EncodeChar_digitChar h]

theorem digitBytes_large {n : Nat} (h : 10 ≤ n) :
    digitBytes n = digitBytes (n / 10) ++ [UInt8.ofNat (0x30 + n % 10)] := by
  rw [digitBytes, Nat.toDigits_of_base_le (by decide) h, Utf8.encode_append, Utf8.encode_cons,
    Utf8.encode_nil, List.append_nil, utf8EncodeChar_digitChar (Nat.mod_lt n (by decide)),
    ← digitBytes]

theorem toNat_digit {d : Nat} (h : d < 10) : (UInt8.ofNat (0x30 + d)).toNat = 0x30 + d :=
  Utf8.toNat_byte (by omega)

theorem isDigit_digit {d : Nat} (h : d < 10) : Bytes.isDigit (UInt8.ofNat (0x30 + d)) = true := by
  simp only [Bytes.isDigit, Bool.and_eq_true, decide_eq_true_eq, UInt8.le_iff_toNat_le,
    toNat_digit h]
  show 48 ≤ 48 + d ∧ 48 + d ≤ 57
  omega

/-- A decimal numeral consists of digits, and spells the number. -/
theorem digitBytes_spec (n : Nat) :
    (∀ b ∈ digitBytes n, Bytes.isDigit b = true) ∧ decimal (digitBytes n) = n := by
  induction n using Nat.strongRecOn with
  | _ n ih =>
    by_cases h : n < 10
    · rw [digitBytes_small h]
      refine ⟨by simpa using isDigit_digit h, ?_⟩
      simp only [decimal, List.foldl_cons, List.foldl_nil, toNat_digit h]
      omega
    · obtain ⟨hdigits, hdecimal⟩ := ih (n / 10) (by omega)
      have hlast : n % 10 < 10 := Nat.mod_lt n (by decide)
      rw [digitBytes_large (by omega)]
      constructor
      · intro b hb
        rcases List.mem_append.mp hb with hb | hb
        · exact hdigits b hb
        · rw [List.mem_singleton.mp hb]
          exact isDigit_digit hlast
      · rw [decimal] at hdecimal ⊢
        rw [List.foldl_append, hdecimal, List.foldl_cons, List.foldl_nil, toNat_digit hlast]
        omega

/-- A decimal numeral is a single zero, or does not begin with one. -/
theorem digitBytes_head (n : Nat) : n = 0 ∧ digitBytes n = [0x30] ∨
    n ≠ 0 ∧ ∃ b ds, digitBytes n = b :: ds ∧ b ≠ 0x30 := by
  induction n using Nat.strongRecOn with
  | _ n ih =>
    by_cases hzero : n = 0
    · subst hzero
      exact .inl ⟨rfl, rfl⟩
    · right
      refine ⟨hzero, ?_⟩
      by_cases h : n < 10
      · refine ⟨_, [], digitBytes_small h, ?_⟩
        intro heq
        have hnat := congrArg UInt8.toNat heq
        rw [toNat_digit h] at hnat
        have : (0x30 : UInt8).toNat = 48 := rfl
        omega
      · rcases ih (n / 10) (by omega) with ⟨hnone, -⟩ | ⟨-, b, ds, hds, hb⟩
        · omega
        · exact ⟨b, ds ++ [UInt8.ofNat (0x30 + n % 10)], by
            rw [digitBytes_large (by omega), hds]; rfl, hb⟩

/-- Where digits stop: at the end, or before another byte. -/
def Stops (s : Bytes) : Prop := ∀ b ∈ s.head?, Bytes.isDigit b = false

theorem Ends.stops {rest : Bytes} (ends : Ends rest) : Stops rest := by
  intro b hb
  cases rest with
  | nil => cases hb
  | cons b' rest =>
    cases hb
    exact ends.1

theorem digits_append {ds rest : Bytes} (hdigits : ∀ b ∈ ds, Bytes.isDigit b = true)
    (stops : Stops rest) : digits (ds ++ rest) = (ds, rest) := by
  have hrest : rest.takeWhile Bytes.isDigit = [] ∧ rest.dropWhile Bytes.isDigit = rest := by
    cases rest with
    | nil => exact ⟨rfl, rfl⟩
    | cons b rest => simp [stops b rfl]
  unfold digits
  rw [List.takeWhile_append_of_pos hdigits, List.dropWhile_append_of_pos hdigits, hrest.1, hrest.2,
    List.append_nil]

/-- The digits before the point are read up to their end. A zero at the front must stand alone. -/
theorem whole_append {d : UInt8} {ds rest : Bytes} (hdigits : ∀ b ∈ d :: ds, Bytes.isDigit b = true)
    (hzero : d = 0x30 → ds = []) (stops : Stops rest) :
    whole (d :: ds ++ rest) = .ok (d :: ds, rest) := by
  by_cases hd : d = 0x30
  · rw [hd, hzero hd]
    cases rest with
    | nil => rfl
    | cons b rest => simp [whole, stops b rfl]
  · have hall := digits_append hdigits stops
    rw [List.cons_append] at hall ⊢
    unfold whole
    split
    · rename_i heq
      cases heq
    · rename_i heq
      exact absurd (List.cons.inj heq).1 hd
    · rename_i heq
      cases heq
      rw [if_pos (hdigits _ List.mem_cons_self), hall]

theorem whole_digitBytes (n : Nat) {rest : Bytes} (ends : Ends rest) :
    whole (digitBytes n ++ rest) = .ok (digitBytes n, rest) := by
  have hdigits := (digitBytes_spec n).1
  rcases digitBytes_head n with ⟨-, hzero⟩ | ⟨-, b, ds, hds, hb⟩
  · rw [hzero] at hdigits ⊢
    exact whole_append hdigits (fun _ => rfl) ends.stops
  · rw [hds] at hdigits ⊢
    exact whole_append hdigits (fun heq => absurd heq hb) ends.stops

theorem fraction_of_ends {rest : Bytes} (ends : Ends rest) : fraction rest = .ok (none, rest) := by
  unfold fraction
  split
  · exact absurd rfl ends.2.1
  · rfl

theorem exponent_of_ends {rest : Bytes} (ends : Ends rest) : exponent rest = .ok (none, rest) := by
  unfold exponent
  split
  · exact absurd rfl ends.2.2.1
  · exact absurd rfl ends.2.2.2
  · rfl

/-! ### Doubles -/

/-- Rounding at most doubles a number. -/
theorem toDouble_le (n : Nat) : toDouble n ≤ 2 * n := by
  unfold toDouble
  dsimp only
  by_cases hn : n = 0
  · subst hn
    decide
  · have hunit : Nat.pow 2 (n.log2 - 52) ≤ n :=
      Nat.le_trans (Nat.pow_le_pow_right (by decide) (Nat.sub_le _ _)) (Nat.log2_self_le hn)
    have hdiv : n / Nat.pow 2 (n.log2 - 52) * Nat.pow 2 (n.log2 - 52) ≤ n := Nat.div_mul_le_self ..
    split
    · rw [Nat.add_mul, Nat.one_mul]
      omega
    · omega

theorem lt_pow_two {n k : Nat} (h : n < 8 * Nat.pow 2 64) (hk : 67 ≤ k) : n < Nat.pow 2 k :=
  Nat.lt_of_lt_of_le h (Nat.pow_le_pow_right (n := 2) (i := 67) (by decide) hk)

/-- A number of 64 bits is no larger than the largest double. -/
theorem exceedsDouble_of_lt {m : Nat} (h : m < Nat.pow 2 64) : exceedsDouble m 0 = false := by
  have hone : toDouble (Nat.pow 10 (0 : Int).toNat) ≤ 2 := toDouble_le 1
  have hm := toDouble_le m
  have hall := toDouble_le (toDouble m * toDouble (Nat.pow 10 (0 : Int).toNat))
  have hprod : toDouble m * toDouble (Nat.pow 10 (0 : Int).toNat) ≤ 2 * m * 2 :=
    Nat.mul_le_mul hm hone
  have hless : toDouble (toDouble m * toDouble (Nat.pow 10 (0 : Int).toNat)) < 8 * Nat.pow 2 64 := by
    omega
  have fits : ∀ k, 67 ≤ k → (m != 0 && (decide (308 < (0 : Int)) || (decide ((0 : Int) ≤ 0) &&
      decide (Nat.pow 2 k ≤
        toDouble (toDouble m * toDouble (Nat.pow 10 (0 : Int).toNat)))))) = false := by
    intro k hk
    rw [decide_eq_false (Nat.not_le.mpr (lt_pow_two hless hk))]
    exact Bool.and_false _
  exact fits 1024 (by decide)

/-- The digits of a number of 64 bits fit into the significand. -/
theorem significand_of_lt (m : Nat) (ds : Bytes)
    (h : ds.foldl (fun n d => n * 10 + (d.toNat - 0x30)) m < Nat.pow 2 64) :
    significand m ds = (ds.foldl (fun n d => n * 10 + (d.toNat - 0x30)) m, []) := by
  induction ds generalizing m with
  | nil => rfl
  | cons d ds ih =>
    have grows : ∀ (ds : Bytes) (m : Nat),
        m ≤ ds.foldl (fun n d => n * 10 + (d.toNat - 0x30)) m := by
      intro ds
      induction ds with
      | nil => exact fun m => Nat.le_refl m
      | cons d ds ih =>
        exact fun m => Nat.le_trans (show m ≤ m * 10 + (d.toNat - 0x30) by omega) (ih _)
    have hfirst := Nat.lt_of_le_of_lt (grows ds _) h
    rw [significand]
    simp only [hfirst, if_true]
    exact ih _ h

theorem denote_digitBytes (negative : Bool) {n : Nat} (h : n < Nat.pow 2 64)
    (sign : negative = true → n ≠ 0) :
    denote negative (digitBytes n) none none =
      .ok (.integer (if negative then -(n : Int) else n)) := by
  have hdecimal := (digitBytes_spec n).2
  have hsignificand : significand 0 (digitBytes n) = (n, []) := by
    have hall := significand_of_lt 0 (digitBytes n)
    rw [← decimal, hdecimal] at hall
    exact hall h
  unfold denote
  simp only [hsignificand, hdecimal]
  have hexponent : ((([] : Bytes).length : Int) - ((0 : Nat) : Int) + (none : Option Int).getD 0) = 0 :=
    rfl
  rw [hexponent, exceedsDouble_of_lt h]
  cases negative with
  | false => rfl
  | true => simp [sign rfl]

/-- A decimal numeral is read back. -/
theorem numeral_digitBytes (negative : Bool) {n : Nat} (h : n < Nat.pow 2 64)
    (sign : negative = true → n ≠ 0) {rest : Bytes} (ends : Ends rest) :
    numeral negative (digitBytes n ++ rest) =
      .ok (.integer (if negative then -(n : Int) else n), rest) := by
  simp only [numeral, whole_digitBytes n ends, fraction_of_ends ends, exponent_of_ends ends,
    denote_digitBytes negative h sign]

/-! ### Integers -/

theorem toInt64_toInt (i : Int64) : Reader.toInt64 (.integer i.toInt) = .ok i := by
  rw [Reader.toInt64, if_pos ⟨i.minValue_le_toInt, i.toInt_le⟩, Int64.ofInt_toInt]

theorem signedInt64_digitBytes (i : Int64) {rest : Bytes} (ends : Ends rest) :
    (0 ≤ i.toInt → Reader.signedInt64 false (digitBytes i.toInt.natAbs ++ rest) = .ok (i, rest)) ∧
    (i.toInt < 0 → Reader.signedInt64 true (digitBytes i.toInt.natAbs ++ rest) = .ok (i, rest)) := by
  have hlow := i.le_toInt
  have hhigh := i.toInt_lt
  have hsmall : i.toInt.natAbs < Nat.pow 2 64 := by
    show i.toInt.natAbs < 2 ^ 64
    omega
  constructor
  · intro hsign
    have heq : ((i.toInt.natAbs : Nat) : Int) = i.toInt := by omega
    simp only [Reader.signedInt64, numeral_digitBytes false hsmall (by simp) ends,
      Bool.false_eq_true, if_false, heq, toInt64_toInt]
  · intro hsign
    have heq : -((i.toInt.natAbs : Nat) : Int) = i.toInt := by omega
    simp only [Reader.signedInt64, numeral_digitBytes true hsmall (fun _ => by omega) ends, if_true,
      heq, toInt64_toInt]

/-- A digit is neither a blank nor a sign, and begins no other value. -/
theorem begins_of_isDigit {b : UInt8} (digit : Bytes.isDigit b = true) : Begins b ∧ b ≠ 0x2D := by
  have other : ∀ a : UInt8, Bytes.isDigit a = false → b ≠ a := by
    rintro a ha rfl
    rw [digit] at ha
    cases ha
  have hblank : isBlank b = false := by
    simp [isBlank, other 0x20 rfl, other 0x09 rfl, other 0x0A rfl, other 0x0D rfl]
  exact ⟨⟨hblank, other 0x5D rfl, other 0x6E rfl⟩, other 0x2D rfl⟩

theorem int64_of_digit {b : UInt8} {s rest : Bytes} {i : Int64} (digit : Bytes.isDigit b = true)
    (h : Reader.signedInt64 false (b :: s) = .ok (i, rest)) :
    Reader.int64.run (b :: s) = .ok (i, rest) := by
  obtain ⟨⟨hblank, -⟩, hsign⟩ := begins_of_isDigit digit
  simp only [Reader.int64, skipBlank_cons hblank, if_pos digit, h]

/-- The text of an integer begins with a digit or a sign. -/
theorem numberChars_head (n : Int) : ∃ b bs, Utf8.encode (numberChars n) = b :: bs ∧ Begins b ∧
    (0 ≤ n → Bytes.isDigit b = true) := by
  cases n with
  | ofNat m =>
    have hbytes : Utf8.encode (numberChars (Int.ofNat m)) = digitBytes m := rfl
    rw [hbytes]
    have hdigits := (digitBytes_spec m).1
    obtain ⟨b, ds, hds⟩ : ∃ b ds, digitBytes m = b :: ds := by
      rcases digitBytes_head m with ⟨-, hzero⟩ | ⟨-, b, ds, hds, -⟩
      · exact ⟨_, _, hzero⟩
      · exact ⟨b, ds, hds⟩
    have digit : Bytes.isDigit b = true := hdigits b (by simp [hds])
    exact ⟨b, ds, hds, (begins_of_isDigit digit).1, fun _ => digit⟩
  | negSucc m =>
    exact ⟨0x2D, digitBytes (m + 1), rfl, ⟨by decide, by decide, by decide⟩, fun h => by omega⟩

/-- An integer is read back as it was written. -/
theorem int64_chars (i : Int64) {rest : Bytes} (ends : Ends rest) :
    Reader.int64.run (Utf8.encode (numberChars i.toInt) ++ rest) = .ok (i, rest) := by
  obtain ⟨hpositive, hnegative⟩ := signedInt64_digitBytes i ends
  cases hn : i.toInt with
  | ofNat m =>
    rw [hn] at hpositive
    have hread := hpositive (Int.natCast_nonneg m)
    have hbytes : Utf8.encode (numberChars (Int.ofNat m)) = digitBytes m := rfl
    obtain ⟨b, ds, hds, -, hdigit⟩ := numberChars_head (Int.ofNat m)
    have digit := hdigit (Int.natCast_nonneg m)
    rw [hds, List.cons_append]
    refine int64_of_digit digit ?_
    rw [← List.cons_append, ← hds, hbytes]
    exact hread
  | negSucc m =>
    rw [hn] at hnegative
    have hread := hnegative (Int.negSucc_lt_zero m)
    have hbytes : Utf8.encode (numberChars (Int.negSucc m)) ++ rest =
        0x2D :: (digitBytes (m + 1) ++ rest) := rfl
    rw [hbytes]
    exact hread

end SkinRelay.Json
