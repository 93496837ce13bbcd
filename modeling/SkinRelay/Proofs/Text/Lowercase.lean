import Mathlib.Data.List.Basic
import SkinRelay.Username

/-!
Lower case is final: no lower-case form is lowered again. So the key of a name is its own key, and
a name can be looked up by its key.
-/

namespace SkinRelay.Text

/-! ### The case table -/

/-- Whether no lower-case form of the run `r` is an upper-case form of the run `q`: they lie apart,
or they take turns. -/
def CaseRun.misses (r q : CaseRun) : Bool :=
  (r.lowered + (r.last - r.first)).blt q.first || q.last.blt r.lowered ||
    (q.stride == 2 && (r.stride == 2 || r.first == r.last) && (r.lowered + q.first) % 2 == 1)

/-- Whether every lower-case form of a run is the code of a character, and of no dotted capital
I. -/
def CaseRun.isProper (r : CaseRun) : Bool :=
  (r.lowered + (r.last - r.first) < 0xd800 ||
    0xdfff < r.lowered && r.lowered + (r.last - r.first) < 0x110000) &&
  r.misses ⟨0x130, 0x130, 2, 0⟩

theorem caseRuns_miss : (caseRuns.all fun r => caseRuns.all r.misses) = true := by
  decide +kernel

theorem caseRuns_isProper : (caseRuns.all CaseRun.isProper) = true := by
  decide +kernel

theorem CaseRun.lower?_eq_some {r : CaseRun} {n m : Nat} (h : r.lower? n = some m) :
    r.first ≤ n ∧ n ≤ r.last ∧ (n - r.first) % r.stride = 0 ∧
      m = r.lowered + (n - r.first) := by
  unfold lower? at h
  split at h
  · rename_i hn
    cases h
    exact ⟨hn.1, hn.2.1, hn.2.2, rfl⟩
  · cases h

theorem CaseRun.lower?_of_misses {r q : CaseRun} {n m : Nat} (hmiss : r.misses q = true)
    (h : r.lower? n = some m) : q.lower? m = none := by
  obtain ⟨hfirst, hlast, hstride, rfl⟩ := lower?_eq_some h
  cases hq : q.lower? (r.lowered + (n - r.first)) with
  | none => rfl
  | some k =>
    obtain ⟨hqf, hql, hqs, -⟩ := lower?_eq_some hq
    simp only [misses, Bool.or_eq_true, Bool.and_eq_true, Nat.blt_eq, beq_iff_eq] at hmiss
    rcases hmiss with (hbelow | habove) | ⟨⟨htwo, hstep⟩, hodd⟩
    · omega
    · omega
    · rw [htwo] at hqs
      rcases hstep with hr | hr
      · rw [hr] at hstride
        omega
      · omega

/-- The table lowers a code point to one that it does not lower. -/
theorem lower?_of_caseRuns {n m : Nat} (h : caseRuns.findSome? (·.lower? n) = some m) :
    m.isValidChar ∧ m ≠ 0x130 ∧ caseRuns.findSome? (·.lower? m) = none := by
  obtain ⟨r, hr, hm⟩ := List.exists_of_findSome?_eq_some h
  have hmiss := List.all_eq_true.mp (List.all_eq_true.mp caseRuns_miss r hr)
  have hproper := List.all_eq_true.mp caseRuns_isProper r hr
  obtain ⟨hscalar, hdot⟩ := Bool.and_eq_true_iff.mp hproper
  refine ⟨?_, ?_, ?_⟩
  · obtain ⟨-, hlast, -, rfl⟩ := CaseRun.lower?_eq_some hm
    simp only [Bool.or_eq_true, Bool.and_eq_true, decide_eq_true_eq] at hscalar
    unfold Nat.isValidChar
    omega
  · rintro rfl
    have := CaseRun.lower?_of_misses hdot hm
    simp [CaseRun.lower?] at this
  · rw [List.findSome?_eq_none_iff]
    intro q hq
    exact CaseRun.lower?_of_misses (hmiss q hq) hm

/-! ### Characters -/

/-- Lowering leaves the character as it is, wherever it stands. -/
def IsLowered (c : Char) : Prop := c ≠ capitalSigma ∧ lowerForm c = [c]

theorem isLowered_of_none {c : Char} (hdot : c ≠ 'İ')
    (h : caseRuns.findSome? (·.lower? c.toNat) = none) : IsLowered c := by
  refine ⟨?_, by simp [lowerForm, hdot, lowerPartner, h]⟩
  rintro rfl
  revert h
  decide +kernel

theorem isLowered_lowerForm {c d : Char} (hd : d ∈ lowerForm c) : IsLowered d := by
  unfold lowerForm at hd
  split at hd
  · rcases List.mem_pair.mp hd with rfl | rfl
    · exact isLowered_of_none (by decide) (by decide +kernel)
    · exact isLowered_of_none (by decide) (by decide +kernel)
  · rename_i hdot
    obtain rfl := List.mem_singleton.mp hd
    cases h : caseRuns.findSome? (·.lower? c.toNat) with
    | none => simpa [lowerPartner, h] using isLowered_of_none hdot h
    | some m =>
      obtain ⟨hvalid, hne, hnone⟩ := lower?_of_caseRuns h
      simp only [lowerPartner, h]
      have hcode : (Char.ofNat m).toNat = m := by
        rw [Char.ofNat, dif_pos hvalid]
        rfl
      refine isLowered_of_none ?_ (by rwa [hcode])
      intro heq
      exact hne (by rw [← hcode, heq]; rfl)

/-- What is true of the first 128 code points is true of every character of ASCII. -/
theorem forall_ascii {P : Char → Prop} (h : ∀ n < 128, P (Char.ofNat n)) {c : Char}
    (hc : c.toNat < 128) : P c := by
  have hchar := h c.toNat hc
  rwa [Char.ofNat_toNat] at hchar

/-- In ASCII only the capital letters are lowered. -/
theorem lowerForm_ascii {c : Char} (h : c.toNat < 128) : lowerForm c = [c.toLower] := by
  apply forall_ascii (P := fun c => lowerForm c = [c.toLower]) _ h
  decide +kernel

theorem isLowered_lowerSigma (before after : List Char) : IsLowered (lowerSigma before after) := by
  unfold lowerSigma
  split
  · exact isLowered_of_none (by decide) (by decide +kernel)
  · exact isLowered_of_none (by decide) (by decide +kernel)

/-! ### Texts -/

theorem isLowered_lowerAfter {before cs : List Char} {d : Char} (hd : d ∈ lowerAfter before cs) :
    IsLowered d := by
  induction cs generalizing before with
  | nil => cases hd
  | cons c rest ih =>
    unfold lowerAfter at hd
    rcases List.mem_append.mp hd with hform | hrest
    · split at hform
      · obtain rfl := List.mem_singleton.mp hform
        exact isLowered_lowerSigma before rest
      · exact isLowered_lowerForm hform
    · exact ih hrest

/-- A text whose characters are each lowered to one, wherever they stand. -/
theorem lowerAfter_map {f : Char → Char} {before cs : List Char}
    (h : ∀ c ∈ cs, c ≠ capitalSigma ∧ lowerForm c = [f c]) : lowerAfter before cs = cs.map f := by
  induction cs generalizing before with
  | nil => rfl
  | cons c rest ih =>
    obtain ⟨hsigma, hform⟩ := h c List.mem_cons_self
    rw [lowerAfter, if_neg hsigma, hform, ih fun d hd => h d (List.mem_cons_of_mem _ hd)]
    rfl

theorem lowerAfter_of_isLowered {before cs : List Char} (h : ∀ c ∈ cs, IsLowered c) :
    lowerAfter before cs = cs := by
  rw [lowerAfter_map (f := id) h, List.map_id]

theorem lowercase_lowercase (s : String) : lowercase (lowercase s) = lowercase s := by
  unfold lowercase
  rw [String.toList_ofList, lowerAfter_of_isLowered fun _ hc => isLowered_lowerAfter hc]

-- Of the two sigmas only the second ends the word.
example : lowercase "ΣΟΦΟΣ" = "σοφος" := by decide +kernel

end SkinRelay.Text

namespace SkinRelay.Username

theorem key_key (name : String) : key (key name) = key name := Text.lowercase_lowercase name

example : key "NOTCH" = "notch" := by decide +kernel

end SkinRelay.Username
