import Mathlib.Data.List.Nodup
import SkinRelay.Table

/-!
How the entries of a table change: what is put in takes the place of an older entry of the same
key, or else comes last.
-/

namespace SkinRelay.Table

variable {κ ν : Type} [DecidableEq κ]

theorem mem_of_get? {t : Table κ ν} {k : κ} {v : ν} (h : t.get? k = some v) :
    (k, v) ∈ t.entries := by
  obtain ⟨⟨j, w⟩, he, rfl⟩ := Option.map_eq_some_iff.mp h
  obtain rfl : j = k := by simpa using List.find?_some he
  exact List.mem_of_find?_eq_some he

theorem entries_insert_of_none {t : Table κ ν} {k : κ} (v : ν) (h : t.get? k = none) :
    (t.insert k v).entries = t.entries ++ [(k, v)] := by
  obtain ⟨entries⟩ := t
  simp only [insert, get?] at h ⊢
  induction entries with
  | nil => rfl
  | cons e rest ih =>
    obtain ⟨j, w⟩ := e
    by_cases hj : j = k
    · simp [hj] at h
    · simp only [insertEntry, hj, if_false, List.cons_append]
      rw [ih (by simpa [hj] using h)]

theorem entries_insert_of_some {t : Table κ ν} {k : κ} {w : ν} (v : ν) (h : t.get? k = some w) :
    ∃ before after, t.entries = before ++ (k, w) :: after ∧
      (t.insert k v).entries = before ++ (k, v) :: after := by
  obtain ⟨entries⟩ := t
  simp only [insert, get?] at h ⊢
  induction entries with
  | nil => simp at h
  | cons e rest ih =>
    obtain ⟨j, x⟩ := e
    by_cases hj : j = k
    · obtain rfl : x = w := by simpa [hj] using h
      subst hj
      exact ⟨[], rest, rfl, by simp [insertEntry]⟩
    · obtain ⟨before, after, h₁, h₂⟩ := ih (by simpa [hj] using h)
      exact ⟨(j, x) :: before, after, by simp [h₁], by simp [insertEntry, hj, h₂]⟩

theorem mem_entries_insert {t : Table κ ν} {k : κ} {v : ν} {e : κ × ν}
    (h : e ∈ (t.insert k v).entries) : e = (k, v) ∨ e ∈ t.entries := by
  cases hk : t.get? k with
  | none =>
    rw [entries_insert_of_none v hk] at h
    simpa [or_comm] using h
  | some w =>
    obtain ⟨before, after, h₁, h₂⟩ := entries_insert_of_some v hk
    rw [h₂] at h
    rw [h₁]
    simp only [List.mem_append, List.mem_cons] at h ⊢
    tauto

theorem size_insert_of_none {t : Table κ ν} {k : κ} (v : ν) (h : t.get? k = none) :
    (t.insert k v).size = t.size + 1 := by
  simp [size, entries_insert_of_none v h]

theorem size_insert_of_some {t : Table κ ν} {k : κ} {w : ν} (v : ν) (h : t.get? k = some w) :
    (t.insert k v).size = t.size := by
  obtain ⟨before, after, h₁, h₂⟩ := entries_insert_of_some v h
  simp [size, h₁, h₂]

theorem values_insert_of_none {t : Table κ ν} {k : κ} (v : ν) (h : t.get? k = none) :
    (t.insert k v).values = t.values ++ [v] := by
  simp [values, entries_insert_of_none v h]

theorem values_insert_of_some {t : Table κ ν} {k : κ} {w : ν} (v : ν) (h : t.get? k = some w) :
    ∃ before after, t.values = before ++ w :: after ∧
      (t.insert k v).values = before ++ v :: after := by
  obtain ⟨before, after, h₁, h₂⟩ := entries_insert_of_some v h
  exact ⟨before.map (·.2), after.map (·.2), by simp [values, h₁], by simp [values, h₂]⟩

theorem keys_insert_of_none {t : Table κ ν} {k : κ} (v : ν) (h : t.get? k = none) :
    (t.insert k v).keys = t.keys ++ [k] := by
  simp [keys, entries_insert_of_none v h]

theorem keys_insert_of_some {t : Table κ ν} {k : κ} {w : ν} (v : ν) (h : t.get? k = some w) :
    (t.insert k v).keys = t.keys := by
  obtain ⟨before, after, h₁, h₂⟩ := entries_insert_of_some v h
  simp [keys, h₁, h₂]

theorem size_eq_zero_of_get? {t : Table κ ν} (h : ∀ k, t.get? k = none) : t.size = 0 := by
  obtain ⟨entries⟩ := t
  cases entries with
  | nil => rfl
  | cons e rest =>
    have hk := h e.1
    simp [get?] at hk

/-! ### Keys that occur once -/

theorem not_mem_keys {t : Table κ ν} {k : κ} : k ∉ t.keys ↔ t.get? k = none := by
  simp only [keys, get?, List.mem_map, Option.map_eq_none_iff, List.find?_eq_none,
    decide_eq_true_eq, not_exists, not_and]

theorem get?_of_mem {t : Table κ ν} (unique : t.keys.Nodup) {k : κ} {v : ν}
    (h : (k, v) ∈ t.entries) : t.get? k = some v := by
  cases hk : t.get? k with
  | none => exact absurd (List.mem_map_of_mem h) (not_mem_keys.mpr hk)
  | some w =>
    have heq := List.inj_on_of_nodup_map unique h (mem_of_get? hk) rfl
    rw [(Prod.mk.inj heq).2]

theorem nodup_keys_insert {t : Table κ ν} (unique : t.keys.Nodup) (k : κ) (v : ν) :
    (t.insert k v).keys.Nodup := by
  cases hk : t.get? k with
  | none =>
    rw [keys_insert_of_none v hk, List.nodup_append']
    refine ⟨unique, List.nodup_singleton k, ?_⟩
    exact List.disjoint_singleton.mpr (not_mem_keys.mpr hk)
  | some w => rwa [keys_insert_of_some v hk]

/-- If the keys are the first numbers, then a key says where its value is. -/
theorem values_getElem?_of_get? {t : Table Nat ν} (ordered : t.keys = List.range t.size) {n : Nat}
    {v : ν} (h : t.get? n = some v) : t.values[n]? = some v := by
  obtain ⟨i, hi⟩ := List.mem_iff_getElem?.mp (mem_of_get? h)
  have hkey : t.keys[i]? = some n := by simp [keys, hi]
  have hlt : i < t.size := (List.getElem?_eq_some_iff.mp hi).1
  rw [ordered, List.getElem?_range hlt] at hkey
  obtain rfl := Option.some.inj hkey
  simp [values, hi]

end SkinRelay.Table
