import SkinRelay.Expiring
import SkinRelay.Proofs.Table

/-!
What is gone from an expiring table. A value that was put in is there for its whole lifetime, and
what a sweep takes out nobody could have read any more. So after any events a table holds what was
put in last, as long as it is alive (`Follows`).
-/

namespace SkinRelay.Expiring

section

variable {κ ν : Type} {t : Expiring κ ν} {now later : Nat} {key : κ}

theorem nodup_keys_sweep (unique : t.entries.keys.Nodup) (now : Nat) :
    (t.sweep now).entries.keys.Nodup :=
  unique.sublist (List.filter_sublist.map _)

variable [DecidableEq κ]

theorem get?_eq_none_iff :
    t.get? now key = none ↔ ∀ entry, t.entries.get? key = some entry →
      entry.since + t.lifetime ≤ now := by
  unfold get?
  cases h : t.entries.get? key with
  | none => simp
  | some entry => simp [Option.filter, isAlive]

/-- What is gone stays gone. -/
theorem get?_eq_none_of_le (h : t.get? now key = none) (hle : now ≤ later) :
    t.get? later key = none := by
  rw [get?_eq_none_iff] at h ⊢
  intro entry hentry
  have hsince := h entry hentry
  omega

/-- What is found at two moments is the same. -/
theorem get?_inj {v w : ν} (h : t.get? now key = some v) (h' : t.get? later key = some w) :
    v = w := by
  obtain ⟨entry, hentry, rfl⟩ := Option.map_eq_some_iff.mp h
  obtain ⟨entry', hentry', rfl⟩ := Option.map_eq_some_iff.mp h'
  rw [← Option.some.inj ((Option.filter_eq_some_iff.mp hentry).1.symm.trans
    (Option.filter_eq_some_iff.mp hentry').1)]

/-- What a sweep leaves is what is alive. -/
theorem entries_get?_sweep (unique : t.entries.keys.Nodup) {entry : Dated ν} :
    (t.sweep now).entries.get? key = some entry ↔
      t.entries.get? key = some entry ∧ t.isAlive now entry = true := by
  constructor
  · intro h
    have hmem : (key, entry) ∈ t.entries.entries.filter fun e => t.isAlive now e.2 :=
      Table.mem_of_get? h
    obtain ⟨hold, halive⟩ := List.mem_filter.mp hmem
    exact ⟨Table.get?_of_mem unique hold, halive⟩
  · rintro ⟨h, halive⟩
    apply Table.get?_of_mem (nodup_keys_sweep unique now)
    exact List.mem_filter.mpr ⟨Table.mem_of_get? h, halive⟩

/-- A sweep does not show. -/
theorem get?_sweep (unique : t.entries.keys.Nodup) (hle : now ≤ later) (key : κ) :
    (t.sweep now).get? later key = t.get? later key := by
  cases h : t.entries.get? key with
  | none =>
    have hnone : (t.sweep now).entries.get? key = none := by
      rw [Option.eq_none_iff_forall_ne_some]
      intro entry hentry
      rw [((entries_get?_sweep unique).mp hentry).1] at h
      cases h
    simp [get?, h, hnone]
  | some entry =>
    by_cases halive : t.isAlive now entry = true
    · have hsame := (entries_get?_sweep unique).mpr ⟨h, halive⟩
      unfold get?
      rw [hsame, h]
      rfl
    · have hgone : t.get? now key = none := by
        rw [get?_eq_none_iff]
        intro entry' h'
        obtain rfl := Option.some.inj (h.symm.trans h')
        simpa [isAlive] using halive
      have hswept : (t.sweep now).get? now key = none := by
        rw [get?_eq_none_iff]
        intro entry' h'
        obtain ⟨hold, halive'⟩ := (entries_get?_sweep unique).mp h'
        obtain rfl := Option.some.inj (h.symm.trans hold)
        exact absurd halive' halive
      rw [get?_eq_none_of_le hgone hle, get?_eq_none_of_le hswept hle]

end

/-! ### What was put in last -/

section

variable {ε κ ν : Type} {put? : ε → Option (κ × ν)} {log : List ε} {e : ε} {key : κ} {value w : ν}

/-- `Last put? log key value`: the last of these events that put something in under the key put in
this value. -/
def Last (put? : ε → Option (κ × ν)) (log : List ε) (key : κ) (value : ν) : Prop :=
  ∃ before e after, log = before ++ e :: after ∧ put? e = some (key, value) ∧
    ∀ d ∈ after, ∀ other, put? d ≠ some (key, other)

theorem not_last_nil : ¬Last put? [] key value := by
  rintro ⟨before, e, after, h, -⟩
  simp at h

/-- What was put in last has just been put in, or was the last one before and still is. -/
theorem last_concat : Last put? (log ++ [e]) key value ↔ put? e = some (key, value) ∨
    Last put? log key value ∧ ∀ other, put? e ≠ some (key, other) := by
  constructor
  · rintro ⟨before, d, after, h, hd, hafter⟩
    rcases after.eq_nil_or_concat with rfl | ⟨rest, last, rfl⟩
    · obtain ⟨-, he⟩ := List.append_inj' h rfl
      cases he
      exact .inl hd
    · rw [List.concat_eq_append] at h hafter
      have h' : log ++ [e] = (before ++ d :: rest) ++ [last] := by simpa using h
      obtain ⟨hlog, he⟩ := List.append_inj' h' rfl
      cases he
      obtain ⟨hrest, hlast⟩ := List.forall_mem_append.mp hafter
      exact .inr ⟨⟨before, d, rest, hlog, hd, hrest⟩, hlast e (List.mem_singleton_self e)⟩
  · rintro (he | ⟨⟨before, d, after, rfl, hd, hafter⟩, hother⟩)
    · exact ⟨log, e, [], rfl, he, by simp⟩
    · refine ⟨before, d, after ++ [e], by simp, hd, ?_⟩
      exact List.forall_mem_append.mpr ⟨hafter, List.forall_mem_singleton.mpr hother⟩

theorem last_concat_of_none (h : put? e = none) :
    Last put? (log ++ [e]) key value ↔ Last put? log key value := by
  simp [last_concat, h]

theorem last_concat_self (h : put? e = some (key, w)) :
    Last put? (log ++ [e]) key value ↔ value = w := by
  rw [last_concat, h]
  constructor
  · rintro (hw | ⟨-, hother⟩)
    · cases hw
      rfl
    · exact absurd rfl (hother w)
  · rintro rfl
    exact .inl rfl

theorem last_concat_of_ne {j : κ} (h : put? e = some (j, w)) (hne : key ≠ j) :
    Last put? (log ++ [e]) key value ↔ Last put? log key value := by
  simp [last_concat, h, hne.symm]

end

section

variable {ε κ ν : Type} [DecidableEq κ] {put? : ε → Option (κ × Dated ν)} {time : ε → Nat}
  {log : List ε} {e : ε} {t : Expiring κ ν}

/-- Whether a table holds what these events have put in, that is under each key what was put in
last, as long as it is alive. Nobody looks back: a time before the last event does not count. -/
structure Follows (put? : ε → Option (κ × Dated ν)) (time : ε → Nat) (log : List ε)
    (t : Expiring κ ν) : Prop where
  unique : t.entries.keys.Nodup
  finds : ∀ later, (∀ e ∈ log, time e ≤ later) → ∀ key value, t.get? later key = some value ↔
    ∃ since, Last put? log key ⟨value, since⟩ ∧ later < since + t.lifetime

theorem follows_nil (lifetime : Nat) : Follows put? time [] ({ lifetime } : Expiring κ ν) where
  unique := List.nodup_nil
  finds later _ key value := by
    constructor
    · intro h
      cases h
    · rintro ⟨since, hlast, -⟩
      exact absurd hlast not_last_nil

namespace Follows

theorem keep (h : Follows put? time log t) (silent : put? e = none) :
    Follows put? time (log ++ [e]) t where
  unique := h.unique
  finds later huntil key value := by
    simp only [last_concat_of_none silent]
    exact h.finds later (List.forall_mem_append.mp huntil).1 key value

theorem sweep (h : Follows put? time log t) (silent : put? e = none) :
    Follows put? time (log ++ [e]) (t.sweep (time e)) where
  unique := nodup_keys_sweep h.unique (time e)
  finds later huntil key value := by
    obtain ⟨hlog, he⟩ := List.forall_mem_append.mp huntil
    simp only [last_concat_of_none silent,
      get?_sweep h.unique (he e (List.mem_singleton_self e)) key]
    exact h.finds later hlog key value

theorem insert {key : κ} {value : ν} {now : Nat} (h : Follows put? time log t)
    (puts : put? e = some (key, ⟨value, now⟩)) :
    Follows put? time (log ++ [e]) (t.insert now key value) where
  unique := Table.nodup_keys_insert h.unique _ _
  finds later huntil j other := by
    have hlifetime : (t.insert now key value).lifetime = t.lifetime := rfl
    rw [hlifetime]
    by_cases hj : j = key
    · subst hj
      simp only [get?_insert_self, last_concat_self puts]
      constructor
      · intro hfound
        split at hfound
        · rename_i hlater
          cases hfound
          exact ⟨now, rfl, hlater⟩
        · cases hfound
      · rintro ⟨since, hlast, hlater⟩
        cases hlast
        exact if_pos hlater
    · rw [get?_insert_of_ne t now later value hj]
      simp only [last_concat_of_ne puts hj]
      exact h.finds later (List.forall_mem_append.mp huntil).1 j other

end Follows

end

end SkinRelay.Expiring
