import SkinRelay.Json.Format
import SkinRelay.Proofs.Json.Records

/-!
The reader of a schema gives every text the meaning of its value (`Format.read_spelled`), and every text
that can be read is the text of a value (`Format.exists_spelled`).
-/

namespace SkinRelay.Json

variable {s : Bytes} {node : Node}

/-- The entry of the field at the front puts a value into it once. -/
theorem Entry.reads_front {α σ : Type} {r : Reader α} {meaning : Node → Option α}
    (reads : r.Reads meaning) : (Entry.front r : Entry (Option α × σ)).Reads fun st node =>
      if st.1.isSome then none else (meaning node).map fun v => (some v, st.2) where
  meaning := by
    refine ⟨_, reads.map _, fun st node => ?_⟩
    cases meaning node <;> rfl

theorem Entry.Reads.behind {α σ : Type} {e : Entry σ} {put : σ → Node → Option σ}
    (reads : e.Reads put) :
    (e.behind : Entry (α × σ)).Reads fun st node => (put st.2 node).map (st.1, ·) where
  meaning := by
    obtain ⟨meaning, hfill, hput⟩ := reads.meaning
    refine ⟨_, hfill.map _, fun st node => ?_⟩
    rw [hput]
    show (if e.filled st.2 then none else (meaning node).map (· st.2)).map (st.1, ·) =
      if e.filled st.2 then none else _
    split
    · rfl
    · cases meaning node <;> rfl

mutual

theorem Schema.reads : ∀ schema : Schema, schema.reader.Reads schema.denote
  | .text => Reader.reads_text
  | .flag => Reader.reads_flag
  | .int64 => Reader.reads_int64
  | .list item => item.reads.list
  | .option value => value.reads.option
  | .record fields => reads_record fields.reads_lookup fields.reads_sequence

theorem Fields.reads_lookup : ∀ fields : Fields, LookupReads fields.lookup fields.put
  | .nil => ⟨fun _ _ _ _ => rfl, fun _ _ h => nomatch h⟩
  | .cons name _ schema rest => by
    have front := schema.reads
    have behind := rest.reads_lookup
    refine ⟨fun key h st node => ?_, fun key e h => ?_⟩
    · rw [Fields.lookup] at h
      rw [Fields.put]
      split at h
      · cases h
      · rename_i hne
        rw [if_neg hne, behind.unknown key (Option.map_eq_none_iff.mp h)]
        rfl
    · rw [Fields.lookup] at h
      simp only [Fields.put]
      split at h
      · rename_i heq
        cases h
        simp only [if_pos heq]
        exact Entry.reads_front front
      · rename_i hne
        obtain ⟨own, hown, rfl⟩ := Option.map_eq_some_iff.mp h
        simp only [if_neg hne]
        exact (behind.known key own hown).behind

theorem Fields.reads_sequence : ∀ fields : Fields, fields.sequence.Reads fields.arrange
  | .nil => Sequence.reads_nil
  | .cons _ _ schema rest => .cons schema.reads rest.reads_sequence

end

/-! ### Whole texts -/

theorem ends_of_blank_only {a : Bytes} (ha : Blanks a) : Ends a := by
  have hends := ends_of_blanks ha (s := []) trivial
  rwa [List.append_nil] at hends

theorem Schema.read_spelled (schema : Schema) (h : SpellsWhole node s) :
    (schema.read s).toOption = schema.denote node := by
  obtain ⟨hs, ha⟩ := h
  rename_i s a
  have hrun := schema.reads.spelled hs (ends_of_blank_only ha)
  have hblank : skipBlank a = [] := by
    rw [← List.append_nil a, skipBlank_append ha]
    rfl
  simp only [Schema.read]
  cases hmeaning : schema.denote node with
  | none =>
    rw [hmeaning] at hrun
    obtain ⟨f, hf⟩ := toOption_eq_none.mp hrun
    rw [hf]
    rfl
  | some v =>
    rw [hmeaning] at hrun
    simp only [toOption_eq_some.mp hrun, hblank, toOption_ok]

theorem Schema.exists_spelled {schema : Schema} {v : schema.Carrier} (h : schema.read s = .ok v) :
    ∃ node, SpellsWhole node s := by
  unfold Schema.read at h
  split at h
  · cases h
  · rename_i value rest hrun
    split at h
    · rename_i hblank
      obtain ⟨node, front, hnode, rfl⟩ := schema.reads.complete hrun
      obtain ⟨a, ha, hrest⟩ := exists_blanks rest
      rw [hblank, List.append_nil] at hrest
      exact ⟨node, .mk hnode (hrest ▸ ha)⟩
    · cases h

variable {α : Type}

/-- The value of `α` that a node denotes. -/
def Format.denote (format : Format α) (node : Node) : Option α :=
  (format.schema.denote node).map format.ofCarrier

/-- However a value is spelled, it is read as what it denotes. -/
theorem Format.read_spelled (format : Format α) (h : SpellsWhole node s) :
    (format.read s).toOption = format.denote node := by
  have hread := format.schema.read_spelled h
  rw [Format.denote, ← hread, Format.read]
  cases format.schema.read s <;> rfl

/-- What can be read is the text of a value. -/
theorem Format.exists_spelled {format : Format α} {a : α} (h : format.read s = .ok a) :
    ∃ node, SpellsWhole node s := by
  unfold Format.read at h
  split at h
  · cases h
  · rename_i hread
    exact Schema.exists_spelled hread

/-- `format.Means s a`: the text `s` is the text of a value that denotes `a`. -/
def Format.Means (format : Format α) (s : Bytes) (a : α) : Prop :=
  ∃ node, SpellsWhole node s ∧ format.denote node = some a

/-- A text is read as what it means. -/
theorem Format.read_eq_ok_iff {format : Format α} {a : α} :
    format.read s = .ok a ↔ format.Means s a := by
  constructor
  · intro h
    obtain ⟨node, hnode⟩ := Format.exists_spelled h
    exact ⟨node, hnode, by rw [← format.read_spelled hnode, h, toOption_ok]⟩
  · rintro ⟨node, hnode, ha⟩
    rw [← toOption_eq_some, format.read_spelled hnode, ha]

end SkinRelay.Json
