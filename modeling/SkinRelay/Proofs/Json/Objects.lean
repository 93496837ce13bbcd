import Mathlib.Data.List.Forall2
import Mathlib.Data.List.Induction
import SkinRelay.Proofs.Json.Layout

/-!
What an object denotes in a schema of a record, whatever the order of its members: a field has the value
of the only member with its key, or its default if there is none and it may be missing
(`Schema.denote_object_iff`). And what a list denotes, item by item (`Format.denote_list_iff`).
-/

namespace SkinRelay.Json

variable {schema : Schema} {fields : Fields} {key : String} {node : Node}
  {ms : List (Option String × Node)}

/-- The members with a key. -/
def membersOf (key : String) (ms : List (Option String × Node)) : List (Option String × Node) :=
  ms.filter (·.1 = some key)

/-- `Fills schema key ms slot`: the field with this key is left empty by the members, or is filled by the
only one of them with this key. -/
inductive Fills (schema : Schema) (key : String) (ms : List (Option String × Node)) :
    Option schema.Carrier → Prop
  | absent (h : membersOf key ms = []) : Fills schema key ms none
  | present {node : Node} {v : schema.Carrier} (h : membersOf key ms = [(some key, node)])
      (hv : schema.denote node = some v) : Fills schema key ms (some v)

/-- What the members say of every field. -/
def Fields.Holds : (fields : Fields) → List (Option String × Node) → fields.Slots → Prop
  | .nil, _, _ => True
  | .cons key _ schema rest, ms, (slot, st) => Fills schema key ms slot ∧ rest.Holds ms st

theorem membersOf_append_other {key' : String} (hne : key' ≠ key) :
    membersOf key (ms ++ [(some key', node)]) = membersOf key ms := by
  simp [membersOf, hne]

theorem membersOf_append_same :
    membersOf key (ms ++ [(some key, node)]) = membersOf key ms ++ [(some key, node)] := by
  simp [membersOf]

theorem fills_append_other {key' : String} (hne : key' ≠ key) {slot : Option schema.Carrier} :
    Fills schema key (ms ++ [(some key', node)]) slot ↔ Fills schema key ms slot := by
  have hsame := @membersOf_append_other key node ms key' hne
  constructor
  · intro h
    cases h with
    | absent h => exact .absent (hsame ▸ h)
    | present h hv => exact .present (hsame ▸ h) hv
  · intro h
    cases h with
    | absent h => exact .absent (hsame.trans h)
    | present h hv => exact .present (hsame.trans h) hv

theorem fills_append_same {slot : Option schema.Carrier} :
    Fills schema key (ms ++ [(some key, node)]) slot ↔
      Fills schema key ms none ∧ ∃ v, schema.denote node = some v ∧ slot = some v := by
  constructor
  · intro h
    cases h with
    | absent h =>
      rw [membersOf_append_same] at h
      simp at h
    | present h hv =>
      rw [membersOf_append_same] at h
      obtain ⟨hnone, hlast⟩ := List.append_eq_singleton_iff.mp h |>.resolve_right (by simp)
      cases hlast
      exact ⟨.absent hnone, _, hv, rfl⟩
  · rintro ⟨h, v, hv, rfl⟩
    cases h with
    | absent h => exact .present (by rw [membersOf_append_same, h]; rfl) hv

theorem Fields.holds_append_unknown : ∀ (fields : Fields), key ∉ fields.keys →
    ∀ st, fields.Holds (ms ++ [(some key, node)]) st ↔ fields.Holds ms st
  | .nil, _, _ => Iff.rfl
  | .cons name _ schema rest, h, (slot, st) => by
    obtain ⟨hne, hrest⟩ := not_or.mp (mt List.mem_cons.mpr h)
    exact and_congr (fills_append_other hne) (rest.holds_append_unknown hrest st)

theorem Fields.holds_nil : ∀ (fields : Fields) (st : fields.Slots),
    fields.Holds [] st ↔ st = fields.empty
  | .nil, _ => by simp [Fields.Holds]
  | .cons name _ schema rest, (slot, st) => by
    have hfills : Fills schema name [] slot ↔ slot = none := by
      constructor
      · intro h
        cases h with
        | absent => rfl
        | present h => cases h
      · rintro rfl
        exact .absent rfl
    rw [Fields.Holds, Fields.empty, hfills, rest.holds_nil st, Prod.mk.injEq]

/-- One more member. -/
theorem Fields.holds_append : ∀ (fields : Fields), fields.keys.Nodup → ∀ st' : fields.Slots,
    (∃ st, fields.Holds ms st ∧ fields.put st key node = some st') ↔
      fields.Holds (ms ++ [(some key, node)]) st'
  | .nil, _, _ => by simp [Fields.Holds, Fields.put]
  | .cons name _ schema rest, distinct, (slot', st') => by
    obtain ⟨hname, hrest⟩ := List.nodup_cons.mp distinct
    by_cases heq : key = name
    · subst heq
      rw [Fields.Holds, fills_append_same, rest.holds_append_unknown hname]
      constructor
      · rintro ⟨⟨slot, st⟩, ⟨hfills, hholds⟩, hput⟩
        rw [Fields.put_front] at hput
        cases slot with
        | some v => cases hput
        | none =>
          obtain ⟨v, hv, hslots⟩ := Option.map_eq_some_iff.mp hput
          cases hslots
          exact ⟨⟨hfills, v, hv, rfl⟩, hholds⟩
      · rintro ⟨⟨hnone, v, hv, rfl⟩, hholds⟩
        exact ⟨(none, st'), ⟨hnone, hholds⟩, by rw [Fields.put_front, hv]; rfl⟩
    · rw [Fields.Holds, fills_append_other heq, ← rest.holds_append hrest st']
      constructor
      · rintro ⟨⟨slot, st⟩, ⟨hfills, hholds⟩, hput⟩
        rw [Fields.put_behind heq] at hput
        obtain ⟨st'', hrest, hslots⟩ := Option.map_eq_some_iff.mp hput
        cases hslots
        exact ⟨hfills, st, hholds, hrest⟩
      · rintro ⟨hfills, st, hholds, hput⟩
        exact ⟨(slot', st), ⟨hfills, hholds⟩, by rw [Fields.put_behind heq, hput]; rfl⟩

/-- All the members can be put if their keys can be read and every field is filled at most once. -/
theorem Fields.putAll_eq_some_iff (distinct : fields.keys.Nodup) {st : fields.Slots} :
    Node.putAll fields.put fields.empty ms = some st ↔
      (∀ m ∈ ms, m.1 ≠ none) ∧ fields.Holds ms st := by
  induction ms using List.reverseRecOn generalizing st with
  | nil =>
    rw [fields.holds_nil]
    constructor
    · intro h
      exact ⟨List.forall_mem_nil _, (Option.some.inj h).symm⟩
    · rintro ⟨-, rfl⟩
      rfl
  | append_singleton ms m ih =>
    obtain ⟨key, node⟩ := m
    have hlast : ∀ st, Node.putAll fields.put st [(key, node)] =
        key.bind fun key => fields.put st key node := fun st => by
      rw [Node.putAll_cons]
      cases key with
      | none => rfl
      | some key => cases h : fields.put st key node <;> simp [h, Node.putAll]
    rw [Node.putAll_append, Option.bind_eq_some_iff]
    simp only [ih, hlast]
    cases key with
    | none =>
      constructor
      · rintro ⟨_, -, h⟩
        cases h
      · rintro ⟨hread, -⟩
        exact (hread _ (List.mem_append_right _ (List.mem_singleton_self _)) rfl).elim
    | some key =>
      have hkeys : (∀ m ∈ ms ++ [(some key, node)], m.1 ≠ none) ↔ ∀ m ∈ ms, m.1 ≠ none := by
        rw [List.forall_mem_append]
        exact and_iff_left (List.forall_mem_singleton.mpr (Option.some_ne_none key))
      rw [← fields.holds_append distinct st, hkeys]
      constructor
      · rintro ⟨st', ⟨hread, hholds⟩, hput⟩
        exact ⟨hread, st', hholds, hput⟩
      · rintro ⟨hread, st', hholds, hput⟩
        exact ⟨st', ⟨hread, hholds⟩, hput⟩

/-- `IsField presence schema key ms v`: the members give a field with this key the value `v`, its default
if they leave it empty and it may be missing. -/
def IsField (presence : Presence) (schema : Schema) (key : String)
    (ms : List (Option String × Node)) (v : schema.Carrier) : Prop :=
  ∃ slot, Fills schema key ms slot ∧
    (slot = some v ∨ slot = none ∧ presence ≠ .required ∧ schema.default = v)

theorem isField_iff {presence : Presence} {v : schema.Carrier} :
    IsField presence schema key ms v ↔
      (membersOf key ms = [] ∧ presence ≠ .required ∧ schema.default = v) ∨
        ∃ node, membersOf key ms = [(some key, node)] ∧ schema.denote node = some v := by
  constructor
  · rintro ⟨slot, hfills, rfl | ⟨rfl, optional, rfl⟩⟩
    · cases hfills with
      | present h hv => exact .inr ⟨_, h, hv⟩
    · cases hfills with
      | absent h => exact .inl ⟨h, optional, rfl⟩
  · rintro (⟨h, optional, rfl⟩ | ⟨node, h, hv⟩)
    · exact ⟨none, .absent h, .inr ⟨rfl, optional, rfl⟩⟩
    · exact ⟨some v, .present h hv, .inl rfl⟩

/-- `fields.Describe ms v`: the members give all the fields the values in `v`. -/
def Fields.Describe : (fields : Fields) → List (Option String × Node) → fields.Carrier → Prop
  | .nil, _, _ => True
  | .cons key presence schema rest, ms, (v, vs) =>
    IsField presence schema key ms v ∧ rest.Describe ms vs

theorem Fields.complete?_cons {presence : Presence} {rest : Fields} {slot : Option schema.Carrier}
    {st : rest.Slots} {v : schema.Carrier} {vs : rest.Carrier} :
    (Fields.cons key presence schema rest).complete? (slot, st) = some (v, vs) ↔
      (slot = some v ∨ slot = none ∧ presence ≠ .required ∧ schema.default = v) ∧
        rest.complete? st = some vs := by
  cases slot with
  | none => cases presence <;> simp [Fields.complete?, and_comm]
  | some w => simp [Fields.complete?, and_comm]

/-- The fields are complete if each of them is filled or may be missing. -/
theorem Fields.describe_iff : ∀ (fields : Fields) (v : fields.Carrier),
    fields.Describe ms v ↔ ∃ st, fields.Holds ms st ∧ fields.complete? st = some v
  | .nil, _ => ⟨fun _ => ⟨(), trivial, rfl⟩, fun _ => trivial⟩
  | .cons key presence schema rest, (v, vs) => by
    rw [Fields.Describe, rest.describe_iff vs]
    constructor
    · rintro ⟨⟨slot, hfills, hslot⟩, st, hholds, hcomplete⟩
      exact ⟨(slot, st), ⟨hfills, hholds⟩, Fields.complete?_cons.mpr ⟨hslot, hcomplete⟩⟩
    · rintro ⟨⟨slot, st⟩, ⟨hfills, hholds⟩, hcomplete⟩
      obtain ⟨hslot, hrest⟩ := Fields.complete?_cons.mp hcomplete
      exact ⟨⟨slot, hfills, hslot⟩, st, hholds, hrest⟩

/-- An object denotes a record if all its keys can be read and its members describe all the fields. -/
theorem Schema.denote_object_iff (distinct : fields.keys.Nodup) {v : fields.Carrier} :
    (Schema.record fields).denote (.object ms) = some v ↔
      (∀ m ∈ ms, m.1 ≠ none) ∧ fields.Describe ms v := by
  rw [Schema.denote, Node.record?, Option.bind_eq_some_iff, fields.describe_iff]
  simp only [Fields.putAll_eq_some_iff distinct]
  constructor
  · rintro ⟨st, ⟨hread, hholds⟩, hcomplete⟩
    exact ⟨hread, st, hholds, hcomplete⟩
  · rintro ⟨hread, st, hholds, hcomplete⟩
    exact ⟨st, ⟨hread, hholds⟩, hcomplete⟩

/-! ### Lists -/

/-- The values that the items of a list denote, in their order. -/
theorem mapM_eq_some_iff {β : Type} {f : Node → Option β} {nodes : List Node} {values : List β} :
    nodes.mapM f = some values ↔ List.Forall₂ (fun node v => f node = some v) nodes values := by
  induction nodes generalizing values with
  | nil => simp [eq_comm]
  | cons node nodes ih =>
    rw [List.mapM_cons, List.forall₂_cons_left_iff]
    simp only [Option.bind_eq_bind, Option.bind_eq_some_iff, ih, Option.pure_def]
    constructor
    · rintro ⟨v, hv, vs, hvs, heq⟩
      exact ⟨v, vs, hv, hvs, (Option.some.inj heq).symm⟩
    · rintro ⟨v, vs, hv, hvs, rfl⟩
      exact ⟨v, hv, vs, hvs, rfl⟩

theorem Format.denote_list_iff {α : Type} {format : Format α} {values : List α} :
    (Format.list format).denote node = some values ↔
      ∃ nodes, node = .list nodes ∧
        List.Forall₂ (fun node v => format.denote node = some v) nodes values := by
  cases node with
  | list nodes =>
    have hmap : (Format.list format).denote (.list nodes) = nodes.mapM format.denote := by
      show (nodes.mapM format.schema.denote).map (List.map format.ofCarrier) = _
      induction nodes with
      | nil => rfl
      | cons node nodes ih =>
        rw [List.mapM_cons, List.mapM_cons, ← ih, Format.denote]
        cases format.schema.denote node with
        | none => rfl
        | some v => cases nodes.mapM format.schema.denote <;> rfl
    rw [hmap, mapM_eq_some_iff]
    constructor
    · exact fun h => ⟨nodes, rfl, h⟩
    · rintro ⟨_, ⟨⟩, h⟩
      exact h
  | null | flag | number | text | object =>
    constructor
    · intro h
      cases h
    · rintro ⟨_, h, -⟩
      cases h

end SkinRelay.Json
