import SkinRelay.Account
import SkinRelay.Profile
import SkinRelay.Proofs.Json.Adequacy
import SkinRelay.Proofs.Json.RoundTrip

/-!
The layout of a text makes no difference to what it is read as: white space and escapes do not, because
the meaning of a text is that of its value (`Format.read_spelled`), and neither do the order of members
and members with unknown keys (`Rearranges.denote_eq`). A known key that comes twice, or a required one
that is missing, leaves no meaning at all (`Flawed.denote_eq_none`).
-/

namespace SkinRelay.Json

variable {α σ : Type} {node node' : Node} {schema : Schema} {fields : Fields} {key key' : String}

/-! ### Members one after another -/

namespace Node

variable {put : σ → String → Node → Option σ} {st : σ} {ms ms' : List (Option String × Node)}

theorem putAll_cons (put : σ → String → Node → Option σ) (st : σ) (m : Option String × Node)
    (ms : List (Option String × Node)) :
    putAll put st (m :: ms) =
      (m.1.bind fun key => put st key m.2).bind fun st => putAll put st ms := rfl

theorem putAll_append (put : σ → String → Node → Option σ) (st : σ)
    (ms ms' : List (Option String × Node)) :
    putAll put st (ms ++ ms') = (putAll put st ms).bind fun st => putAll put st ms' :=
  List.foldlM_append

/-- Members that can be put in either order can be put in any order. -/
theorem putAll_perm (comm : ∀ st key node key' node',
      (put st key node).bind (put · key' node') = (put st key' node').bind (put · key node))
    (h : ms.Perm ms') (st : σ) : putAll put st ms = putAll put st ms' := by
  induction h generalizing st with
  | nil => rfl
  | cons m _ ih =>
    rw [putAll_cons, putAll_cons]
    exact congrArg _ (funext ih)
  | swap m m' ms =>
    obtain ⟨key, node⟩ := m
    obtain ⟨key', node'⟩ := m'
    simp only [putAll_cons, ← Option.bind_assoc]
    congr 1
    cases key with
    | none => simp
    | some key =>
      cases key' with
      | none => simp
      | some key' => exact comm st key' node' key node
  | trans _ _ ih ih' => exact (ih st).trans (ih' st)

end Node

/-! ### Fields -/

/-- The schema of the field with this key. -/
def Fields.schema? : Fields → String → Option Schema
  | .nil, _ => none
  | .cons name _ schema rest, key => if key = name then some schema else rest.schema? key

/-- The schema of the field at this place. -/
def Fields.schemaAt? : Fields → Nat → Option Schema
  | .nil, _ => none
  | .cons _ _ schema _, 0 => some schema
  | .cons _ _ _ rest, i + 1 => rest.schemaAt? i

/-- The keys that must be there. -/
def Fields.required : Fields → List String
  | .nil => []
  | .cons key presence _ rest => if presence = .required then key :: rest.required else rest.required

section

variable {name : String} {presence : Presence} {rest : Fields} {slot : Option schema.Carrier}
  {st : rest.Slots}

theorem Fields.put_front (node : Node) :
    (Fields.cons name presence schema rest).put (slot, st) name node =
      if slot.isSome then none else (schema.denote node).map fun v => (some v, st) := by
  rw [Fields.put, if_pos rfl]

theorem Fields.put_behind (hne : key ≠ name) (node : Node) :
    (Fields.cons name presence schema rest).put (slot, st) key node =
      (rest.put st key node).map (slot, ·) := by
  rw [Fields.put, if_neg hne]

end

theorem Fields.put_unknown : ∀ (fields : Fields) (key : String), key ∉ fields.keys →
    ∀ st node, fields.put st key node = some st
  | .nil, _, _, _, _ => rfl
  | .cons name _ schema rest, key, h, (slot, st), node => by
    obtain ⟨hne, hrest⟩ := not_or.mp (mt List.mem_cons.mpr h)
    rw [Fields.put_behind hne, rest.put_unknown key hrest, Option.map_some]

/-- What is put is what the value denotes to its field. -/
theorem Fields.put_congr : ∀ (fields : Fields) (key : String), fields.schema? key = some schema →
    schema.denote node = schema.denote node' → ∀ st, fields.put st key node = fields.put st key node'
  | .nil, _, h, _, _ => nomatch h
  | .cons name _ schema rest, key, h, hdenote, (slot, st) => by
    rw [Fields.schema?] at h
    split at h
    · rename_i heq
      subst heq
      cases h
      rw [Fields.put_front, Fields.put_front, hdenote]
    · rename_i hne
      rw [Fields.put_behind hne, Fields.put_behind hne, rest.put_congr key h hdenote]

theorem Fields.put_eq_none : ∀ (fields : Fields) (key : String), fields.schema? key = some schema →
    schema.denote node = none → ∀ st, fields.put st key node = none
  | .nil, _, h, _, _ => nomatch h
  | .cons name _ schema rest, key, h, hdenote, (slot, st) => by
    rw [Fields.schema?] at h
    split at h
    · rename_i heq
      subst heq
      cases h
      rw [Fields.put_front, hdenote, Option.map_none, ite_self]
    · rename_i hne
      rw [Fields.put_behind hne, rest.put_eq_none key h hdenote, Option.map_none]

/-- A known key cannot be put twice. -/
theorem Fields.put_twice : ∀ (fields : Fields) (key : String), key ∈ fields.keys →
    ∀ st node node', (fields.put st key node).bind (fields.put · key node') = none
  | .nil, _, h, _, _, _ => nomatch h
  | .cons name _ schema rest, key, h, (slot, st), node, node' => by
    by_cases heq : key = name
    · subst heq
      rw [Fields.put_front]
      cases slot with
      | some v => rfl
      | none => cases schema.denote node <;> simp [Fields.put_front]
    · have hrest := rest.put_twice key ((List.mem_cons.mp h).resolve_left heq) st node node'
      rw [Fields.put_behind heq]
      cases hput : rest.put st key node with
      | none => rfl
      | some st' =>
        rw [hput, Option.bind_some] at hrest
        rw [Option.map_some, Option.bind_some, Fields.put_behind heq, hrest, Option.map_none]

/-- Members with different keys do not get in each other's way. -/
theorem Fields.put_comm_of_ne : ∀ (fields : Fields) (key key' : String), key ≠ key' →
    ∀ st node node', (fields.put st key node).bind (fields.put · key' node') =
      (fields.put st key' node').bind (fields.put · key node)
  | .nil, _, _, _, _, _, _ => rfl
  | .cons name _ schema rest, key, key', hne, (slot, st), node, node' => by
    by_cases h : key = name
    · subst h
      rw [Fields.put_front, Fields.put_behind hne.symm]
      cases slot with
      | some v => cases rest.put st key' node' <;> simp [Fields.put_front]
      | none =>
        cases hdenote : schema.denote node <;> cases hput : rest.put st key' node' <;>
          simp [Fields.put_front, Fields.put_behind hne.symm, hdenote, hput]
    · by_cases h' : key' = name
      · subst h'
        rw [Fields.put_front, Fields.put_behind hne]
        cases slot with
        | some v => cases rest.put st key node <;> simp [Fields.put_front]
        | none =>
          cases hdenote : schema.denote node' <;> cases hput : rest.put st key node <;>
            simp [Fields.put_front, Fields.put_behind hne, hdenote, hput]
      · have ih := rest.put_comm_of_ne key key' hne st node node'
        simp only [Fields.put_behind h, Fields.put_behind h', Option.bind_map, Function.comp_def]
        have hmap := congrArg (Option.map (slot, ·)) ih
        simpa only [Option.map_bind, Function.comp_def] using hmap

/-- Two members can be put in either order. -/
theorem Fields.put_comm (fields : Fields) (st : fields.Slots) (key : String) (node : Node)
    (key' : String) (node' : Node) :
    (fields.put st key node).bind (fields.put · key' node') =
      (fields.put st key' node').bind (fields.put · key node) := by
  by_cases heq : key = key'
  · subst heq
    by_cases known : key ∈ fields.keys
    · rw [fields.put_twice key known, fields.put_twice key known]
    · simp [fields.put_unknown key known]
  · exact fields.put_comm_of_ne key key' heq st node node'

theorem Fields.arrange_congr : ∀ (fields : Fields) (nodes nodes' : List Node),
    fields.schemaAt? nodes.length = some schema → schema.denote node = schema.denote node' →
    fields.arrange (nodes ++ node :: nodes') = fields.arrange (nodes ++ node' :: nodes')
  | .nil, _, _, h, _ => nomatch h
  | .cons _ _ _ rest, [], nodes', h, hdenote => by
    cases h
    simp only [List.nil_append, Fields.arrange, Node.arrangeCons, hdenote]
  | .cons _ _ _ rest, _ :: nodes, nodes', h, hdenote => by
    simp only [List.cons_append, Fields.arrange, Node.arrangeCons,
      rest.arrange_congr nodes nodes' h hdenote]

theorem Fields.arrange_eq_none : ∀ (fields : Fields) (nodes nodes' : List Node),
    fields.schemaAt? nodes.length = some schema → schema.denote node = none →
    fields.arrange (nodes ++ node :: nodes') = none
  | .nil, _, _, h, _ => nomatch h
  | .cons _ _ _ rest, [], nodes', h, hdenote => by
    cases h
    simp only [List.nil_append, Fields.arrange, Node.arrangeCons, hdenote, Option.bind_none]
  | .cons _ _ _ rest, _ :: nodes, nodes', h, hdenote => by
    simp only [List.cons_append, Fields.arrange, Node.arrangeCons,
      rest.arrange_eq_none nodes nodes' h hdenote, Option.map_none, Option.bind_fun_none]

/-- Whether a required field with this key is still empty. -/
def Fields.Lacks : (fields : Fields) → fields.Slots → String → Prop
  | .nil, _, _ => False
  | .cons name presence _ rest, (slot, st), key =>
    (name = key ∧ presence = .required ∧ slot = none) ∨ rest.Lacks st key

theorem Fields.lacks_empty : ∀ (fields : Fields), key ∈ fields.required →
    fields.Lacks fields.empty key
  | .nil, h => nomatch h
  | .cons name presence _ rest, h => by
    rw [Fields.required] at h
    split at h
    · rename_i hpresence
      rcases List.mem_cons.mp h with rfl | h
      · exact .inl ⟨rfl, hpresence, rfl⟩
      · exact .inr (rest.lacks_empty h)
    · exact .inr (rest.lacks_empty h)

/-- A member with another key does not fill the field. -/
theorem Fields.Lacks.put : ∀ {fields : Fields} {st st' : fields.Slots}, fields.Lacks st key →
    key' ≠ key → fields.put st key' node = some st' → fields.Lacks st' key
  | .nil, _, _, h, _, _ => h.elim
  | .cons name presence schema rest, (slot, st), st', h, hne, hput => by
    by_cases heq : key' = name
    · subst heq
      rw [Fields.put_front] at hput
      split at hput
      · cases hput
      · obtain ⟨v, -, rfl⟩ := Option.map_eq_some_iff.mp hput
        exact .inr (h.resolve_left fun hfront => hne hfront.1)
    · rw [Fields.put_behind heq] at hput
      obtain ⟨st'', hrest, rfl⟩ := Option.map_eq_some_iff.mp hput
      exact h.imp id fun hbehind => hbehind.put hne hrest

theorem Fields.Lacks.putAll {ms : List (Option String × Node)} {st st' : fields.Slots}
    (h : fields.Lacks st key) (absent : ∀ m ∈ ms, m.1 ≠ some key)
    (hput : Node.putAll fields.put st ms = some st') : fields.Lacks st' key := by
  induction ms generalizing st with
  | nil => exact Option.some.inj hput ▸ h
  | cons m ms ih =>
    obtain ⟨hm, hms⟩ := List.forall_mem_cons.mp absent
    obtain ⟨key', node⟩ := m
    rw [Node.putAll_cons] at hput
    obtain ⟨st₁, hfirst, hrest⟩ := Option.bind_eq_some_iff.mp hput
    obtain ⟨key', rfl, hfirst⟩ := Option.bind_eq_some_iff.mp hfirst
    exact ih (h.put (fun heq => hm (congrArg some heq)) hfirst) hms hrest

theorem Fields.Lacks.complete? : ∀ {fields : Fields} {st : fields.Slots}, fields.Lacks st key →
    fields.complete? st = none
  | .nil, _, h => h.elim
  | .cons _ presence _ rest, (slot, st), h => by
    rcases h with ⟨-, rfl, rfl⟩ | h
    · rfl
    · have hrest := h.complete?
      cases slot <;> cases presence <;> simp [Fields.complete?, hrest]

/-! ### The same in another layout -/

/-- `Rearranges schema node node'`: the values differ, at any depth, only in the order of members and in
members that the schema does not know. -/
inductive Rearranges : Schema → Node → Node → Prop
  | refl {schema : Schema} {node : Node} : Rearranges schema node node
  | symm {schema : Schema} {node node' : Node} (h : Rearranges schema node node') :
      Rearranges schema node' node
  | trans {schema : Schema} {node node' node'' : Node} (h : Rearranges schema node node')
      (h' : Rearranges schema node' node'') : Rearranges schema node node''
  | permute {fields : Fields} {ms ms' : List (Option String × Node)} (h : ms.Perm ms') :
      Rearranges (.record fields) (.object ms) (.object ms')
  | insert {fields : Fields} {key : String} {node : Node} {ms ms' : List (Option String × Node)}
      (unknown : key ∉ fields.keys) :
      Rearranges (.record fields) (.object (ms ++ ms')) (.object (ms ++ (some key, node) :: ms'))
  | member {fields : Fields} {key : String} {schema : Schema} {node node' : Node}
      {ms ms' : List (Option String × Node)} (known : fields.schema? key = some schema)
      (h : Rearranges schema node node') :
      Rearranges (.record fields) (.object (ms ++ (some key, node) :: ms'))
        (.object (ms ++ (some key, node') :: ms'))
  | field {fields : Fields} {schema : Schema} {node node' : Node} {nodes nodes' : List Node}
      (known : fields.schemaAt? nodes.length = some schema) (h : Rearranges schema node node') :
      Rearranges (.record fields) (.list (nodes ++ node :: nodes'))
        (.list (nodes ++ node' :: nodes'))
  | item {schema : Schema} {node node' : Node} {nodes nodes' : List Node}
      (h : Rearranges schema node node') :
      Rearranges (.list schema) (.list (nodes ++ node :: nodes')) (.list (nodes ++ node' :: nodes'))
  | value {schema : Schema} {node node' : Node} (h : Rearranges schema node node') :
      Rearranges (.option schema) node node'

theorem Rearranges.null_iff (h : Rearranges schema node node') : node = .null ↔ node' = .null := by
  induction h with
  | refl => exact Iff.rfl
  | symm _ ih => exact ih.symm
  | trans _ _ ih ih' => exact ih.trans ih'
  | value _ ih => exact ih
  | permute | insert | member | field | item => simp

theorem Node.option?_of_ne (value : Node → Option α) (h : node ≠ .null) :
    node.option? value = (value node).map some := by
  unfold Node.option?
  split
  · exact absurd rfl h
  · rfl

theorem Fields.putAll_insert (unknown : key ∉ fields.keys) (st : fields.Slots)
    (ms ms' : List (Option String × Node)) :
    Node.putAll fields.put st (ms ++ (some key, node) :: ms') =
      Node.putAll fields.put st (ms ++ ms') := by
  simp only [Node.putAll_append, Node.putAll_cons, Option.bind_some,
    fields.put_unknown key unknown]

theorem Fields.putAll_congr (known : fields.schema? key = some schema)
    (h : schema.denote node = schema.denote node') (st : fields.Slots)
    (ms ms' : List (Option String × Node)) :
    Node.putAll fields.put st (ms ++ (some key, node) :: ms') =
      Node.putAll fields.put st (ms ++ (some key, node') :: ms') := by
  simp only [Node.putAll_append, Node.putAll_cons, Option.bind_some, fields.put_congr key known h]

/-- Values that differ only in their layout denote the same. -/
theorem Rearranges.denote_eq (h : Rearranges schema node node') :
    schema.denote node = schema.denote node' := by
  induction h with
  | refl => rfl
  | symm _ ih => exact ih.symm
  | trans _ _ ih ih' => exact ih.trans ih'
  | @permute fields _ _ h =>
    exact congrArg (Option.bind · fields.complete?) (Node.putAll_perm fields.put_comm h _)
  | @insert fields _ _ _ _ unknown =>
    exact congrArg (Option.bind · fields.complete?) (fields.putAll_insert unknown _ _ _).symm
  | @member fields _ _ _ _ _ _ known _ ih =>
    exact congrArg (Option.bind · fields.complete?) (fields.putAll_congr known ih _ _ _)
  | @field fields _ _ _ _ _ known _ ih =>
    exact congrArg (Option.bind · fields.complete?) (fields.arrange_congr _ _ known ih)
  | item _ ih => simp only [Schema.denote, Node.list?, List.mapM_append, List.mapM_cons, ih]
  | @value schema node node' h ih =>
    rw [Schema.denote]
    by_cases hnull : node = .null
    · rw [hnull, h.null_iff.mp hnull]
    · rw [Node.option?_of_ne _ hnull, Node.option?_of_ne _ (mt h.null_iff.mpr hnull), ih]

/-! ### No layout at all -/

/-- `Flawed schema node`: somewhere in the value a known key comes twice, or a required one is
missing. -/
inductive Flawed : Schema → Node → Prop
  | repeated {fields : Fields} {key : String} {node node' : Node}
      {ms ms' ms'' : List (Option String × Node)} (known : key ∈ fields.keys) :
      Flawed (.record fields)
        (.object (ms ++ (some key, node) :: ms' ++ (some key, node') :: ms''))
  | missing {fields : Fields} {key : String} {ms : List (Option String × Node)}
      (required : key ∈ fields.required) (absent : ∀ m ∈ ms, m.1 ≠ some key) :
      Flawed (.record fields) (.object ms)
  | member {fields : Fields} {key : String} {schema : Schema} {node : Node}
      {ms ms' : List (Option String × Node)} (known : fields.schema? key = some schema)
      (h : Flawed schema node) :
      Flawed (.record fields) (.object (ms ++ (some key, node) :: ms'))
  | field {fields : Fields} {schema : Schema} {node : Node} {nodes nodes' : List Node}
      (known : fields.schemaAt? nodes.length = some schema) (h : Flawed schema node) :
      Flawed (.record fields) (.list (nodes ++ node :: nodes'))
  | item {schema : Schema} {node : Node} {nodes nodes' : List Node} (h : Flawed schema node) :
      Flawed (.list schema) (.list (nodes ++ node :: nodes'))
  | value {schema : Schema} {node : Node} (h : Flawed schema node) : Flawed (.option schema) node

theorem Flawed.ne_null (h : Flawed schema node) : node ≠ .null := by
  induction h with
  | value _ ih => exact ih
  | repeated | missing | member | field | item => simp

/-- A flawed value denotes nothing. -/
theorem Flawed.denote_eq_none (h : Flawed schema node) : schema.denote node = none := by
  induction h with
  | @repeated fields key node node' ms ms' ms'' known =>
    -- the two members can be put first, and only one of them fits
    have hperm : (ms ++ (some key, node) :: ms' ++ (some key, node') :: ms'').Perm
        ((some key, node) :: (some key, node') :: (ms ++ ms' ++ ms'')) := by
      refine List.perm_middle.trans ((List.Perm.cons _ ?_).trans (List.Perm.swap _ _ _))
      rw [List.append_assoc, List.append_assoc, List.cons_append]
      exact List.perm_middle
    have hput : Node.putAll fields.put fields.empty
        ((some key, node) :: (some key, node') :: (ms ++ ms' ++ ms'')) = none := by
      have htwice := fields.put_twice key known fields.empty node node'
      simp only [Node.putAll_cons, Option.bind_some]
      rw [← Option.bind_assoc, htwice, Option.bind_none]
    rw [Schema.denote, Node.record?, Node.putAll_perm fields.put_comm hperm, hput,
      Option.bind_none]
  | @missing fields key ms required absent =>
    rw [Schema.denote, Node.record?]
    refine Option.bind_eq_none_iff.mpr fun st hst => ?_
    exact ((fields.lacks_empty required).putAll absent hst).complete?
  | @member fields key schema node ms ms' known _ ih =>
    rw [Schema.denote, Node.record?, Node.putAll_append]
    simp only [Node.putAll_cons, Option.bind_some, fields.put_eq_none key known ih,
      Option.bind_none, Option.bind_fun_none]
  | @field fields _ _ _ _ known _ ih =>
    rw [Schema.denote, Node.record?, fields.arrange_eq_none _ _ known ih, Option.bind_none]
  | item _ ih => simp [Schema.denote, Node.list?, List.mapM_append, List.mapM_cons, ih]
  | value h ih => rw [Schema.denote, Node.option?_of_ne _ h.ne_null, ih, Option.map_none]

/-! ### Formats -/

/-- `IgnoresLayout format`: what a text of the format is read as does not depend on its layout. -/
structure IgnoresLayout (format : Format α) : Prop where
  /-- What can be read is the text of a value. -/
  spelled : ∀ {s a}, format.read s = .ok a → ∃ node, SpellsWhole node s
  /-- Other white space, other escapes, another order of members and more or fewer members with unknown
  keys make no difference. -/
  rearranged : ∀ {node node' s s' a}, SpellsWhole node s → SpellsWhole node' s' →
    Rearranges format.schema node node' → format.read s = .ok a → format.read s' = .ok a
  /-- A text with a known key that comes twice, or without a required one, cannot be read. -/
  flawed : ∀ {node s}, SpellsWhole node s → Flawed format.schema node →
    ∃ fault, format.read s = .error fault

theorem Format.ignoresLayout (format : Format α) : IgnoresLayout format where
  spelled := Format.exists_spelled
  rearranged {node node' s s' a} hs hs' h ha := by
    have hdenote : format.denote node = format.denote node' :=
      congrArg (Option.map format.ofCarrier) h.denote_eq
    rw [← toOption_eq_some, format.read_spelled hs', ← hdenote, ← format.read_spelled hs, ha,
      toOption_ok]
  flawed {node s} hs h := by
    have hdenote : format.denote node = none :=
      congrArg (Option.map format.ofCarrier) h.denote_eq_none
    rw [← toOption_eq_none, format.read_spelled hs, hdenote]

/-- The objects of the account service and the session server may be laid out in any way, and each
character of their texts may be spelled as an escape. -/
theorem services_lay_out_freely :
    (IgnoresLayout Account.format ∧ IgnoresLayout Profile.format ∧ IgnoresLayout Property.format ∧
      IgnoresLayout TexturesRecord.format ∧ IgnoresLayout Textures.format ∧
      IgnoresLayout Skin.format ∧ IgnoresLayout SkinModel.format ∧ IgnoresLayout Cape.format) ∧
    ∀ cs ts, List.Forall₂ SpellsCharacter cs ts →
      SpellsText (some (String.ofList cs)) (ts.flatten ++ [0x22]) :=
  ⟨⟨Account.format.ignoresLayout, Profile.format.ignoresLayout, Property.format.ignoresLayout,
      TexturesRecord.format.ignoresLayout, Textures.format.ignoresLayout, Skin.format.ignoresLayout,
      SkinModel.format.ignoresLayout, Cape.format.ignoresLayout⟩,
    fun _ _ => spellsText_of_characters⟩

end SkinRelay.Json
