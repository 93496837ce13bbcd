import SkinRelay.Json.Format
import SkinRelay.Proofs.Json.Number
import SkinRelay.Proofs.Json.Text

/-!
What is written as JSON is read back. The main results are `Schema.run_chars`, for the reader of a
schema, whatever follows the value, and `Format.read_write`.
-/

namespace SkinRelay.Json

/-- A value begins with no blank and no bracket, and like `null` only if it is `null`. -/
theorem chars_head (v : Value) :
    v = .null ∨ ∃ b bs, Utf8.encode v.chars = b :: bs ∧ Begins b := by
  cases v with
  | null => exact .inl rfl
  | flag b => cases b <;> exact .inr ⟨_, _, rfl, by decide, by decide, by decide⟩
  | number n =>
    obtain ⟨b, bs, hbytes, begins, -⟩ := numberChars_head n
    exact .inr ⟨b, bs, hbytes, begins⟩
  | text t => exact .inr ⟨_, _, rfl, by decide, by decide, by decide⟩
  | list items | object members => exact .inr ⟨_, _, rfl, by decide, by decide, by decide⟩

theorem chars_begin (v : Value) :
    ∃ b bs, Utf8.encode v.chars = b :: bs ∧ isBlank b = false ∧ b ≠ 0x5D := by
  rcases chars_head v with rfl | ⟨b, bs, hbytes, hblank, hbracket, -⟩
  · exact ⟨_, _, rfl, by decide, by decide⟩
  · exact ⟨b, bs, hbytes, hblank, hbracket⟩

/-! ### Scalars -/

theorem run_text (t : String) (rest : Bytes) :
    Reader.text.run (Utf8.encode (textChars t) ++ rest) = .ok (t, rest) := by
  have hbytes : Utf8.encode (textChars t) ++ rest =
      0x22 :: (Utf8.encode (t.toList.flatMap escaped) ++ 0x22 :: rest) := by
    simp only [textChars, List.cons_append, Utf8.encode_cons, Utf8.encode_append, Utf8.encode_nil,
      List.append_assoc]
    rfl
  rw [hbytes]
  simp only [Reader.text, Reader.startingWith, skipBlank_cons (b := 0x22) rfl, if_true, text_chars]

theorem run_flag (b : Bool) (rest : Bytes) :
    Reader.flag.run (Utf8.encode (Value.flag b).chars ++ rest) = .ok (b, rest) := by
  cases b with
  | false =>
    have hbytes : Utf8.encode (Value.flag false).chars ++ rest =
        0x66 :: 0x61 :: 0x6C :: 0x73 :: 0x65 :: rest := rfl
    rw [hbytes]
    rfl
  | true =>
    have hbytes : Utf8.encode (Value.flag true).chars ++ rest =
        0x74 :: 0x72 :: 0x75 :: 0x65 :: rest := rfl
    rw [hbytes]
    rfl

/-! ### Lists -/

/-- The rest of a list behind an item. -/
def itemsTail : List Value → List Char
  | [] => [']']
  | v :: vs => ',' :: itemsChars (v :: vs)

theorem itemsChars_cons (v : Value) (vs : List Value) :
    itemsChars (v :: vs) = v.chars ++ itemsTail vs := by
  cases vs <;> simp [itemsChars, itemsTail]

/-- Where a list stands before these items. -/
def itemsTurn (vs : List Value) (rest : Bytes) : Turn :=
  match vs with
  | [] => .closed rest
  | v :: vs => .more (Utf8.encode (itemsChars (v :: vs)) ++ rest)

theorem itemsChars_begin (v : Value) (vs : List Value) (rest : Bytes) :
    ∃ b bs, Utf8.encode (itemsChars (v :: vs)) ++ rest = b :: bs ∧ isBlank b = false ∧ b ≠ 0x5D := by
  obtain ⟨b, bs, hbytes, hblank, hbracket⟩ := chars_begin v
  refine ⟨b, bs ++ Utf8.encode (itemsTail vs) ++ rest, ?_, hblank, hbracket⟩
  rw [itemsChars_cons, Utf8.encode_append, hbytes]
  rfl

theorem firstItem_chars (vs : List Value) (rest : Bytes) :
    firstItem (Utf8.encode (itemsChars vs) ++ rest) = .ok (itemsTurn vs rest) := by
  cases vs with
  | nil => rfl
  | cons v vs =>
    obtain ⟨b, bs, hbytes, hblank, hbracket⟩ := itemsChars_begin v vs rest
    simp only [itemsTurn, hbytes, firstItem, skipBlank_cons hblank, hbracket, if_false]

theorem nextItem_chars (vs : List Value) (rest : Bytes) :
    nextItem (Utf8.encode (itemsTail vs) ++ rest) = .ok (itemsTurn vs rest) := by
  cases vs with
  | nil => rfl
  | cons v vs =>
    obtain ⟨b, bs, hbytes, hblank, hbracket⟩ := itemsChars_begin v vs rest
    have hcomma : Utf8.encode (itemsTail (v :: vs)) ++ rest = 0x2C :: b :: bs := by
      rw [← hbytes]
      rfl
    have hne : ¬(0x2C : UInt8) = 0x5D := by decide
    simp only [itemsTurn, hcomma, hbytes, nextItem, skipBlank_cons (b := 0x2C) rfl, hne, if_false,
      if_true, skipBlank_cons hblank, hbracket]

theorem ends_itemsTail (vs : List Value) (rest : Bytes) :
    Ends (Utf8.encode (itemsTail vs) ++ rest) := by
  cases vs with
  | nil => exact ⟨by decide, by decide, by decide, by decide⟩
  | cons => exact ⟨by decide, by decide, by decide, by decide⟩

theorem items_more {α : Type} {item : Reader α} {s s' rest : Bytes} {a : α} {as : List α}
    {turn : Turn} (hitem : item.run s = .ok (a, s')) (hnext : nextItem s' = .ok turn)
    (hrest : items item turn = .ok (as, rest)) : items item (.more s) = .ok (a :: as, rest) := by
  rw [items.eq_def]
  simp only
  split
  · rename_i hf
    rw [hitem] at hf
    cases hf
  · rename_i hok
    rw [hitem] at hok
    cases hok
    split
    · rename_i hf
      rw [hnext] at hf
      cases hf
    · rename_i hok
      rw [hnext] at hok
      cases hok
      rw [hrest]

/-- Items are read back if each of them is. -/
theorem items_chars {α : Type} {item : Reader α} {toValue : α → Value}
    (reads : ∀ a rest, Ends rest →
      item.run (Utf8.encode (toValue a).chars ++ rest) = .ok (a, rest)) (as : List α) (rest : Bytes) :
    items item (itemsTurn (as.map toValue) rest) = .ok (as, rest) := by
  induction as with
  | nil =>
    rw [items.eq_def]
    rfl
  | cons a as ih =>
    have hitem := reads a _ (ends_itemsTail (as.map toValue) rest)
    rw [List.map_cons, itemsTurn, itemsChars_cons, Utf8.encode_append, List.append_assoc]
    exact items_more hitem (nextItem_chars _ rest) ih

theorem run_list {α : Type} {item : Reader α} {toValue : α → Value}
    (reads : ∀ a rest, Ends rest →
      item.run (Utf8.encode (toValue a).chars ++ rest) = .ok (a, rest)) (as : List α) (rest : Bytes) :
    (Reader.list item).run (Utf8.encode (Value.list (as.map toValue)).chars ++ rest) =
      .ok (as, rest) := by
  have hbytes : Utf8.encode (Value.list (as.map toValue)).chars ++ rest =
      0x5B :: (Utf8.encode (itemsChars (as.map toValue)) ++ rest) := by
    rw [Value.chars, Utf8.encode_cons]
    rfl
  rw [hbytes]
  simp only [Reader.list, Reader.startingWith, skipBlank_cons (b := 0x5B) rfl, if_true,
    firstItem_chars, items_chars reads]

/-! ### Options -/

theorem run_none {α : Type} (r : Reader α) (rest : Bytes) :
    (Reader.option r).run (Utf8.encode Value.null.chars ++ rest) = .ok (none, rest) := by
  have hbytes : Utf8.encode Value.null.chars ++ rest = 0x6E :: 0x75 :: 0x6C :: 0x6C :: rest := rfl
  rw [hbytes]
  rfl

/-- An option is read like its value, if the value is not written as `null`. -/
theorem run_some {α : Type} {r : Reader α} {v : Value} {a : α} {rest : Bytes} (present : v ≠ .null)
    (reads : r.run (Utf8.encode v.chars ++ rest) = .ok (a, rest)) :
    (Reader.option r).run (Utf8.encode v.chars ++ rest) = .ok (some a, rest) := by
  obtain ⟨b, bs, hbytes, hblank, -, hnull⟩ := (chars_head v).resolve_left present
  rw [hbytes, List.cons_append] at reads ⊢
  simp only [Reader.option, skipBlank_cons hblank]
  split
  · rename_i heq
    exact absurd (List.cons.inj heq).1 hnull
  · simp only [Reader.map, reads]

/-! ### Records -/

/-- The rest of an object behind a member. -/
def membersTail : List (String × Value) → List Char
  | [] => ['\x7d']
  | m :: ms => ',' :: membersChars (m :: ms)

theorem membersChars_cons (key : String) (v : Value) (ms : List (String × Value)) :
    membersChars ((key, v) :: ms) = textChars key ++ ':' :: v.chars ++ membersTail ms := by
  cases ms <;> simp [membersChars, membersTail]

/-- A member from behind the quote of its key, and what follows it. -/
def memberBytes (key : String) (v : Value) (ms : List (String × Value)) (rest : Bytes) : Bytes :=
  Utf8.encode (key.toList.flatMap escaped) ++
    0x22 :: 0x3A :: (Utf8.encode v.chars ++ (Utf8.encode (membersTail ms) ++ rest))

/-- Where an object stands before these members. -/
def membersTurn (ms : List (String × Value)) (rest : Bytes) : Turn :=
  match ms with
  | [] => .closed rest
  | (key, v) :: ms => .more (memberBytes key v ms rest)

theorem membersChars_bytes (key : String) (v : Value) (ms : List (String × Value)) (rest : Bytes) :
    Utf8.encode (membersChars ((key, v) :: ms)) ++ rest = 0x22 :: memberBytes key v ms rest := by
  simp only [membersChars_cons, textChars, memberBytes, List.cons_append, List.append_assoc,
    Utf8.encode_cons, Utf8.encode_append, Utf8.encode_nil]
  rfl

theorem firstMember_chars (ms : List (String × Value)) (rest : Bytes) :
    firstMember (Utf8.encode (membersChars ms) ++ rest) = .ok (membersTurn ms rest) := by
  cases ms with
  | nil => rfl
  | cons m ms =>
    obtain ⟨key, v⟩ := m
    rw [membersChars_bytes]
    rfl

theorem nextMember_chars (ms : List (String × Value)) (rest : Bytes) :
    nextMember (Utf8.encode (membersTail ms) ++ rest) = .ok (membersTurn ms rest) := by
  cases ms with
  | nil => rfl
  | cons m ms =>
    obtain ⟨key, v⟩ := m
    have hcomma : Utf8.encode (membersTail ((key, v) :: ms)) ++ rest =
        0x2C :: 0x22 :: memberBytes key v ms rest := by
      rw [← membersChars_bytes]
      rfl
    rw [hcomma]
    rfl

theorem ends_membersTail (ms : List (String × Value)) (rest : Bytes) :
    Ends (Utf8.encode (membersTail ms) ++ rest) := by
  cases ms with
  | nil => exact ⟨by decide, by decide, by decide, by decide⟩
  | cons => exact ⟨by decide, by decide, by decide, by decide⟩

/-- A member with a known key whose field is not there yet puts it there. -/
theorem members_more {σ : Type} {lookup : String → Option (Entry σ)} {entry : Entry σ} {st st' : σ}
    {update : σ → σ} {key : String} {v : Value} {ms : List (String × Value)} {rest rest' : Bytes}
    (known : lookup key = some entry) (free : entry.filled st = false)
    (reads : entry.fill.run (Utf8.encode v.chars ++ (Utf8.encode (membersTail ms) ++ rest)) =
      .ok (update, Utf8.encode (membersTail ms) ++ rest))
    (hrest : members lookup (update st) (membersTurn ms rest) = .ok (st', rest')) :
    members lookup st (membersTurn ((key, v) :: ms) rest) = .ok (st', rest') := by
  have hvalue : memberValue (lookup key) st
      (0x3A :: (Utf8.encode v.chars ++ (Utf8.encode (membersTail ms) ++ rest))) =
      .ok (update st, Utf8.encode (membersTail ms) ++ rest) := by
    have hcolon : afterColon
        (0x3A :: (Utf8.encode v.chars ++ (Utf8.encode (membersTail ms) ++ rest))) =
        .ok (Utf8.encode v.chars ++ (Utf8.encode (membersTail ms) ++ rest)) := rfl
    simp only [memberValue, known, free, hcolon, reads, Bool.false_eq_true, if_false]
  have hkey := text_chars key
    (0x3A :: (Utf8.encode v.chars ++ (Utf8.encode (membersTail ms) ++ rest)))
  rw [membersTurn, memberBytes, members.eq_def]
  simp only
  split
  · rename_i hf
    rw [hkey] at hf
    cases hf
  · rename_i hok
    rw [hkey] at hok
    cases hok
    split
    · rename_i hf
      rw [hvalue] at hf
      cases hf
    · rename_i hok
      rw [hvalue] at hok
      cases hok
      split
      · rename_i hf
        rw [nextMember_chars] at hf
        cases hf
      · rename_i hok
        rw [nextMember_chars] at hok
        cases hok
        exact hrest

/-! ### Schemas -/

def Fields.keys : Fields → List String
  | .nil => []
  | .cons key _ _ rest => key :: rest.keys

def Schema.isOption : Schema → Bool
  | .option _ => true
  | _ => false

mutual

/-- Whether no two fields of a record have the same key, and no option has an option inside, whose
absence would look like its own. -/
def Schema.isLawful : Schema → Bool
  | .text | .flag | .int64 => true
  | .list item => item.isLawful
  | .option value => value.isLawful && !value.isOption
  | .record fields => fields.isLawful

def Fields.isLawful : Fields → Bool
  | .nil => true
  | .cons key _ schema rest => schema.isLawful && decide (key ∉ rest.keys) && rest.isLawful

end

mutual

theorem Schema.eq_default : ∀ (schema : Schema) (v : schema.Carrier),
    schema.isDefault v = true → v = schema.default
  | .text, v, h => String.isEmpty_iff.mp h
  | .flag, v, h => by simpa [Schema.isDefault, Schema.default] using h
  | .int64, v, h => by simpa [Schema.isDefault, Schema.default] using h
  | .list _, v, h => List.isEmpty_iff.mp h
  | .option _, v, h => Option.isNone_iff_eq_none.mp h
  | .record fields, v, h => fields.eq_default v h

theorem Fields.eq_default : ∀ (fields : Fields) (v : fields.Carrier),
    fields.isDefault v = true → v = fields.default
  | .nil, _, _ => rfl
  | .cons _ _ schema rest, (v, vs), h => by
    obtain ⟨hv, hvs⟩ := Bool.and_eq_true_iff.mp h
    exact Prod.ext (schema.eq_default v hv) (rest.eq_default vs hvs)

end

/-- A value that is no option is not written as `null`. -/
theorem Schema.toValue_ne_null {schema : Schema} (h : schema.isOption = false)
    (v : schema.Carrier) : schema.toValue v ≠ .null := by
  cases schema with
  | option => cases h
  | text | flag | int64 | list | record => simp [Schema.toValue]

/-- The fields of a record that its members fill. -/
def Fields.slots : (fields : Fields) → fields.Carrier → fields.Slots
  | .nil, _ => ()
  | .cons _ presence schema rest, (v, vs) =>
    (if presence = .elided ∧ schema.isDefault v then none else some v, rest.slots vs)

/-- A field that was left out has its default again. -/
theorem Fields.complete?_slots : ∀ (fields : Fields) (v : fields.Carrier),
    fields.complete? (fields.slots v) = some v
  | .nil, _ => rfl
  | .cons _ presence schema rest, (v, vs) => by
    have ih := rest.complete?_slots vs
    by_cases left : presence = .elided ∧ schema.isDefault v = true
    · obtain ⟨rfl, hdefault⟩ := left
      obtain rfl := schema.eq_default v hdefault
      simp [Fields.slots, Fields.complete?, hdefault, ih]
    · simp [Fields.slots, Fields.complete?, left, ih]

/-- `fields.Embeds lookup inject`: a look-up treats the keys of these fields as their own look-up
does, on slots that `inject` puts among others. -/
structure Fields.Embeds {σ : Type} (fields : Fields) (lookup : String → Option (Entry σ))
    (inject : fields.Slots → σ) : Prop where
  entry : ∀ key own, fields.lookup key = some own → ∃ entry, lookup key = some entry ∧
    (∀ st, entry.filled (inject st) = own.filled st) ∧
    ∀ s update rest, own.fill.run s = .ok (update, rest) →
      ∃ update', entry.fill.run s = .ok (update', rest) ∧
        ∀ st, update' (inject st) = inject (update st)

theorem Fields.lookup_of_not_mem : ∀ (fields : Fields) (key : String), key ∉ fields.keys →
    fields.lookup key = none
  | .nil, _, _ => rfl
  | .cons name _ _ rest, key, h => by
    obtain ⟨hne, hrest⟩ := not_or.mp (mt List.mem_cons.mpr h)
    simp [Fields.lookup, hne, rest.lookup_of_not_mem key hrest]

theorem Fields.lookup_front (key : String) (presence : Presence) (schema : Schema)
    (rest : Fields) :
    (Fields.cons key presence schema rest).lookup key = some (Entry.front schema.reader) := by
  simp [Fields.lookup]

/-- The fields behind the front one are among the same slots, whatever the front one holds. -/
theorem Fields.Embeds.behind {σ : Type} {key : String} {presence : Presence} {schema : Schema}
    {rest : Fields} {lookup : String → Option (Entry σ)}
    {inject : (Fields.cons key presence schema rest).Slots → σ} (distinct : key ∉ rest.keys)
    (h : (Fields.cons key presence schema rest).Embeds lookup inject) (slot : Option schema.Carrier) :
    rest.Embeds lookup fun st => inject (slot, st) where
  entry name own hown := by
    have hne : name ≠ key := by
      rintro rfl
      rw [rest.lookup_of_not_mem name distinct] at hown
      cases hown
    have hbehind : (Fields.cons key presence schema rest).lookup name = some own.behind := by
      simp [Fields.lookup, hne, hown]
    obtain ⟨entry, hentry, hfilled, hfill⟩ := h.entry name own.behind hbehind
    refine ⟨entry, hentry, fun st => hfilled (slot, st), fun s update r hrun => ?_⟩
    have hrun' : (own.behind : Entry (Option schema.Carrier × rest.Slots)).fill.run s =
        .ok (fun st => (st.1, update st.2), r) := by
      simp [Entry.behind, Reader.map, hrun]
    obtain ⟨update', hupdate, hsame⟩ := hfill s _ r hrun'
    exact ⟨update', hupdate, fun st => hsame (slot, st)⟩

theorem Fields.embeds_self (fields : Fields) : fields.Embeds fields.lookup id where
  entry _ own hown := ⟨own, hown, fun _ => rfl, fun _ update _ hrun => ⟨update, hrun, fun _ => rfl⟩⟩

mutual

/-- A value is read back as it was written, whatever follows it. -/
theorem Schema.run_chars : ∀ (schema : Schema), schema.isLawful = true →
    ∀ (v : schema.Carrier) (rest : Bytes), Ends rest →
      schema.reader.run (Utf8.encode (schema.toValue v).chars ++ rest) = .ok (v, rest)
  | .text, _, v, rest, _ => run_text v rest
  | .flag, _, v, rest, _ => run_flag v rest
  | .int64, _, v, _, ends => int64_chars v ends
  | .list item, lawful, v, rest, _ => run_list (item.run_chars lawful) v rest
  | .option _, _, none, rest, _ => run_none _ rest
  | .option value, lawful, some v, rest, ends => by
    obtain ⟨hvalue, hoption⟩ := Bool.and_eq_true_iff.mp lawful
    have present := Schema.toValue_ne_null (by simpa using hoption) v
    exact run_some present (value.run_chars hvalue v rest ends)
  | .record fields, lawful, v, rest, _ => by
    have hmembers := fields.members_chars lawful fields.lookup id fields.embeds_self v rest
    have hbytes : Utf8.encode ((Schema.record fields).toValue v).chars ++ rest =
        0x7B :: (Utf8.encode (membersChars (fields.toMembers v)) ++ rest) := by
      rw [Schema.toValue, Value.chars, Utf8.encode_cons]
      rfl
    have hfields : recordFields fields.empty fields.lookup fields.sequence
        (0x7B :: (Utf8.encode (membersChars (fields.toMembers v)) ++ rest)) =
        .ok (fields.slots v, rest) := by
      simp only [recordFields, skipBlank_cons (b := 0x7B) rfl, firstMember_chars]
      exact hmembers
    rw [hbytes]
    simp only [Schema.reader, Reader.record, hfields, fields.complete?_slots v]

/-- The members of an object fill the fields that they were written for. -/
theorem Fields.members_chars {σ : Type} : ∀ (fields : Fields), fields.isLawful = true →
    ∀ (lookup : String → Option (Entry σ)) (inject : fields.Slots → σ),
      fields.Embeds lookup inject → ∀ (v : fields.Carrier) (rest : Bytes),
        members lookup (inject fields.empty) (membersTurn (fields.toMembers v) rest) =
          .ok (inject (fields.slots v), rest)
  | .nil, _, _, _, _, _, rest => by
    rw [members.eq_def]
    rfl
  | .cons key presence schema fields, lawful, lookup, inject, embeds, (v, vs), rest => by
    obtain ⟨hboth, hfields⟩ := Bool.and_eq_true_iff.mp lawful
    obtain ⟨hschema, hkey⟩ := Bool.and_eq_true_iff.mp hboth
    have behind := embeds.behind (of_decide_eq_true hkey)
    by_cases left : presence = .elided ∧ schema.isDefault v = true
    · have ih := fields.members_chars hfields lookup _ (behind none) vs rest
      rw [Fields.toMembers, if_pos left, Fields.slots, if_pos left]
      exact ih
    · have ih := fields.members_chars hfields lookup _ (behind (some v)) vs rest
      have hread := schema.run_chars hschema v _ (ends_membersTail (fields.toMembers vs) rest)
      obtain ⟨entry, known, hfilled, hfill⟩ :=
        embeds.entry key _ (Fields.lookup_front key presence schema fields)
      have hfront : (Entry.front schema.reader : Entry (Option schema.Carrier × fields.Slots)).fill.run
          (Utf8.encode (schema.toValue v).chars ++
            (Utf8.encode (membersTail (fields.toMembers vs)) ++ rest)) =
          .ok (fun st => (some v, st.2), Utf8.encode (membersTail (fields.toMembers vs)) ++ rest) := by
        simp only [Entry.front, Reader.map, hread]
      obtain ⟨update, hrun, hupdate⟩ := hfill _ _ _ hfront
      have hslots := hupdate (Fields.cons key presence schema fields).empty
      rw [Fields.toMembers, if_neg left, Fields.slots, if_neg left]
      refine members_more known (hfilled _) hrun ?_
      rw [hslots]
      exact ih

end

/-- A value of a schema is read back as it was written. -/
theorem Schema.read_write {schema : Schema} (lawful : schema.isLawful = true)
    (v : schema.Carrier) : schema.read (Utf8.ofString (schema.write v)) = .ok v := by
  have hbytes : Utf8.ofString (schema.write v) = Utf8.encode (schema.toValue v).chars ++ [] := by
    rw [List.append_nil, Utf8.ofString, Schema.write, Value.render, String.toList_ofList]
  simp only [Schema.read, hbytes, schema.run_chars lawful v [] trivial]
  rfl

/-- A value is read back as it was written. -/
theorem Format.read_write {α : Type} {format : Format α} (lawful : format.schema.isLawful = true)
    (a : α) : format.read (Utf8.ofString (format.write a)) = .ok a := by
  have hread := Schema.read_write lawful (format.toCarrier a)
  have hwrite : format.write a = format.schema.write (format.toCarrier a) := rfl
  simp only [Format.read, hwrite, hread, format.ofCarrier_toCarrier]

end SkinRelay.Json
