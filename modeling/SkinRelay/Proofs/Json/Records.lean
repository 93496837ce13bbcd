import SkinRelay.Proofs.Json.Items

/-!
Records. The members of an object are put into the fields one after another (`members_spelled`), each as
the entry of its key says; a list gives the fields in their order.
-/

namespace SkinRelay.Json

variable {α σ : Type} {s rest : Bytes} {ms : List (Option String × Node)}

/-! ### Members -/

/-- A member of an object: its key and its value. -/
inductive SpellsMember : Option String × Node → Bytes → Prop
  | mk {key : Option String} {node : Node} {k v : Bytes} (hkey : SpellsKey key k)
      (hvalue : Spells node v) : SpellsMember (key, node) (k ++ v)

abbrev MembersFollow : List (Option String × Node) → Bytes → Prop :=
  EntriesFollow SpellsMember 0x7D

abbrev MembersListed : List (Option String × Node) → Bytes → Prop :=
  EntriesListed SpellsMember 0x7D

theorem Spells.of_members (h : MembersListed ms s) : Spells (.object ms) (0x7B :: s) := by
  have spelled : ∀ x t, SpellsMember x t → ∃ m : SpelledMember, m.member = x ∧ m.text = t ∧
      SpellsKey m.key m.keyText ∧ Spells m.node m.valueText := by
    rintro _ _ ⟨hkey, hvalue⟩
    exact ⟨⟨_, _, _, _⟩, rfl, rfl, hkey, hvalue⟩
  obtain ⟨members, rfl, each, h⟩ := h.exists_listed spelled
  exact .object (fun m hm => (each m hm).1) (fun m hm => (each m hm).2) h

/-- What is left of an object when the key of its next member has been opened, or when the object has
been closed. -/
inductive MembersLeft (rest : Bytes) : Turn → List (Option String × Node) → Prop
  | closed : MembersLeft rest (.closed rest) []
  | more {k v s : Bytes} {key : Option String} {node : Node} {ms : List (Option String × Node)}
      (hkey : SpellsLabel key k) (hvalue : Spells node v) (h : MembersFollow ms s) :
      MembersLeft rest (.more (k ++ (v ++ (s ++ rest)))) ((key, node) :: ms)

theorem firstMember_spelled (h : MembersListed ms s) (rest : Bytes) :
    ∃ turn, firstMember (s ++ rest) = .ok turn ∧ MembersLeft rest turn ms := by
  cases h with
  | close ha =>
    refine ⟨_, ?_, .closed⟩
    rw [firstMember, skipBlank_last ha (by decide)]
    rfl
  | entry hmember h =>
    obtain ⟨⟨ha, hlabel⟩, hvalue⟩ := hmember
    refine ⟨_, ?_, .more hlabel hvalue h⟩
    rw [firstMember, List.append_assoc, List.append_assoc, skipBlank_key ha]
    rfl

theorem nextMember_spelled (h : MembersFollow ms s) (rest : Bytes) :
    ∃ turn, nextMember (s ++ rest) = .ok turn ∧ MembersLeft rest turn ms := by
  cases h with
  | close ha =>
    refine ⟨_, ?_, .closed⟩
    rw [nextMember, skipBlank_last ha (by decide)]
    rfl
  | comma hb hmember h =>
    obtain ⟨⟨ha, hlabel⟩, hvalue⟩ := hmember
    refine ⟨_, ?_, .more hlabel hvalue h⟩
    rw [nextMember, skipBlank_comma hb]
    simp only [show ¬(0x2C : UInt8) = 0x7D by decide, if_false, if_true]
    rw [List.append_assoc, skipBlank_key ha]
    rfl

theorem exists_membersListed {turn : Turn} (h : firstMember s = .ok turn)
    (left : MembersLeft rest turn ms) : ∃ s', MembersListed ms s' ∧ s = s' ++ rest := by
  unfold firstMember at h
  split at h
  · cases h
  · rename_i b r hb
    obtain ⟨a, ha, rfl⟩ := blanks_append_of_skipBlank hb
    split at h
    · rename_i hclose
      cases h
      cases left
      exact ⟨_, .close ha, by simp [hclose]⟩
    · split at h
      · rename_i hquote
        cases h
        cases left with
        | more hlabel hvalue h => exact ⟨_, .entry (.mk (.mk ha hlabel) hvalue) h, by simp [hquote]⟩
      · cases h

theorem exists_membersFollow {turn : Turn} (h : nextMember s = .ok turn)
    (left : MembersLeft rest turn ms) : ∃ s', MembersFollow ms s' ∧ s = s' ++ rest := by
  unfold nextMember at h
  split at h
  · cases h
  · rename_i b r hb
    obtain ⟨a, ha, rfl⟩ := blanks_append_of_skipBlank hb
    split at h
    · rename_i hclose
      cases h
      cases left
      exact ⟨_, .close ha, by simp [hclose]⟩
    · split at h
      · rename_i hcomma
        split at h
        · cases h
        · rename_i hexpect
          cases h
          obtain ⟨a', ha', rfl⟩ := blanks_append_of_skipBlank (eq_cons_of_expect hexpect)
          cases left with
          | more hlabel hvalue h =>
            exact ⟨_, .comma ha (.mk (.mk ha' hlabel) hvalue) h, by simp [hcomma]⟩
      · cases h

/-! ### Entries -/

/-- `e.Reads put`: the entry puts a value into its field as `put` does, but only once. -/
structure Entry.Reads (e : Entry σ) (put : σ → Node → Option σ) : Prop where
  meaning : ∃ meaning : Node → Option (σ → σ), e.fill.Reads meaning ∧
    ∀ st node, put st node = if e.filled st then none else (meaning node).map (· st)

/-- `LookupReads lookup put`: the members of an object are treated as `put` treats them. -/
structure LookupReads (lookup : String → Option (Entry σ)) (put : σ → String → Node → Option σ) :
    Prop where
  unknown : ∀ key, lookup key = none → ∀ st node, put st key node = some st
  known : ∀ key e, lookup key = some e → e.Reads fun st node => put st key node

variable {lookup : String → Option (Entry σ)} {put : σ → String → Node → Option σ}

theorem memberValue_spelled (reads : LookupReads lookup put) (key : String) (st : σ) {node : Node}
    {c v : Bytes} (hc : Blanks c) (hv : Spells node v) (ends : Ends rest) :
    (memberValue (lookup key) st (c ++ 0x3A :: (v ++ rest))).toOption =
      (put st key node).map (·, rest) := by
  cases hlookup : lookup key with
  | none =>
    rw [reads.unknown key hlookup]
    simp only [memberValue, afterColon_spelled hc, skipValue_spelled hv ends]
    rfl
  | some e =>
    obtain ⟨meaning, hfill, hput⟩ := (reads.known key e hlookup).meaning
    rw [hput]
    simp only [memberValue, afterColon_spelled hc]
    split
    · rfl
    · have hrun := hfill.spelled hv ends
      cases hmeaning : meaning node with
      | none =>
        rw [hmeaning] at hrun
        obtain ⟨f, hf⟩ := toOption_eq_none.mp hrun
        rw [hf]
        rfl
      | some update =>
        rw [hmeaning] at hrun
        rw [toOption_eq_some.mp hrun]
        rfl

theorem exists_memberValue (reads : LookupReads lookup put) {key : String} {st st' : σ}
    (h : memberValue (lookup key) st s = .ok (st', rest)) :
    ∃ c node v, Blanks c ∧ Spells node v ∧ s = c ++ 0x3A :: (v ++ rest) := by
  unfold memberValue at h
  split at h
  · split at h
    · cases h
    · rename_i hcolon
      split at h
      · cases h
      · rename_i hskip
        cases h
        obtain ⟨c, hc, rfl⟩ := exists_colon hcolon
        obtain ⟨node, v, hv, rfl⟩ := exists_spelling hskip
        exact ⟨c, node, v, hc, hv, rfl⟩
  · rename_i e hlookup
    obtain ⟨meaning, hfill, -⟩ := (reads.known key e hlookup).meaning
    split at h
    · cases h
    · split at h
      · cases h
      · rename_i hcolon
        split at h
        · cases h
        · rename_i hrun
          cases h
          obtain ⟨c, hc, rfl⟩ := exists_colon hcolon
          obtain ⟨node, v, hv, rfl⟩ := hfill.complete hrun
          exact ⟨c, node, v, hc, hv, rfl⟩

/-! ### Objects -/

theorem toOption_members (lookup : String → Option (Entry σ)) (st : σ) (s : Bytes) :
    (members lookup st (.more s)).toOption =
      (text s).toOption.bind fun key =>
        (memberValue (lookup key.1) st key.2).toOption.bind fun value =>
          (nextMember value.2).toOption.bind fun turn =>
            (members lookup value.1 turn).toOption := by
  rw [members.eq_def]
  dsimp only
  split
  · simp only [*, toOption_error, Option.bind_none]
  · simp only [*, toOption_ok, Option.bind_some]
    split
    · simp only [*, toOption_error, Option.bind_none]
    · simp only [*, toOption_ok, Option.bind_some]
      split
      · simp only [*, toOption_error, Option.bind_none]
      · simp only [*, toOption_ok, Option.bind_some]

theorem MembersFollow.ends (h : MembersFollow ms s) (rest : Bytes) : Ends (s ++ rest) :=
  EntriesFollow.ends Frame.object.ends_closer h rest

theorem members_spelled (reads : LookupReads lookup put) (st : σ) {turn : Turn}
    (left : MembersLeft rest turn ms) :
    (members lookup st turn).toOption = (Node.putAll put st ms).map (·, rest) := by
  induction ms generalizing st turn with
  | nil =>
    cases left
    rw [members.eq_def]
    rfl
  | cons m ms ih =>
    cases left with
    | @more k v s key node _ hkey hvalue h =>
      obtain ⟨hkey, hc⟩ := hkey
      rename_i k c
      obtain ⟨turn, hturn, left⟩ := nextMember_spelled h rest
      have hlabel : k ++ (c ++ [0x3A]) ++ (v ++ (s ++ rest)) = k ++ (c ++ 0x3A :: (v ++ (s ++ rest))) := by
        simp
      rw [hlabel, toOption_members, text_spelled hkey]
      cases key with
      | none => rfl
      | some key =>
        rw [Option.map_some, Option.bind_some, memberValue_spelled reads key st hc hvalue (h.ends rest)]
        cases hput : put st key node with
        | none => simp [Node.putAll, hput]
        | some st' => simp [Node.putAll, hput, hturn, ih st' left]

theorem exists_members (reads : LookupReads lookup put) {st st' : σ} {turn : Turn}
    (h : members lookup st turn = .ok (st', rest)) : ∃ ms, MembersLeft rest turn ms := by
  fun_induction members lookup st turn with
  | case1 =>
    cases h
    exact ⟨[], .closed⟩
  | case2 | case3 | case4 => cases h
  | case5 _ _ _ _ ht _ _ hv _ hn ih =>
    obtain ⟨ms, left⟩ := ih h
    obtain ⟨s', hfollow, rfl⟩ := exists_membersFollow hn left
    obtain ⟨c, node, v, hc, hnode, rfl⟩ := exists_memberValue reads hv
    obtain ⟨key, k, hkey, rfl⟩ := exists_text ht
    have left : MembersLeft rest _ _ := .more (.mk hkey hc) hnode hfollow
    exact ⟨_, by simpa using left⟩

/-! ### Records -/

section

variable {empty : σ} {fields : Sequence σ} {complete? : σ → Option α}

theorem record_object (s : Bytes) :
    ((Reader.record empty lookup fields complete?).run (0x7B :: s)).toOption =
      (firstMember s).toOption.bind fun turn =>
        (members lookup empty turn).toOption.bind fun read =>
          (complete? read.1).map (·, read.2) := by
  simp only [Reader.record, recordFields, skipBlank_cons (b := 0x7B) rfl]
  cases firstMember s with
  | error f => rfl
  | ok turn =>
    cases h : members lookup empty turn with
    | error f => simp [h]
    | ok read => cases hread : complete? read.1 <;> simp [h, hread]

theorem record_list (s : Bytes) :
    ((Reader.record empty lookup fields complete?).run (0x5B :: s)).toOption =
      (fields.run (.opened s)).toOption.bind fun read => (complete? read.1).map (·, read.2) := by
  simp only [Reader.record, recordFields, skipBlank_cons (b := 0x5B) rfl]
  cases fields.run (.opened s) with
  | error f => rfl
  | ok read => cases hread : complete? read.1 <;> simp [hread]

theorem record_other {b : UInt8} (hb : isBlank b = false) (hobject : b ≠ 0x7B) (hlist : b ≠ 0x5B)
    (s : Bytes) : ((Reader.record empty lookup fields complete?).run (b :: s)).toOption = none := by
  simp only [Reader.record, recordFields, skipBlank_cons hb]
  rfl

theorem reads_record {arrange : List Node → Option σ} (hlookup : LookupReads lookup put)
    (hfields : fields.Reads arrange) :
    (Reader.record empty lookup fields complete?).Reads
      (Node.record? empty put arrange complete?) := by
  have blank : ∀ s, (Reader.record empty lookup fields complete?).run (skipBlank s) =
      (Reader.record empty lookup fields complete?).run s := fun s => by
    simp only [Reader.record, recordFields, skipBlank_skipBlank]
  refine ⟨blank, fun {node s rest} h ends => ?_, fun {s a rest} h => ?_⟩
  · induction h with
    | blank hb _ ih => rw [List.cons_append, Reader.run_blank blank hb, ih]
    | list each h =>
      rw [List.cons_append, record_list, hfields.spelled (.opened (.of_listed each h)),
        Node.record?]
      cases arrange _ <;> rfl
    | object keys values h =>
      have hmembers : ∀ m : SpelledMember, m ∈ _ → SpellsMember m.member m.text :=
        fun m hm => .mk (keys m hm) (values m hm)
      obtain ⟨turn, hturn, left⟩ := firstMember_spelled (.of_listed hmembers h) rest
      rw [List.cons_append, record_object, hturn, toOption_ok, Option.bind_some,
        members_spelled hlookup empty left, Node.record?]
      cases Node.putAll put empty _ <;> rfl
    | unsigned h =>
      obtain ⟨d, ds, rfl, hd⟩ := exists_digit_of_number h
      exact record_other (isBlank_digit hd) (ne_of_isDigit hd rfl) (ne_of_isDigit hd rfl) _
    | null | yes | no | text | signed => exact record_other rfl (by decide) (by decide) _
  · simp only [Reader.record] at h
    split at h
    · cases h
    · rename_i hrecord
      split at h
      · cases h
      · cases h
        unfold recordFields at hrecord
        split at hrecord
        · cases hrecord
        · rename_i hskip
          obtain ⟨c, hc, rfl⟩ := blanks_append_of_skipBlank hskip
          split at hrecord
          · cases hrecord
          · rename_i hfirst
            obtain ⟨ms, left⟩ := exists_members hlookup hrecord
            obtain ⟨s', hlisted, rfl⟩ := exists_membersListed hfirst left
            exact ⟨_, _, (Spells.of_members hlisted).blanks hc, by simp⟩
        · rename_i hskip
          obtain ⟨c, hc, rfl⟩ := blanks_append_of_skipBlank hskip
          obtain ⟨nodes, hfrom⟩ := hfields.complete hrecord
          generalize hp : Position.opened _ = p at hfrom
          cases hfrom with
          | opened hlisted =>
            cases hp
            exact ⟨_, _, (Spells.of_items hlisted).blanks hc, by simp⟩
          | between => cases hp
          | closed => cases hp
        · cases hrecord

end

end SkinRelay.Json
