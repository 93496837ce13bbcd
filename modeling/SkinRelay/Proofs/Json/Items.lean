import SkinRelay.Json.Record
import SkinRelay.Proofs.Json.Reading

/-!
Lists. What is left of a list at some point of reading it is told by the items that are still to come,
both for lists of any length (`Reader.Reads.list`) and for records that come as lists of their fields
(`Sequence.Reads`).
-/

namespace SkinRelay.Json

variable {α β σ : Type} {s rest : Bytes} {node : Node} {nodes : List Node}

/-! ### Entries with what they stand for -/

/-- The rest of a list or an object behind an entry, with what its entries stand for. -/
inductive EntriesFollow (P : α → Bytes → Prop) (closer : UInt8) : List α → Bytes → Prop
  | close {a : Bytes} (ha : Blanks a) : EntriesFollow P closer [] (a ++ [closer])
  | comma {a t s : Bytes} {x : α} {xs : List α} (ha : Blanks a) (hx : P x t)
      (h : EntriesFollow P closer xs s) : EntriesFollow P closer (x :: xs) (a ++ 0x2C :: (t ++ s))

/-- A list or an object behind its opening bracket, with what its entries stand for. -/
inductive EntriesListed (P : α → Bytes → Prop) (closer : UInt8) : List α → Bytes → Prop
  | close {a : Bytes} (ha : Blanks a) : EntriesListed P closer [] (a ++ [closer])
  | entry {t s : Bytes} {x : α} {xs : List α} (hx : P x t) (h : EntriesFollow P closer xs s) :
      EntriesListed P closer (x :: xs) (t ++ s)

section

variable {P : α → Bytes → Prop} {Q : β → Prop} {closer : UInt8} {f : β → α} {g : β → Bytes}
  {xs : List α} {ys : List β}

theorem EntriesFollow.of_follows (hP : ∀ y ∈ ys, P (f y) (g y)) (h : Follows closer (ys.map g) s) :
    EntriesFollow P closer (ys.map f) s := by
  induction ys generalizing s with
  | nil =>
    obtain ⟨ha⟩ := h
    exact .close ha
  | cons y ys ih =>
    obtain ⟨hy, hys⟩ := List.forall_mem_cons.mp hP
    cases h with
    | comma ha h => exact .comma ha hy (ih hys h)

theorem EntriesListed.of_listed (hP : ∀ y ∈ ys, P (f y) (g y)) (h : Listed closer (ys.map g) s) :
    EntriesListed P closer (ys.map f) s := by
  cases ys with
  | nil =>
    obtain ⟨ha⟩ := h
    exact .close ha
  | cons y ys =>
    obtain ⟨hy, hys⟩ := List.forall_mem_cons.mp hP
    cases h with
    | entry h => exact .entry hy (.of_follows hys h)

theorem EntriesFollow.exists_follows (hP : ∀ x t, P x t → ∃ y, f y = x ∧ g y = t ∧ Q y)
    (h : EntriesFollow P closer xs s) :
    ∃ ys : List β, ys.map f = xs ∧ (∀ y ∈ ys, Q y) ∧ Follows closer (ys.map g) s := by
  induction h with
  | close ha => exact ⟨[], rfl, fun _ hy => (nomatch hy), .close ha⟩
  | comma ha hx _ ih =>
    obtain ⟨y, rfl, rfl, hy⟩ := hP _ _ hx
    obtain ⟨ys, rfl, hys, h⟩ := ih
    exact ⟨y :: ys, rfl, List.forall_mem_cons.mpr ⟨hy, hys⟩, .comma ha h⟩

theorem EntriesListed.exists_listed (hP : ∀ x t, P x t → ∃ y, f y = x ∧ g y = t ∧ Q y)
    (h : EntriesListed P closer xs s) :
    ∃ ys : List β, ys.map f = xs ∧ (∀ y ∈ ys, Q y) ∧ Listed closer (ys.map g) s := by
  cases h with
  | close ha => exact ⟨[], rfl, fun _ hy => (nomatch hy), .close ha⟩
  | entry hx h =>
    obtain ⟨y, rfl, rfl, hy⟩ := hP _ _ hx
    obtain ⟨ys, rfl, hys, h⟩ := h.exists_follows hP
    exact ⟨y :: ys, rfl, List.forall_mem_cons.mpr ⟨hy, hys⟩, .entry h⟩

theorem EntriesFollow.ends (hcloser : Ends [closer]) (h : EntriesFollow P closer xs s)
    (rest : Bytes) : Ends (s ++ rest) := by
  cases h with
  | close ha =>
    rw [List.append_assoc]
    exact ends_of_blanks ha hcloser
  | comma ha =>
    rw [List.append_assoc]
    exact ends_of_blanks ha ⟨by decide, by decide, by decide, by decide⟩

end

/-! ### Items -/

abbrev ItemsFollow : List Node → Bytes → Prop := EntriesFollow Spells 0x5D

abbrev ItemsListed : List Node → Bytes → Prop := EntriesListed Spells 0x5D

theorem Spells.of_items (h : ItemsListed nodes s) : Spells (.list nodes) (0x5B :: s) := by
  have pair : ∀ node t, Spells node t → ∃ i : Node × Bytes, i.1 = node ∧ i.2 = t ∧ Spells i.1 i.2 :=
    fun node t hnode => ⟨(node, t), rfl, rfl, hnode⟩
  obtain ⟨items, rfl, each, h⟩ := h.exists_listed pair
  exact .list each h

/-- What is left of a list when its next item is about to be read, or when it has been closed. -/
inductive ItemsLeft (rest : Bytes) : Turn → List Node → Prop
  | closed : ItemsLeft rest (.closed rest) []
  | more {t s : Bytes} {node : Node} {nodes : List Node} (hnode : Spells node t)
      (h : ItemsFollow nodes s) : ItemsLeft rest (.more (t ++ (s ++ rest))) (node :: nodes)

/-- What is left of a list that has just been opened, is between two items or has been closed. -/
inductive ItemsFrom (rest : Bytes) : Position → List Node → Prop
  | opened {s : Bytes} {nodes : List Node} (h : ItemsListed nodes s) :
      ItemsFrom rest (.opened (s ++ rest)) nodes
  | between {s : Bytes} {nodes : List Node} (h : ItemsFollow nodes s) :
      ItemsFrom rest (.between (s ++ rest)) nodes
  | closed : ItemsFrom rest (.closed rest) []

/-- A value without the blanks before it. -/
theorem Spells.unblank (h : Spells node s) : Spells node (skipBlank s) := by
  induction h with
  | blank hb _ ih => rwa [skipBlank_blank hb]
  | unsigned h =>
    have h' := Spells.unsigned h
    obtain ⟨d, ds, rfl, hd⟩ := exists_digit_of_number h
    rwa [skipBlank_cons (isBlank_digit hd)]
  | null => exact .null
  | yes => exact .yes
  | no => exact .no
  | signed h => exact .signed h
  | text h => exact .text h
  | list each h => exact .list each h
  | object keys values h => exact .object keys values h

/-- Where the next item begins. -/
theorem Spells.exists_first (h : Spells node s) (t : Bytes) :
    ∃ b r, skipBlank (s ++ t) = b :: r ∧ b ≠ 0x5D ∧ Spells node (skipBlank s) ∧
      b :: r = skipBlank s ++ t := by
  obtain ⟨b, r, hb, hlist, -, happend⟩ := h.starts
  exact ⟨b, r ++ t, happend t, hlist, h.unblank, by rw [hb]; rfl⟩

theorem firstItem_spelled (h : ItemsListed nodes s) (rest : Bytes) :
    ∃ turn, firstItem (s ++ rest) = .ok turn ∧ ItemsLeft rest turn nodes := by
  cases h with
  | close ha =>
    refine ⟨_, ?_, .closed⟩
    rw [firstItem, skipBlank_last ha (by decide)]
    rfl
  | @entry t s node nodes hnode h =>
    obtain ⟨b, r, hskip, hb, hfirst, heq⟩ := hnode.exists_first (s ++ rest)
    refine ⟨_, ?_, .more hfirst h⟩
    rw [firstItem, List.append_assoc, hskip]
    simp only [hb, if_false, heq]

theorem nextItem_spelled (h : ItemsFollow nodes s) (rest : Bytes) :
    ∃ turn, nextItem (s ++ rest) = .ok turn ∧ ItemsLeft rest turn nodes := by
  cases h with
  | close ha =>
    refine ⟨_, ?_, .closed⟩
    rw [nextItem, skipBlank_last ha (by decide)]
    rfl
  | @comma a t s node nodes ha hnode h =>
    obtain ⟨b, r, hskip, hb, hfirst, heq⟩ := hnode.exists_first (s ++ rest)
    refine ⟨_, ?_, .more hfirst h⟩
    rw [nextItem, skipBlank_comma ha]
    simp only [show ¬(0x2C : UInt8) = 0x5D by decide, if_false, if_true, hskip, hb]
    rw [heq]

theorem exists_itemsListed {turn : Turn} (h : firstItem s = .ok turn)
    (left : ItemsLeft rest turn nodes) : ∃ s', ItemsListed nodes s' ∧ s = s' ++ rest := by
  unfold firstItem at h
  split at h
  · cases h
  · rename_i b r hb
    obtain ⟨a, ha, rfl⟩ := blanks_append_of_skipBlank hb
    split at h
    · rename_i hclose
      cases h
      cases left
      exact ⟨_, .close ha, by simp [hclose]⟩
    · cases h
      generalize hmore : b :: r = u at left
      cases left with
      | more hnode h => exact ⟨_, .entry (hnode.blanks ha) h, by simp⟩

theorem exists_itemsFollow {turn : Turn} (h : nextItem s = .ok turn)
    (left : ItemsLeft rest turn nodes) : ∃ s', ItemsFollow nodes s' ∧ s = s' ++ rest := by
  unfold nextItem at h
  split at h
  · cases h
  · rename_i b r hb
    obtain ⟨a, ha, rfl⟩ := blanks_append_of_skipBlank hb
    split at h
    · rename_i hclose
      cases h
      cases left
      exact ⟨_, .close ha, by simp [hclose]⟩
    · split at h
      · rename_i hcomma
        split at h
        · cases h
        · rename_i b' r' hb'
          obtain ⟨a', ha', rfl⟩ := blanks_append_of_skipBlank hb'
          split at h
          · cases h
          · cases h
            generalize hmore : b' :: r' = u at left
            cases left with
            | more hnode h =>
              exact ⟨_, .comma ha (hnode.blanks ha') h, by simp [hcomma]⟩
      · cases h

/-! ### Lists of any length -/

theorem toOption_items (item : Reader α) (s : Bytes) :
    (items item (.more s)).toOption =
      (item.run s).toOption.bind fun read =>
        (nextItem read.2).toOption.bind fun turn =>
          (items item turn).toOption.map fun tail => (read.1 :: tail.1, tail.2) := by
  rw [items.eq_def]
  dsimp only
  split
  · simp only [*, toOption_error, Option.bind_none]
  · simp only [*, toOption_ok, Option.bind_some]
    split
    · simp only [*, toOption_error, Option.bind_none]
    · simp only [*, toOption_ok, Option.bind_some]
      cases items item _ <;> rfl

theorem items_spelled {item : Reader α} {meaning : Node → Option α} (reads : item.Reads meaning)
    {turn : Turn} (left : ItemsLeft rest turn nodes) :
    (items item turn).toOption = (nodes.mapM meaning).map (·, rest) := by
  induction nodes generalizing turn with
  | nil =>
    cases left
    rw [items.eq_def]
    rfl
  | cons node nodes ih =>
    obtain _ | ⟨hnode, h⟩ := left
    obtain ⟨turn, hturn, left⟩ := nextItem_spelled h rest
    rw [toOption_items, reads.spelled hnode (h.ends Frame.list.ends_closer rest), List.mapM_cons]
    cases meaning node with
    | none => rfl
    | some a =>
      simp only [Option.map_some, Option.bind_some, hturn, toOption_ok, ih left]
      cases nodes.mapM meaning <;> rfl

theorem exists_items {item : Reader α} {meaning : Node → Option α} (reads : item.Reads meaning)
    {turn : Turn} {as : List α} (h : items item turn = .ok (as, rest)) :
    ∃ nodes, ItemsLeft rest turn nodes := by
  fun_induction items item turn generalizing as rest with
  | case1 =>
    cases h
    exact ⟨[], .closed⟩
  | case2 | case3 | case4 => cases h
  | case5 _ _ _ hi _ hn _ _ hr ih =>
    cases h
    obtain ⟨nodes, left⟩ := ih hr
    obtain ⟨s', hfollow, rfl⟩ := exists_itemsFollow hn left
    obtain ⟨node, front, hnode, rfl⟩ := reads.complete hi
    exact ⟨node :: nodes, .more hnode hfollow⟩

theorem list_run (item : Reader α) (s : Bytes) :
    (Reader.list item).run (0x5B :: s) =
      match firstItem s with
      | .error f => .error f
      | .ok turn => items item turn := by
  cases hfirst : firstItem s <;>
    simp only [Reader.list, Reader.startingWith_same (b := 0x5B) rfl, hfirst]

theorem Reader.Reads.list {item : Reader α} {meaning : Node → Option α}
    (reads : item.Reads meaning) : (Reader.list item).Reads (Node.list? meaning) where
  blank := startingWith_skipBlank
  spelled {node s rest} h ends := by
    have other : ∀ a s, isBlank a = false → a ≠ 0x5B →
        ((Reader.list item).run (a :: s)).toOption = none :=
      fun _ s ha hne => startingWith_other ha hne s
    induction h with
    | blank hb _ ih => rw [List.cons_append, run_blank startingWith_skipBlank hb, ih]
    | list each h =>
      obtain ⟨turn, hturn, left⟩ := firstItem_spelled (.of_listed each h) rest
      rw [List.cons_append, list_run, hturn]
      exact items_spelled reads left
    | unsigned h =>
      obtain ⟨d, ds, rfl, hd⟩ := exists_digit_of_number h
      exact other d _ (isBlank_digit hd) (ne_of_isDigit hd rfl)
    | null | yes | no | signed | text | object => exact other _ _ rfl (by decide)
  complete {s as rest} h := by
    obtain ⟨c, r, hc, rfl, hbody⟩ := exists_of_startingWith h
    split at hbody
    · cases hbody
    · rename_i hfirst
      obtain ⟨nodes, left⟩ := exists_items reads hbody
      obtain ⟨s', hlisted, rfl⟩ := exists_itemsListed hfirst left
      exact ⟨_, _, (Spells.of_items hlisted).blanks hc, by simp⟩

/-! ### Records as lists -/

theorem exists_turn {p : Position} (h : ItemsFrom rest p nodes) :
    ∃ turn, p.turn = .ok turn ∧ ItemsLeft rest turn nodes := by
  cases h with
  | opened h => exact firstItem_spelled h rest
  | between h => exact nextItem_spelled h rest
  | closed => exact ⟨_, rfl, .closed⟩

theorem ItemsFrom.of_turn {p : Position} {turn : Turn} (h : p.turn = .ok turn)
    (left : ItemsLeft rest turn nodes) : ItemsFrom rest p nodes := by
  cases p with
  | opened s =>
    obtain ⟨s', hlisted, rfl⟩ := exists_itemsListed h left
    exact .opened hlisted
  | between s =>
    obtain ⟨s', hfollow, rfl⟩ := exists_itemsFollow h left
    exact .between hfollow
  | closed s =>
    cases h
    cases left
    exact .closed

theorem finish_closed {p : Position} (h : ItemsFrom rest p []) : p.finish = .ok rest := by
  cases h with
  | opened h =>
    obtain ⟨ha⟩ := h
    rw [Position.finish, closeList, skipBlank_last ha (by decide)]
    rfl
  | between h =>
    obtain ⟨ha⟩ := h
    rw [Position.finish, closeList, skipBlank_last ha (by decide)]
    rfl
  | closed => rfl

theorem finish_more {p : Position} (h : ItemsFrom rest p (node :: nodes)) :
    p.finish.toOption = none := by
  cases h with
  | opened h =>
    obtain _ | ⟨hnode, h⟩ := h
    rename_i t s
    obtain ⟨b, r, hskip, hb, -⟩ := hnode.exists_first (s ++ rest)
    rw [Position.finish, closeList, List.append_assoc, hskip, expect, if_neg hb]
    rfl
  | between h =>
    obtain _ | ⟨ha, hnode, h⟩ := h
    rw [Position.finish, closeList, skipBlank_comma ha]
    rfl

theorem ItemsFrom.of_finish {p : Position} (h : p.finish = .ok rest) : ItemsFrom rest p [] := by
  have close : ∀ {s}, closeList s = .ok rest → ∃ a, Blanks a ∧ s = a ++ [0x5D] ++ rest := by
    intro s h
    obtain ⟨a, ha, hs⟩ := blanks_append_of_skipBlank (eq_cons_of_expect h)
    exact ⟨a, ha, by simp [hs]⟩
  cases p with
  | opened s =>
    obtain ⟨a, ha, rfl⟩ := close h
    exact .opened (.close ha)
  | between s =>
    obtain ⟨a, ha, rfl⟩ := close h
    exact .between (.close ha)
  | closed s =>
    cases h
    exact .closed

/-- `fields.Reads arrange`: what is left of a list gives the fields what `arrange` gives them. -/
structure Sequence.Reads (fields : Sequence σ) (arrange : List Node → Option σ) : Prop where
  spelled : ∀ {p nodes rest}, ItemsFrom rest p nodes →
    (fields.run p).toOption = (arrange nodes).map (·, rest)
  complete : ∀ {p st rest}, fields.run p = .ok (st, rest) → ∃ nodes, ItemsFrom rest p nodes

theorem Sequence.reads_nil : Sequence.nil.Reads Node.arrangeNil where
  spelled {p nodes rest} h := by
    simp only [Sequence.nil]
    cases nodes with
    | nil =>
      rw [finish_closed h]
      rfl
    | cons node nodes =>
      obtain ⟨f, hf⟩ := toOption_eq_none.mp (finish_more h)
      rw [hf]
      rfl
  complete {p st rest} h := by
    simp only [Sequence.nil] at h
    split at h
    · cases h
    · rename_i hfinish
      cases h
      exact ⟨[], .of_finish hfinish⟩

theorem Sequence.cons_closed (r : Reader α) (fields : Sequence σ) {p : Position}
    (h : p.turn = .ok (.closed rest)) :
    ((Sequence.cons r fields).run p).toOption =
      (fields.run (.closed rest)).toOption.map fun tail => ((none, tail.1), tail.2) := by
  simp only [Sequence.cons, h]
  cases fields.run (.closed rest) <;> rfl

theorem Sequence.cons_more (r : Reader α) (fields : Sequence σ) {p : Position}
    (h : p.turn = .ok (.more s)) :
    ((Sequence.cons r fields).run p).toOption =
      (r.run s).toOption.bind fun read =>
        (fields.run (.between read.2)).toOption.map fun tail => ((some read.1, tail.1), tail.2) := by
  simp only [Sequence.cons, h]
  cases r.run s with
  | error f => rfl
  | ok read => cases h : fields.run (.between read.2) <;> simp [h]

theorem Sequence.Reads.cons {r : Reader α} {meaning : Node → Option α} (reads : r.Reads meaning)
    {fields : Sequence σ} {arrange : List Node → Option σ} (h : fields.Reads arrange) :
    (Sequence.cons r fields).Reads (Node.arrangeCons meaning arrange) where
  spelled {p nodes rest} hp := by
    obtain ⟨turn, hturn, left⟩ := exists_turn hp
    cases left with
    | closed =>
      rw [Sequence.cons_closed r fields hturn, h.spelled .closed, Node.arrangeCons]
      cases arrange [] <;> rfl
    | @more t s node nodes hnode hfollow =>
      rw [Sequence.cons_more r fields hturn,
        reads.spelled hnode (hfollow.ends Frame.list.ends_closer rest), Node.arrangeCons]
      cases meaning node with
      | none => rfl
      | some a =>
        rw [Option.map_some, Option.bind_some, h.spelled (.between hfollow), Option.bind_some]
        cases arrange nodes <;> rfl
  complete {p st rest} hrun := by
    simp only [Sequence.cons] at hrun
    split at hrun
    · cases hrun
    · rename_i hturn
      split at hrun
      · cases hrun
      · rename_i hfields
        cases hrun
        obtain ⟨nodes, left⟩ := h.complete hfields
        cases left
        exact ⟨[], .of_turn hturn .closed⟩
    · rename_i hturn
      split at hrun
      · cases hrun
      · rename_i hr
        split at hrun
        · cases hrun
        · rename_i hfields
          cases hrun
          obtain ⟨nodes, left⟩ := h.complete hfields
          obtain ⟨node, front, hnode, rfl⟩ := reads.complete hr
          cases left with
          | between hfollow => exact ⟨node :: nodes, .of_turn hturn (.more hnode hfollow)⟩

end SkinRelay.Json
