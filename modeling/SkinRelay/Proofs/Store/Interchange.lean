import Mathlib.Data.List.Induction
import SkinRelay.Proofs.Expiring
import SkinRelay.Store.Database
import SkinRelay.Store.Memory

/-!
The stores are interchangeable. One takes out a record when it is too old, and the other one passes
it over when it is read. Both answer with the record that was stored last under any casing of the
name, for thirty days from then on, and with nothing else: `stores_are_interchangeable`.
-/

namespace SkinRelay

/-- What happens to a store. -/
inductive StoreEvent where
  | get (username : String)
  | store (username : String) (uuid : Option String)
  /-- The store in memory takes out what is too old. -/
  | sweep
  deriving DecidableEq, Repr

/-- What a store answers to an event, and how it goes on. Only a read has an answer. -/
def MemoryStore.serve (s : MemoryStore) : Nat × StoreEvent → Option (Option NameRecord) × MemoryStore
  | (now, .get username) => (some (s.lookup now username), s)
  | (now, .store username uuid) => (none, s.record now username uuid)
  | (now, .sweep) => (none, { records := s.records.sweep now })

/-- The same for the store in a database, the clock of which had this time at first. -/
def DatabaseStore.serve (epoch : Int) (s : DatabaseStore) :
    Nat × StoreEvent → Option (Option NameRecord) × DatabaseStore
  | (now, .get username) =>
    let (row, s) := s.execute (lookupStatement username)
    (some (row.bind (·.record? (epoch + now))), s)
  | (now, .store username uuid) => (none, (s.execute (recordStatement (epoch + now) username uuid)).2)
  | (_, .sweep) => (none, s)

namespace StoreEvent

/-- What an event puts into a store, under which key. -/
def put? : Nat × StoreEvent → Option (String × Dated NameRecord)
  | (now, .store username uuid) => some (Username.key username, ⟨⟨username, uuid⟩, now⟩)
  | (_, .get _) | (_, .sweep) => none

/-- Whether this is the right answer to a read after these events: the record that was stored last
under any casing of the name, for thirty days. -/
def Right (past : List (Nat × StoreEvent)) (now : Nat) (username : String)
    (answer : Option NameRecord) : Prop :=
  ∀ r, answer = some r ↔
    ∃ since, Expiring.Last put? past (Username.key username) ⟨r, since⟩ ∧ now < since + Time.days 30

theorem Right.unique {past : List (Nat × StoreEvent)} {now : Nat} {username : String}
    {answer other : Option NameRecord} (h : Right past now username answer)
    (k : Right past now username other) : answer = other :=
  Option.ext fun r => (h r).trans (k r).symm

/-! ### Runs -/

section

variable {σ : Type} (serve : σ → Nat × StoreEvent → Option (Option NameRecord) × σ)

/-- The answers of a store to these events, one after the other. -/
def answers (s : σ) : List (Nat × StoreEvent) → List (Option (Option NameRecord))
  | [] => []
  | e :: rest => (serve s e).1 :: answers (serve s e).2 rest

/-- The store after these events. -/
def after (s : σ) (past : List (Nat × StoreEvent)) : σ := past.foldl (fun s e => (serve s e).2) s

theorem after_concat (s : σ) (past : List (Nat × StoreEvent)) (e : Nat × StoreEvent) :
    after serve s (past ++ [e]) = (serve (after serve s past) e).2 := by
  simp [after]

theorem getElem?_answers (s : σ) (past rest : List (Nat × StoreEvent)) (e : Nat × StoreEvent) :
    (answers serve s (past ++ e :: rest))[past.length]? = some (serve (after serve s past) e).1 := by
  induction past generalizing s with
  | nil => rfl
  | cons d past ih => simpa [answers, after] using ih (serve s d).2

/-- Two stores that answer alike after any events answer alike all the time. -/
theorem answers_congr {τ : Type} {serve' : τ → Nat × StoreEvent → Option (Option NameRecord) × τ}
    {s : σ} {t : τ} {events : List (Nat × StoreEvent)}
    (h : ∀ past e rest, events = past ++ e :: rest →
      (serve (after serve s past) e).1 = (serve' (after serve' t past) e).1) :
    answers serve s events = answers serve' t events := by
  induction events generalizing s t with
  | nil => rfl
  | cons e rest ih =>
    have hhead := h [] e rest rfl
    have htail : answers serve (serve s e).2 rest = answers serve' (serve' t e).2 rest := by
      apply ih
      intro past d rest' hrest
      exact h (e :: past) d rest' (by rw [hrest]; rfl)
    simpa [answers, after, htail] using hhead

end

end StoreEvent

open Expiring StoreEvent

/-! ### The store in memory -/

namespace MemoryStore

/-- What the store in memory holds after these events. -/
structure Holds (past : List (Nat × StoreEvent)) (s : MemoryStore) : Prop where
  lifetime : s.records.lifetime = Time.days 30
  follows : Follows put? Prod.fst past s.records

theorem holds_nil : Holds [] {} := ⟨rfl, follows_nil _⟩

theorem Holds.serve {past : List (Nat × StoreEvent)} {s : MemoryStore} (h : Holds past s)
    (e : Nat × StoreEvent) : Holds (past ++ [e]) (s.serve e).2 := by
  obtain ⟨now, event⟩ := e
  cases event with
  | get username => exact ⟨h.lifetime, h.follows.keep rfl⟩
  | store username uuid => exact ⟨h.lifetime, h.follows.insert rfl⟩
  | sweep =>
    have hsweep := h.follows.sweep (e := (now, .sweep)) rfl
    exact ⟨h.lifetime, hsweep⟩

theorem holds_after (past : List (Nat × StoreEvent)) :
    Holds past (after MemoryStore.serve {} past) := by
  induction past using List.reverseRecOn with
  | nil => exact holds_nil
  | append_singleton past e ih =>
    rw [after_concat]
    exact ih.serve e

/-- The store in memory gives the right answers, as long as time goes on. -/
theorem lookup_right {past : List (Nat × StoreEvent)} {now : Nat}
    (huntil : ∀ e ∈ past, e.1 ≤ now) (username : String) :
    Right past now username ((after MemoryStore.serve {} past).lookup now username) := by
  intro r
  have hholds := holds_after past
  rw [← hholds.lifetime]
  exact hholds.follows.finds now huntil (Username.key username) r

end MemoryStore

/-! ### The store in a database -/

/-- What the table of the database holds after these events: a row stays in it until it is
overwritten. -/
def DatabaseStore.Holds (epoch : Int) (past : List (Nat × StoreEvent)) (s : DatabaseStore) : Prop :=
  ∀ key row, s.rows.get? key = some row ↔
    ∃ since, Last put? past key ⟨⟨row.username, row.uuid⟩, since⟩ ∧ row.storedAt = epoch + since

namespace DatabaseStore

variable {epoch : Int}

theorem holds_nil : Holds epoch [] {} := by
  intro key row
  constructor
  · intro h
    cases h
  · rintro ⟨since, hlast, -⟩
    exact absurd hlast not_last_nil

theorem Holds.serve {past : List (Nat × StoreEvent)} {s : DatabaseStore} (h : Holds epoch past s)
    (e : Nat × StoreEvent) : Holds epoch (past ++ [e]) (s.serve epoch e).2 := by
  obtain ⟨now, event⟩ := e
  intro key row
  cases event with
  | get username =>
    have silent : put? (now, .get username) = none := rfl
    simp only [last_concat_of_none silent]
    exact h key row
  | sweep =>
    have silent : put? (now, .sweep) = none := rfl
    simp only [last_concat_of_none silent]
    exact h key row
  | store username uuid =>
    have puts : put? (now, .store username uuid) =
      some (Username.key username, ⟨⟨username, uuid⟩, now⟩) := rfl
    simp only [DatabaseStore.serve, execute, recordStatement, Table.get?_insert]
    by_cases hkey : key = Username.key username
    · subst hkey
      simp only [last_concat_self puts, if_true]
      constructor
      · intro hrow
        cases hrow
        exact ⟨now, rfl, rfl⟩
      · rintro ⟨since, hlast, hstored⟩
        obtain ⟨name, id, storedAt⟩ := row
        cases hlast
        obtain rfl : storedAt = epoch + now := hstored
        rfl
    · rw [if_neg hkey]
      simp only [last_concat_of_ne puts hkey]
      exact h key row

theorem holds_after (epoch : Int) (past : List (Nat × StoreEvent)) :
    Holds epoch past (after (DatabaseStore.serve epoch) {} past) := by
  induction past using List.reverseRecOn with
  | nil => exact holds_nil
  | append_singleton past e ih =>
    rw [after_concat]
    exact ih.serve e

/-- A row is read as long as its record is believed. -/
theorem record?_eq_some {row : NameRow} {now time : Nat} {r : NameRecord}
    (stored : row.storedAt = epoch + time) :
    row.record? (epoch + now) = some r ↔
      r = ⟨row.username, row.uuid⟩ ∧ now < time + Time.days 30 := by
  have hage : (epoch + now - row.storedAt ≥ NameRecord.lifetime) ↔ ¬now < time + Time.days 30 := by
    rw [stored, NameRecord.lifetime]
    omega
  unfold NameRow.record?
  by_cases hnow : now < time + Time.days 30
  · rw [if_neg (fun hold => hage.mp hold hnow)]
    simp [hnow, eq_comm]
  · rw [if_pos (hage.mpr hnow)]
    simp [hnow]

/-- The store in a database gives the right answers. -/
theorem lookup_right (epoch : Int) (past : List (Nat × StoreEvent)) (now : Nat)
    (username : String) :
    Right past now username
      ((after (DatabaseStore.serve epoch) {} past).lookup (epoch + now) username) := by
  have hholds := holds_after epoch past
  intro r
  simp only [lookup, execute, lookupStatement, Option.bind_eq_some_iff]
  constructor
  · rintro ⟨row, hrow, hr⟩
    obtain ⟨time, hlast, hstored⟩ := (hholds _ row).mp hrow
    obtain ⟨rfl, hnow⟩ := (record?_eq_some hstored).mp hr
    exact ⟨time, hlast, hnow⟩
  · rintro ⟨time, hlast, hnow⟩
    have hrow := (hholds (Username.key username) ⟨r.username, r.uuid, epoch + time⟩).mpr
      ⟨time, hlast, rfl⟩
    exact ⟨_, hrow, (record?_eq_some rfl).mpr ⟨rfl, hnow⟩⟩

end DatabaseStore

/-! ### Both stores -/

/-- Whatever is stored and read, both stores give the same answers, and the right ones. -/
theorem stores_are_interchangeable (epoch : Int) {events : List (Nat × StoreEvent)}
    (chronological : events.Pairwise fun d e => d.1 ≤ e.1) :
    answers (DatabaseStore.serve epoch) {} events = answers MemoryStore.serve {} events ∧
      ∀ past now username rest, events = past ++ (now, .get username) :: rest →
        ∃ answer, (answers MemoryStore.serve {} events)[past.length]? = some (some answer) ∧
          Right past now username answer := by
  have huntil : ∀ {past e rest}, events = past ++ e :: rest → ∀ d ∈ past, d.1 ≤ e.1 := by
    rintro past e rest rfl d hd
    exact (List.pairwise_append.mp chronological).2.2 d hd e List.mem_cons_self
  refine ⟨answers_congr _ fun past e rest hevents => ?_, ?_⟩
  · obtain ⟨now, event⟩ := e
    cases event with
    | get username =>
      have hmemory := MemoryStore.lookup_right (huntil hevents) username
      have hdatabase := DatabaseStore.lookup_right epoch past now username
      exact congrArg some (hdatabase.unique hmemory)
    | store | sweep => rfl
  · rintro past now username rest rfl
    refine ⟨(after MemoryStore.serve {} past).lookup now username, ?_, ?_⟩
    · rw [getElem?_answers]
      rfl
    · exact MemoryStore.lookup_right (huntil rfl) username

/-- A name that had no account is stored in another casing once it has one, and its record is read
up to the last microsecond of the thirty days. -/
theorem stores_are_interchangeable_up_to_expiry :
    ∃ events : List (Nat × StoreEvent), (events.Pairwise fun d e => d.1 ≤ e.1) ∧
      answers (DatabaseStore.serve (-1)) {} events = answers MemoryStore.serve {} events ∧
      answers MemoryStore.serve {} events =
        [none, some (some ⟨"notch", none⟩), none, none,
          some (some ⟨"Notch", some "069a79f4"⟩), some none] := by
  have h := @stores_are_interchangeable (-1)
    [(0, .store "notch" none), (5, .get "NOTCH"), (7, .store "Notch" (some "069a79f4")),
      (Time.days 30, .sweep), (6 + Time.days 30, .get "notch"), (7 + Time.days 30, .get "notch")]
    (by decide)
  exact ⟨_, by decide, h.1, by decide +kernel⟩

end SkinRelay
