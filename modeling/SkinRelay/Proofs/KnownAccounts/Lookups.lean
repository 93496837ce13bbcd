import SkinRelay.Proofs.Caches
import SkinRelay.Proofs.Forward

/-!
The store of known accounts and those who look names up. Any number of lookups go on at the same
time, each at its own pace: it reads the store, asks somebody else if need be, and writes. A lookup
goes forward through its stages (`forward`), and only the step that ends it can touch the store or
the counters (`ended_of_history`).
-/

namespace SkinRelay.KnownAccounts

/-- The lookup of a name. -/
structure Lookup where
  username : String
  stage : Stage := .reading
  deriving Repr

/-- The known accounts, and the lookups made so far. -/
structure Readers (σ : Type) where
  known : KnownAccounts σ
  lookups : Table Nat Lookup := {}
  deriving Repr

inductive Action where
  | begin (id : Nat) (username : String)
  /-- A lookup reads the store, which may fail. -/
  | read (id : Nat) (fault : Option StoreError)
  /-- Whoever a lookup has asked replies. -/
  | reply (id : Nat) (result : AccountResult)
  /-- A lookup writes to the store, which may fail. -/
  | write (id : Nat) (fault : Option StoreError)
  deriving Repr

/-- The lookup that an action moves on. -/
def Action.mover? : Action → Option Nat
  | .read id _ | .reply id _ | .write id _ => some id
  | .begin .. => none

/-- How far a lookup has come at a stage. -/
def Stage.rank : Stage → Nat
  | .reading => 0
  | .asking => 1
  | .writing _ => 2
  | .done _ => 3

theorem Stage.rank_le (stage : Stage) : stage.rank ≤ 3 := by
  cases stage <;> simp [rank]

theorem rank_answered (result : AccountResult) : Stage.asking.rank < (answered result).rank := by
  cases result <;> simp [Stage.rank, answered]

namespace Readers

variable {σ : Type}

def setLookup (s : Readers σ) (id : Nat) (lookup : Lookup) : Readers σ :=
  { s with lookups := s.lookups.insert id lookup }

@[simp]
theorem get?_setLookup (s : Readers σ) (id other : Nat) (lookup : Lookup) :
    (s.setLookup other lookup).lookups.get? id =
      if id = other then some lookup else s.lookups.get? id := by
  simp [setLookup]

variable [NameStore σ]

def step? (now : Nat) (s : Readers σ) : Action → Option (Readers σ)
  | .begin id username =>
    if s.lookups.contains id then none else some (s.setLookup id { username })
  | .read id fault =>
    match s.lookups.get? id with
    | some { username, stage := .reading } =>
      let (stage, known) := s.known.read now fault username
      some ({ s with known }.setLookup id { username, stage })
    | _ => none
  | .reply id result =>
    match s.lookups.get? id with
    | some { username, stage := .asking } =>
      some (s.setLookup id { username, stage := answered result })
    | _ => none
  | .write id fault =>
    match s.lookups.get? id with
    | some { username, stage := .writing found } =>
      let (stage, known) := s.known.write now fault username found
      some ({ s with known }.setLookup id { username, stage })
    | _ => none

/-- A step with its time. -/
def Step (s : Readers σ) (a : Nat × Action) (t : Readers σ) : Prop := s.step? a.1 a.2 = some t

/-- One step at the time `now`. -/
inductive Moves (now : Nat) (s : Readers σ) : Action → Readers σ → Prop
  | begin {id : Nat} {username : String} (new : s.lookups.get? id = none) :
      Moves now s (.begin id username) (s.setLookup id { username })
  | fail {id : Nat} {username : String} {error : StoreError}
      (at_ : s.lookups.get? id = some ⟨username, .reading⟩) :
      Moves now s (.read id (some error))
        (s.setLookup id ⟨username, .done (.error (.storage error))⟩)
  | hit {id : Nat} {username : String} {r : NameRecord}
      (at_ : s.lookups.get? id = some ⟨username, .reading⟩)
      (found : NameStore.lookup s.known.store now (Username.key username) = some r) :
      Moves now s (.read id none)
        (setLookup
          { s with
            known.stats := { s.known.stats with hits := s.known.stats.hits + 1 } }
          id ⟨username, .done (.ok (account? r))⟩)
  | miss {id : Nat} {username : String} (at_ : s.lookups.get? id = some ⟨username, .reading⟩)
      (gone : NameStore.lookup s.known.store now (Username.key username) = none) :
      Moves now s (.read id none) (s.setLookup id ⟨username, .asking⟩)
  | reply {id : Nat} {username : String} {result : AccountResult}
      (at_ : s.lookups.get? id = some ⟨username, .asking⟩) :
      Moves now s (.reply id result) (s.setLookup id ⟨username, answered result⟩)
  | store {id : Nat} {username : String} {found : Option Account}
      (at_ : s.lookups.get? id = some ⟨username, .writing found⟩) :
      Moves now s (.write id none)
        (setLookup
          { s with
            known.store :=
              NameStore.record s.known.store now (storedName username found) (found.map (·.id))
            known.stats := { s.known.stats with misses := s.known.stats.misses + 1 } }
          id ⟨username, .done (.ok found)⟩)
  | skip {id : Nat} {username : String} {found : Option Account} {error : StoreError}
      (at_ : s.lookups.get? id = some ⟨username, .writing found⟩) :
      Moves now s (.write id (some error)) (s.setLookup id ⟨username, .done (.ok found)⟩)

variable {now id : Nat} {username : String} {stage : Stage} {s t u : Readers σ} {a : Action}
  {result : AccountResult}

theorem moves_of_step? (h : s.step? now a = some t) : Moves now s a t := by
  cases a with
  | begin id username =>
    simp only [step?] at h
    split at h
    · cases h
    · rename_i hnew
      cases h
      exact .begin (by simpa [Table.contains] using hnew)
  | read id fault =>
    simp only [step?] at h
    split at h
    · rename_i username hat
      cases h
      cases fault with
      | some error => exact .fail hat
      | none =>
        unfold read
        cases hfound : NameStore.lookup s.known.store now (Username.key username) with
        | some r => exact .hit hat hfound
        | none => exact .miss hat hfound
    · cases h
  | reply id result =>
    simp only [step?] at h
    split at h
    · cases h
      exact .reply ‹_›
    · cases h
  | write id fault =>
    simp only [step?] at h
    split at h
    · rename_i hat
      cases h
      cases fault with
      | some error => exact .skip hat
      | none => exact .store hat
    · cases h

theorem goes_of_step {a : Nat × Action} (h : Step s a t) :
    s.lookups.Goes (fun l => l.stage.rank) t.lookups a.2.mover? := by
  obtain ⟨now, a⟩ := a
  cases moves_of_step? h with
  | begin new => exact .enter new
  | reply at_ => exact .move at_ (rank_answered _)
  | fail at_ | hit at_ | miss at_ | store at_ | skip at_ =>
    exact .move at_ (by simp [Stage.rank])

/-- A step moves a lookup on or leaves it where it is. -/
theorem forward (id : Nat) : History.Forward (Step (σ := σ)) (fun s => s.lookups.get? id)
    (fun l => l.stage.rank) fun a => a.2.mover? = some id :=
  .of_goes (fun _ _ _ h => goes_of_step h) id

/-- Only a step that ends a lookup touches the store or the counters. -/
theorem Moves.known (h : Moves now s a t) : t.known = s.known ∨
    ∃ id username result, a.mover? = some id ∧
      t.lookups.get? id = some ⟨username, .done result⟩ := by
  cases h with
  | begin | fail | miss | reply | skip => exact .inl rfl
  | @hit id username r => exact .inr ⟨id, username, .ok (account? r), rfl, by simp⟩
  | @store id username found => exact .inr ⟨id, username, .ok found, rfl, by simp⟩

/-- An entry of a log: a step, with its time and the state in which it was taken. -/
abbrev Entry (σ : Type) := Readers σ × (Nat × Action)

variable {log : List (Entry σ)} {e : Entry σ}

/-- What is done is never moved on again. -/
theorem done_of_history (h : History Step s log t)
    (hat : s.lookups.get? id = some ⟨username, .done result⟩) :
    t.lookups.get? id = some ⟨username, .done result⟩ ∧ ∀ e ∈ log, e.2.2.mover? ≠ some id :=
  (forward id).stays h hat fun l => l.stage.rank_le

/-- A lookup that is done after a step stays so, and its other steps touched nothing. -/
theorem ended_of_history (h : History Step s log t) (he : e ∈ log) (own : e.2.2.mover? = some id)
    (hat : e.1.lookups.get? id = some ⟨username, stage⟩)
    (ends : ∀ u, Step e.1 e.2 u → u.lookups.get? id = some ⟨username, .done result⟩) :
    t.lookups.get? id = some ⟨username, .done result⟩ ∧
      ∀ d ∈ log, d.2.2.mover? = some id → d = e ∨
        (∃ l, d.1.lookups.get? id = some l ∧ l.stage.rank < stage.rank) ∧
          ∀ u, Step d.1 d.2 u → u.known = d.1.known := by
  obtain ⟨hend, hothers⟩ := (forward id).ends h he own hat ends fun l => l.stage.rank_le
  obtain ⟨_, _, u, -, -, hu, -⟩ := h.cut he
  obtain ⟨last, hlast, hlt, -⟩ := (forward id).moves hu hat
  have hrank : stage.rank < Stage.rank (.done result) := by
    cases hlast.symm.trans (ends u hu)
    exact hlt own
  refine ⟨hend, fun d hd hown => (hothers d hd hown).imp_right ?_⟩
  rintro ⟨v, next, hv, hnext, hle⟩
  constructor
  · obtain ⟨l, hl⟩ := (forward id).present hv hown
    obtain ⟨next', hnext', hmoved, -⟩ := (forward id).moves hv hl
    cases hnext.symm.trans hnext'
    exact ⟨l, hl, Nat.lt_of_lt_of_le (hmoved hown) hle⟩
  · -- Had it touched anything, the lookup would have been done then.
    intro w hw
    cases hv.symm.trans hw
    rcases (moves_of_step? hv).known with hsame | ⟨i, name, early, hi, hdone⟩
    · exact hsame
    · cases hown.symm.trans hi
      cases hnext.symm.trans hdone
      exact absurd hle (Nat.not_le_of_lt hrank)

end Readers

end SkinRelay.KnownAccounts
