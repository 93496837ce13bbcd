import SkinRelay.Proofs.Caches
import SkinRelay.Proofs.Forward

/-!
The cache of profiles and those who look into it. Any number of lookups go on at the same time, each
at its own pace, and one that was given up just rests. A lookup goes through its stages in order, and
is never at one of them twice (`finished_of_history`).
-/

namespace SkinRelay.TexturesCache

/-- The lookup of an account id. -/
structure Lookup where
  uuid : String
  stage : Stage := .looking
  deriving Repr

/-- The cache, and the lookups made so far. -/
structure Readers where
  cache : TexturesCache
  lookups : Table Nat Lookup := {}
  deriving Repr

inductive Action where
  | begin (id : Nat) (uuid : String)
  /-- A lookup does the next thing that it does by itself. -/
  | advance (id : Nat)
  /-- The session server replies to the request of a lookup. -/
  | reply (id : Nat) (reply : Except RemoteError (Option Profile))
  /-- Old entries are taken out, which may happen at any time, with a sweeper or without one. -/
  | sweep
  | stopSweeper

/-- The lookup that an action moves on. -/
def Action.mover? : Action → Option Nat
  | .advance id | .reply id _ => some id
  | .begin .. | .sweep | .stopSweeper => none

/-- How far a lookup has come at a stage. -/
def Stage.rank : Stage → Nat
  | .looking => 0
  | .missed => 1
  | .fetching _ => 2
  | .storing _ => 3
  | .stored _ => 4
  | .done _ => 5

theorem Stage.rank_le (stage : Stage) : stage.rank ≤ 5 := by
  cases stage <;> simp [rank]

theorem Advances.rank_lt {c d : TexturesCache} {now : Nat} {uuid : String} {stage next : Stage}
    (h : Advances c now uuid stage next d) : stage.rank < next.rank := by
  cases h <;> simp [Stage.rank]

theorem rank_fetched (request : Nat) (result : FetchResult) :
    (Stage.fetching request).rank < (fetched result).rank := by
  cases result <;> simp [Stage.rank, fetched]

namespace Readers

/-- Nobody has looked into a cache of this lifetime yet. -/
def ofLifetime (lifetime : Nat) : Readers := { cache := .ofLifetime lifetime }

def setLookup (s : Readers) (id : Nat) (lookup : Lookup) : Readers :=
  { s with lookups := s.lookups.insert id lookup }

def advance? (s : Readers) (now id : Nat) : Option Readers :=
  (s.lookups.get? id).bind fun l =>
    (s.cache.advance? now l.uuid l.stage).map fun (stage, cache) =>
      { s with cache }.setLookup id { l with stage }

def step? (now : Nat) (s : Readers) : Action → Option Readers
  | .begin id uuid => if s.lookups.contains id then none else some (s.setLookup id { uuid })
  | .advance id => s.advance? now id
  | .reply id reply =>
    match s.lookups.get? id with
    | some { uuid, stage := .fetching request } =>
      some (s.setLookup id { uuid, stage := fetched (.ofReply request reply) })
    | _ => none
  | .sweep => some { s with cache := s.cache.sweep now }
  | .stopSweeper => some { s with cache := s.cache.stopSweeper }

/-- A step with its time. -/
def Step (s : Readers) (a : Nat × Action) (t : Readers) : Prop := s.step? a.1 a.2 = some t

/-- One step at the time `now`. -/
inductive Moves (now : Nat) (s : Readers) : Action → Readers → Prop
  | begin {id : Nat} {uuid : String} (new : s.lookups.get? id = none) :
      Moves now s (.begin id uuid) (s.setLookup id { uuid })
  | advance {id : Nat} {uuid : String} {stage next : Stage} {cache : TexturesCache}
      (at_ : s.lookups.get? id = some ⟨uuid, stage⟩)
      (advances : Advances s.cache now uuid stage next cache) :
      Moves now s (.advance id) ({ s with cache }.setLookup id ⟨uuid, next⟩)
  | reply {id request : Nat} {uuid : String} {reply : Except RemoteError (Option Profile)}
      (at_ : s.lookups.get? id = some ⟨uuid, .fetching request⟩) :
      Moves now s (.reply id reply) (s.setLookup id ⟨uuid, fetched (.ofReply request reply)⟩)
  | sweep : Moves now s .sweep { s with cache := s.cache.sweep now }
  | stopSweeper : Moves now s .stopSweeper { s with cache := s.cache.stopSweeper }

variable {now id : Nat} {uuid : String} {stage next : Stage} {s t u : Readers} {a : Action}

theorem moves_of_step? (h : s.step? now a = some t) : Moves now s a t := by
  cases a with
  | begin id uuid =>
    simp only [step?] at h
    split at h
    · cases h
    · rename_i hnew
      cases h
      exact .begin (by simpa [Table.contains] using hnew)
  | advance id =>
    simp only [step?, advance?, Option.bind_eq_some_iff, Option.map_eq_some_iff] at h
    obtain ⟨l, hl, ⟨stage, cache⟩, hadvance, rfl⟩ := h
    exact .advance hl (advances_of_advance? hadvance)
  | reply id reply =>
    simp only [step?] at h
    split at h
    · rename_i hat
      cases h
      exact .reply hat
    · cases h
  | sweep =>
    cases h
    exact .sweep
  | stopSweeper =>
    cases h
    exact .stopSweeper

theorem get?_setLookup_self (lookup : Lookup) :
    (s.setLookup id lookup).lookups.get? id = some lookup := by
  simp [setLookup]

theorem get?_setLookup_of_ne {other : Nat} (lookup : Lookup) (h : id ≠ other) :
    (s.setLookup other lookup).lookups.get? id = s.lookups.get? id := by
  simp [setLookup, h]

theorem goes_of_step {a : Nat × Action} (h : Step s a t) :
    s.lookups.Goes (fun l => l.stage.rank) t.lookups a.2.mover? := by
  obtain ⟨now, a⟩ := a
  cases moves_of_step? h with
  | begin new => exact .enter new
  | advance at_ advances => exact .move at_ advances.rank_lt
  | reply at_ => exact .move at_ (rank_fetched _ _)
  | sweep | stopSweeper => exact .rest

/-- A step moves a lookup on or leaves it where it is. -/
theorem forward (id : Nat) : History.Forward Step (fun s => s.lookups.get? id)
    (fun l => l.stage.rank) fun a => a.2.mover? = some id :=
  .of_goes (fun _ _ _ h => goes_of_step h) id

/-- An entry of a log: a step, with its time and the state in which it was taken. -/
abbrev Entry := Readers × (Nat × Action)

/-- A lookup that is done after a step stays so, and was never beyond the stage from which it
came. -/
theorem finished_of_history {log : List Entry} {e : Entry} {result : FetchResult}
    (h : History Step s log t) (he : e ∈ log) (own : e.2.2.mover? = some id)
    (hat : e.1.lookups.get? id = some ⟨uuid, stage⟩)
    (hdone : ∀ u, Step e.1 e.2 u → u.lookups.get? id = some ⟨uuid, .done result⟩) :
    t.lookups.get? id = some ⟨uuid, .done result⟩ ∧
      ∀ d ∈ log, d.2.2.mover? = some id → ∀ l, d.1.lookups.get? id = some l →
        l.stage.rank ≤ stage.rank := by
  obtain ⟨hend, hothers⟩ := (forward id).ends h he own hat hdone fun l => l.stage.rank_le
  refine ⟨hend, ?_⟩
  intro d hd hown l hl
  rcases hothers d hd hown with rfl | ⟨u, next, hs, hnext, hle⟩
  · cases hat.symm.trans hl
    exact Nat.le_refl _
  · obtain ⟨next', hnext', hlt, -⟩ := (forward id).moves hs hl
    cases hnext.symm.trans hnext'
    exact Nat.le_trans (Nat.le_of_lt (hlt hown)) hle

end Readers

end SkinRelay.TexturesCache
