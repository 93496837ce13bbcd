import SkinRelay.Flight

/-!
What one step of a group of runs can do, as a relation: a call joins a run or begins one, a run
passes from one phase to the next, or a waiting call ends. Whatever holds of every such move holds
of every step (`moves_of_step?`).
-/

namespace SkinRelay.Flight

variable {κ ω τ : Type}

/-- Whether a run in this phase still has its key: its task has not yet let go of it. -/
def Phase.holdsKey : Phase ω τ → Bool
  | .entered _ | .working _ | .finished _ | .broken => true
  | .released _ | .published _ | .unwound | .lost => false

/-- `Turn run a p q`: with the action `a` the run passes from the phase `p` to the phase `q`. -/
inductive Turn (run : Nat) : Action κ ω τ → Phase ω τ → Phase ω τ → Prop
  | spawn (work : ω) : Turn run (.spawn run) (.entered work) (.working work)
  | advance (old work : ω) : Turn run (.advance run work) (.working old) (.working work)
  | finish (work : ω) (output : τ) : Turn run (.finish run output) (.working work) (.finished output)
  | panic (work : ω) : Turn run (.panic run) (.working work) .broken
  | release (output : τ) : Turn run (.release run) (.finished output) (.released output)
  | unwind : Turn run (.release run) .broken .unwound
  | publish (output : τ) : Turn run (.publish run) (.released output) (.published output)
  | lose : Turn run (.publish run) .unwound .lost

/-- A run that moves on has not ended, and it is not started again. -/
theorem Turn.unended {run : Nat} {a : Action κ ω τ} {p q : Phase ω τ} (h : Turn run a p q) :
    (∀ o, p ≠ .published o) ∧ p ≠ .lost ∧ ∀ w, q ≠ .entered w := by
  cases h <;> simp

/-- A key that a run lets go of is one that it had. -/
theorem Turn.letsGo {run : Nat} {a : Action κ ω τ} {p q : Phase ω τ} (h : Turn run a p q)
    (hne : p.holdsKey ≠ q.holdsKey) : p.holdsKey = true ∧ q.holdsKey = false := by
  cases h <;> simp_all [Phase.holdsKey]

/-- `Ends f id call a p`: with the action `a` the waiting call `call` of number `id` passes to the
phase `p`. -/
inductive Ends (f : Flight κ ω τ) (id : Nat) (call : Call τ) :
    Action κ ω τ → CallPhase τ → Prop
  | collect {output : τ} (h : f.phase? call.run = some (.published output)) :
      Ends f id call (.collect id) (.returned output)
  | fail (h : f.phase? call.run = some .lost) : Ends f id call (.collect id) .failed
  | drop (h : f.isWaiting call = true) : Ends f id call (.drop id) .gone

variable [DecidableEq κ]

/-- One step of a group. -/
inductive Moves (f : Flight κ ω τ) : Action κ ω τ → Flight κ ω τ → Prop
  | join {id run : Nat} {key : κ} {work : ω}
      (new : f.calls.get? id = none) (taken : f.keys.get? key = some run) :
      Moves f (.call id key work) { f with calls := f.calls.insert id { run, joined := true } }
  | begin {id : Nat} {key : κ} {work : ω}
      (new : f.calls.get? id = none) (free : f.keys.get? key = none) :
      Moves f (.call id key work)
        { keys := f.keys.insert key f.begun
          runs := f.runs.insert f.begun { key, phase := .entered work }
          calls := f.calls.insert id { run := f.begun, joined := false }
          begun := f.begun + 1 }
  | turn {a : Action κ ω τ} {run : Nat} {key : κ} {p q : Phase ω τ}
      (at_ : f.runs.get? run = some ⟨key, p⟩) (turn : Turn run a p q) :
      Moves f a
        { f.setPhase run key q with
          keys := if p.holdsKey = q.holdsKey then f.keys else f.keys.erase key }
  | ending {a : Action κ ω τ} {id : Nat} {call : Call τ} {p : CallPhase τ}
      (at_ : f.calls.get? id = some call) (waiting : call.phase = .waiting)
      (ends : Ends f id call a p) :
      Moves f a (f.setCall id call p)

/-- A new call either joins the run that has its key or begins one. -/
theorem moves_of_call {f : Flight κ ω τ} {id : Nat} {key : κ} {work : ω}
    (new : f.calls.get? id = none) : Moves f (.call id key work) (f.call id key work) := by
  unfold call
  split
  · exact .join new ‹_›
  · exact .begin new ‹_›

theorem moves_of_step? {f g : Flight κ ω τ} {a : Action κ ω τ} (h : f.step? a = some g) :
    Moves f a g := by
  cases a with
  | call id key work =>
    simp only [step?] at h
    split at h
    · simp at h
    · rename_i new
      cases h
      exact moves_of_call (by simpa [Table.contains] using new)
  | spawn run =>
    simp only [step?] at h
    split at h
    · cases h
      exact .turn ‹_› (.spawn _)
    · simp at h
  | advance run work =>
    simp only [step?] at h
    split at h
    · cases h
      exact .turn ‹_› (.advance _ _)
    · simp at h
  | finish run output =>
    simp only [step?] at h
    split at h
    · cases h
      exact .turn ‹_› (.finish _ _)
    · simp at h
  | panic run =>
    simp only [step?] at h
    split at h
    · cases h
      exact .turn ‹_› (.panic _)
    · simp at h
  | release run =>
    simp only [step?] at h
    split at h
    · cases h
      exact .turn ‹_› (.release _)
    · cases h
      exact .turn ‹_› .unwind
    · simp at h
  | publish run =>
    simp only [step?] at h
    split at h
    · cases h
      exact .turn ‹_› (.publish _)
    · cases h
      exact .turn ‹_› .lose
    · simp at h
  | collect id =>
    simp only [step?] at h
    split at h
    · rename_i call hc
      split at h
      · rename_i hw hp
        cases h
        exact .ending hc hw (.collect hp)
      · rename_i hw hp
        cases h
        exact .ending hc hw (.fail hp)
      · simp at h
    · simp at h
  | drop id =>
    simp only [step?] at h
    split at h
    · rename_i call hc
      split at h
      · rename_i hw
        split at h
        · cases h
          exact .ending hc hw (.drop ‹_›)
        · simp at h
      · simp at h
    · simp at h

end SkinRelay.Flight
