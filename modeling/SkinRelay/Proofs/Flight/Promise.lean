import SkinRelay.Proofs.Flight.Sharing

/-!
Promises: what is said of every work and every output of a group, each for the key of its run. It
is enough that the works keep it that begin or go on, and the outputs with which works finish.
-/

namespace SkinRelay.Flight

variable {κ ω τ : Type} {works : κ → ω → Prop} {outputs : κ → τ → Prop}

/-- Whether a work or an output of this phase is as promised. -/
def Phase.Keeps (works : ω → Prop) (outputs : τ → Prop) : Phase ω τ → Prop
  | .entered work | .working work => works work
  | .finished output | .released output | .published output => outputs output
  | _ => True

/-- Whether every run is as promised for its key. -/
def Keeps (works : κ → ω → Prop) (outputs : κ → τ → Prop) (f : Flight κ ω τ) : Prop :=
  ∀ r k p, f.runs.get? r = some ⟨k, p⟩ → p.Keeps (works k) (outputs k)

/-- Whether an action brings in only what is promised. -/
def Action.Keeps (works : κ → ω → Prop) (outputs : κ → τ → Prop) (f : Flight κ ω τ) :
    Action κ ω τ → Prop
  | .call _ key work => works key work
  | .advance run work => ∀ k p, f.runs.get? run = some ⟨k, p⟩ → works k work
  | .finish run output => ∀ k p, f.runs.get? run = some ⟨k, p⟩ → outputs k output
  | _ => True

theorem keeps_empty : Keeps works outputs ({} : Flight κ ω τ) := by
  intro r k p h
  cases h

theorem work?_eq_some {f : Flight κ ω τ} {run : Nat} {work : ω} :
    f.work? run = some work ↔ ∃ k, f.runs.get? run = some ⟨k, .working work⟩ := by
  unfold work? phase?
  cases h : f.runs.get? run with
  | none => simp
  | some r =>
    obtain ⟨k, p⟩ := r
    cases p <;> simp

variable [DecidableEq κ]

theorem Keeps.step {f g : Flight κ ω τ} {a : Action κ ω τ} (h : Keeps works outputs f)
    (hs : Step f a g) (ha : a.Keeps works outputs f) : Keeps works outputs g := by
  cases moves_of_step? hs with
  | join => exact h
  | @begin id key work =>
    intro r k p hr
    by_cases hnew : r = f.begun
    · obtain ⟨rfl, rfl⟩ : key = k ∧ Phase.entered work = p := by simpa [hnew] using hr
      exact ha
    · exact h r k p (by simpa [hnew] using hr)
  | @turn _ run key p q hrun turn =>
    intro r k p' hr
    by_cases hne : r = run
    · obtain ⟨rfl, rfl⟩ : key = k ∧ q = p' := by simpa [setPhase, hne] using hr
      have hp := h run key p hrun
      cases turn with
      | advance => exact ha key _ hrun
      | finish => exact ha key _ hrun
      | spawn | release | publish => exact hp
      | _ => trivial
    · exact h r k p' (by simpa [setPhase, hne] using hr)
  | ending => exact h

/-- A call that has returned has an output as promised for its own key. -/
theorem Keeps.returned {log : List (Entry κ ω τ)} {f : Flight κ ω τ} (hf : Keeps works outputs f)
    (h : History Step {} log f) {e : Entry κ ω τ} (he : e ∈ log) {id : Nat} {k : κ} {w : ω}
    (ha : e.2 = .call id k w) {c : Call τ} {o : τ} (hc : f.calls.get? id = some c)
    (ho : c.phase = .returned o) : outputs k o := by
  obtain ⟨c', p, hc', hrun, -⟩ := run_of_call h he ha
  obtain rfl : c' = c := Option.some.inj (hc'.symm.trans hc)
  obtain ⟨run, hrun', hret, -⟩ := (coherent_of_history h).outcome id c' hc
  obtain rfl : run = ⟨k, p⟩ := Option.some.inj (hrun'.symm.trans hrun)
  have hp : p = .published o := hret o ho
  simpa [hp, Phase.Keeps] using hf c'.run k p hrun

end SkinRelay.Flight
