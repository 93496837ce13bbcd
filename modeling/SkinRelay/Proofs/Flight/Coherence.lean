import Mathlib.Tactic.Common
import SkinRelay.Proofs.Flight.Moves
import SkinRelay.Proofs.History

/-!
The invariant of a group of runs. The keys that are taken are those of the runs whose task has not
yet let go of them, every call belongs to a run and sees only how that run has ended, and a run
that is about to be started still has the call that began it.
-/

namespace SkinRelay.Flight

variable {κ ω τ : Type} [DecidableEq κ]

/-- One step of a group, as a relation. -/
def Step (f : Flight κ ω τ) (a : Action κ ω τ) (g : Flight κ ω τ) : Prop := f.step? a = some g

structure Coherent (f : Flight κ ω τ) : Prop where
  keys : ∀ k r, f.keys.get? k = some r ↔ ∃ p, f.runs.get? r = some ⟨k, p⟩ ∧ p.holdsKey = true
  fresh : ∀ r run, f.runs.get? r = some run → r < f.begun
  /-- A call has the outcome of its run. -/
  outcome : ∀ id c, f.calls.get? id = some c → ∃ run, f.runs.get? c.run = some run ∧
    (∀ o, c.phase = .returned o → run.phase = .published o) ∧
    (c.phase = .failed → run.phase = .lost)
  /-- One call at most has begun a run. -/
  leader : ∀ i j c d, f.calls.get? i = some c → f.calls.get? j = some d →
    c.joined = false → d.joined = false → c.run = d.run → i = j
  /-- The call that began a run stays as it is until the task is started. -/
  entered : ∀ r k w, f.runs.get? r = some ⟨k, .entered w⟩ →
    ∃ id c, f.calls.get? id = some c ∧ c.run = r ∧ c.joined = false ∧ c.phase = .waiting

theorem coherent_empty : Coherent ({} : Flight κ ω τ) := by
  constructor
  · intro k r
    constructor
    · intro h; cases h
    · rintro ⟨p, h, -⟩; cases h
  · intro r run h; cases h
  · intro id c h; cases h
  · intro i j c d h; cases h
  · intro r k w h; cases h

namespace Coherent

variable {f g : Flight κ ω τ} {a : Action κ ω τ}

/-- A run that has its key is the only one of this key. -/
theorem holder_unique (hf : Coherent f) {k : κ} {r s : Nat} {p q : Phase ω τ}
    (hr : f.runs.get? r = some ⟨k, p⟩) (hp : p.holdsKey = true)
    (hs : f.runs.get? s = some ⟨k, q⟩) (hq : q.holdsKey = true) : r = s := by
  have h₁ := (hf.keys k r).mpr ⟨p, hr, hp⟩
  have h₂ := (hf.keys k s).mpr ⟨q, hs, hq⟩
  exact Option.some.inj (h₁.symm.trans h₂)

theorem runs_begun (hf : Coherent f) : f.runs.get? f.begun = none := by
  cases h : f.runs.get? f.begun with
  | none => rfl
  | some run => exact absurd (hf.fresh _ run h) (Nat.lt_irrefl _)

theorem join (hf : Coherent f) {id run : Nat} {key : κ} (new : f.calls.get? id = none)
    (taken : f.keys.get? key = some run) :
    Coherent { f with calls := f.calls.insert id { run, joined := true } } where
  keys := hf.keys
  fresh := hf.fresh
  outcome i c hc := by
    simp only [Table.get?_insert] at hc
    split at hc
    · cases hc
      obtain ⟨p, hp, -⟩ := (hf.keys key run).mp taken
      exact ⟨_, hp, by simp, by simp⟩
    · exact hf.outcome i c hc
  leader i j c d hc hd hcj hdj hr := by
    simp only [Table.get?_insert] at hc hd
    split at hc
    · cases hc; simp at hcj
    · split at hd
      · cases hd; simp at hdj
      · exact hf.leader i j c d hc hd hcj hdj hr
  entered r k w hr := by
    obtain ⟨i, c, hc, h⟩ := hf.entered r k w hr
    refine ⟨i, c, ?_, h⟩
    have hne : i ≠ id := by rintro rfl; simp [new] at hc
    simpa [hne] using hc

theorem begin (hf : Coherent f) {id : Nat} {key : κ} {work : ω} (new : f.calls.get? id = none)
    (free : f.keys.get? key = none) :
    Coherent
      { keys := f.keys.insert key f.begun
        runs := f.runs.insert f.begun { key, phase := .entered work }
        calls := f.calls.insert id { run := f.begun, joined := false }
        begun := f.begun + 1 } where
  keys k r := by
    simp only [Table.get?_insert]
    by_cases hr : r = f.begun
    · subst hr
      by_cases hk : k = key
      · simp [hk, Phase.holdsKey]
      · have : f.keys.get? k ≠ some f.begun := by
          rw [Ne, hf.keys, hf.runs_begun]; simp
        simp [hk, this, Ne.symm hk]
    · by_cases hk : k = key
      · subst hk
        have : ¬ ∃ p, f.runs.get? r = some ⟨k, p⟩ ∧ p.holdsKey = true := by
          rw [← hf.keys, free]; simp
        simpa [hr, Ne.symm hr] using this
      · simpa [hr, hk] using hf.keys k r
  fresh r run hr := by
    simp only [Table.get?_insert] at hr
    split at hr
    · subst r; exact Nat.lt_succ_self _
    · exact Nat.lt_succ_of_lt (hf.fresh r run hr)
  outcome i c hc := by
    simp only [Table.get?_insert] at hc ⊢
    split at hc
    · cases hc
      exact ⟨_, if_pos rfl, by simp, by simp⟩
    · obtain ⟨run, hr, h⟩ := hf.outcome i c hc
      have hne : c.run ≠ f.begun := Nat.ne_of_lt (hf.fresh _ _ hr)
      exact ⟨run, by simpa [hne] using hr, h⟩
  leader i j c d hc hd hcj hdj hr := by
    -- A call of before belongs to a run of before, and so not to the new one.
    have old : ∀ n e, f.calls.get? n = some e → e.run ≠ f.begun := by
      intro n e he
      obtain ⟨run, hrun, -⟩ := hf.outcome n e he
      exact Nat.ne_of_lt (hf.fresh _ _ hrun)
    simp only [Table.get?_insert] at hc hd
    split at hc
    · split at hd
      · simp_all
      · cases hc
        exact absurd hr.symm (old j d hd)
    · split at hd
      · cases hd
        exact absurd hr (old i c hc)
      · exact hf.leader i j c d hc hd hcj hdj hr
  entered r k w hr := by
    simp only [Table.get?_insert] at hr ⊢
    split at hr
    · subst r
      exact ⟨id, _, if_pos rfl, rfl, rfl, rfl⟩
    · obtain ⟨i, c, hc, h⟩ := hf.entered r k w hr
      have hne : i ≠ id := by rintro rfl; simp [new] at hc
      exact ⟨i, c, by simpa [hne] using hc, h⟩

theorem turn (hf : Coherent f) {run : Nat} {key : κ} {p q : Phase ω τ}
    (hr : f.runs.get? run = some ⟨key, p⟩) (turn : Turn run a p q) :
    Coherent
      { f.setPhase run key q with
        keys := if p.holdsKey = q.holdsKey then f.keys else f.keys.erase key } where
  keys k r := by
    simp only [setPhase, Table.get?_insert]
    split
    · rename_i heq
      rw [hf.keys]
      by_cases hrr : r = run
      · subst hrr; simp [hr, heq]
      · simp [hrr]
    · rename_i hne
      obtain ⟨hp, hq⟩ := turn.letsGo hne
      rw [Table.get?_erase]
      by_cases hrr : r = run
      · subst hrr
        by_cases hk : k = key
        · simp [hk, hq]
        · simp [hk, Ne.symm hk, hf.keys, hr]
      · by_cases hk : k = key
        · subst hk
          have : ¬ ∃ p, f.runs.get? r = some ⟨k, p⟩ ∧ p.holdsKey = true := by
            rintro ⟨p', hr', hp'⟩
            exact hrr (hf.holder_unique hr' hp' hr hp)
          simpa [hrr] using this
        · simpa [hrr, hk] using hf.keys k r
  fresh r x hx := by
    simp only [setPhase, Table.get?_insert] at hx
    split at hx
    · subst r; exact hf.fresh run _ hr
    · exact hf.fresh r x hx
  outcome i c hc := by
    obtain ⟨x, hx, hret, hfail⟩ := hf.outcome i c hc
    simp only [setPhase, Table.get?_insert]
    by_cases hrr : c.run = run
    · -- A run that moves on has not ended, and so no call has its outcome.
      obtain ⟨hpub, hlost, -⟩ := turn.unended
      obtain rfl : x = ⟨key, p⟩ := Option.some.inj (hx.symm.trans (hrr ▸ hr))
      refine ⟨_, if_pos hrr, ?_, ?_⟩
      · intro o ho; exact absurd (hret o ho) (hpub o)
      · intro ho; exact absurd (hfail ho) hlost
    · exact ⟨x, by simpa [hrr] using hx, hret, hfail⟩
  leader := hf.leader
  entered r k w hx := by
    simp only [setPhase, Table.get?_insert] at hx
    split at hx
    · obtain ⟨-, -, hent⟩ := turn.unended
      simp only [Option.some.injEq, Run.mk.injEq] at hx
      exact absurd hx.2 (hent w)
    · exact hf.entered r k w hx

theorem ending (hf : Coherent f) {id : Nat} {call : Call τ} {p : CallPhase τ}
    (hc : f.calls.get? id = some call) (ends : Ends f id call a p) :
    Coherent (f.setCall id call p) where
  keys := hf.keys
  fresh := hf.fresh
  outcome i c hi := by
    simp only [setCall, Table.get?_insert] at hi
    split at hi
    · cases hi
      obtain ⟨run, hrun, -⟩ := hf.outcome id call hc
      refine ⟨run, hrun, ?_⟩
      cases ends with
      | collect h => simp_all [phase?]
      | fail h => simp_all [phase?]
      | drop => simp
    · exact hf.outcome i c hi
  leader i j c d hi hj hcj hdj hr := by
    simp only [setCall, Table.get?_insert] at hi hj
    split at hi
    · cases hi
      split at hj
      · simp_all
      · subst i; exact hf.leader id j call d hc hj hcj hdj hr
    · split at hj
      · cases hj
        subst j; exact hf.leader i id c call hi hc hcj hdj hr
      · exact hf.leader i j c d hi hj hcj hdj hr
  entered r k w hr := by
    obtain ⟨i, c, hi, hcr, hcj, hcw⟩ := hf.entered r k w hr
    -- No call of such a run ends: the run has no outcome, and its first call cannot be dropped.
    have hne : i ≠ id := by
      rintro rfl
      obtain rfl : c = call := Option.some.inj (hi.symm.trans hc)
      have hph : f.phase? c.run = some (.entered w) := by
        rw [hcr, phase?, show f.runs.get? r = some ⟨k, .entered w⟩ from hr]
        rfl
      cases ends with
      | collect h => simp [hph] at h
      | fail h => simp [hph] at h
      | drop h => simp [isWaiting, hcj, hph] at h
    exact ⟨i, c, by simpa [setCall, hne] using hi, hcr, hcj, hcw⟩

theorem step (hf : Coherent f) (h : Step f a g) : Coherent g := by
  cases moves_of_step? h with
  | join new taken => exact hf.join new taken
  | begin new free => exact hf.begin new free
  | turn hr turn => exact hf.turn hr turn
  | ending hc _ ends => exact hf.ending hc ends

end Coherent

/-! ### What stays -/

theorem step_call {f : Flight κ ω τ} {id : Nat} (new : f.calls.get? id = none) (key : κ)
    (work : ω) : Step f (.call id key work) (f.call id key work) := by
  simp [Step, step?, Table.contains, new]

/-- A run whose work goes on has the work that it goes on with. -/
theorem Step.advance {f g : Flight κ ω τ} {run : Nat} {work : ω} (h : Step f (.advance run work) g)
    {k : κ} {p : Phase ω τ} (hr : f.runs.get? run = some ⟨k, p⟩) :
    g.runs.get? run = some ⟨k, .working work⟩ := by
  cases moves_of_step? h with
  | turn hr' turn =>
    cases turn
    cases hr.symm.trans hr'
    simp [setPhase]
  | ending _ _ ends => cases ends

/-- A call keeps its run and its flag. -/
theorem Step.call {f g : Flight κ ω τ} {a : Action κ ω τ} (h : Step f a g) {id : Nat} {c : Call τ}
    (hc : f.calls.get? id = some c) : ∃ p, g.calls.get? id = some { c with phase := p } := by
  cases moves_of_step? h with
  | @join i _ _ _ new _ | @begin i _ _ new _ =>
    have hne : id ≠ i := by rintro rfl; simp [new] at hc
    exact ⟨c.phase, by simpa [hne] using hc⟩
  | turn => exact ⟨c.phase, hc⟩
  | @ending _ i call p hi _ _ =>
    by_cases hne : id = i
    · subst hne
      obtain rfl : c = call := Option.some.inj (hc.symm.trans hi)
      exact ⟨p, by simp [setCall]⟩
    · exact ⟨c.phase, by simpa [setCall, hne] using hc⟩

/-- A run was there before, where it is or a turn away, or it has just begun. -/
theorem Step.before {f g : Flight κ ω τ} {a : Action κ ω τ} (h : Step f a g) (hf : Coherent f)
    {r : Nat} {k : κ} {q : Phase ω τ} (hr : g.runs.get? r = some ⟨k, q⟩) :
    f.runs.get? r = some ⟨k, q⟩ ∨ (∃ p, Turn r a p q ∧ f.runs.get? r = some ⟨k, p⟩) ∨
      f.runs.get? r = none ∧ ∃ id work, a = .call id k work ∧ q = .entered work := by
  cases moves_of_step? h with
  | join => exact .inl hr
  | @begin id key work =>
    by_cases hne : r = f.begun
    · obtain ⟨rfl, rfl⟩ : key = k ∧ Phase.entered work = q := by simpa [hne] using hr
      exact .inr (.inr ⟨hne ▸ hf.runs_begun, id, work, rfl, rfl⟩)
    · exact .inl (by simpa [hne] using hr)
  | @turn _ run key p' q' hrun turn =>
    by_cases hne : r = run
    · subst hne
      obtain ⟨rfl, rfl⟩ : key = k ∧ q' = q := by simpa [setPhase] using hr
      exact .inr (.inl ⟨p', turn, hrun⟩)
    · exact .inl (by simpa [setPhase, hne] using hr)
  | ending => exact .inl hr

/-- A run keeps its key. -/
theorem Step.run {f g : Flight κ ω τ} {a : Action κ ω τ} (h : Step f a g) (hf : Coherent f)
    {r : Nat} {k : κ} {p : Phase ω τ} (hr : f.runs.get? r = some ⟨k, p⟩) :
    ∃ q, g.runs.get? r = some ⟨k, q⟩ := by
  cases moves_of_step? h with
  | join => exact ⟨p, hr⟩
  | begin =>
    have hne : r ≠ f.begun := Nat.ne_of_lt (hf.fresh _ _ hr)
    exact ⟨p, by simpa [hne] using hr⟩
  | @turn _ run key p' q hrun _ =>
    by_cases hne : r = run
    · subst hne
      cases Option.some.inj (hr.symm.trans hrun)
      exact ⟨q, by simp [setPhase]⟩
    · exact ⟨p, by simpa [setPhase, hne] using hr⟩
  | ending => exact ⟨p, hr⟩

section

variable {f g : Flight κ ω τ} {log : List (Flight κ ω τ × Action κ ω τ)}

theorem Coherent.history (hf : Coherent f) (h : History Step f log g) : Coherent g :=
  h.invariant hf fun _ _ _ hf hs => hf.step hs

theorem call_of_history (h : History Step f log g) {id : Nat} {c : Call τ}
    (hc : f.calls.get? id = some c) : ∃ p, g.calls.get? id = some { c with phase := p } := by
  induction h with
  | start => exact ⟨c.phase, hc⟩
  | next _ hs ih =>
    obtain ⟨p, hp⟩ := ih
    obtain ⟨q, hq⟩ := hs.call hp
    exact ⟨q, hq⟩

theorem run_of_history (hf : Coherent f) (h : History Step f log g) {r : Nat} {k : κ}
    {p : Phase ω τ} (hr : f.runs.get? r = some ⟨k, p⟩) : ∃ q, g.runs.get? r = some ⟨k, q⟩ := by
  induction h with
  | start => exact ⟨p, hr⟩
  | next h hs ih =>
    obtain ⟨q, hq⟩ := ih
    exact hs.run (hf.history h) hq

end

theorem coherent_of_history {log : List (Flight κ ω τ × Action κ ω τ)} {f : Flight κ ω τ}
    (h : History Step {} log f) : Coherent f :=
  coherent_empty.history h

/-- The runs that have begun have the first numbers. -/
theorem exists_run_of_lt {log : List (Flight κ ω τ × Action κ ω τ)} {f : Flight κ ω τ}
    (h : History Step {} log f) {r : Nat} (hr : r < f.begun) : ∃ run, f.runs.get? r = some run := by
  induction h with
  | start => cases hr
  | @next log f g a h hs ih =>
    cases moves_of_step? hs with
    | join | ending => exact ih hr
    | @begin id key work =>
      by_cases hnew : r = f.begun
      · exact ⟨⟨key, .entered work⟩, by simp [hnew]⟩
      · obtain ⟨run, hrun⟩ := ih (by dsimp only at hr; omega)
        exact ⟨run, by simpa [hnew] using hrun⟩
    | @turn _ run key p q hrun _ =>
      by_cases hne : r = run
      · exact ⟨⟨key, q⟩, by simp [setPhase, hne]⟩
      · obtain ⟨run', hrun'⟩ := ih hr
        exact ⟨run', by simpa [setPhase, hne] using hrun'⟩

end SkinRelay.Flight
