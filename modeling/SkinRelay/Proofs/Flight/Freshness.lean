import SkinRelay.Proofs.Flight.Sharing
import SkinRelay.Proofs.Table

/-!
No output outlives its run: a key leaves the table when the work of its run has ended and before
anybody sees the output, so that whoever calls later gets a later run. The main result,
`runs_are_fresh`, says so of every history of a group, and that nothing stays in the table.
-/

namespace SkinRelay.Flight

variable {κ ω τ : Type}

/-- Whether the task of a run has ended, and its output, or that there is none, can be seen. -/
def Phase.hasEnded : Phase ω τ → Bool
  | .published _ | .lost => true
  | _ => false

/-- Whether a call has ended by itself: it was not dropped. -/
def CallPhase.hasEnded : CallPhase τ → Bool
  | .returned _ | .failed => true
  | .waiting | .gone => false

theorem Phase.not_holdsKey_of_hasEnded {p : Phase ω τ} (h : p.hasEnded = true) :
    p.holdsKey = false := by
  cases p <;> simp_all [hasEnded, holdsKey]

theorem Turn.holdsKey_of_holdsKey {run : Nat} {a : Action κ ω τ} {p q : Phase ω τ}
    (h : Turn run a p q) (hq : q.holdsKey = true) : p.holdsKey = true := by
  cases h <;> simp_all [Phase.holdsKey]

variable [DecidableEq κ]

/-- Of all runs of a key, the one that has it is the newest. -/
def Newest (f : Flight κ ω τ) : Prop :=
  ∀ k r s p q, f.runs.get? r = some ⟨k, p⟩ → p.holdsKey = true → f.runs.get? s = some ⟨k, q⟩ → s ≤ r

section

variable {f g : Flight κ ω τ} {a : Action κ ω τ} {log : List (Entry κ ω τ)}

theorem Coherent.newest_step (hf : Coherent f) (hn : Newest f) (h : Step f a g) : Newest g := by
  intro k r s p q hr hp hs
  cases moves_of_step? h with
  | join => exact hn k r s p q hr hp hs
  | @begin id key work new free =>
    simp only [Table.get?_insert] at hr hs
    split at hr
    · split at hs
      · omega
      · have := hf.fresh s _ hs
        omega
    · split at hs
      · -- Nobody has the key of a run that begins.
        cases hs
        have := (hf.keys k r).mpr ⟨p, hr, hp⟩
        simp [free] at this
      · exact hn k r s p q hr hp hs
  | @turn _ run key p' q' hrun turn =>
    -- The run that moves has the same key as before, and has it only if it had it before.
    have before : ∀ n x, (f.setPhase run key q').runs.get? n = some ⟨k, x⟩ →
        ∃ y, f.runs.get? n = some ⟨k, y⟩ ∧ (x.holdsKey = true → y.holdsKey = true) := by
      intro n x hx
      simp only [setPhase, Table.get?_insert] at hx
      split at hx
      · cases hx
        subst n
        exact ⟨p', hrun, turn.holdsKey_of_holdsKey⟩
      · exact ⟨x, hx, id⟩
    obtain ⟨x, hx, hxp⟩ := before r p hr
    obtain ⟨y, hy, -⟩ := before s q hs
    exact hn k r s x y hx (hxp hp) hy
  | ending => exact hn k r s p q hr hp hs

theorem newest_of_history (h : History Step {} log f) : Newest f := by
  induction h with
  | start => intro k r s p q hr; cases hr
  | next h hs ih => exact (coherent_of_history h).newest_step ih hs

/-! ### Ends of calls and of runs -/

/-- A call that has ended belongs to a run whose task has ended. -/
theorem Coherent.ended_of_call (hf : Coherent f) {id : Nat} {c : Call τ}
    (hc : f.calls.get? id = some c) (hend : c.phase.hasEnded = true) :
    ∃ run, f.runs.get? c.run = some run ∧ run.phase.hasEnded = true := by
  obtain ⟨run, hrun, hret, hfail⟩ := hf.outcome id c hc
  refine ⟨run, hrun, ?_⟩
  cases hp : c.phase with
  | returned o => rw [hret o hp]; rfl
  | failed => rw [hfail hp]; rfl
  | waiting | gone => simp [hp, CallPhase.hasEnded] at hend

theorem Coherent.keys_ne_of_hasEnded (hf : Coherent f) {r : Nat} {run : Run κ ω τ}
    (hr : f.runs.get? r = some run) (hend : run.phase.hasEnded = true) (k : κ) :
    f.keys.get? k ≠ some r := by
  intro hk
  obtain ⟨p, hp, hold⟩ := (hf.keys k r).mp hk
  obtain rfl : run = ⟨k, p⟩ := Option.some.inj (hr.symm.trans hp)
  rw [Phase.not_holdsKey_of_hasEnded hend] at hold
  exact absurd hold (by simp)

/-- A key leaves the table only with the end of its run, when its work has finished or broken. -/
theorem Coherent.leaves (hf : Coherent f) (h : Step f a g) {k : κ} {r : Nat}
    (hk : f.keys.get? k = some r) (hne : g.keys.get? k ≠ some r) :
    a = .release r ∧ g.keys.get? k = none ∧
      ((∃ o, f.runs.get? r = some ⟨k, .finished o⟩) ∨ f.runs.get? r = some ⟨k, .broken⟩) := by
  cases moves_of_step? h with
  | join => exact absurd hk hne
  | begin new free =>
    simp only [Table.get?_insert] at hne
    split at hne
    · subst k; simp [free] at hk
    · exact absurd hk hne
  | @turn _ run key p q hrun turn =>
    simp only at hne ⊢
    split at hne
    · exact absurd hk hne
    · rename_i hpq
      obtain ⟨hp, -⟩ := turn.letsGo hpq
      rw [if_neg hpq]
      rw [Table.get?_erase] at hne ⊢
      split at hne
      · subst k
        obtain rfl : run = r := Option.some.inj (((hf.keys key run).mpr ⟨p, hrun, hp⟩).symm.trans hk)
        cases turn with
        | release o => exact ⟨rfl, if_pos rfl, .inl ⟨o, hrun⟩⟩
        | unwind => exact ⟨rfl, if_pos rfl, .inr hrun⟩
        | _ => simp [Phase.holdsKey] at hpq
      · exact absurd hk hne
  | ending => exact absurd hk hne

/-- A call that begins when a call of some run has ended belongs to a later run of the key. -/
theorem later_run (h : History Step {} log f) {e : Entry κ ω τ} (he : e ∈ log) {id : Nat} {k : κ}
    {w : ω} (ha : e.2 = .call id k w) {j : Nat} {d : Call τ} {p : Phase ω τ}
    (hd : e.1.calls.get? j = some d) (hr : e.1.runs.get? d.run = some ⟨k, p⟩)
    (hend : d.phase.hasEnded = true) :
    ∃ c q, f.calls.get? id = some c ∧ f.runs.get? c.run = some ⟨k, q⟩ ∧ d.run < c.run := by
  obtain ⟨before, after, g, -, hb, -, -⟩ := h.cut he
  have hf := coherent_of_history hb
  obtain ⟨c, q, hc, hq, ⟨-, hfound⟩ | ⟨-, -, hbegun⟩⟩ := run_of_call h he ha
  · refine ⟨c, q, hc, hq, ?_⟩
    obtain ⟨x, hx, hold⟩ := (hf.keys k c.run).mp hfound
    have hle := newest_of_history hb k c.run d.run x p hx hold hr
    obtain ⟨run, hrun, hended⟩ := hf.ended_of_call hd hend
    have hne : d.run ≠ c.run := by
      intro heq
      exact hf.keys_ne_of_hasEnded hrun hended k (heq ▸ hfound)
    omega
  · exact ⟨c, q, hc, hq, hbegun ▸ hf.fresh _ _ hr⟩

/-- What is kept of the runs that have ended, where `log` is what was done so far and `f` the
state: nothing. -/
structure Fresh (log : List (Entry κ ω τ)) (f : Flight κ ω τ) : Prop where
  /-- A call that begins when some call of a run has ended gets nothing of that run: it belongs to a
  later run of the key, and returns the output of that one. -/
  later : ∀ e ∈ log, ∀ id k w, e.2 = .call id k w →
    ∀ j d p, e.1.calls.get? j = some d → e.1.runs.get? d.run = some ⟨k, p⟩ →
      d.phase.hasEnded = true →
      ∃ c q, f.calls.get? id = some c ∧ f.runs.get? c.run = some ⟨k, q⟩ ∧ d.run < c.run ∧
        ∀ o, c.phase = .returned o → q = .published o
  /-- An output, an error as well as any other, is returned only by calls that found or put in the
  key of the run whose work gave it. -/
  callers : ∀ id c o, f.calls.get? id = some c → c.phase = .returned o →
    (∃ e ∈ log, e.2 = .finish c.run o) ∧
      ∃ e ∈ log, ∃ k w, e.2 = .call id k w ∧
        (e.1.keys.get? k = some c.run ∨ inserts c.run e = true)
  /-- A key leaves the table when the work of its run has finished or broken, and not otherwise. -/
  leaves : ∀ a g k r, f.step? a = some g → f.keys.get? k = some r → g.keys.get? k ≠ some r →
    a = .release r ∧ g.keys.get? k = none ∧
      ((∃ o, f.runs.get? r = some ⟨k, .finished o⟩) ∨ f.runs.get? r = some ⟨k, .broken⟩)
  /-- It has left the table before the end of the run can be seen, and so before a call ends. -/
  unseen : ∀ r run, f.runs.get? r = some run → run.phase.hasEnded = true →
    ∀ k, f.keys.get? k ≠ some r
  unreturned : ∀ id c, f.calls.get? id = some c → c.phase.hasEnded = true →
    ∀ k, f.keys.get? k ≠ some c.run
  /-- The keys in the table are those of the runs that have not let go of them. -/
  exact_keys : ∀ k r, f.keys.get? k = some r ↔
    ∃ p, f.runs.get? r = some ⟨k, p⟩ ∧ p.holdsKey = true
  /-- When all tasks that were started have ended, the table is empty, unless some call is just
  about to start a task. -/
  empties : (∀ r k p, f.runs.get? r = some ⟨k, p⟩ → p.isEntered = false → p.hasEnded = true) →
    (∀ r k w, f.runs.get? r ≠ some ⟨k, .entered w⟩) → f.size = 0
  /-- So it is also when all calls have been dropped. -/
  abandoned : (∀ r k p, f.runs.get? r = some ⟨k, p⟩ → p.isEntered = false → p.hasEnded = true) →
    (∀ id c, f.calls.get? id = some c → c.phase ≠ .waiting) → f.size = 0

theorem Coherent.empties (hf : Coherent f)
    (ended : ∀ r k p, f.runs.get? r = some ⟨k, p⟩ → p.isEntered = false → p.hasEnded = true)
    (started : ∀ r k w, f.runs.get? r ≠ some ⟨k, .entered w⟩) : f.size = 0 := by
  apply Table.size_eq_zero_of_get?
  intro k
  cases hk : f.keys.get? k with
  | none => rfl
  | some r =>
    obtain ⟨p, hp, -⟩ := (hf.keys k r).mp hk
    have hent : p.isEntered = false := by
      cases p with
      | entered w => exact absurd hp (started r k w)
      | _ => rfl
    exact absurd hk (hf.keys_ne_of_hasEnded hp (ended r k p hp hent) k)

/-- No run of a group leaves anything behind, whatever is done in whatever order. -/
theorem runs_are_fresh (h : History Step {} log f) : Fresh log f where
  later e he id k w ha j d p hd hr hend := by
    obtain ⟨c, q, hc, hq, hlt⟩ := later_run h he ha hd hr hend
    refine ⟨c, q, hc, hq, hlt, ?_⟩
    intro o ho
    obtain ⟨run, hrun, hret, -⟩ := (coherent_of_history h).outcome id c hc
    obtain rfl : run = ⟨k, q⟩ := Option.some.inj (hrun.symm.trans hq)
    exact hret o ho
  callers id c o hc ho := by
    obtain ⟨run, hrun, hret, -⟩ := (coherent_of_history h).outcome id c hc
    have hout : run.phase.output? = some o := by rw [hret o ho]; rfl
    refine ⟨finished_of_output h hrun hout, ?_⟩
    obtain ⟨e, he, k, w, ha⟩ := called_of_history h hc
    obtain ⟨c', p, hc', -, hrun'⟩ := run_of_call h he ha
    obtain rfl : c' = c := Option.some.inj (hc'.symm.trans hc)
    refine ⟨e, he, k, w, ha, ?_⟩
    rcases hrun' with ⟨-, hfound⟩ | ⟨-, hfree, hbegun⟩
    · exact .inl hfound
    · exact .inr (by simp [inserts, ha, hfree, hbegun])
  leaves a g k r hs hk hne := (coherent_of_history h).leaves hs hk hne
  unseen r run hr hend k := (coherent_of_history h).keys_ne_of_hasEnded hr hend k
  unreturned id c hc hend k := by
    obtain ⟨run, hrun, hended⟩ := (coherent_of_history h).ended_of_call hc hend
    exact (coherent_of_history h).keys_ne_of_hasEnded hrun hended k
  exact_keys k r := (coherent_of_history h).keys k r
  empties ended started := (coherent_of_history h).empties ended started
  abandoned ended left := by
    refine (coherent_of_history h).empties ended ?_
    intro r k w hr
    obtain ⟨id, c, hc, -, -, hw⟩ := (coherent_of_history h).entered r k w hr
    exact left id c hc hw

/-- Two runs of one key: the first breaks down and the second, begun in the moment between the two
ends of the first, gives an error. -/
theorem runs_are_fresh_after_panic :
    ∃ log, ∃ f : Flight Nat Nat (Except Nat Nat), History Step {} log f ∧
      f.calls.get? 0 = some ⟨0, false, .failed⟩ ∧
      f.calls.get? 1 = some ⟨1, false, .returned (.error 4)⟩ ∧ Fresh log f ∧ f.size = 0 := by
  have h : History Step ({} : Flight Nat Nat (Except Nat Nat)) _ _ :=
    History.of_replay [.call 0 5 6, .spawn 0, .panic 0, .release 0, .call 1 5 8, .publish 0,
      .collect 0, .spawn 1, .finish 1 (.error 4), .release 1, .publish 1, .collect 1] rfl
  exact ⟨_, _, h, rfl, rfl, runs_are_fresh h, rfl⟩

end

end SkinRelay.Flight
