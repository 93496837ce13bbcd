import SkinRelay.Proofs.Flight.Coherence

/-!
Calls share runs: a key has one work at a time, which is started once and goes on whoever stops
waiting for it, and all calls of a run get the one output of that run. The main result,
`runs_are_shared`, says so of every history of a group.
-/

namespace SkinRelay.Flight

variable {κ ω τ : Type} [DecidableEq κ]

/-- An entry of a log: an action and the state in which it was taken. -/
abbrev Entry (κ ω τ : Type) := Flight κ ω τ × Action κ ω τ

/-- Whether a call puts in the key of the run `r`. -/
def inserts (r : Nat) (e : Entry κ ω τ) : Bool :=
  match e.2 with
  | .call _ key _ => (e.1.keys.get? key).isNone && e.1.begun == r
  | _ => false

/-- Whether the task of the run `r` is started. -/
def starts (r : Nat) (e : Entry κ ω τ) : Bool :=
  match e.2 with
  | .spawn run => run == r
  | _ => false

/-- Whether the work of a run has not been started yet. -/
def Phase.isEntered : Phase ω τ → Bool
  | .entered _ => true
  | _ => false

/-- The output of a run that has one. -/
def Phase.output? : Phase ω τ → Option τ
  | .finished output | .released output | .published output => some output
  | _ => none

/-- Whether this is a step of a run and not one of a call. -/
def Action.ofRun : Action κ ω τ → Bool
  | .call .. | .collect _ | .drop _ => false
  | _ => true

section

variable {f g : Flight κ ω τ} {log : List (Entry κ ω τ)}

/-! ### Starts -/

theorem countP_inserts (h : History Step {} log f) (r : Nat) :
    log.countP (inserts r) = if r < f.begun then 1 else 0 := by
  induction h with
  | start => simp
  | @next log f g a h hs ih =>
    rw [List.countP_append, ih]
    cases moves_of_step? hs with
    | join new taken => simp [inserts, taken]
    | begin new free =>
      simp only [List.countP_cons, List.countP_nil, inserts, free]
      by_cases hr : f.begun = r
      · simp [hr]
      · have : r < f.begun + 1 ↔ r < f.begun := by omega
        simp [hr, this]
    | turn _ turn => cases turn <;> rfl
    | ending _ _ ends => cases ends <;> rfl

/-- How often a run with this state has been started. -/
def startsOf : Option (Run κ ω τ) → Nat
  | some ⟨_, p⟩ => if p.isEntered then 0 else 1
  | none => 0

theorem countP_starts (h : History Step {} log f) (r : Nat) :
    log.countP (starts r) = startsOf (f.runs.get? r) := by
  induction h with
  | start => rfl
  | @next log f g a h hs ih =>
    have hf := coherent_of_history h
    rw [List.countP_append, ih]
    cases moves_of_step? hs with
    | join => simp [starts]
    | begin =>
      simp only [List.countP_cons, List.countP_nil, starts, Table.get?_insert]
      by_cases hr : r = f.begun
      · simp [hr, hf.runs_begun, startsOf, Phase.isEntered]
      · simp [hr]
    | @turn _ run key p q hrun turn =>
      simp only [List.countP_cons, List.countP_nil, setPhase, Table.get?_insert]
      by_cases hr : r = run
      · subst hr
        simp only [hrun, if_true]
        cases turn <;> simp [starts, startsOf, Phase.isEntered]
      · cases turn <;> simp [starts, hr, Ne.symm hr]
    | ending _ _ ends => cases ends <;> rfl

/-- The work with which a run is about to start is that of the call which put in its key. -/
theorem inserted_of_entered (h : History Step {} log f) {r : Nat} {k : κ} {w : ω}
    (hr : f.runs.get? r = some ⟨k, .entered w⟩) :
    ∃ e ∈ log, ∃ id, e.2 = .call id k w ∧ inserts r e = true := by
  induction h with
  | start => cases hr
  | @next log f g a h hs ih =>
    have keep : f.runs.get? r = some ⟨k, .entered w⟩ →
        ∃ e ∈ log ++ [(f, a)], ∃ id, e.2 = .call id k w ∧ inserts r e = true := by
      intro hold
      obtain ⟨e, he, hid⟩ := ih hold
      exact ⟨e, List.mem_append_left _ he, hid⟩
    cases moves_of_step? hs with
    | join => exact keep hr
    | @begin id key work new free =>
      simp only [Table.get?_insert] at hr
      split at hr
      · cases hr
        subst r
        exact ⟨_, List.mem_append_right _ List.mem_cons_self, id, rfl, by simp [inserts, free]⟩
      · exact keep hr
    | turn hrun turn =>
      simp only [setPhase, Table.get?_insert] at hr
      split at hr
      · simp only [Option.some.injEq, Run.mk.injEq] at hr
        exact absurd hr.2 (turn.unended.2.2 w)
      · exact keep hr
    | ending => exact keep hr

/-! ### Calls -/

/-- A call belongs to the run that it found under its key, or else to the one that it began, and
its flag says which. -/
theorem run_of_call (h : History Step {} log f) {e : Entry κ ω τ} (he : e ∈ log) {id : Nat} {k : κ}
    {w : ω} (ha : e.2 = .call id k w) :
    ∃ c p, f.calls.get? id = some c ∧ f.runs.get? c.run = some ⟨k, p⟩ ∧
      (c.joined = true ∧ e.1.keys.get? k = some c.run ∨
        c.joined = false ∧ e.1.keys.get? k = none ∧ c.run = e.1.begun) := by
  obtain ⟨before, after, g, -, hb, hs, hafter⟩ := h.cut he
  have hg := (coherent_of_history hb).step hs
  rw [ha] at hs
  cases moves_of_step? hs with
  | @join _ run _ _ new taken =>
    obtain ⟨p, hp, -⟩ := ((coherent_of_history hb).keys k run).mp taken
    obtain ⟨q, hq⟩ := run_of_history hg hafter hp
    have hnew : (e.1.calls.insert id ⟨run, true, .waiting⟩).get? id = some ⟨run, true, .waiting⟩ := by
      simp
    obtain ⟨ph, hc⟩ := call_of_history hafter hnew
    exact ⟨_, q, hc, hq, .inl ⟨rfl, taken⟩⟩
  | begin new free =>
    obtain ⟨q, hq⟩ := run_of_history hg hafter (r := e.1.begun) (k := k) (p := .entered w) (by simp)
    have hnew : (e.1.calls.insert id ⟨e.1.begun, false, .waiting⟩).get? id =
        some ⟨e.1.begun, false, .waiting⟩ := by
      simp
    obtain ⟨ph, hc⟩ := call_of_history hafter hnew
    exact ⟨_, q, hc, hq, .inr ⟨rfl, free, rfl⟩⟩
  | turn _ turn => cases turn
  | ending _ _ ends => cases ends

theorem called_of_history (h : History Step {} log f) {id : Nat} {c : Call τ}
    (hc : f.calls.get? id = some c) : ∃ e ∈ log, ∃ k w, e.2 = .call id k w := by
  induction h generalizing c with
  | start => cases hc
  | @next log f g a h hs ih =>
    have keep : ∀ {d : Call τ}, f.calls.get? id = some d →
        ∃ e ∈ log ++ [(f, a)], ∃ k w, e.2 = .call id k w := by
      intro d hd
      obtain ⟨e, he, hk⟩ := ih hd
      exact ⟨e, List.mem_append_left _ he, hk⟩
    cases moves_of_step? hs with
    | @join i _ key work | @begin i key work =>
      simp only [Table.get?_insert] at hc
      split at hc
      · subst id
        exact ⟨_, List.mem_append_right _ List.mem_cons_self, key, work, rfl⟩
      · exact keep hc
    | turn => exact keep hc
    | @ending _ i call p hi =>
      simp only [setCall, Table.get?_insert] at hc
      split at hc
      · subst id; exact keep hi
      · exact keep hc

/-! ### Outputs -/

/-- A run has the output with which its own work finished. -/
theorem finished_of_output (h : History Step {} log f) {r : Nat} {run : Run κ ω τ} {o : τ}
    (hr : f.runs.get? r = some run) (ho : run.phase.output? = some o) :
    ∃ e ∈ log, e.2 = .finish r o := by
  induction h generalizing run with
  | start => cases hr
  | @next log f g a h hs ih =>
    have keep : ∀ {x : Run κ ω τ}, f.runs.get? r = some x → x.phase.output? = some o →
        ∃ e ∈ log ++ [(f, a)], e.2 = .finish r o := by
      intro x hx hxo
      obtain ⟨e, he, hk⟩ := ih hx hxo
      exact ⟨e, List.mem_append_left _ he, hk⟩
    cases moves_of_step? hs with
    | join => exact keep hr ho
    | begin =>
      simp only [Table.get?_insert] at hr
      split at hr
      · cases hr; simp [Phase.output?] at ho
      · exact keep hr ho
    | @turn _ i key p q hrun turn =>
      simp only [setPhase, Table.get?_insert] at hr
      split at hr
      · cases hr
        subst i
        cases turn with
        | finish =>
          obtain rfl : _ = o := Option.some.inj ho
          exact ⟨_, List.mem_append_right _ List.mem_cons_self, rfl⟩
        | release | publish => exact keep hrun ho
        | _ => simp [Phase.output?] at ho
      · exact keep hr ho
    | ending => exact keep hr ho

/-! ### Drops -/

/-- A drop is seen by nobody else: it leaves the keys, the runs and the other calls alone, and a run
can do afterwards what it could do before. -/
theorem drop_frame {id : Nat} (h : f.step? (.drop id) = some g) :
    g.keys = f.keys ∧ g.runs = f.runs ∧ g.begun = f.begun ∧
      (∀ j, j ≠ id → g.calls.get? j = f.calls.get? j) ∧
      ∀ a : Action κ ω τ, a.ofRun = true →
        g.step? a = (f.step? a).map fun u => { u with calls := g.calls } := by
  cases moves_of_step? h with
  | turn _ turn => cases turn
  | @ending _ _ call p hc _ ends =>
    cases ends with
    | drop =>
      refine ⟨rfl, rfl, rfl, fun j hj => by simp [setCall, hj], ?_⟩
      intro a ha
      cases a with
      | call | collect | drop => simp [Action.ofRun] at ha
      | spawn | advance | finish | panic | release | publish =>
        simp only [step?, setCall]
        split <;> rfl

/-- What the calls of a group share, where `log` is what was done so far and `f` the state. -/
structure Shared (log : List (Entry κ ω τ)) (f : Flight κ ω τ) : Prop where
  /-- At most one work for a key is in progress. -/
  one_work : ∀ k r s v w, f.runs.get? r = some ⟨k, .working v⟩ →
    f.runs.get? s = some ⟨k, .working w⟩ → r = s
  /-- The key of a run was put in once, and its task was started once if it was started. -/
  one_start : ∀ r k p, f.runs.get? r = some ⟨k, p⟩ →
    log.countP (inserts r) = 1 ∧ log.countP (starts r) = if p.isEntered then 0 else 1
  /-- A task that has not been started is about to be, by a call that cannot be dropped before. -/
  starting : ∀ r k w, f.runs.get? r = some ⟨k, .entered w⟩ →
    (f.step? (.spawn r)).isSome = true ∧
      ∃ id c, f.calls.get? id = some c ∧ c.run = r ∧ c.joined = false ∧ c.phase = .waiting ∧
        f.step? (.drop id) = none
  /-- The work that is started is the one of the call which put in the key. -/
  own_work : ∀ e ∈ log, ∀ r, e.2 = .spawn r → ∃ d ∈ log, ∃ id k w,
    d.2 = .call id k w ∧ inserts r d = true ∧ e.1.runs.get? r = some ⟨k, .entered w⟩
  /-- A call has the run that it found under its key, and the flag, or else the run that it began,
  and no flag. -/
  flag : ∀ e ∈ log, ∀ id k w, e.2 = .call id k w →
    ∃ c p, f.calls.get? id = some c ∧ f.runs.get? c.run = some ⟨k, p⟩ ∧
      (c.joined = true ∧ e.1.keys.get? k = some c.run ∨
        c.joined = false ∧ e.1.keys.get? k = none ∧ c.run = e.1.begun)
  called : ∀ id c, f.calls.get? id = some c → ∃ e ∈ log, ∃ k w, e.2 = .call id k w
  /-- All calls of a run but one have the flag. -/
  one_leader : ∀ i j c d, f.calls.get? i = some c → f.calls.get? j = some d →
    c.run = d.run → c.joined = false → d.joined = false → i = j
  /-- A call that returns gets the output with which the work of its run has finished. -/
  output : ∀ id c o, f.calls.get? id = some c → c.phase = .returned o →
    (∃ k, f.runs.get? c.run = some ⟨k, .published o⟩) ∧ ∃ e ∈ log, e.2 = .finish c.run o
  same_output : ∀ i j c d o u, f.calls.get? i = some c → f.calls.get? j = some d →
    c.run = d.run → c.phase = .returned o → d.phase = .returned u → o = u
  /-- The end of a run takes away its own key, under which no other run is found, and leaves all
  other keys. -/
  own_key : ∀ r g, f.step? (.release r) = some g → ∃ k p, f.runs.get? r = some ⟨k, p⟩ ∧
    f.keys.get? k = some r ∧ g.keys.get? k = none ∧ ∀ j, j ≠ k → g.keys.get? j = f.keys.get? j
  /-- Whoever is dropped, the runs go on as before. -/
  drops : ∀ id g, f.step? (.drop id) = some g →
    g.keys = f.keys ∧ g.runs = f.runs ∧ g.begun = f.begun ∧
      (∀ j, j ≠ id → g.calls.get? j = f.calls.get? j) ∧
      ∀ a : Action κ ω τ, a.ofRun = true →
        g.step? a = (f.step? a).map fun u => { u with calls := g.calls }

/-- A call of a run that is about to be started cannot be dropped. -/
theorem drop_leader {id : Nat} {c : Call τ} {k : κ} {w : ω} (hc : f.calls.get? id = some c)
    (hj : c.joined = false) (hr : f.runs.get? c.run = some ⟨k, .entered w⟩) :
    f.step? (.drop id) = none := by
  simp only [step?, hc]
  split
  · simp [isWaiting, hj, phase?, hr]
  · rfl

theorem Coherent.release_own (hf : Coherent f) {r : Nat} (h : f.step? (.release r) = some g) :
    ∃ k p, f.runs.get? r = some ⟨k, p⟩ ∧ f.keys.get? k = some r ∧ g.keys.get? k = none ∧
      ∀ j, j ≠ k → g.keys.get? j = f.keys.get? j := by
  cases moves_of_step? h with
  | @turn _ run key p q hrun turn =>
    cases turn with
    | release | unwind =>
      refine ⟨key, _, hrun, (hf.keys key r).mpr ⟨_, hrun, rfl⟩, ?_, ?_⟩
      · simp [Phase.holdsKey]
      · intro j hj
        simp [Phase.holdsKey, hj]
  | ending _ _ ends => cases ends

/-- The calls of a group share the runs, whatever is done in whatever order. -/
theorem runs_are_shared (h : History Step {} log f) : Shared log f where
  one_work k r s v w hr hs := (coherent_of_history h).holder_unique hr rfl hs rfl
  one_start r k p hr := by
    have hlt := (coherent_of_history h).fresh r _ hr
    have hs := countP_starts h r
    rw [hr] at hs
    exact ⟨by rw [countP_inserts h, if_pos hlt], hs⟩
  starting r k w hr := by
    obtain ⟨id, c, hc, hcr, hcj, hcw⟩ := (coherent_of_history h).entered r k w hr
    refine ⟨by simp [step?, hr], id, c, hc, hcr, hcj, hcw, ?_⟩
    exact drop_leader hc hcj (hcr ▸ hr)
  own_work e he r ha := by
    obtain ⟨before, after, g, hlog, hb, hs, -⟩ := h.cut he
    rw [ha] at hs
    cases moves_of_step? hs with
    | turn hrun turn =>
      cases turn with
      | spawn work =>
        obtain ⟨d, hd, id, hcall, hins⟩ := inserted_of_entered hb hrun
        exact ⟨d, hlog ▸ List.mem_append_left _ hd, id, _, work, hcall, hins, hrun⟩
    | ending _ _ ends => cases ends
  flag e he id k w ha := run_of_call h he ha
  called id c hc := called_of_history h hc
  one_leader i j c d hc hd hr hcj hdj := (coherent_of_history h).leader i j c d hc hd hcj hdj hr
  output id c o hc ho := by
    obtain ⟨run, hrun, hret, -⟩ := (coherent_of_history h).outcome id c hc
    have hp := hret o ho
    obtain ⟨k, p⟩ := run
    obtain rfl : p = .published o := hp
    exact ⟨⟨k, hrun⟩, finished_of_output h hrun rfl⟩
  same_output i j c d o u hc hd hr ho hu := by
    obtain ⟨x, hx, hxo, -⟩ := (coherent_of_history h).outcome i c hc
    obtain ⟨y, hy, hyo, -⟩ := (coherent_of_history h).outcome j d hd
    obtain rfl : x = y := Option.some.inj (hx.symm.trans (hr ▸ hy))
    have := (hxo o ho).symm.trans (hyo u hu)
    simpa using this
  own_key r g hg := (coherent_of_history h).release_own hg
  drops id g hg := drop_frame hg

/-- Two calls of one key, the first of which is dropped while its work goes on, and a third one
after their run. -/
theorem runs_are_shared_after_drop :
    ∃ log, ∃ f : Flight Nat Nat Nat, History Step {} log f ∧
      f.calls.get? 1 = some ⟨0, true, .returned 7⟩ ∧ f.calls.get? 2 = some ⟨1, false, .waiting⟩ ∧
      Shared log f := by
  have h : History Step ({} : Flight Nat Nat Nat) _ _ :=
    History.of_replay [.call 0 5 6, .spawn 0, .call 1 5 9, .drop 0, .finish 0 7, .release 0,
      .publish 0, .collect 1, .call 2 5 8] rfl
  exact ⟨_, _, h, rfl, rfl, runs_are_shared h⟩

end

end SkinRelay.Flight
