import SkinRelay.Proofs.Pipeline.Errors

/-!
A run that is ruined can always end: nothing but the run itself has to move on until its callers can
see the error (`Ruined.settles`).
-/

namespace SkinRelay.Pipeline

/-- Whether a step is one of this run, and the store does not fail in it. -/
def Action.IsOf (run : Nat) : Action → Prop
  | .spawn r | .work r none | .release r | .publish r => r = run
  | _ => False

section

variable {σ : Type} {now : Nat} {p q : Pipeline σ} {run : Nat} {key : String}
  {error : RemoteError}

/-- A run that turns takes nothing else along. -/
theorem withGroup_turn {old next : Flight.Phase Work FetchResult}
    {action : Flight.Action String Work FetchResult}
    (hr : p.resolver.group.runs.get? run = some ⟨key, old⟩) (turn : Flight.Turn run action old next) :
    ∃ q, p.withGroup action = some q ∧ q.resolver.group.runs.get? run = some ⟨key, next⟩ ∧
      q.resolver.group.calls = p.resolver.group.calls := by
  have hstep : ∃ group : Flight String Work FetchResult, p.resolver.group.step? action = some group ∧
      group.runs.get? run = some ⟨key, next⟩ ∧ group.calls = p.resolver.group.calls := by
    cases turn <;> simp [Flight.step?, hr, Flight.setPhase]
  obtain ⟨group, hgroup, hnext, hcalls⟩ := hstep
  refine ⟨{ p with resolver.group := group }, ?_, hnext, hcalls⟩
  cases turn <;> simp [withGroup, Resolver.step?, hgroup]

theorem work?_of_working {work : Work}
    (hr : p.resolver.group.runs.get? run = some ⟨key, .working work⟩) :
    p.resolver.group.work? run = some work := Flight.work?_eq_some.mpr ⟨key, hr⟩

variable [NameStore σ]

/-- Whether by steps of its own alone, all at this time, a run can show an error to its callers. -/
def Settles (now : Nat) (p : Pipeline σ) (run : Nat) (key : String) (error : RemoteError) : Prop :=
  ∃ rest q, History Step p rest q ∧ (∀ e ∈ rest, e.2.1 = now ∧ e.2.2.IsOf run) ∧
    q.resolver.group.calls = p.resolver.group.calls ∧
    q.resolver.group.runs.get? run = some ⟨key, .published (.error (.remote error))⟩

theorem Settles.step {a : Action} (hs : p.step? now a = some q) (own : a.IsOf run)
    (hcalls : q.resolver.group.calls = p.resolver.group.calls) (h : Settles now q run key error) :
    Settles now p run key error := by
  obtain ⟨rest, r, hrest, howns, hkept, hr⟩ := h
  have first : History Step p [(p, (now, a))] q := History.next .start hs
  exact ⟨_, r, first.trans hrest, List.forall_mem_cons.mpr ⟨⟨rfl, own⟩, howns⟩,
    hkept.trans hcalls, hr⟩

/-! ### Once the run has the error -/

theorem settles_of_released
    (hr : p.resolver.group.runs.get? run = some ⟨key, .released (.error (.remote error))⟩) :
    Settles now p run key error := by
  obtain ⟨q, hs, hnext, hcalls⟩ := withGroup_turn hr (.publish _)
  exact .step (a := .publish run) hs rfl hcalls ⟨[], _, .start, by simp, rfl, hnext⟩

theorem settles_of_finished
    (hr : p.resolver.group.runs.get? run = some ⟨key, .finished (.error (.remote error))⟩) :
    Settles now p run key error := by
  obtain ⟨q, hs, hnext, hcalls⟩ := withGroup_turn hr (.release _)
  exact .step (a := .release run) hs rfl hcalls (settles_of_released hnext)

/-- A work that has come to its end does nothing more than to end the run. -/
theorem work_of_result? {work : Work} {result : FetchResult}
    (hwork : p.resolver.group.work? run = some work) (ends : work.result? = some result) :
    p.work now run none = p.withGroup (.finish run result) := by
  match work, ends with
  | .naming _ (.done (.error _)), rfl => simp only [Pipeline.work, hwork]
  | .naming _ (.done (.ok none)), rfl => simp only [Pipeline.work, hwork]
  | .dressing _ (.done _), rfl => simp only [Pipeline.work, hwork]

theorem settles_of_ended {work : Work}
    (hr : p.resolver.group.runs.get? run = some ⟨key, .working work⟩)
    (ends : work.result? = some (.error (.remote error))) : Settles now p run key error := by
  obtain ⟨q, hs, hnext, hcalls⟩ := withGroup_turn hr (.finish work (.error (.remote error)))
  have hstep : p.step? now (.work run none) = some q := by
    show p.work now run none = some q
    rw [work_of_result? (work?_of_working hr) ends]
    exact hs
  exact .step hstep rfl hcalls (settles_of_finished hnext)

/-! ### While the run has to hear of the error -/

section

variable {username : String} {asker : Batch.Call}
  (hr : p.resolver.group.runs.get? run = some ⟨key, .working (.naming username .asking)⟩)
  (ha : p.batch.calls.get? run = some asker)

include hr ha

theorem settles_of_returned (returned : asker.phase = .returned (.error (.remote error))) :
    Settles now p run key error := by
  obtain ⟨q, hs, hnext, hcalls⟩ :=
    withGroup_turn hr (.advance _ (.naming username (.done (.error (.remote error)))))
  refine .step (a := .work run none) ?_ rfl hcalls (settles_of_ended hnext rfl)
  simp only [step?, work, work?_of_working hr, ask, ha, returned]
  exact hs

theorem settles_of_waiting (token : asker.token = none) (waiting : asker.phase = .waiting)
    (hf : p.batch.fates.get? run = some (.answered (.error error))) :
    Settles now p run key error := by
  have hresult : p.batch.result? run asker = some (.error (.remote error)) := by
    simp [Batch.result?, token, hf]
  let next : Pipeline σ :=
    { p with batch := p.batch.setCall run asker (.returned (.error (.remote error))) }
  have hnext : next.batch.calls.get? run =
      some { asker with phase := .returned (.error (.remote error)) } := by
    simp [next, Batch.setCall]
  have hs : p.step? now (.work run none) = some next := by
    simp only [step?, work, work?_of_working hr, ask, ha, waiting, withBatch, Batch.step?, hresult]
    rfl
  exact .step hs rfl rfl (settles_of_returned hr hnext rfl)

theorem settles_of_signalling (token : asker.token = none) (signalling : asker.phase = .signalling)
    (hf : p.batch.fates.get? run = some (.answered (.error error))) :
    Settles now p run key error := by
  let next : Pipeline σ := { p with batch := p.batch.notify.setCall run asker .waiting }
  have hnext : next.batch.calls.get? run = some { asker with phase := .waiting } := by
    simp [next, Batch.setCall]
  have hfate : next.batch.fates.get? run = some (.answered (.error error)) := by
    rw [← hf]
    exact congrArg (fun t => Table.get? t run) (Batch.notify_frame p.batch).2.2.1
  have hs : p.step? now (.work run none) = some next := by
    simp only [step?, work, work?_of_working hr, ask, ha, signalling, withBatch, Batch.step?]
    rfl
  exact .step hs rfl rfl (settles_of_waiting hr hnext token rfl hfate)

end

end

section

variable {σ : Type} [NameStore σ] {store : σ} {settings : BatchSettings} {log : List (Entry σ)}
  {p : Pipeline σ} {run : Nat} {key : String} {error : RemoteError}

theorem settles_of_asking (h : History Step (ofStore store settings) log p) {username : String}
    (hr : p.resolver.group.runs.get? run = some ⟨key, .working (.naming username .asking)⟩)
    (hf : p.batch.fates.get? run = some (.answered (.error error))) (now : Nat) :
    Settles now p run key error := by
  have ordered := orderly_of_history h
  obtain ⟨place, hplace, -⟩ := ordered.decided hf
  obtain ⟨asker, ha, pushed⟩ := ordered.pushed run (List.ne_nil_of_mem hplace)
  obtain ⟨token, present, -⟩ := (attended_of_history h).caller run asker ha
  cases hphase : asker.phase with
  | entered => exact absurd hphase pushed
  | signalling => exact settles_of_signalling hr ha token hphase hf
  | waiting => exact settles_of_waiting hr ha token hphase hf
  | returned result =>
    obtain rfl := (returned_iff h ha hphase).mpr hf
    exact settles_of_returned hr ha hphase
  | gone => exact absurd hphase present

theorem Work.Ruined.settles (h : History Step (ofStore store settings) log p) {work : Work}
    (hr : p.resolver.group.runs.get? run = some ⟨key, .working work⟩)
    (ruined : work.Ruined p.batch run error) (now : Nat) : Settles now p run key error := by
  match work, ruined with
  | .naming _ .asking, hf => exact settles_of_asking h hr hf now
  | .naming _ (.done _), rfl => exact settles_of_ended hr rfl
  | .dressing _ (.done _), rfl => exact settles_of_ended hr rfl

/-- A run that is ruined can show the error to its callers. -/
theorem Ruined.settles (h : History Step (ofStore store settings) log p)
    {phase : Flight.Phase Work FetchResult}
    (hr : p.resolver.group.runs.get? run = some ⟨key, phase⟩)
    (ruined : Ruined p.batch run error phase) (now : Nat) : Settles now p run key error := by
  match phase, ruined with
  | .entered work, ruined =>
    obtain ⟨q, hs, hnext, hcalls⟩ := withGroup_turn hr (.spawn work)
    have hstep : Step p (now, .spawn run) q := hs
    have hruined := Ruined.move h (moves_of_step? hstep) hr hnext ruined
    exact .step hstep rfl hcalls (Work.Ruined.settles (h.next hstep) hnext hruined now)
  | .working work, ruined => exact Work.Ruined.settles h hr ruined now
  | .finished _, rfl => exact settles_of_finished hr
  | .released _, rfl => exact settles_of_released hr
  | .published _, rfl => exact ⟨[], p, .start, by simp, rfl, hr⟩

end

end SkinRelay.Pipeline
