import SkinRelay.Pipeline
import SkinRelay.Proofs.History

/-!
What one step of the whole service can do, as a relation: it is a step of the group of runs, alone
or together with one of the store or the cache, or else a step of the queue or of the sweeper.
-/

namespace SkinRelay.Pipeline

/-- The step of the group that an action is and nothing else. -/
def Action.group? : Action → Option (Flight.Action String Work FetchResult)
  | .spawn run => some (.spawn run)
  | .release run => some (.release run)
  | .publish run => some (.publish run)
  | .collect id => some (.collect id)
  | .drop id => some (.drop id)
  | _ => none

/-- The output of a work that has come to its end. -/
def Work.result? : Work → Option FetchResult
  | .naming _ (.done (.error error)) => some (.error error)
  | .naming _ (.done (.ok none)) => some (.ok none)
  | .dressing _ (.done result) => some result
  | _ => none

variable {σ : Type}

/-- What a run that asks about a name does next as a caller of the queue. -/
def asks? (p : Pipeline σ) (run : Nat) (username : String) : Option Batch.Action :=
  match p.batch.calls.get? run with
  | none => some (.enter run username none)
  | some call =>
    match call.phase with
    | .entered => some (.push run)
    | .signalling => some (.signal run)
    | .waiting => some (.collect run)
    | _ => none

variable {now : Nat} {p q : Pipeline σ}

theorem withGroup_eq_some {action : Flight.Action String Work FetchResult} :
    p.withGroup action = some q ↔
      ∃ resolver, p.resolver.step? action = some resolver ∧ { p with resolver } = q := by
  simp [withGroup]

theorem withBatch_eq_some {action : Batch.Action} :
    p.withBatch now action = some q ↔
      ∃ batch, p.batch.step? now action = some batch ∧ { p with batch } = q := by
  simp [withBatch]

variable [NameStore σ]

/-- `Proceeds now p run a work next known textures`: with the action `a` the work of a run goes on
to `next`, and leaves the store and the cache like this. -/
inductive Proceeds (now : Nat) (p : Pipeline σ) (run : Nat) :
    Action → Work → Work → KnownAccounts σ → TexturesCache → Prop
  | read {username : String} (fault : Option StoreError) :
      Proceeds now p run (.work run fault) (.naming username .reading)
        (.naming username (p.known.read now fault username).1)
        (p.known.read now fault username).2 p.textures
  | answered {username : String} {fault : Option StoreError} {call : Batch.Call}
      {result : AccountResult} (at_ : p.batch.calls.get? run = some call)
      (returned : call.phase = .returned result) :
      Proceeds now p run (.work run fault) (.naming username .asking)
        (.naming username (KnownAccounts.answered result)) p.known p.textures
  | write {username : String} {found : Option Account} (fault : Option StoreError) :
      Proceeds now p run (.work run fault) (.naming username (.writing found))
        (.naming username (p.known.write now fault username found).1)
        (p.known.write now fault username found).2 p.textures
  | dress {username : String} {fault : Option StoreError} {account : Account} :
      Proceeds now p run (.work run fault) (.naming username (.done (.ok (some account))))
        (.dressing account .looking) p.known p.textures
  | cache {account : Account} {fault : Option StoreError} {stage next : TexturesCache.Stage}
      {textures : TexturesCache}
      (advances : p.textures.advance? now account.id stage = some (next, textures)) :
      Proceeds now p run (.work run fault) (.dressing account stage) (.dressing account next)
        p.known textures
  | fetched {account : Account} {request : Nat} {reply : Except RemoteError (Option Profile)} :
      Proceeds now p run (.fetched run reply) (.dressing account (.fetching request))
        (.dressing account (TexturesCache.fetched (FetchResult.ofReply request reply)))
        p.known p.textures

/-- One step of the service at the time `now`. -/
inductive Moves (now : Nat) (p : Pipeline σ) : Action → Pipeline σ → Prop
  | call {id : Nat} {username : String} (new : p.resolver.group.calls.get? id = none)
      (valid : Username.isValid username = true) :
      Moves now p (.call id username)
        { p with
          resolver.group :=
            p.resolver.group.call id (Username.key username) (.begin (Username.key username)) }
  | turn {a : Action} {action : Flight.Action String Work FetchResult} {resolver : Resolver Work}
      (own : a.group? = some action) (stepped : p.resolver.step? action = some resolver) :
      Moves now p a { p with resolver }
  | proceed {a : Action} {run : Nat} {work next : Work} {known : KnownAccounts σ}
      {textures : TexturesCache} {resolver : Resolver Work}
      (at_ : p.resolver.group.work? run = some work)
      (proceeds : Proceeds now p run a work next known textures)
      (stepped : p.resolver.step? (.advance run next) = some resolver) :
      Moves now p a { p with resolver, known, textures }
  | finish {run : Nat} {fault : Option StoreError} {work : Work} {result : FetchResult}
      {resolver : Resolver Work} (at_ : p.resolver.group.work? run = some work)
      (ends : work.result? = some result)
      (stepped : p.resolver.step? (.finish run result) = some resolver) :
      Moves now p (.work run fault) { p with resolver }
  | ask {run : Nat} {fault : Option StoreError} {username : String} {action : Batch.Action}
      {batch : Batch} (at_ : p.resolver.group.work? run = some (.naming username .asking))
      (asks : p.asks? run username = some action) (stepped : p.batch.step? now action = some batch) :
      Moves now p (.work run fault) { p with batch }
  | queue {action : Batch.Action} {batch : Batch} (own : isOfQueue action = true)
      (stepped : p.batch.step? now action = some batch) :
      Moves now p (.batch action) { p with batch }
  | stopSweeper : Moves now p .stopSweeper { p with textures := p.textures.stopSweeper }
  | sweep : Moves now p .sweep { p with textures := p.textures.sweep now }

/-- A run that asks about a name does what the queue has it do next, or has its answer. -/
theorem moves_of_ask {run : Nat} {fault : Option StoreError} {username : String}
    (at_ : p.resolver.group.work? run = some (.naming username .asking))
    (h : p.ask now run username = some q) : Moves now p (.work run fault) q := by
  have asks : ∀ {action : Batch.Action}, p.asks? run username = some action →
      p.withBatch now action = some q → Moves now p (.work run fault) q := by
    intro action hasks hq
    obtain ⟨batch, hb, rfl⟩ := withBatch_eq_some.mp hq
    exact .ask at_ hasks hb
  unfold ask at h
  split at h
  · rename_i hnone
    exact asks (by simp [asks?, hnone]) h
  · rename_i call hc
    split at h
    · rename_i hp
      exact asks (by simp [asks?, hc, hp]) h
    · rename_i hp
      exact asks (by simp [asks?, hc, hp]) h
    · rename_i hp
      exact asks (by simp [asks?, hc, hp]) h
    · rename_i hp
      obtain ⟨resolver, hr, rfl⟩ := withGroup_eq_some.mp h
      exact .proceed at_ (.answered hc hp) hr
    · cases h

theorem moves_of_work {run : Nat} {fault : Option StoreError} (h : p.work now run fault = some q) :
    Moves now p (.work run fault) q := by
  unfold work at h
  split at h
  · rename_i hw
    obtain ⟨resolver, hr, rfl⟩ := withGroup_eq_some.mp h
    exact .proceed hw (.read fault) hr
  · rename_i hw
    exact moves_of_ask hw h
  · rename_i hw
    obtain ⟨resolver, hr, rfl⟩ := withGroup_eq_some.mp h
    exact .proceed hw (.write fault) hr
  · rename_i hw
    obtain ⟨resolver, hr, rfl⟩ := withGroup_eq_some.mp h
    exact .finish hw rfl hr
  · rename_i hw
    obtain ⟨resolver, hr, rfl⟩ := withGroup_eq_some.mp h
    exact .finish hw rfl hr
  · rename_i hw
    obtain ⟨resolver, hr, rfl⟩ := withGroup_eq_some.mp h
    exact .proceed hw .dress hr
  · rename_i hw
    obtain ⟨resolver, hr, rfl⟩ := withGroup_eq_some.mp h
    exact .finish hw rfl hr
  · rename_i hw
    split at h
    · rename_i hadv
      obtain ⟨resolver, hr, rfl⟩ := withGroup_eq_some.mp h
      exact .proceed hw (.cache hadv) hr
    · cases h
  · cases h

theorem moves_of_step? {a : Action} (h : p.step? now a = some q) : Moves now p a q := by
  have turn : ∀ {action : Flight.Action String Work FetchResult}, a.group? = some action →
      p.withGroup action = some q → Moves now p a q := by
    intro action hown hq
    obtain ⟨resolver, hr, rfl⟩ := withGroup_eq_some.mp hq
    exact .turn hown hr
  cases a with
  | call id username =>
    simp only [step?] at h
    split at h
    · cases h
    · rename_i hnew
      have new : p.resolver.group.calls.get? id = none := by
        simpa [Table.contains] using hnew
      unfold call Resolver.call at h
      by_cases valid : Username.isValid username = true
      · simp only [valid, if_true] at h
        cases h
        exact .call new valid
      · simp [valid] at h
  | spawn run => exact turn rfl h
  | work run fault => exact moves_of_work h
  | fetched run reply =>
    simp only [step?] at h
    split at h
    · rename_i hw
      obtain ⟨resolver, hr, rfl⟩ := withGroup_eq_some.mp h
      exact .proceed hw .fetched hr
    · cases h
  | release run => exact turn rfl h
  | publish run => exact turn rfl h
  | collect id => exact turn rfl h
  | drop id => exact turn rfl h
  | batch action =>
    simp only [step?] at h
    split at h
    · rename_i hown
      obtain ⟨batch, hb, rfl⟩ := withBatch_eq_some.mp h
      exact .queue hown hb
    · cases h
  | stopSweeper =>
    cases h
    exact .stopSweeper
  | sweep =>
    cases h
    exact .sweep

/-- A step with its time. -/
def Step (p : Pipeline σ) (a : Nat × Action) (q : Pipeline σ) : Prop := p.step? a.1 a.2 = some q

/-- An entry of a log: an action with its time, and the state in which it was taken. -/
abbrev Entry (σ : Type) := Pipeline σ × (Nat × Action)

end SkinRelay.Pipeline
