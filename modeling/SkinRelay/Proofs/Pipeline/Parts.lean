import SkinRelay.Proofs.Batch.Honesty
import SkinRelay.Proofs.Flight.Promise
import SkinRelay.Proofs.Pipeline.Moves

/-!
The parts of the service: a run of the whole is a run of its group, in which every call has the key
of its name, and a run of its queue, which gets the replies that the whole gets.
-/

namespace SkinRelay

theorem Resolver.group_of_step? {ω : Type} {r s : Resolver ω}
    {action : Flight.Action String ω FetchResult} (h : r.step? action = some s) :
    Flight.Step r.group action s.group := by
  unfold step? at h
  split at h
  · cases h
  · rename_i group hg
    rw [Flight.Step, hg]
    split at h
    · split at h <;> cases h <;> rfl
    · cases h
      rfl

namespace Pipeline

variable {σ : Type} {now : Nat} {p q : Pipeline σ} {a : Action}

/-- What a caller of the queue does is nothing that the queue does by itself. -/
theorem isOfQueue_of_asks {run : Nat} {username : String} {action : Batch.Action}
    (asks : p.asks? run username = some action) : isOfQueue action = false := by
  unfold asks? at asks
  split at asks
  · cases asks
    rfl
  · split at asks <;> cases asks <;> rfl

/-- `Queues p a action`: the action `a`, taken in `p`, is this action in the queue. -/
inductive Queues (p : Pipeline σ) : Action → Batch.Action → Prop
  | own {action : Batch.Action} (own : isOfQueue action = true) : Queues p (.batch action) action
  | ask {run : Nat} {fault : Option StoreError} {username : String} {action : Batch.Action}
      (at_ : p.resolver.group.work? run = some (.naming username .asking))
      (asks : p.asks? run username = some action) : Queues p (.work run fault) action

variable [NameStore σ]

/-- What an action does in the group, if it does anything there. -/
theorem Moves.ofGroup (h : Moves now p a q) :
    (∃ id username, a = .call id username ∧ Flight.Step p.resolver.group
      (.call id (Username.key username) (.begin (Username.key username))) q.resolver.group) ∨
    (∀ id username, a ≠ .call id username) ∧
      (q.resolver.group = p.resolver.group ∨
        ∃ action, Flight.Step p.resolver.group action q.resolver.group ∧
          ∀ id key work, action ≠ .call id key work) := by
  cases h with
  | @call id username new _ =>
    exact .inl ⟨id, username, rfl, Flight.step_call new _ _⟩
  | @turn a action _ own stepped =>
    refine .inr ⟨?_, .inr ⟨action, Resolver.group_of_step? stepped, ?_⟩⟩
    · rintro id username rfl
      cases own
    · rintro id key work rfl
      cases a <;> cases own
  | proceed _ proceeds stepped =>
    refine .inr ⟨?_, .inr ⟨_, Resolver.group_of_step? stepped, by simp⟩⟩
    rintro id username rfl
    cases proceeds
  | finish _ _ stepped =>
    exact .inr ⟨by simp, .inr ⟨_, Resolver.group_of_step? stepped, by simp⟩⟩
  | _ => exact .inr ⟨by simp, .inl rfl⟩

/-- What an action does in the queue, if it does anything there. -/
theorem Moves.ofQueue (h : Moves now p a q) :
    q.batch = p.batch ∧ (∀ action, a ≠ .batch action) ∨
      ∃ action, Batch.Step p.batch (now, action) q.batch ∧ Queues p a action := by
  cases h with
  | ask at_ asks stepped => exact .inr ⟨_, stepped, .ask at_ asks⟩
  | queue own stepped => exact .inr ⟨_, stepped, .own own⟩
  | @turn a _ _ own => exact .inl ⟨rfl, by rintro action rfl; cases own⟩
  | proceed _ proceeds => exact .inl ⟨rfl, by rintro action rfl; cases proceeds⟩
  | _ => exact .inl ⟨rfl, by simp⟩

/-- A step of the queue by itself changes nothing but the queue. -/
theorem Moves.ofBatch {action : Batch.Action} (h : Moves now p (.batch action) q) :
    ∃ batch, Batch.Moves now p.batch action batch ∧ q = { p with batch } := by
  cases h with
  | turn own => cases own
  | proceed _ proceeds => cases proceeds
  | queue _ stepped => exact ⟨_, Batch.moves_of_step? stepped, rfl⟩

theorem Moves.coherent (h : Moves now p a q) (coherent : Flight.Coherent p.resolver.group) :
    Flight.Coherent q.resolver.group := by
  rcases h.ofGroup with ⟨_, _, -, hstep⟩ | ⟨-, hsame | ⟨_, hstep, -⟩⟩
  · exact coherent.step hstep
  · exact hsame ▸ coherent
  · exact coherent.step hstep

/-- A run keeps its key. -/
theorem Moves.run (h : Moves now p a q) (coherent : Flight.Coherent p.resolver.group) {run : Nat}
    {key : String} {phase : Flight.Phase Work FetchResult}
    (hr : p.resolver.group.runs.get? run = some ⟨key, phase⟩) :
    ∃ next, q.resolver.group.runs.get? run = some ⟨key, next⟩ := by
  rcases h.ofGroup with ⟨_, _, -, hstep⟩ | ⟨-, hsame | ⟨_, hstep, -⟩⟩
  · exact hstep.run coherent hr
  · exact ⟨phase, hsame ▸ hr⟩
  · exact hstep.run coherent hr

/-- `Passes now p run a old next known textures`: with the action `a` a run passes from one phase to
the next, and leaves the store and the cache like this. -/
inductive Passes (now : Nat) (p : Pipeline σ) (run : Nat) : Action →
    Flight.Phase Work FetchResult → Flight.Phase Work FetchResult →
    KnownAccounts σ → TexturesCache → Prop
  | spawn {work : Work} :
      Passes now p run (.spawn run) (.entered work) (.working work) p.known p.textures
  | proceed {a : Action} {work next : Work} {known : KnownAccounts σ} {textures : TexturesCache}
      (proceeds : Proceeds now p run a work next known textures) :
      Passes now p run a (.working work) (.working next) known textures
  | finish {fault : Option StoreError} {work : Work} {result : FetchResult}
      (ends : work.result? = some result) :
      Passes now p run (.work run fault) (.working work) (.finished result) p.known p.textures
  | release {result : FetchResult} :
      Passes now p run (.release run) (.finished result) (.released result) p.known p.textures
  | unwind : Passes now p run (.release run) .broken .unwound p.known p.textures
  | publish {result : FetchResult} :
      Passes now p run (.publish run) (.released result) (.published result) p.known p.textures
  | lose : Passes now p run (.publish run) .unwound .lost p.known p.textures

/-- How a run came to its phase: it was there before, it has just begun, or it has passed on. -/
theorem Moves.passes (h : Moves now p a q) (coherent : Flight.Coherent p.resolver.group) {run : Nat}
    {key : String} {phase : Flight.Phase Work FetchResult}
    (hq : q.resolver.group.runs.get? run = some ⟨key, phase⟩) :
    p.resolver.group.runs.get? run = some ⟨key, phase⟩ ∨
    (p.resolver.group.runs.get? run = none ∧ phase = .entered (.begin key) ∧
      ∃ id username, a = .call id username ∧ key = Username.key username) ∨
    ∃ old known textures, p.resolver.group.runs.get? run = some ⟨key, old⟩ ∧
      Passes now p run a old phase known textures ∧ q.known = known ∧ q.textures = textures := by
  cases h with
  | @call id username new _ =>
    have hstep := Flight.step_call new (Username.key username)
      (Work.begin (Username.key username))
    rcases hstep.before coherent hq with hsame | ⟨_, turn, -⟩ | ⟨hnone, _, _, hcall, hentered⟩
    · exact .inl hsame
    · cases turn
    · cases hcall
      exact .inr (.inl ⟨hnone, hentered, id, username, rfl, rfl⟩)
  | @turn a action _ own stepped =>
    rcases (Resolver.group_of_step? stepped).before coherent hq with
      hsame | ⟨old, turn, hp⟩ | ⟨-, _, _, rfl, -⟩
    · exact .inl hsame
    · refine .inr (.inr ⟨old, _, _, hp, ?_, rfl, rfl⟩)
      cases turn <;> cases a <;> cases own
      · exact .spawn
      · exact .release
      · exact .unwind
      · exact .publish
      · exact .lose
    · cases a <;> cases own
  | @proceed a run' work next _ _ _ hat hproceeds stepped =>
    rcases (Resolver.group_of_step? stepped).before coherent hq with
      hsame | ⟨old, turn, hp⟩ | ⟨-, _, _, hcall, -⟩
    · exact .inl hsame
    · cases turn
      obtain ⟨key', hp'⟩ := Flight.work?_eq_some.mp hat
      cases hp.symm.trans hp'
      exact .inr (.inr ⟨_, _, _, hp, .proceed hproceeds, rfl, rfl⟩)
    · cases hcall
  | @finish run' _ work result _ hat ends stepped =>
    rcases (Resolver.group_of_step? stepped).before coherent hq with
      hsame | ⟨old, turn, hp⟩ | ⟨-, _, _, hcall, -⟩
    · exact .inl hsame
    · cases turn
      obtain ⟨key', hp'⟩ := Flight.work?_eq_some.mp hat
      cases hp.symm.trans hp'
      exact .inr (.inr ⟨_, _, _, hp, .finish ends, rfl, rfl⟩)
    · cases hcall
  | _ => exact .inl hq

/-- Whether an action that brings a reply brings the truth. -/
def Honest (d : Directory) (p : Pipeline σ) : Action → Prop
  | .fetched run (.ok profile) => ∀ account stage,
      p.resolver.group.work? run = some (.dressing account stage) → profile = d.profile account.id
  | .batch action => Batch.Honest d p.batch action
  | _ => True

section

variable {store : σ} {settings : BatchSettings} {log : List (Entry σ)}

theorem group_of_history (h : History Step (ofStore store settings) log p) :
    ∃ groupLog, History Flight.Step {} groupLog p.resolver.group ∧
      (∀ e ∈ log, ∀ id username, e.2.2 = .call id username →
        (e.1.resolver.group,
          .call id (Username.key username) (Work.begin (Username.key username))) ∈ groupLog) ∧
      ∀ e ∈ groupLog, ∀ id key work, e.2 = .call id key work →
        ∃ e ∈ log, ∃ username, e.2.2 = .call id username := by
  obtain ⟨groupLog, hgroup, hfrom, hto⟩ :=
    History.project (fun p : Pipeline σ => p.resolver.group) Flight.Step
      (fun e b =>
        (∀ id username, e.2.2 = .call id username →
          b = some (.call id (Username.key username) (.begin (Username.key username)))) ∧
        ∀ id key work, b = some (.call id key work) → ∃ username, e.2.2 = .call id username)
      h <| by
    intro e _ u hs
    rcases (moves_of_step? hs).ofGroup with
      ⟨id, username, ha, hstep⟩ | ⟨hne, hsame | ⟨action, hstep, hother⟩⟩
    · refine ⟨some _, ⟨?_, ?_⟩, hstep⟩
      · intro id' username' ha'
        cases ha.symm.trans ha'
        rfl
      · intro id' key work hb
        cases hb
        exact ⟨username, ha⟩
    · exact ⟨none, ⟨fun id username ha => absurd ha (hne id username), by simp⟩, hsame⟩
    · refine ⟨some action, ⟨fun id username ha => absurd ha (hne id username), ?_⟩, hstep⟩
      intro id key work hb
      exact absurd (Option.some.inj hb) (hother id key work)
  refine ⟨groupLog, hgroup, ?_, ?_⟩
  · intro e he id username ha
    obtain ⟨b, hR, hmem⟩ := hto e he
    exact hmem _ (hR.1 id username ha)
  · intro e' he' id key work ha
    obtain ⟨e, he, -, hR⟩ := hfrom e' he'
    exact ⟨e, he, hR.2 id key work (by rw [ha])⟩

/-- The run of the queue takes the actions that the whole takes there, at the same times. -/
theorem queueLog_of_history (h : History Step (ofStore store settings) log p) :
    ∃ queueLog, History Batch.Step (.ofSettings settings) queueLog p.batch ∧
      (∀ e' ∈ queueLog, ∃ e ∈ log, e'.1 = e.1.batch ∧ e'.2.1 = e.2.1 ∧
        Queues e.1 e.2.2 e'.2.2) ∧
      ∀ e ∈ log, ∀ action, e.2.2 = .batch action → (e.1.batch, (e.2.1, action)) ∈ queueLog := by
  obtain ⟨queueLog, hqueue, hfrom, hto⟩ :=
    History.project (fun p : Pipeline σ => p.batch) Batch.Step
      (fun e b => (b = none → ∀ action, e.2.2 ≠ .batch action) ∧
        ∀ a, b = some a → a.1 = e.2.1 ∧ Queues e.1 e.2.2 a.2) h <| by
    intro e _ u hs
    rcases (moves_of_step? hs).ofQueue with ⟨hsame, hother⟩ | ⟨action, hstep, hqueues⟩
    · exact ⟨none, ⟨fun _ => hother, by simp⟩, hsame⟩
    · refine ⟨some (e.2.1, action), ⟨by simp, ?_⟩, hstep⟩
      rintro a ⟨⟩
      exact ⟨rfl, hqueues⟩
  refine ⟨queueLog, hqueue, ?_, ?_⟩
  · intro e' he'
    obtain ⟨e, he, heq, -, hR⟩ := hfrom e' he'
    obtain ⟨htime, hqueues⟩ := hR _ rfl
    exact ⟨e, he, heq, htime, hqueues⟩
  · intro e he action ha
    obtain ⟨b, ⟨hnone, hsome⟩, hmem⟩ := hto e he
    cases b with
    | none => exact absurd ha (hnone rfl action)
    | some b =>
      obtain ⟨time, action'⟩ := b
      obtain ⟨rfl, hqueues⟩ := hsome _ rfl
      rw [ha] at hqueues
      cases hqueues
      exact hmem _ rfl

theorem queue_of_history {d : Directory} (h : History Step (ofStore store settings) log p)
    (honest : ∀ e ∈ log, Honest d e.1 e.2.2) :
    ∃ queueLog, History Batch.Step (.ofSettings settings) queueLog p.batch ∧
      ∀ e ∈ queueLog, Batch.Honest d e.1 e.2.2 := by
  obtain ⟨queueLog, hqueue, hfrom, -⟩ := queueLog_of_history h
  refine ⟨queueLog, hqueue, ?_⟩
  intro e' he'
  obtain ⟨t, now, action⟩ := e'
  obtain ⟨e, he, rfl, -, hqueues⟩ := hfrom _ he'
  have hhonest := honest e he
  generalize e.2.2 = a at hqueues hhonest
  cases hqueues with
  | own => exact hhonest
  | ask _ hasks =>
    cases action with
    | deliver => cases isOfQueue_of_asks hasks
    | _ => trivial

end

end Pipeline

end SkinRelay
