import SkinRelay.Client
import SkinRelay.Proofs.Pipeline.Parts
import SkinRelay.Router

/-!
The service between its callers and the two servers: the router in front of the pipeline, and the
client behind it. Every step is one of them or of the pipeline, and so a run of the service is a run
of the pipeline (`pipeline_of_history`), in which every request has at most one call
(`agrees_of_history`).
-/

namespace SkinRelay

/-- What has become of a request. -/
inductive Visit where
  /-- A name is looked up for it, and is wanted in this form. -/
  | waiting (form : Router.Form)
  | answered (reply : Router.Reply)
  /-- Whoever made the request has gone away. -/
  | gone

/-- The pipeline, and the requests made so far. A request has the number of its call. -/
structure Gateway (σ : Type) where
  pipeline : Pipeline σ
  visits : Table Nat Visit := {}

/-- `Recalls calls a next`: the action `a` makes these calls of a group the next ones. -/
inductive Flight.Recalls {κ ω τ : Type} (calls : Table Nat (Flight.Call τ)) :
    Flight.Action κ ω τ → Table Nat (Flight.Call τ) → Prop
  | call {id : Nat} {key : κ} {work : ω} {call : Flight.Call τ} (waiting : call.phase = .waiting) :
      Recalls calls (.call id key work) (calls.insert id call)
  | collect {id : Nat} {call : Flight.Call τ} : Recalls calls (.collect id) (calls.insert id call)
  | drop {id : Nat} {call : Flight.Call τ} : Recalls calls (.drop id) (calls.insert id call)
  | same {a : Flight.Action κ ω τ} (ofRun : a.ofRun = true) : Recalls calls a calls

theorem Flight.Step.recalls {κ ω τ : Type} [DecidableEq κ] {f g : Flight κ ω τ}
    {a : Flight.Action κ ω τ} (h : Flight.Step f a g) : Flight.Recalls f.calls a g.calls := by
  cases Flight.moves_of_step? h with
  | join | begin => exact .call rfl
  | turn _ turn => cases turn <;> exact .same rfl
  | ending _ _ ends =>
    cases ends with
    | collect | fail => exact .collect
    | drop => exact .drop

namespace Pipeline

/-- Whether a step is that of a call. -/
def Action.isOfCall : Action → Bool
  | .call .. | .collect _ | .drop _ => true
  | _ => false

/-- `Recalls calls a next`: the action `a` makes these calls of the pipeline the next ones. -/
inductive Recalls (calls : Table Nat (Flight.Call FetchResult)) :
    Action → Table Nat (Flight.Call FetchResult) → Prop
  | call {id : Nat} {username : String} {call : Flight.Call FetchResult}
      (waiting : call.phase = .waiting) : Recalls calls (.call id username) (calls.insert id call)
  | collect {id : Nat} {call : Flight.Call FetchResult} :
      Recalls calls (.collect id) (calls.insert id call)
  | drop {id : Nat} {call : Flight.Call FetchResult} :
      Recalls calls (.drop id) (calls.insert id call)
  | same {a : Action} (other : a.isOfCall = false) : Recalls calls a calls

theorem Recalls.ofGroup {calls next : Table Nat (Flight.Call FetchResult)} {a : Action}
    {action : Flight.Action String Work FetchResult} (own : a.group? = some action)
    (h : Flight.Recalls calls action next) : Recalls calls a next := by
  cases a with
  | spawn | release | publish =>
    cases own
    cases h with
    | same => exact .same rfl
  | collect =>
    cases own
    cases h with
    | collect => exact .collect
    | same ofRun => cases ofRun
  | drop =>
    cases own
    cases h with
    | drop => exact .drop
    | same ofRun => cases ofRun
  | _ => cases own

theorem Moves.recalls {σ : Type} [NameStore σ] {now : Nat} {p q : Pipeline σ} {a : Action}
    (h : Moves now p a q) : Recalls p.resolver.group.calls a q.resolver.group.calls := by
  have ofRun : ∀ {resolver : Resolver Work} {action : Flight.Action String Work FetchResult},
      p.resolver.step? action = some resolver → action.ofRun = true →
      resolver.group.calls = p.resolver.group.calls := by
    intro resolver action hs own
    have hrecalls := (Resolver.group_of_step? hs).recalls
    generalize resolver.group.calls = calls at hrecalls
    cases hrecalls with
    | same => rfl
    | _ => cases own
  cases h with
  | @call id username new =>
    have hrecalls := (Flight.step_call new (Username.key username)
      (Work.begin (Username.key username))).recalls
    generalize (p.resolver.group.call id (Username.key username)
      (Work.begin (Username.key username))).calls = calls at hrecalls
    cases hrecalls with
    | call waiting => exact .call waiting
    | same own => cases own
  | turn own stepped => exact .ofGroup own (Resolver.group_of_step? stepped).recalls
  | @proceed a _ _ _ _ _ _ _ proceeds stepped =>
    have hcalls := ofRun stepped rfl
    show Recalls _ _ (Resolver.group _).calls
    rw [hcalls]
    cases proceeds <;> exact .same rfl
  | finish _ _ stepped =>
    have hcalls := ofRun stepped rfl
    show Recalls _ _ (Resolver.group _).calls
    rw [hcalls]
    exact .same rfl
  | _ => exact .same rfl

end Pipeline

namespace Gateway

inductive Action where
  /-- A GET request. -/
  | get (id : Nat) (path : String)
  /-- The lookup for a request has come to its end. -/
  | answer (id : Nat)
  | leave (id : Nat)
  /-- The account service replies to a batch. -/
  | accounts (round : Nat) (reply : Client.Reply)
  /-- The session server replies to a run. -/
  | profile (run : Nat) (reply : Client.Reply)
  /-- A step of the pipeline alone. -/
  | inner (action : Pipeline.Action)

/-- Whether neither callers nor servers have a part in a step of the pipeline. -/
def isInner : Pipeline.Action → Bool
  | .call .. | .collect _ | .drop _ | .fetched .. | .batch (.deliver ..) => false
  | _ => true

/-- What the router is given to answer. -/
def present (result : FetchResult) : Router.LookupResult :=
  result.map fun found => found.map (·.profile)

variable {σ : Type} [NameStore σ]

def ofStore (store : σ) (settings : BatchSettings) : Gateway σ where
  pipeline := .ofStore store settings

def withPipeline (g : Gateway σ) (now : Nat) (action : Pipeline.Action) : Option (Gateway σ) :=
  (g.pipeline.step? now action).map fun pipeline => { g with pipeline }

def setVisit (g : Gateway σ) (id : Nat) (visit : Visit) : Gateway σ :=
  { g with visits := g.visits.insert id visit }

/-- A name is looked up for a request, unless no account can have it. -/
def lookup (g : Gateway σ) (now id : Nat) (form : Router.Form) (name : String) :
    Option (Gateway σ) :=
  match g.pipeline.call id name with
  | .ok _ => (g.withPipeline now (.call id name)).map fun g => g.setVisit id (.waiting form)
  | .error error => some (g.setVisit id (.answered (Router.answer form (.error error))))

def step? (now : Nat) (g : Gateway σ) : Action → Option (Gateway σ)
  | .get id path =>
    if g.visits.contains id then none
    else match Router.task "GET" (Router.route? path) with
      | .reply reply => some (g.setVisit id (.answered reply))
      | .health =>
        some (g.setVisit id
          (.answered (Router.health (Time.toMillis now / 1000) (some g.pipeline.stats))))
      | .lookup form name => g.lookup now id form name
  | .answer id =>
    match g.visits.get? id, g.withPipeline now (.collect id) with
    | some (.waiting form), some next =>
      match next.pipeline.resolver.group.calls.get? id with
      | some { phase := .returned result, .. } =>
        some (next.setVisit id (.answered (Router.answer form (present result))))
      | _ => none
    | _, _ => none
  | .leave id =>
    match g.visits.get? id with
    | some (.waiting _) => (g.withPipeline now (.drop id)).map fun g => g.setVisit id .gone
    | _ => none
  | .accounts round reply => g.withPipeline now (.batch (.deliver round (Client.accountsOf reply)))
  | .profile run reply => g.withPipeline now (.fetched run (Client.profileOf reply))
  | .inner action => if isInner action then g.withPipeline now action else none

theorem task_of_route {path name : String} {form : Router.Form} (segment : List Char)
    (route : Router.route? path = some (.textures form segment))
    (spelt : Router.username? segment = some name) :
    Router.task "GET" (Router.route? path) = .lookup form name := by
  simp [Router.task, route, Router.Route.task, spelt]

theorem step?_get {now id : Nat} {g : Gateway σ} {path name : String} {form : Router.Form}
    (new : g.visits.contains id = false)
    (asked : Router.task "GET" (Router.route? path) = .lookup form name) :
    g.step? now (.get id path) = g.lookup now id form name := by
  simp [step?, new, asked]

/-! ### What a step can do -/

/-- The step of the pipeline that an action is. A request for a name that no account can have is
none. -/
def Action.inner? : Action → Option Pipeline.Action
  | .get id path =>
    match Router.task "GET" (Router.route? path) with
    | .lookup _ name => if Username.isValid name then some (.call id name) else none
    | _ => none
  | .answer id => some (.collect id)
  | .leave id => some (.drop id)
  | .accounts round reply => some (.batch (.deliver round (Client.accountsOf reply)))
  | .profile run reply => some (.fetched run (Client.profileOf reply))
  | .inner action => some action

/-- One step of the service at the time `now`. -/
inductive Moves (now : Nat) (g : Gateway σ) : Action → Gateway σ → Prop
  | refuse {id : Nat} {path : String} {reply : Router.Reply} (new : g.visits.get? id = none)
      (none_ : (Action.get id path).inner? = none) (unlimited : reply.status ≠ 429) :
      Moves now g (.get id path) (g.setVisit id (.answered reply))
  | seek {id : Nat} {path name : String} {form : Router.Form} {pipeline : Pipeline σ}
      (new : g.visits.get? id = none)
      (own : (Action.get id path).inner? = some (.call id name))
      (stepped : g.pipeline.step? now (.call id name) = some pipeline) :
      Moves now g (.get id path) ⟨pipeline, g.visits.insert id (.waiting form)⟩
  | answer {id : Nat} {form : Router.Form} {pipeline : Pipeline σ} {call : Flight.Call FetchResult}
      {result : FetchResult} (at_ : g.visits.get? id = some (.waiting form))
      (stepped : g.pipeline.step? now (.collect id) = some pipeline)
      (hc : pipeline.resolver.group.calls.get? id = some call)
      (returned : call.phase = .returned result) :
      Moves now g (.answer id)
        ⟨pipeline, g.visits.insert id (.answered (Router.answer form (present result)))⟩
  | leave {id : Nat} {form : Router.Form} {pipeline : Pipeline σ}
      (at_ : g.visits.get? id = some (.waiting form))
      (stepped : g.pipeline.step? now (.drop id) = some pipeline) :
      Moves now g (.leave id) ⟨pipeline, g.visits.insert id .gone⟩
  | inner {a : Action} {action : Pipeline.Action} {pipeline : Pipeline σ}
      (own : a.inner? = some action) (other : action.isOfCall = false)
      (stepped : g.pipeline.step? now action = some pipeline) :
      Moves now g a ⟨pipeline, g.visits⟩

section

variable {now : Nat} {g u : Gateway σ} {a : Action}

theorem withPipeline_eq_some {action : Pipeline.Action} : g.withPipeline now action = some u ↔
    ∃ pipeline, g.pipeline.step? now action = some pipeline ∧ ⟨pipeline, g.visits⟩ = u := by
  simp [withPipeline]

/-- What is said without a lookup is never that there are too many requests. -/
theorem status_of_reply {path : String} {reply : Router.Reply}
    (h : Router.task "GET" (Router.route? path) = .reply reply) : reply.status ≠ 429 := by
  unfold Router.task at h
  rw [if_neg (by decide)] at h
  split at h
  · cases h
    simp
  · rw [if_pos (.inl rfl)] at h
    unfold Router.Route.task at h
    split at h
    · cases h
    · split at h <;> cases h
      simp

theorem moves_of_lookup {id : Nat} {path name : String} {form : Router.Form}
    (new : g.visits.get? id = none)
    (asked : Router.task "GET" (Router.route? path) = .lookup form name)
    (h : g.lookup now id form name = some u) : Moves now g (.get id path) u := by
  unfold lookup Pipeline.call Resolver.call at h
  by_cases valid : Username.isValid name = true
  · simp only [valid, if_true, Option.map_eq_some_iff, withPipeline_eq_some] at h
    obtain ⟨_, ⟨pipeline, hp, rfl⟩, rfl⟩ := h
    exact .seek new (by simp [Action.inner?, asked, valid]) hp
  · simp only [valid, Bool.false_eq_true, if_false, Option.some.injEq] at h
    subst h
    exact .refuse new (by simp [Action.inner?, asked, valid]) (by simp [Router.answer,
      Router.failure, Router.notFound, Router.errorReply])

theorem moves_of_step? (h : g.step? now a = some u) : Moves now g a u := by
  cases a with
  | get id path =>
    simp only [step?] at h
    split at h
    · cases h
    · rename_i hnew
      have new : g.visits.get? id = none := by
        simpa [Table.contains] using hnew
      split at h
      · rename_i hreply
        cases h
        exact .refuse new (by simp [Action.inner?, hreply]) (status_of_reply hreply)
      · rename_i hhealth
        cases h
        exact .refuse new (by simp [Action.inner?, hhealth]) (by simp [Router.health])
      · rename_i hlookup
        exact moves_of_lookup new hlookup h
  | answer id =>
    simp only [step?] at h
    split at h
    · rename_i hat hstep
      obtain ⟨pipeline, hp, rfl⟩ := withPipeline_eq_some.mp hstep
      split at h
      · rename_i hc
        cases h
        exact .answer hat hp hc rfl
      · cases h
    · cases h
  | leave id =>
    simp only [step?] at h
    split at h
    · rename_i hat
      simp only [Option.map_eq_some_iff, withPipeline_eq_some] at h
      obtain ⟨_, ⟨pipeline, hp, rfl⟩, rfl⟩ := h
      exact .leave hat hp
    · cases h
  | accounts round reply =>
    obtain ⟨pipeline, hp, rfl⟩ := withPipeline_eq_some.mp h
    exact .inner rfl rfl hp
  | profile run reply =>
    obtain ⟨pipeline, hp, rfl⟩ := withPipeline_eq_some.mp h
    exact .inner rfl rfl hp
  | inner action =>
    simp only [step?] at h
    split at h
    · rename_i hinner
      obtain ⟨pipeline, hp, rfl⟩ := withPipeline_eq_some.mp h
      refine .inner rfl ?_ hp
      cases action <;> first | rfl | cases hinner
    · cases h

/-- What a step does in the pipeline, if it does anything there. -/
theorem Moves.pipeline (h : Moves now g a u) :
    match a.inner? with
    | none => u.pipeline = g.pipeline
    | some action => g.pipeline.step? now action = some u.pipeline := by
  cases h with
  | refuse _ none_ =>
    rw [none_]
    rfl
  | seek _ own stepped =>
    rw [own]
    exact stepped
  | answer _ stepped => exact stepped
  | leave _ stepped => exact stepped
  | inner own _ stepped =>
    rw [own]
    exact stepped

/-- Only a reply of the account service tells the queue what became of a batch. -/
theorem accounts_of_inner? {n : Nat} {result : Except RemoteError (List Account)}
    (hs : g.step? now a = some u) (own : a.inner? = some (.batch (.deliver n result))) :
    ∃ reply, a = .accounts n reply ∧ result = Client.accountsOf reply := by
  cases a with
  | get id path =>
    simp only [Action.inner?] at own
    split at own
    · split at own <;> cases own
    · cases own
  | accounts n' reply =>
    cases own
    exact ⟨reply, rfl, rfl⟩
  | inner =>
    cases own
    cases hs
  | answer | leave | profile => cases own

/-- Only a reply of the session server tells a run what became of its request. -/
theorem profile_of_inner? {run : Nat} {result : Except RemoteError (Option Profile)}
    (hs : g.step? now a = some u) (own : a.inner? = some (.fetched run result)) :
    ∃ reply, a = .profile run reply ∧ result = Client.profileOf reply := by
  cases a with
  | get id path =>
    simp only [Action.inner?] at own
    split at own
    · split at own <;> cases own
    · cases own
  | profile run' reply =>
    cases own
    exact ⟨reply, rfl, rfl⟩
  | inner =>
    cases own
    cases hs
  | answer | leave | accounts => cases own

end

/-- A step with its time. -/
def Step (g : Gateway σ) (a : Nat × Action) (u : Gateway σ) : Prop := g.step? a.1 a.2 = some u

/-- An entry of a log: an action with its time, and the state in which it was taken. -/
abbrev Entry (σ : Type) := Gateway σ × (Nat × Action)

section

variable {store : σ} {settings : BatchSettings} {log : List (Entry σ)} {g : Gateway σ}

theorem Step.pipeline {g u : Gateway σ} {now : Nat} {a : Action} {action : Pipeline.Action}
    (hs : Step g (now, a) u) (own : a.inner? = some action) :
    Pipeline.Step g.pipeline (now, action) u.pipeline := by
  have hmove := (moves_of_step? hs).pipeline
  rw [own] at hmove
  exact hmove

/-- A run of the service is a run of the pipeline. -/
theorem pipeline_of_history {s t : Gateway σ} (h : History Step s log t) :
    ∃ inner, History Pipeline.Step s.pipeline inner t.pipeline ∧
      (∀ d ∈ inner, ∃ e ∈ log, ∃ action, e.2.2.inner? = some action ∧
        d = (e.1.pipeline, (e.2.1, action))) ∧
      ∀ e ∈ log, ∀ action, e.2.2.inner? = some action →
        (e.1.pipeline, (e.2.1, action)) ∈ inner := by
  obtain ⟨inner, hinner, hfrom, hto⟩ :=
    History.project (fun g : Gateway σ => g.pipeline) Pipeline.Step
      (fun e b => b = e.2.2.inner?.map (e.2.1, ·)) h <| by
    intro e _ u hs
    have hmove := (moves_of_step? hs).pipeline
    refine ⟨_, rfl, ?_⟩
    cases hown : e.2.2.inner? with
    | none =>
      rw [hown] at hmove
      exact hmove
    | some action =>
      rw [hown] at hmove
      exact hmove
  refine ⟨inner, hinner, ?_, ?_⟩
  · intro d hd
    obtain ⟨e, he, heq, hown⟩ := hfrom d hd
    obtain ⟨action, ha, htimed⟩ := Option.map_eq_some_iff.mp hown.symm
    exact ⟨e, he, action, ha, Prod.ext heq htimed.symm⟩
  · intro e he action ha
    obtain ⟨b, rfl, hmem⟩ := hto e he
    exact hmem _ (by rw [ha]; rfl)

end

/-! ### Requests and their calls -/

/-- `Fits call visit`: a request with this call, if it has one, has come this far. -/
inductive Fits : Option (Flight.Call FetchResult) → Visit → Prop
  | refused {reply : Router.Reply} (unlimited : reply.status ≠ 429) : Fits none (.answered reply)
  | waiting {call : Flight.Call FetchResult} {form : Router.Form} (waiting : call.phase = .waiting) :
      Fits (some call) (.waiting form)
  | answered {call : Flight.Call FetchResult} {result : FetchResult} (form : Router.Form)
      (returned : call.phase = .returned result) :
      Fits (some call) (.answered (Router.answer form (present result)))
  | gone {call : Flight.Call FetchResult} : Fits (some call) .gone

/-- Whether every call is that of a request, and has come as far. -/
structure Agrees (g : Gateway σ) : Prop where
  visit : ∀ id visit, g.visits.get? id = some visit →
    Fits (g.pipeline.resolver.group.calls.get? id) visit
  called : ∀ id, g.visits.get? id = none → g.pipeline.resolver.group.calls.get? id = none

namespace Agrees

variable {now id : Nat} {g u : Gateway σ} {a : Action}

omit [NameStore σ] in
theorem ofStore (store : σ) (settings : BatchSettings) : Agrees (ofStore store settings) where
  visit id visit h := by cases h
  called id _ := rfl

omit [NameStore σ] in
/-- A request comes as far as its call, and nothing happens to the others. -/
theorem insert (hg : Agrees g) {pipeline : Pipeline σ} {visit : Visit}
    {call : Flight.Call FetchResult} (fits : Fits (some call) visit)
    (hcalls : pipeline.resolver.group.calls = g.pipeline.resolver.group.calls.insert id call) :
    Agrees ⟨pipeline, g.visits.insert id visit⟩ where
  visit i v hv := by
    simp only [hcalls, Table.get?_insert] at hv ⊢
    split at hv
    · rename_i heq
      cases hv
      rw [if_pos heq]
      exact fits
    · rename_i hne
      rw [if_neg hne]
      exact hg.visit i v hv
  called i hv := by
    simp only [hcalls, Table.get?_insert] at hv ⊢
    split at hv
    · cases hv
    · rename_i hne
      rw [if_neg hne]
      exact hg.called i hv

omit [NameStore σ] in
theorem refuse (hg : Agrees g) {reply : Router.Reply} (new : g.visits.get? id = none)
    (unlimited : reply.status ≠ 429) : Agrees (g.setVisit id (.answered reply)) where
  visit i v hv := by
    simp only [setVisit, Table.get?_insert] at hv ⊢
    split at hv
    · rename_i heq
      cases hv
      rw [heq, hg.called id new]
      exact .refused unlimited
    · exact hg.visit i v hv
  called i hv := by
    simp only [setVisit, Table.get?_insert] at hv ⊢
    split at hv
    · cases hv
    · exact hg.called i hv

theorem move (hg : Agrees g) (h : Moves now g a u) : Agrees u := by
  cases h with
  | refuse new _ unlimited => exact hg.refuse new unlimited
  | @seek id _ name form pipeline _ _ stepped =>
    have hrecalls := (Pipeline.moves_of_step? stepped).recalls
    generalize hcalls : pipeline.resolver.group.calls = calls at hrecalls
    cases hrecalls with
    | call waiting => exact hg.insert (.waiting waiting) hcalls
    | same other => cases other
  | @answer id form pipeline call result _ stepped hc returned =>
    have hrecalls := (Pipeline.moves_of_step? stepped).recalls
    generalize hcalls : pipeline.resolver.group.calls = calls at hrecalls hc
    cases hrecalls with
    | @collect _ call' =>
      obtain rfl : call' = call := by simpa using hc
      exact hg.insert (.answered form returned) hcalls
    | same other => cases other
  | @leave id form pipeline _ stepped =>
    have hrecalls := (Pipeline.moves_of_step? stepped).recalls
    generalize hcalls : pipeline.resolver.group.calls = calls at hrecalls
    cases hrecalls with
    | drop => exact hg.insert .gone hcalls
    | same other => cases other
  | @inner _ action pipeline _ other stepped =>
    have hrecalls := (Pipeline.moves_of_step? stepped).recalls
    generalize hcalls : pipeline.resolver.group.calls = calls at hrecalls
    cases hrecalls with
    | same =>
      refine ⟨fun id visit hv => ?_, fun id hv => ?_⟩
      · rw [hcalls]
        exact hg.visit id visit hv
      · rw [hcalls]
        exact hg.called id hv
    | _ => cases other

end Agrees

theorem agrees_of_history {store : σ} {settings : BatchSettings} {log : List (Entry σ)}
    {g : Gateway σ} (h : History Step (ofStore store settings) log g) : Agrees g :=
  h.invariant (.ofStore store settings) fun _ _ _ hg hs => hg.move (moves_of_step? hs)

end Gateway

end SkinRelay
