import SkinRelay.Proofs.Batch.Transparency
import SkinRelay.Proofs.Caches
import SkinRelay.Proofs.Pipeline.Waiters

/-!
Requests and what is kept of their outcome: which steps of the service send something upstream, which
of them store what came back, and which bring nothing but an error. Nothing else changes the store
and the cache, apart from sweeps (`Moves.store`, `Moves.entries`).
-/

namespace SkinRelay.Pipeline

section

variable {σ : Type}

/-- A request for accounts is sent that holds the name of a run. -/
def Asks (run : Nat) (key : String) (e : Entry σ) : Prop :=
  ∃ n round, e.2.2 = .batch (.send n) ∧ e.1.batch.rounds.get? n = some round ∧
    ∃ job ∈ round.jobs, job.id = run ∧ Username.key job.username = key

/-- A run stores what was learnt about its name, and the store does not fail. -/
def Records (run : Nat) (key : String) (e : Entry σ) : Prop :=
  e.2.2 = .work run none ∧ ∃ username found, e.1.resolver.group.runs.get? run =
    some ⟨key, .working (.naming username (.writing found))⟩

/-- A run sends a request for the profile of an account id. -/
def Fetches (run : Nat) (id : String) (e : Entry σ) : Prop :=
  ∃ fault account, e.2.2 = .work run fault ∧ account.id = id ∧
    e.1.resolver.group.work? run = some (.dressing account .missed)

/-- A run puts what was learnt about an account id into the cache. -/
def Caches (run : Nat) (id : String) (e : Entry σ) : Prop :=
  ∃ fault account found, e.2.2 = .work run fault ∧ account.id = id ∧
    e.1.resolver.group.work? run = some (.dressing account (.storing found))

/-- `Fails run key wanted e`: a request of the run for this name fails. It was one for accounts, or
one for the profile of the account id `wanted`. -/
inductive Fails (run : Nat) (key : String) (e : Entry σ) : Option String → Prop
  | accounts {n : Nat} {error : RemoteError} {round : Batch.Round} {job : Batch.Job}
      (delivers : e.2.2 = .batch (.deliver n (.error error)))
      (at_ : e.1.batch.rounds.get? n = some round) (carried : job ∈ round.jobs)
      (own : job.id = run) (name : Username.key job.username = key) : Fails run key e none
  | profile {error : RemoteError} {account : Account} {request : Nat}
      (fetched : e.2.2 = .fetched run (.error error))
      (at_ : e.1.resolver.group.runs.get? run =
        some ⟨key, .working (.dressing account (.fetching request))⟩) :
      Fails run key e (some account.id)

end

/-! ### What changes the store and the cache -/

section

variable {σ : Type} [NameStore σ] {now : Nat} {p q : Pipeline σ} {a : Action}

/-- Only a run that stores an answer changes the store. -/
theorem Moves.store (h : Moves now p a q) :
    q.known.store = p.known.store ∨ ∃ run key username found, a = .work run none ∧
      p.resolver.group.runs.get? run = some ⟨key, .working (.naming username (.writing found))⟩ ∧
      q.resolver.group.runs.get? run =
        some ⟨key, .working (.naming username (.done (.ok found)))⟩ ∧
      q.known.store = NameStore.record p.known.store now
        (KnownAccounts.storedName username found) (found.map (·.id)) := by
  cases h with
  | @proceed a run work next known textures resolver hat hproceeds stepped =>
    cases hproceeds with
    | read => exact .inl (KnownAccounts.read_store ..)
    | @write username found fault =>
      cases fault with
      | some error => exact .inl rfl
      | none =>
        obtain ⟨key, hr⟩ := Flight.work?_eq_some.mp hat
        have hnext := (Resolver.group_of_step? stepped).advance hr
        exact .inr ⟨run, key, username, found, rfl, hr, hnext, rfl⟩
    | _ => exact .inl rfl
  | _ => exact .inl rfl

/-- Only a run that has a profile, and the sweeper, change the cache. -/
theorem Moves.entries (h : Moves now p a q) :
    q.textures.entries = p.textures.entries ∨
    q.textures.entries = p.textures.entries.sweep now ∨
    ∃ run key account found fault, a = .work run fault ∧
      p.resolver.group.runs.get? run =
        some ⟨key, .working (.dressing account (.storing found))⟩ ∧
      q.resolver.group.runs.get? run =
        some ⟨key, .working (.dressing account (.stored found))⟩ ∧
      q.textures.entries = p.textures.entries.insert now account.id found := by
  cases h with
  | @proceed a run work next known textures resolver hat hproceeds stepped =>
    cases hproceeds with
    | @cache account fault _ _ _ advances =>
      cases TexturesCache.advances_of_advance? advances with
      | @store found =>
        obtain ⟨key, hr⟩ := Flight.work?_eq_some.mp hat
        have hnext := (Resolver.group_of_step? stepped).advance hr
        exact .inr (.inr ⟨run, key, account, found, fault, rfl, hr, hnext, rfl⟩)
      | hit | miss | request | sweep => exact .inl rfl
    | _ => exact .inl rfl
  | sweep => exact .inr (.inl rfl)
  | _ => exact .inl rfl

/-- Only a run whose lookup has missed sends a request to the session server. -/
theorem Moves.requests (h : Moves now p a q) :
    q.textures.requests = p.textures.requests ∨ ∃ run account fault, a = .work run fault ∧
      p.resolver.group.work? run = some (.dressing account .missed) := by
  cases h with
  | @proceed a run work next known textures resolver hat hproceeds stepped =>
    cases hproceeds with
    | @cache account fault _ _ _ advances =>
      cases TexturesCache.advances_of_advance? advances with
      | request => exact .inr ⟨run, account, fault, rfl, hat⟩
      | hit | miss | store | sweep => exact .inl rfl
    | _ => exact .inl rfl
  | _ => exact .inl rfl

/-- What a run does by itself is determined by its work, unless it waits or has come to its end. -/
theorem Moves.proceeds {run : Nat} {fault : Option StoreError} (h : Moves now p (.work run fault) q)
    {work : Work} (hwork : p.resolver.group.work? run = some work) (unended : work.result? = none)
    (answered : ∀ username, work ≠ .naming username .asking) :
    ∃ next known textures, Proceeds now p run (.work run fault) work next known textures ∧
      q.known = known ∧ q.textures = textures := by
  cases h with
  | turn own => cases own
  | @proceed _ run' work' next known textures _ hat hproceeds =>
    obtain rfl : run = run' := by cases hproceeds <;> rfl
    obtain rfl : work = work' := Option.some.inj (hwork.symm.trans hat)
    exact ⟨next, known, textures, hproceeds, rfl, rfl⟩
  | finish hat ends =>
    cases hwork.symm.trans hat
    rw [unended] at ends
    cases ends
  | ask hat =>
    cases hwork.symm.trans hat
    exact absurd rfl (answered _)

theorem Moves.records {run : Nat} (h : Moves now p (.work run none) q) {key username : String}
    {found : Option Account} (hr : p.resolver.group.runs.get? run =
      some ⟨key, .working (.naming username (.writing found))⟩) :
    q.known.store = NameStore.record p.known.store now
      (KnownAccounts.storedName username found) (found.map (·.id)) := by
  obtain ⟨_, _, _, hproceeds, hknown, -⟩ :=
    h.proceeds (Flight.work?_eq_some.mpr ⟨key, hr⟩) rfl (by simp)
  cases hproceeds with
  | write => rw [hknown, KnownAccounts.write]

theorem Moves.caches {run : Nat} {fault : Option StoreError} (h : Moves now p (.work run fault) q)
    {account : Account} {found : Option Fetched}
    (hwork : p.resolver.group.work? run = some (.dressing account (.storing found))) :
    q.textures.entries = p.textures.entries.insert now account.id found := by
  obtain ⟨_, _, _, hproceeds, -, htextures⟩ := h.proceeds hwork rfl (by simp)
  cases hproceeds with
  | cache advances =>
    cases advances
    rw [htextures]

end

/-! ### Calls of the queue that return -/

section

variable {σ : Type} [NameStore σ] {store : σ} {settings : BatchSettings} {log : List (Entry σ)}
  {p : Pipeline σ}

/-- A run that was there is there, with its key. -/
theorem run_of_history (h : History Step (ofStore store settings) log p) {e : Entry σ}
    (he : e ∈ log) {run : Nat} {key : String} {phase : Flight.Phase Work FetchResult}
    (hr : e.1.resolver.group.runs.get? run = some ⟨key, phase⟩) :
    ∃ next, p.resolver.group.runs.get? run = some ⟨key, next⟩ := by
  obtain ⟨before, after, u, -, hbefore, hs, hafter⟩ := h.cut he
  have hu := (moves_of_step? hs).run (coherent_of_history hbefore) hr
  refine (hafter.invariant
    (I := fun t => Flight.Coherent t.resolver.group ∧
      ∃ next, t.resolver.group.runs.get? run = some ⟨key, next⟩)
    ⟨coherent_of_history (hbefore.next hs), hu⟩ ?_).2
  rintro t a v ⟨coherent, next, hnext⟩ hv
  exact ⟨(moves_of_step? hv).coherent coherent, (moves_of_step? hv).run coherent hnext⟩

/-- The jobs of a batch that was sent are those of runs that ask. -/
theorem asks_of_send (h : History Step (ofStore store settings) log p) {e : Entry σ} (he : e ∈ log)
    {n : Nat} {round : Batch.Round} (sends : e.2.2 = .batch (.send n))
    (at_ : e.1.batch.rounds.get? n = some round) {job : Batch.Job} (hj : job ∈ round.jobs) :
    Username.key job.username = job.username ∧
      e.1.resolver.group.runs.get? job.id =
        some ⟨job.username, .working (.naming job.username .asking)⟩ := by
  obtain ⟨before, after, u, -, hbefore, hs, -⟩ := h.cut he
  obtain ⟨t, now, action⟩ := e
  obtain rfl : action = .batch (.send n) := sends
  have hpending := (pending_of_send hs at_).subset hj
  obtain ⟨-, -, -, hr⟩ := waiter_of_pending hbefore hpending
  exact ⟨key_of_pending hbefore hpending, hr⟩

/-- What the call of a run returns was asked for upstream, unless the queue has been stopped. -/
theorem asked_of_returned (h : History Step (ofStore store settings) log p) {run : Nat}
    {call : Batch.Call} {result : AccountResult} (hc : p.batch.calls.get? run = some call)
    (hp : call.phase = .returned result) :
    p.batch.lifecycle = .stopped ∨ ∃ e ∈ log, Asks run call.username e := by
  obtain ⟨queueLog, hqueue, hfrom, -⟩ := queueLog_of_history h
  obtain ⟨htoken, -, phase, hr, -⟩ := (attended_of_history h).caller run call hc
  rcases (orderly_of_history h).returned run call result hc hp with
    ⟨-, rfl⟩ | ⟨fired, -⟩ | ⟨fate, hf, hres⟩
  · exact .inl ((Batch.stops_of_history hqueue).rejected run call hc hp)
  · rw [htoken] at fired
    cases fired
  · cases fate with
    | discarded => cases hres
    | cleared => exact .inl ((Batch.stops_of_history hqueue).cleared run hf)
    | answered reply =>
      right
      obtain ⟨⟨b, now, action⟩, he', n, round, rfl, hat, job, hj, hid⟩ :=
        Batch.sent_of_answered hqueue hf
      obtain ⟨⟨t, now', a⟩, he, rfl, -, hqueues⟩ := hfrom _ he'
      dsimp only at hqueues
      cases hqueues with
      | ask _ hasks => cases isOfQueue_of_asks hasks
      | own =>
        obtain ⟨hkey, hr'⟩ := asks_of_send h he rfl hat hj
        obtain ⟨next, hnext⟩ := run_of_history h he hr'
        rw [hid] at hnext
        have hname : job.username = call.username :=
          congrArg Flight.Run.key (Option.some.inj (hnext.symm.trans hr))
        exact ⟨_, he, n, round, rfl, hat, job, hj, hid, hkey.trans hname⟩

end

end SkinRelay.Pipeline
