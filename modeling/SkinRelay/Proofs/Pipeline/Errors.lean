import SkinRelay.Proofs.Pipeline.Requests

/-!
Errors from upstream. A run ends with one exactly if a request that was made for it failed with it
(`ruined_iff`), and from the failure on it leaves the store and the cache as they are.
-/

namespace SkinRelay.Pipeline

section

variable {σ : Type}

/-- `Refused run error e`: a request that was made for a run fails with this error. -/
inductive Refused (run : Nat) (error : RemoteError) (e : Entry σ) : Prop
  | accounts {n : Nat} {round : Batch.Round} {job : Batch.Job}
      (delivers : e.2.2 = .batch (.deliver n (.error error)))
      (at_ : e.1.batch.rounds.get? n = some round) (carried : job ∈ round.jobs) (own : job.id = run)
  | profile (fetched : e.2.2 = .fetched run (.error error))

end

/-- Whether a work ends with an error from upstream, of which it may have to hear from the queue
first. -/
def Work.Ruined (b : Batch) (run : Nat) (error : RemoteError) : Work → Prop
  | .naming _ .asking => b.fates.get? run = some (.answered (.error error))
  | .naming _ (.done result) => result = .error (.remote error)
  | .dressing _ (.done result) => result = .error (.remote error)
  | _ => False

/-- Whether a run in this phase ends with an error from upstream. -/
def Ruined (b : Batch) (run : Nat) (error : RemoteError) : Flight.Phase Work FetchResult → Prop
  | .entered work | .working work => work.Ruined b run error
  | .finished result | .released result | .published result => result = .error (.remote error)
  | _ => False

section

variable {run : Nat} {error : RemoteError} {b c : Batch} {phase : Flight.Phase Work FetchResult}

/-- Only what a run may have to hear from the queue depends on the queue. -/
theorem Ruined.cases (h : Ruined b run error phase) :
    b.fates.get? run = some (.answered (.error error)) ∧
        (∃ username, phase = .entered (.naming username .asking) ∨
          phase = .working (.naming username .asking)) ∨
      ∀ c, Ruined c run error phase := by
  unfold Ruined Work.Ruined at h
  split at h
  · split at h
    · exact .inl ⟨h, _, .inl rfl⟩
    · exact .inr fun _ => h
    · exact .inr fun _ => h
    · exact h.elim
  · split at h
    · exact .inl ⟨h, _, .inr rfl⟩
    · exact .inr fun _ => h
    · exact .inr fun _ => h
    · exact h.elim
  · exact .inr fun _ => h
  · exact .inr fun _ => h
  · exact .inr fun _ => h
  · exact h.elim

theorem Ruined.mono
    (kept : ∀ fate, b.fates.get? run = some fate → c.fates.get? run = some fate)
    (h : Ruined b run error phase) : Ruined c run error phase := by
  rcases h.cases with ⟨hf, username, rfl | rfl⟩ | hall
  · exact kept _ hf
  · exact kept _ hf
  · exact hall c

/-- The work of a run that is ruined ends with the error. -/
theorem Work.Ruined.result {work : Work} {result : FetchResult} (ends : work.result? = some result) :
    work.Ruined b run error ↔ result = .error (.remote error) := by
  match work, ends with
  | .naming _ (.done (.error cause)), rfl => simp [Work.Ruined]
  | .naming _ (.done (.ok none)), rfl => simp [Work.Ruined]
  | .dressing _ (.done result), rfl => exact Iff.rfl

end

section

variable {σ : Type} [NameStore σ] {store : σ} {settings : BatchSettings} {log : List (Entry σ)}
  {p q : Pipeline σ} {now : Nat} {a : Action} {run : Nat} {error : RemoteError}

/-! ### What the queue says -/

/-- A job is answered with an error if the request with it failed, and only then. -/
theorem refused_of_fate (h : History Step (ofStore store settings) log p)
    (hf : p.batch.fates.get? run = some (.answered (.error error))) :
    ∃ e ∈ log, Refused run error e := by
  obtain ⟨queueLog, hqueue, hfrom, -⟩ := queueLog_of_history h
  obtain ⟨⟨b, now, action⟩, he', hd⟩ := Batch.decided_of_history hqueue hf
  obtain ⟨⟨t, now', a⟩, he, rfl, -, hqueues⟩ := hfrom _ he'
  dsimp only at hd hqueues
  generalize hfate : Batch.Fate.answered (.error error) = fate at hd
  cases hd with
  | discard | clear => cases hfate
  | @answer n time round job result hat _ hj =>
    cases result with
    | ok accounts => cases hfate
    | error cause =>
      cases hfate
      cases hqueues with
      | ask _ hasks => cases isOfQueue_of_asks hasks
      | own => exact ⟨_, he, .accounts rfl hat hj rfl⟩

theorem fate_of_delivered (h : History Step (ofStore store settings) log p) {e : Entry σ}
    (he : e ∈ log) {n : Nat} {round : Batch.Round} {job : Batch.Job}
    (delivers : e.2.2 = .batch (.deliver n (.error error)))
    (at_ : e.1.batch.rounds.get? n = some round) (carried : job ∈ round.jobs) :
    p.batch.fates.get? job.id = some (.answered (.error error)) := by
  obtain ⟨queueLog, hqueue, -, hto⟩ := queueLog_of_history h
  exact Batch.fate_of_delivered hqueue (hto e he _ delivers) rfl at_ carried

/-- The call of a run returns an error from upstream if its job has been answered with that. -/
theorem returned_iff (h : History Step (ofStore store settings) log p) {call : Batch.Call}
    {result : AccountResult} (hc : p.batch.calls.get? run = some call)
    (hp : call.phase = .returned result) :
    result = .error (.remote error) ↔
      p.batch.fates.get? run = some (.answered (.error error)) := by
  have ordered := orderly_of_history h
  rcases ordered.returned run call result hc hp with ⟨hnone, rfl⟩ | ⟨fired, -⟩ | ⟨fate, hf, hres⟩
  · refine ⟨by simp, fun hf => ?_⟩
    obtain ⟨place, hplace, -⟩ := ordered.decided hf
    rw [hnone] at hplace
    cases hplace
  · rw [((attended_of_history h).caller run call hc).1] at fired
    cases fired
  · rw [hf]
    cases fate with
    | discarded => cases hres
    | cleared =>
      cases hres
      simp
    | answered reply =>
      cases hres
      cases reply <;> simp [Except.mapError]

/-! ### One step -/

theorem Moves.fates (h : Moves now p a q) (ordered : Batch.Orderly p.batch) (run : Nat)
    (fate : Batch.Fate) (hf : p.batch.fates.get? run = some fate) :
    q.batch.fates.get? run = some fate := by
  rcases h.ofQueue with ⟨hsame, -⟩ | ⟨action, hstep, -⟩
  · rw [hsame]
    exact hf
  · exact ordered.fate_kept (Batch.moves_of_step? hstep) hf

/-- A run that is ruined stays so. -/
theorem Ruined.move (h : History Step (ofStore store settings) log p) (hmove : Moves now p a q)
    {key : String} {old phase : Flight.Phase Work FetchResult}
    (hp : p.resolver.group.runs.get? run = some ⟨key, old⟩)
    (hq : q.resolver.group.runs.get? run = some ⟨key, phase⟩)
    (ruined : Ruined p.batch run error old) : Ruined q.batch run error phase := by
  have kept := hmove.fates (orderly_of_history h) run
  rcases hmove.passes (coherent_of_history h) hq with
    hsame | ⟨hnone, -⟩ | ⟨old', _, _, hp', hpasses, -⟩
  · cases hp.symm.trans hsame
    exact ruined.mono kept
  · rw [hp] at hnone
    cases hnone
  · cases hp.symm.trans hp'
    cases hpasses with
    | spawn => exact ruined.mono kept
    | proceed hproceeds =>
      cases hproceeds with
      | @answered _ _ _ result hc returned =>
        obtain rfl := (returned_iff h hc returned).mpr ruined
        rfl
      | @cache _ _ stage _ _ advances => cases stage <;> first | exact ruined.elim | cases advances
      | dress => cases ruined
      | read | write | fetched => exact ruined.elim
    | finish ends => exact (Work.Ruined.result ends).mp ruined
    | release => exact ruined
    | publish => exact ruined
    | unwind | lose => exact ruined.elim

/-- The jobs of a batch that gets its reply are those of runs that ask. -/
theorem asks_of_deliver (h : History Step (ofStore store settings) log p) {n : Nat}
    {result : Except RemoteError (List Account)} (hs : Step p (now, .batch (.deliver n result)) q)
    {round : Batch.Round} {job : Batch.Job} (at_ : p.batch.rounds.get? n = some round)
    (hj : job ∈ round.jobs) :
    p.resolver.group.runs.get? job.id =
      some ⟨job.username, .working (.naming job.username .asking)⟩ := by
  obtain ⟨batch, hqueue, -⟩ := (moves_of_step? hs).ofBatch
  cases hqueue with
  | @deliver _ time round' _ hat sent =>
    obtain rfl : round = round' := Option.some.inj (at_.symm.trans hat)
    have hpending := (Batch.round_sublist_pending hat (by simp [sent])).subset hj
    obtain ⟨-, -, -, hr⟩ := waiter_of_pending h hpending
    exact hr

/-- The run that gets a reply from the session server waits for it. -/
theorem fetches_of_fetched {reply : Except RemoteError (Option Profile)}
    (hs : Step p (now, .fetched run reply) q) :
    q.known = p.known ∧ q.textures = p.textures ∧ ∃ key account request,
      p.resolver.group.runs.get? run = some ⟨key, .working (.dressing account (.fetching request))⟩ ∧
      q.resolver.group.runs.get? run = some ⟨key, .working
        (.dressing account (TexturesCache.fetched (FetchResult.ofReply request reply)))⟩ := by
  cases moves_of_step? hs with
  | turn own => cases own
  | proceed hat hproceeds stepped =>
    cases hproceeds with
    | @fetched account request =>
      obtain ⟨key, hr⟩ := Flight.work?_eq_some.mp hat
      exact ⟨rfl, rfl, key, account, request, hr, (Resolver.group_of_step? stepped).advance hr⟩

/-- A request that fails is that of a run which waits for it, and ruins the run. -/
theorem Refused.ruins (h : History Step (ofStore store settings) log p) (hs : Step p (now, a) q)
    (refused : Refused run error (p, (now, a))) :
    q.known = p.known ∧ q.textures = p.textures ∧
    ∃ key phase, q.resolver.group.runs.get? run = some ⟨key, phase⟩ ∧
      Ruined q.batch run error phase := by
  cases refused with
  | @accounts n round job delivers hat hj own =>
    subst own
    obtain rfl : a = .batch (.deliver n (.error error)) := delivers
    have hfate := fate_of_delivered (h.next hs) (List.mem_append_right _ List.mem_cons_self) rfl hat hj
    have hr := asks_of_deliver h hs hat hj
    obtain ⟨batch, -, rfl⟩ := (moves_of_step? hs).ofBatch
    exact ⟨rfl, rfl, _, _, hr, hfate⟩
  | profile fetched =>
    obtain rfl : a = .fetched run (.error error) := fetched
    obtain ⟨hknown, htextures, key, account, request, -, hr⟩ := fetches_of_fetched hs
    exact ⟨hknown, htextures, key, _, hr, rfl⟩

/-- A run that is ruined leaves the store and the cache as they are. -/
theorem Ruined.frame {fault : Option StoreError} (h : Moves now p (.work run fault) q)
    {key : String} {phase : Flight.Phase Work FetchResult}
    (hp : p.resolver.group.runs.get? run = some ⟨key, phase⟩)
    (ruined : Ruined p.batch run error phase) : q.known = p.known ∧ q.textures = p.textures := by
  cases h with
  | turn own => cases own
  | @proceed _ run' work _ _ _ _ hat hproceeds =>
    obtain rfl : run = run' := by cases hproceeds <;> rfl
    obtain ⟨key', hp'⟩ := Flight.work?_eq_some.mp hat
    cases hp.symm.trans hp'
    cases hproceeds with
    | answered => exact ⟨rfl, rfl⟩
    | dress => exact ⟨rfl, rfl⟩
    | @cache _ _ stage _ _ advances => cases stage <;> first | exact ruined.elim | cases advances
    | read | write => exact ruined.elim
  | finish | ask => exact ⟨rfl, rfl⟩

/-! ### Runs -/

theorem ruined_of_refused (h : History Step (ofStore store settings) log p) {e : Entry σ}
    (he : e ∈ log) (refused : Refused run error e) :
    ∃ key phase, p.resolver.group.runs.get? run = some ⟨key, phase⟩ ∧
      Ruined p.batch run error phase := by
  induction h with
  | start => cases he
  | next h hs ih =>
    rcases List.mem_append.mp he with hold | hnew
    · obtain ⟨key, old, hr, ruined⟩ := ih hold
      obtain ⟨phase, hr'⟩ := (moves_of_step? hs).run (coherent_of_history h) hr
      exact ⟨key, phase, hr', ruined.move h (moves_of_step? hs) hr hr'⟩
    · obtain rfl := List.mem_singleton.mp hnew
      exact (refused.ruins h hs).2.2

/-- What a work that is ruined goes on from was ruined, unless a reply has just ruined it. -/
theorem Proceeds.ruined (h : History Step (ofStore store settings) log p) {work next : Work}
    {known : KnownAccounts σ} {textures : TexturesCache}
    (hproceeds : Proceeds now p run a work next known textures)
    (ruined : next.Ruined p.batch run error) :
    p.batch.fates.get? run = some (.answered (.error error)) ∨ a = .fetched run (.error error) := by
  cases hproceeds with
  | @read username fault =>
    have hreads := p.known.reads_read now fault username
    generalize (p.known.read now fault username).1 = stage at hreads ruined
    cases hreads with
    | miss => exact .inl ruined
    | fail | hit => cases ruined
  | @answered _ _ _ result hc returned =>
    cases result with
    | error cause => exact .inl ((returned_iff h hc returned).mp ruined)
    | ok => exact ruined.elim
  | write => cases ruined
  | dress => exact ruined.elim
  | cache advances =>
    cases TexturesCache.advances_of_advance? advances with
    | hit | sweep => cases ruined
    | miss | request | store => exact ruined.elim
  | @fetched _ _ reply =>
    cases reply with
    | error cause =>
      cases ruined
      exact .inr rfl
    | ok => exact ruined.elim

/-- A run is ruined by a request that was made for it. -/
theorem refused_of_ruined (h : History Step (ofStore store settings) log p) {key : String}
    {phase : Flight.Phase Work FetchResult}
    (hp : p.resolver.group.runs.get? run = some ⟨key, phase⟩)
    (ruined : Ruined p.batch run error phase) : ∃ e ∈ log, Refused run error e := by
  induction h generalizing phase with
  | start => cases hp
  | @next log t u a h hs ih =>
    obtain ⟨now, a⟩ := a
    have keep : (∃ e ∈ log, Refused run error e) →
        ∃ e ∈ log ++ [(t, (now, a))], Refused run error e := by
      rintro ⟨e, he, refused⟩
      exact ⟨e, List.mem_append_left _ he, refused⟩
    rcases ruined.cases with ⟨hfate, -⟩ | hruined
    · exact refused_of_fate (h.next hs) hfate
    rcases (moves_of_step? hs).passes (coherent_of_history h) hp with
      hsame | ⟨-, rfl, -⟩ | ⟨old, _, _, hr, hpasses, -⟩
    · exact keep (ih hsame (hruined _))
    · exact ruined.elim
    · cases hpasses with
      | proceed hproceeds =>
        rcases hproceeds.ruined h (hruined _) with hfate | rfl
        · exact keep (refused_of_fate h hfate)
        · exact ⟨_, List.mem_append_right _ List.mem_cons_self, .profile rfl⟩
      | finish ends => exact keep (ih hr ((Work.Ruined.result ends).mpr ruined))
      | spawn => exact keep (ih hr (hruined _))
      | release => exact keep (ih hr ruined)
      | publish => exact keep (ih hr ruined)
      | unwind | lose => exact ruined.elim

/-- A run ends with an error from upstream exactly if a request that was made for it failed so. -/
theorem ruined_iff (h : History Step (ofStore store settings) log p) {key : String}
    {phase : Flight.Phase Work FetchResult}
    (hp : p.resolver.group.runs.get? run = some ⟨key, phase⟩) :
    Ruined p.batch run error phase ↔ ∃ e ∈ log, Refused run error e := by
  refine ⟨refused_of_ruined h hp, ?_⟩
  rintro ⟨e, he, refused⟩
  obtain ⟨_, _, hp', ruined⟩ := ruined_of_refused h he refused
  cases hp.symm.trans hp'
  exact ruined

end

end SkinRelay.Pipeline
