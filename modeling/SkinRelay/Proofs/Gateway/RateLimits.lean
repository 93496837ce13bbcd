import SkinRelay.Proofs.Gateway.Visits
import SkinRelay.Proofs.Pipeline.Progress

/-!
Rate limits. A request is answered that there are too many of them exactly if the run that served it
had this reply from one of the two servers; nothing of that is stored (`rate_limits_surface`).
-/

namespace SkinRelay

/-! ### What says that there are too many requests -/

theorem RemoteError.ofStatus_eq_tooManyRequests {status : Nat} {body : Bytes} :
    ofStatus status body = .tooManyRequests ↔ status = 429 := by
  unfold ofStatus
  constructor
  · intro h
    split at h
    · cases h
    · split at h
      · cases h
      · split at h
        · assumption
        · split at h <;> cases h
  · rintro rfl
    rfl

theorem Client.accountsOf_eq_tooManyRequests {reply : Reply} :
    accountsOf reply = .error .tooManyRequests ↔ ∃ body, reply = .received 429 body := by
  cases reply with
  | lost => simp [accountsOf]
  | received status body =>
    unfold accountsOf
    by_cases ok : status = 200
    · subst ok
      cases hread : Account.readAll body <;> simp [hread]
    · simp [ok, RemoteError.ofStatus_eq_tooManyRequests]

theorem Client.profileOf_eq_tooManyRequests {reply : Reply} :
    profileOf reply = .error .tooManyRequests ↔ ∃ body, reply = .received 429 body := by
  cases reply with
  | lost => simp [profileOf]
  | received status body =>
    unfold profileOf
    by_cases absent : status = 204
    · subst absent
      simp
    · by_cases ok : status = 200
      · subst ok
        cases hread : Profile.format.read body <;> simp [hread]
      · simp [absent, ok, RemoteError.ofStatus_eq_tooManyRequests]

theorem Router.status_failure {error : LookupError} :
    (failure error).status = 429 ↔ error = .remote .tooManyRequests := by
  cases error with
  | remote cause => cases cause <;> simp [failure, RemoteError.isRateLimit, errorReply, badGateway]
  | _ => simp [failure, notFound, errorReply]

theorem Router.status_answer {form : Form} {result : LookupResult} :
    (answer form result).status = 429 ↔ result = .error (.remote .tooManyRequests) := by
  cases result with
  | error error => simp [answer, status_failure]
  | ok found =>
    cases found with
    | none => simp [answer, notFound, errorReply]
    | some profile =>
      cases form with
      | signed => simp [answer]
      | summary =>
        simp only [answer, brief]
        split
        · simp [badGateway, errorReply]
        · split <;> simp

namespace Gateway

theorem present_eq_error {result : FetchResult} {error : LookupError} :
    present result = .error error ↔ result = .error error := by
  cases result <;> simp [present, Except.map]

section

variable {σ : Type}

/-- `Limits run key e`: a reply says that there are too many requests, and it is one to the batch
which carried the name of this run, or to its request for a profile. -/
inductive Limits (run : Nat) (key : String) (e : Entry σ) : Prop
  | accounts {n : Nat} {body : Bytes} {round : Batch.Round} {job : Batch.Job}
      (replied : e.2.2 = .accounts n (.received 429 body))
      (at_ : e.1.pipeline.batch.rounds.get? n = some round) (carried : job ∈ round.jobs)
      (own : job.id = run) (name : job.username = key) : Limits run key e
  | profile {body : Bytes} {account : Account} {request : Nat}
      (replied : e.2.2 = .profile run (.received 429 body))
      (at_ : e.1.pipeline.resolver.group.runs.get? run =
        some ⟨key, .working (.dressing account (.fetching request))⟩) : Limits run key e

/-- In the pipeline it is a request which fails. -/
theorem Limits.refused {run : Nat} {key : String} {e : Entry σ} (limits : Limits run key e) :
    ∃ action, e.2.2.inner? = some action ∧
      Pipeline.Refused run .tooManyRequests (e.1.pipeline, (e.2.1, action)) := by
  cases limits with
  | @accounts n body _ _ replied at_ carried own =>
    have hresult : Client.accountsOf (.received 429 body) = .error .tooManyRequests :=
      Client.accountsOf_eq_tooManyRequests.mpr ⟨body, rfl⟩
    exact ⟨_, by rw [replied]; rfl, .accounts (by rw [hresult]) at_ carried own⟩
  | @profile body _ _ replied =>
    have hresult : Client.profileOf (.received 429 body) = .error .tooManyRequests :=
      Client.profileOf_eq_tooManyRequests.mpr ⟨body, rfl⟩
    exact ⟨_, by rw [replied]; rfl, .profile (by rw [hresult])⟩

end

section

variable {σ : Type} [NameStore σ] {store : σ} {settings : BatchSettings} {log : List (Entry σ)}
  {g u : Gateway σ} {now run id : Nat} {key : String}
  {phase : Flight.Phase Pipeline.Work FetchResult}

/-- A request that fails since there are too many is one of a run, for its own name. -/
theorem limits_of_refused (h : History Step (ofStore store settings) log g)
    (hr : g.pipeline.resolver.group.runs.get? run = some ⟨key, phase⟩) {e : Entry σ} (he : e ∈ log)
    {action : Pipeline.Action} (own : e.2.2.inner? = some action)
    (refused : Pipeline.Refused run .tooManyRequests (e.1.pipeline, (e.2.1, action))) :
    Limits run key e := by
  obtain ⟨inner, hinner, -, hto⟩ := pipeline_of_history h
  have named : ∀ {name old}, e.1.pipeline.resolver.group.runs.get? run = some ⟨name, old⟩ →
      name = key := by
    intro name old hold
    obtain ⟨next, hnext⟩ := Pipeline.run_of_history hinner (hto e he action own) hold
    exact congrArg Flight.Run.key (Option.some.inj (hnext.symm.trans hr))
  obtain ⟨before, after, u, -, hbefore, hs, -⟩ := h.cut he
  obtain ⟨t, now, a⟩ := e
  obtain ⟨innerBefore, hinnerBefore, -, -⟩ := pipeline_of_history hbefore
  have hstep : Pipeline.Step t.pipeline (now, action) u.pipeline := hs.pipeline own
  cases refused with
  | @accounts n round job delivers hat hj hid =>
    obtain rfl : action = .batch (.deliver n (.error .tooManyRequests)) := delivers
    obtain ⟨reply, ha, hreply⟩ := accounts_of_inner? hs own
    obtain ⟨body, rfl⟩ := Client.accountsOf_eq_tooManyRequests.mp hreply.symm
    have hasks := Pipeline.asks_of_deliver hinnerBefore hstep hat hj
    rw [hid] at hasks
    exact .accounts ha hat hj hid (named hasks)
  | profile fetched =>
    obtain rfl : action = .fetched run (.error .tooManyRequests) := fetched
    obtain ⟨reply, ha, hreply⟩ := profile_of_inner? hs own
    obtain ⟨body, rfl⟩ := Client.profileOf_eq_tooManyRequests.mp hreply.symm
    obtain ⟨-, -, name, account, request, hfetching, -⟩ := Pipeline.fetches_of_fetched hstep
    obtain rfl := named hfetching
    exact .profile ha hfetching

/-- A run is ruined exactly if there were too many requests when one was made for it. -/
theorem ruined_iff_limits (h : History Step (ofStore store settings) log g)
    (hr : g.pipeline.resolver.group.runs.get? run = some ⟨key, phase⟩) :
    Pipeline.Ruined g.pipeline.batch run .tooManyRequests phase ↔ ∃ e ∈ log, Limits run key e := by
  obtain ⟨inner, hinner, hfrom, hto⟩ := pipeline_of_history h
  rw [Pipeline.ruined_iff hinner hr]
  constructor
  · rintro ⟨d, hd, refused⟩
    obtain ⟨e, he, action, own, rfl⟩ := hfrom d hd
    exact ⟨e, he, limits_of_refused h hr he own refused⟩
  · rintro ⟨e, he, limits⟩
    obtain ⟨action, own, refused⟩ := limits.refused
    exact ⟨_, hto e he action own, refused⟩

/-- A run that was limited is there, and ruined. -/
theorem Limits.ruined (h : History Step (ofStore store settings) log g) {e : Entry σ} (he : e ∈ log)
    (limits : Limits run key e) : ∃ name phase,
      g.pipeline.resolver.group.runs.get? run = some ⟨name, phase⟩ ∧
      Pipeline.Ruined g.pipeline.batch run .tooManyRequests phase := by
  obtain ⟨inner, hinner, -, hto⟩ := pipeline_of_history h
  obtain ⟨action, own, refused⟩ := limits.refused
  exact Pipeline.ruined_of_refused hinner (hto e he action own) refused

/-! ### Requests that wait -/

/-- What a run does by itself is a part of a run of the service. -/
theorem history_of_inner {p q : Pipeline σ} {rest : List (Pipeline.Entry σ)}
    (h : History Pipeline.Step p rest q)
    (own : ∀ e ∈ rest, e.2.1 = now ∧ e.2.2.IsOf run) (visits : Table Nat Visit) :
    ∃ rest', History Step ⟨p, visits⟩ rest' ⟨q, visits⟩ ∧
      ∀ e ∈ rest', e.2.1 = now ∧ ∃ action, e.2.2 = .inner action ∧ action.IsOf run := by
  induction h with
  | start => exact ⟨[], .start, by simp⟩
  | @next rest t u a h hs ih =>
    obtain ⟨rest', hrest, howns⟩ := ih fun e he => own e (List.mem_append_left _ he)
    obtain ⟨htime, hown⟩ := own (t, a) (by simp)
    obtain ⟨time, action⟩ := a
    have hinner : isInner action = true := by
      cases action <;> first | rfl | exact hown.elim
    have hs' : Step ⟨t, visits⟩ (time, .inner action) ⟨u, visits⟩ := by
      have hstep : t.step? time action = some u := hs
      simp [Step, step?, hinner, withPipeline, hstep]
    refine ⟨_, hrest.next hs', fun e he => ?_⟩
    rcases List.mem_append.mp he with hold | hnew
    · exact howns e hold
    · obtain rfl := List.mem_singleton.mp hnew
      exact ⟨htime, action, rfl, hown⟩

/-- A request is answered once its run has been published. -/
theorem step_answer (now : Nat) {form : Router.Form} {call : Flight.Call FetchResult}
    {result : FetchResult} (hv : g.visits.get? id = some (.waiting form))
    (hc : g.pipeline.resolver.group.calls.get? id = some call) (waiting : call.phase = .waiting)
    (hr : g.pipeline.resolver.group.runs.get? call.run = some ⟨key, .published result⟩) :
    ∃ u, Step g (now, .answer id) u ∧
      u.visits.get? id = some (.answered (Router.answer form (present result))) := by
  have hphase : g.pipeline.resolver.group.phase? call.run = some (.published result) := by
    simp [Flight.phase?, hr]
  have hstep : ∃ pipeline, g.pipeline.step? now (.collect id) = some pipeline ∧
      pipeline.resolver.group.calls.get? id = some { call with phase := .returned result } := by
    simp [Pipeline.step?, Pipeline.withGroup, Resolver.step?, Flight.step?, hc, waiting, hphase,
      Flight.setCall]
  obtain ⟨pipeline, hp, hreturned⟩ := hstep
  refine ⟨⟨pipeline, g.visits.insert id (.answered (Router.answer form (present result)))⟩, ?_,
    by simp⟩
  simp [Step, step?, hv, withPipeline, hp, hreturned, setVisit]

/-- `Limited g run id`: the request of number `id` is answered that there are too many, or whoever
made it has gone away, or it waits, and will be answered so as soon as its run and itself go on. -/
inductive Limited (g : Gateway σ) (run id : Nat) : Prop
  | answered {reply : Router.Reply} (at_ : g.visits.get? id = some (.answered reply))
      (status : reply.status = 429) : Limited g run id
  | gone (at_ : g.visits.get? id = some .gone) : Limited g run id
  | waiting {form : Router.Form} (at_ : g.visits.get? id = some (.waiting form))
      (answers : ∀ now, ∃ rest u reply, History Step g rest u ∧
        (∀ e ∈ rest, e.2.1 = now ∧
          (e.2.2 = .answer id ∨ ∃ action, e.2.2 = .inner action ∧ action.IsOf run)) ∧
        u.visits.get? id = some (.answered reply) ∧ reply.status = 429) : Limited g run id

/-- A call has returned what its run has published. -/
theorem published_of_returned (h : History Step (ofStore store settings) log g)
    {call : Flight.Call FetchResult} {result : FetchResult}
    (hc : g.pipeline.resolver.group.calls.get? id = some call)
    (returned : call.phase = .returned result) : ∃ key,
      g.pipeline.resolver.group.runs.get? call.run = some ⟨key, .published result⟩ := by
  obtain ⟨inner, hinner, -, -⟩ := pipeline_of_history h
  obtain ⟨⟨key, phase⟩, hr, hpublished, -⟩ :=
    (Pipeline.coherent_of_history hinner).outcome id call hc
  obtain rfl : phase = .published result := hpublished result returned
  exact ⟨key, hr⟩

/-- Every request that a ruined run serves is limited. -/
theorem limited_of_ruined (h : History Step (ofStore store settings) log g)
    {call : Flight.Call FetchResult} (hc : g.pipeline.resolver.group.calls.get? id = some call)
    (hr : g.pipeline.resolver.group.runs.get? call.run = some ⟨key, phase⟩)
    (ruined : Pipeline.Ruined g.pipeline.batch call.run .tooManyRequests phase) :
    Limited g call.run id := by
  have agrees := agrees_of_history h
  cases hv : g.visits.get? id with
  | none =>
    rw [agrees.called id hv] at hc
    cases hc
  | some visit =>
    have fits := agrees.visit id visit hv
    rw [hc] at fits
    cases fits with
    | gone => exact .gone hv
    | answered form returned =>
      obtain ⟨key', hr'⟩ := published_of_returned h hc returned
      cases hr.symm.trans hr'
      obtain rfl : _ = Except.error (LookupError.remote .tooManyRequests) := ruined
      exact .answered hv (Router.status_answer.mpr rfl)
    | waiting waiting =>
      refine .waiting hv fun now => ?_
      obtain ⟨inner, hinner, -, -⟩ := pipeline_of_history h
      obtain ⟨rest, q, hrest, own, hcalls, hpublished⟩ := ruined.settles hinner hr now
      obtain ⟨rest', hrest', own'⟩ := history_of_inner hrest own g.visits
      obtain ⟨u, hs, hanswered⟩ := step_answer (g := ⟨q, g.visits⟩) now hv
        (by rw [← hc]; exact congrArg (fun t => Table.get? t id) hcalls) waiting hpublished
      refine ⟨_, u, _, hrest'.next hs, ?_, hanswered, Router.status_answer.mpr rfl⟩
      intro e he
      rcases List.mem_append.mp he with hold | hnew
      · exact ⟨(own' e hold).1, .inr (own' e hold).2⟩
      · obtain rfl := List.mem_singleton.mp hnew
        exact ⟨rfl, .inl rfl⟩

/-! ### The main result -/

/-- What a caller of the service can conclude from 429. -/
structure Surfaces (log : List (Entry σ)) (g : Gateway σ) : Prop where
  /-- A name that an account can have is looked up by a run of its own or by one that is under way. -/
  served : ∀ e ∈ log, ∀ id path form name, e.2.2 = .get id path →
    Router.task "GET" (Router.route? path) = .lookup form name → Username.isValid name = true →
    ∃ call phase, g.pipeline.resolver.group.calls.get? id = some call ∧
      g.pipeline.resolver.group.runs.get? call.run = some ⟨Username.key name, phase⟩
  /-- A request is answered so exactly if the run that served it had such a reply. -/
  status : ∀ id reply, g.visits.get? id = some (.answered reply) →
    (reply.status = 429 ↔ ∃ call key phase, g.pipeline.resolver.group.calls.get? id = some call ∧
      g.pipeline.resolver.group.runs.get? call.run = some ⟨key, phase⟩ ∧
      ∃ e ∈ log, Limits call.run key e)
  /-- Nobody who shares a run that had such a reply is answered otherwise. -/
  limited : ∀ e ∈ log, ∀ run key, Limits run key e → ∀ id call,
    g.pipeline.resolver.group.calls.get? id = some call → call.run = run → Limited g run id
  /-- Such a reply to a batch concerns all its names. -/
  batch : ∀ e ∈ log, ∀ n body round, e.2.2 = .accounts n (.received 429 body) →
    e.1.pipeline.batch.rounds.get? n = some round → ∀ job ∈ round.jobs,
      Limits job.id job.username e
  /-- It changes neither the store nor the cache, and nor does its run from then on. -/
  stores : ∀ before e after, log = before ++ e :: after → ∀ run key, Limits run key e →
    (∀ u, Step e.1 e.2 u →
      u.pipeline.known = e.1.pipeline.known ∧ u.pipeline.textures = e.1.pipeline.textures) ∧
    ∀ d ∈ after, ∀ fault, d.2.2 = .inner (.work run fault) → ∀ u, Step d.1 d.2 u →
      u.pipeline.known = d.1.pipeline.known ∧ u.pipeline.textures = d.1.pipeline.textures

theorem served_of_history (h : History Step (ofStore store settings) log g) {e : Entry σ}
    (he : e ∈ log) {path name : String} {form : Router.Form} (gets : e.2.2 = .get id path)
    (asked : Router.task "GET" (Router.route? path) = .lookup form name)
    (valid : Username.isValid name = true) :
    ∃ call phase, g.pipeline.resolver.group.calls.get? id = some call ∧
      g.pipeline.resolver.group.runs.get? call.run = some ⟨Username.key name, phase⟩ := by
  obtain ⟨inner, hinner, -, hto⟩ := pipeline_of_history h
  have own : e.2.2.inner? = some (.call id name) := by
    simp [gets, Action.inner?, asked, valid]
  obtain ⟨groupLog, hgroup, hcalls, -⟩ := Pipeline.group_of_history hinner
  obtain ⟨call, phase, hc, hr, -⟩ :=
    Flight.run_of_call hgroup (hcalls _ (hto e he _ own) id name rfl) rfl
  exact ⟨call, phase, hc, hr⟩

/-- A reply changes neither the store nor the cache if it says that there are too many requests. -/
theorem Limits.frame (h : History Step (ofStore store settings) log g) {a : Action}
    (limits : Limits run key (g, (now, a))) (hs : Step g (now, a) u) :
    u.pipeline.known = g.pipeline.known ∧ u.pipeline.textures = g.pipeline.textures := by
  obtain ⟨inner, hinner, -, -⟩ := pipeline_of_history h
  obtain ⟨action, own, refused⟩ := limits.refused
  obtain ⟨hknown, htextures, -⟩ := refused.ruins hinner (hs.pipeline own)
  exact ⟨hknown, htextures⟩

/-- A run that was limited changes neither the store nor the cache. -/
theorem frame_of_limits (h : History Step (ofStore store settings) log g) {e : Entry σ}
    (he : e ∈ log) (limits : Limits run key e) {fault : Option StoreError}
    (hs : Step g (now, .inner (.work run fault)) u) :
    u.pipeline.known = g.pipeline.known ∧ u.pipeline.textures = g.pipeline.textures := by
  obtain ⟨name, phase, hr, ruined⟩ := limits.ruined h he
  exact ruined.frame (Pipeline.moves_of_step? (hs.pipeline rfl)) hr

/-- Rate limits surface where they happen, and nowhere else. -/
theorem rate_limits_surface (h : History Step (ofStore store settings) log g) : Surfaces log g where
  served e he id path form name gets asked valid := served_of_history h he gets asked valid
  status id reply hv := by
    have fits := (agrees_of_history h).visit id _ hv
    cases hc : g.pipeline.resolver.group.calls.get? id with
    | none =>
      rw [hc] at fits
      cases fits with
      | refused unlimited => simp [unlimited]
    | some call =>
      rw [hc] at fits
      cases fits with
      | @answered _ result form returned =>
        obtain ⟨key, hr⟩ := published_of_returned h hc returned
        rw [Router.status_answer, present_eq_error]
        constructor
        · intro hresult
          exact ⟨call, key, _, rfl, hr, (ruined_iff_limits h hr).mp hresult⟩
        · rintro ⟨call', key', phase, hcall, hr', hlimits⟩
          obtain rfl := Option.some.inj hcall
          cases hr.symm.trans hr'
          exact (ruined_iff_limits h hr).mpr hlimits
  limited e he run key limits id call hc own := by
    obtain ⟨name, phase, hr, ruined⟩ := limits.ruined h he
    subst own
    exact limited_of_ruined h hc hr ruined
  batch e he n body round replied at_ job hj := .accounts replied at_ hj rfl rfl
  stores before e after hlog run key limits := by
    subst hlog
    constructor
    · intro u hs
      obtain ⟨_, hbefore, -, -⟩ := h.split
      exact limits.frame hbefore hs
    · intro d hd fault works u hs
      obtain ⟨middle, rest, rfl⟩ := List.append_of_mem hd
      have hlog : before ++ e :: (middle ++ d :: rest) = (before ++ e :: middle) ++ d :: rest := by
        simp
      rw [hlog] at h
      obtain ⟨_, hbefore, -, -⟩ := h.split
      obtain ⟨t, now, a⟩ := d
      obtain rfl : a = .inner (.work run fault) := works
      exact frame_of_limits hbefore (by simp) limits hs

end

/-- A name that is asked for in two casings and forms, and another one in the same batch, to which
the account service replies that there are too many requests. -/
theorem rate_limits_surface_to_whole_batch :
    ∃ (log : List (Entry MemoryStore)) (g : Gateway MemoryStore),
      History Step (ofStore {} {}) log g ∧ Surfaces log g ∧
      g.visits.get? 0 = some (.answered (Router.errorReply 429 "Too many requests")) ∧
      g.visits.get? 1 = some (.answered (Router.errorReply 429 "Too many requests")) ∧
      g.visits.get? 2 = some (.answered (Router.errorReply 429 "Too many requests")) := by
  have notch : Router.task "GET" (Router.route? "/textures/Notch") = .lookup .summary "Notch" :=
    task_of_route "Notch".toList rfl (by decide +kernel)
  have shouted : Router.task "GET" (Router.route? "/textures/signed/NOTCH") =
      .lookup .signed "NOTCH" :=
    task_of_route "NOTCH".toList rfl (by decide +kernel)
  have jeb : Router.task "GET" (Router.route? "/textures/jeb_") = .lookup .summary "jeb_" :=
    task_of_route "jeb_".toList rfl (by decide +kernel)
  have first : History Step (ofStore ({} : MemoryStore) {}) _ _ := History.start.next
    (show Step _ (0, .get 0 "/textures/Notch") _ from (step?_get rfl notch).trans rfl)
  have second := first.next
    (show Step _ (0, .get 1 "/textures/signed/NOTCH") _ from (step?_get rfl shouted).trans rfl)
  have third := second.next
    (show Step _ (0, .get 2 "/textures/jeb_") _ from (step?_get rfl jeb).trans rfl)
  have h := third.trans <| History.of_replay
    [(0, .inner (.spawn 0)), (0, .inner (.spawn 1)), (1, .inner (.work 0 none)),
      (1, .inner (.work 0 none)), (1, .inner (.work 0 none)), (2, .inner (.work 1 none)),
      (2, .inner (.work 1 none)), (2, .inner (.work 1 none)), (2, .inner (.batch .park)),
      (Time.seconds 3, .inner (.batch (.wake .delay))), (Time.seconds 3, .inner (.batch .drain)),
      (Time.seconds 3, .inner (.batch .fire)), (Time.seconds 3, .inner (.batch (.send 0))),
      (Time.seconds 4, .accounts 0 (.received 429 [])), (Time.seconds 4, .inner (.work 0 none)),
      (Time.seconds 4, .inner (.work 0 none)), (Time.seconds 4, .inner (.work 0 none)),
      (Time.seconds 4, .inner (.release 0)), (Time.seconds 4, .inner (.publish 0)),
      (Time.seconds 5, .inner (.work 1 none)), (Time.seconds 5, .inner (.work 1 none)),
      (Time.seconds 5, .inner (.work 1 none)), (Time.seconds 5, .inner (.release 1)),
      (Time.seconds 5, .inner (.publish 1)), (Time.seconds 6, .answer 0),
      (Time.seconds 6, .answer 1), (Time.seconds 6, .answer 2)] rfl
  exact ⟨_, _, h, rate_limits_surface h, rfl, rfl, rfl⟩

end Gateway

end SkinRelay
