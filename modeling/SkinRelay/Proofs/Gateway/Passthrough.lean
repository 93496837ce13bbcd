import SkinRelay.Proofs.Gateway.Profiles
import SkinRelay.Proofs.Json.RoundTrip

/-!
The service with shared profiles. A profile is decoded for whoever asks first for its textures, and
everyone else who holds it is served with what became of that. Nobody can tell
(`gateway_of_history`), and whoever asks for the signed profile gets all that the session server has
signed (`signed_profiles_pass_through`).
-/

namespace SkinRelay

namespace SharedProfile

/-- Whether what is kept of a profile is what decoding it gives. -/
def IsSound (shared : SharedProfile) : Prop :=
  ∀ outcome, shared.decoded = some outcome → outcome = shared.profile.textures

variable {shared : SharedProfile}

@[simp] theorem profile_textures : shared.textures.2.profile = shared.profile := by
  unfold textures
  split <;> rfl

theorem IsSound.textures_eq (h : shared.IsSound) : shared.textures.1 = shared.profile.textures := by
  unfold textures
  split
  · rename_i outcome kept
    exact h outcome kept
  · rfl

theorem IsSound.textures (h : shared.IsSound) : shared.textures.2.IsSound := by
  intro outcome kept
  unfold SharedProfile.textures at kept ⊢
  split at kept
  · exact h outcome kept
  · exact (Option.some.inj kept).symm

end SharedProfile

namespace Router

variable {form : Form} {shared : SharedProfile}

@[simp] theorem profile_serve : (serve form shared).2.profile = shared.profile := by
  cases form <;> simp [serve]

/-- What is kept of a profile does not show in an answer. -/
theorem serve_eq_answer (h : shared.IsSound) :
    (serve form shared).1 = answer form (.ok (some shared.profile)) := by
  cases form with
  | signed => rfl
  | summary =>
    show brief shared.textures.2.profile shared.textures.1 =
      brief shared.profile shared.profile.textures
    rw [h.textures_eq, SharedProfile.profile_textures]

theorem isSound_serve (h : shared.IsSound) : (serve form shared).2.IsSound := by
  cases form with
  | signed => exact h
  | summary => exact h.textures

/-- A signed profile is answered as it is. -/
theorem read_answer_signed (route : Option Route) (profile : Profile) :
    Profile.format.read (Utf8.ofString
      (respond "GET" route (answer .signed (.ok (some profile)))).body) = .ok profile :=
  Json.Format.read_write rfl profile

theorem status_failure_ne_ok (error : LookupError) : (failure error).status ≠ 200 := by
  cases error with
  | remote cause => cases cause <;> simp [failure, RemoteError.isRateLimit, errorReply, badGateway]
  | _ => simp [failure, notFound, errorReply]

/-- Only a lookup that has led to a profile is answered with 200. -/
theorem profile_of_ok {result : LookupResult} (h : (answer form result).status = 200) :
    ∃ profile, result = .ok (some profile) := by
  match result with
  | .error error => exact absurd h (status_failure_ne_ok error)
  | .ok none => cases h
  | .ok (some profile) => exact ⟨profile, rfl⟩

end Router

/-- The service, and what became of the textures of each profile, if anybody has asked for them. A
profile has the number of the request that has brought it. -/
structure SharingGateway (σ : Type) where
  gateway : Gateway σ
  decoded : Table Nat (Except TexturesRecord.Fault (Option TexturesRecord)) := {}

namespace SharingGateway

variable {σ : Type}

/-- A profile as all share it who hold it. -/
def shared (g : SharingGateway σ) (found : Fetched) : SharedProfile where
  profile := found.profile
  decoded := g.decoded.get? found.request

/-- Keeps what became of a profile. -/
def keep (g : SharingGateway σ) (request : Nat) (shared : SharedProfile) : SharingGateway σ :=
  match shared.decoded with
  | some outcome => { g with decoded := g.decoded.insert request outcome }
  | none => g

variable [NameStore σ]

def ofStore (store : σ) (settings : BatchSettings) : SharingGateway σ where
  gateway := .ofStore store settings

/-- Answers a request for which a lookup has returned a result. -/
def answer (g : SharingGateway σ) (next : Gateway σ) (id : Nat) (form : Router.Form)
    (result : FetchResult) : SharingGateway σ :=
  match result with
  | .ok (some found) =>
    match Router.serve form (g.shared found) with
    | (reply, shared) =>
      { g with gateway := next.setVisit id (.answered reply) }.keep found.request shared
  | result =>
    let reply := Router.answer form (Gateway.present result)
    { g with gateway := next.setVisit id (.answered reply) }

def step? (now : Nat) (g : SharingGateway σ) : Gateway.Action → Option (SharingGateway σ)
  | .answer id =>
    match g.gateway.visits.get? id, g.gateway.withPipeline now (.collect id) with
    | some (.waiting form), some next =>
      match next.pipeline.resolver.group.calls.get? id with
      | some { phase := .returned result, .. } => some (g.answer next id form result)
      | _ => none
    | _, _ => none
  | action => (g.gateway.step? now action).map fun gateway => { g with gateway }

/-- A step with its time. -/
def Step (g : SharingGateway σ) (a : Nat × Gateway.Action) (u : SharingGateway σ) : Prop :=
  g.step? a.1 a.2 = some u

/-- An entry of a log: an action with its time, and the state in which it was taken. -/
abbrev Entry (σ : Type) := SharingGateway σ × (Nat × Gateway.Action)

/-- What a log tells about the service without what is kept. -/
def plain (log : List (Entry σ)) : List (Gateway.Entry σ) := log.map fun e => (e.1.gateway, e.2)

/-! ### What is kept -/

variable {store : σ} {settings : BatchSettings} {log : List (Entry σ)} {g u : SharingGateway σ}
  {now id : Nat} {a : Gateway.Action}

/-- Whether all that is kept is what decoding gives, and is about profiles that were brought by the
requests whose numbers they have. -/
def Keeps (inner : List (Pipeline.Entry σ)) (g : SharingGateway σ) : Prop :=
  ∀ request outcome, g.decoded.get? request = some outcome →
    ∃ profile, Pipeline.Brought inner ⟨request, profile⟩ ∧ outcome = profile.textures

omit [NameStore σ] in
theorem Keeps.append {inner : List (Pipeline.Entry σ)} (h : Keeps inner g)
    (rest : List (Pipeline.Entry σ)) : Keeps (inner ++ rest) g := by
  intro request outcome kept
  obtain ⟨profile, hbrought, houtcome⟩ := h request outcome kept
  exact ⟨profile, hbrought.append rest, houtcome⟩

/-- What is kept of a profile is about this profile, since no other has its number. -/
theorem Keeps.isSound {inner : List (Pipeline.Entry σ)} {p : Pipeline σ} (hg : Keeps inner g)
    (h : History Pipeline.Step (.ofStore store settings) inner p) {found : Fetched}
    (hfound : Pipeline.Brought inner found) : (g.shared found).IsSound := by
  intro outcome kept
  obtain ⟨profile, hbrought, rfl⟩ := hg found.request outcome kept
  rw [← Pipeline.brought_unique h hbrought hfound rfl]
  rfl

/-- An answer is what it would be if nothing were kept, and what is kept then is right. -/
theorem Keeps.answer {inner : List (Pipeline.Entry σ)} {next : Gateway σ} (hg : Keeps inner g)
    (h : History Pipeline.Step (.ofStore store settings) inner next.pipeline)
    {call : Flight.Call FetchResult} {result : FetchResult} (form : Router.Form)
    (hc : next.pipeline.resolver.group.calls.get? id = some call)
    (returned : call.phase = .returned result) :
    (g.answer next id form result).gateway =
      next.setVisit id (.answered (Router.answer form (Gateway.present result))) ∧
    Keeps inner (g.answer next id form result) := by
  unfold SharingGateway.answer
  split
  · rename_i found
    have hfound := Pipeline.brought_of_returned h hc returned
    have sound := hg.isSound h hfound
    have hreply : (Router.serve form (g.shared found)).1 =
        Router.answer form (Gateway.present (.ok (some found))) := Router.serve_eq_answer sound
    have hprofile : (Router.serve form (g.shared found)).2.profile = found.profile :=
      Router.profile_serve
    have hsound : (Router.serve form (g.shared found)).2.IsSound := Router.isSound_serve sound
    generalize Router.serve form (g.shared found) = served at hreply hprofile hsound
    obtain ⟨reply, shared⟩ := served
    dsimp only at hreply hprofile hsound ⊢
    unfold keep
    split
    · rename_i outcome kept
      refine ⟨by rw [← hreply], ?_⟩
      intro request outcome' kept'
      rw [Table.get?_insert] at kept'
      split at kept'
      · rename_i hrequest
        cases kept'
        subst hrequest
        exact ⟨found.profile, hfound, by rw [← hprofile]; exact hsound outcome kept⟩
      · exact hg request outcome' kept'
    · exact ⟨by rw [← hreply], hg⟩
  · exact ⟨rfl, hg⟩

/-- Whether what is kept is right for a run of the pipeline that leads to where it is. -/
def Faithful (store : σ) (settings : BatchSettings) (g : SharingGateway σ) : Prop :=
  ∃ inner, History Pipeline.Step (.ofStore store settings) inner g.gateway.pipeline ∧ Keeps inner g

theorem faithful_ofStore : Faithful store settings (ofStore store settings) :=
  ⟨[], .start, fun request outcome kept => by cases kept⟩

/-- A step is the one of the service without what is kept. -/
theorem Faithful.move (hg : Faithful store settings g) (hs : Step g (now, a) u) :
    Gateway.Step g.gateway (now, a) u.gateway ∧ Faithful store settings u := by
  obtain ⟨inner, hinner, hkeeps⟩ := hg
  have other : ∀ {gateway}, g.gateway.step? now a = some gateway → u = { g with gateway } →
      Gateway.Step g.gateway (now, a) u.gateway ∧ Faithful store settings u := by
    rintro gateway hstep rfl
    refine ⟨hstep, ?_⟩
    have hmove := (Gateway.moves_of_step? hstep).pipeline
    cases own : a.inner? with
    | none =>
      rw [own] at hmove
      exact ⟨inner, by rw [hmove]; exact hinner, hkeeps⟩
    | some action =>
      rw [own] at hmove
      exact ⟨_, hinner.next (a := (now, action)) hmove, hkeeps.append _⟩
  have hstep : g.step? now a = some u := hs
  cases a with
  | answer id =>
    simp only [step?] at hstep
    split at hstep
    · rename_i form next hat hnext
      obtain ⟨pipeline, hp, rfl⟩ := Gateway.withPipeline_eq_some.mp hnext
      split at hstep
      · rename_i result hc
        cases hstep
        have hcollect : Pipeline.Step g.gateway.pipeline (now, .collect id) pipeline := hp
        have hinner' := hinner.next hcollect
        obtain ⟨hgateway, hkeeps'⟩ := (hkeeps.append _).answer hinner' form hc rfl
        have hgateway' : Gateway.Step g.gateway (now, .answer id)
            (Gateway.setVisit ⟨pipeline, g.gateway.visits⟩ id
              (.answered (Router.answer form (Gateway.present result)))) := by
          simp [Gateway.Step, Gateway.step?, hat, hnext, hc]
        rw [hgateway]
        refine ⟨hgateway', _, ?_, hkeeps'⟩
        rw [hgateway]
        exact hinner'
      · cases hstep
    · cases hstep
  | _ =>
    obtain ⟨gateway, hgateway, rfl⟩ := Option.map_eq_some_iff.mp hstep
    exact other hgateway rfl

/-- What is kept is never seen: a run of the service with it is one without. -/
theorem gateway_of_history (h : History Step (ofStore store settings) log g) :
    History Gateway.Step (.ofStore store settings) (plain log) g.gateway := by
  suffices hall : History Gateway.Step (.ofStore store settings) (plain log) g.gateway ∧
      Faithful store settings g from hall.1
  induction h with
  | start => exact ⟨.start, faithful_ofStore⟩
  | @next log t u a h hs ih =>
    obtain ⟨hplain, hfaithful⟩ := ih
    obtain ⟨hstep, hnext⟩ := hfaithful.move hs
    refine ⟨?_, hnext⟩
    have hlog : plain (log ++ [(t, a)]) = plain log ++ [(t.gateway, a)] := by simp [plain]
    rw [hlog]
    exact hplain.next hstep

end SharingGateway

/-! ### Signed profiles -/

namespace Gateway

variable {σ : Type}

/-- A GET request for the signed profile of a name. -/
structure WantsSigned (e : Entry σ) (id : Nat) (path : String) : Prop where
  gets : e.2.2 = .get id path
  asked : ∃ name, Router.task "GET" (Router.route? path) = .lookup .signed name

/-- The response to a request for this path, if there is one. -/
def response? (g : Gateway σ) (id : Nat) (path : String) : Option Router.Response :=
  match g.visits.get? id with
  | some (.answered reply) => some (Router.respond "GET" (Router.route? path) reply)
  | _ => none

/-- Status and body of the responses to these requests. -/
def told (g : Gateway σ) (requests : List (Nat × String)) : List (Option (Nat × String)) :=
  requests.map fun (id, path) => (g.response? id path).map fun r => (r.status, r.body)

/-- The request of this number was for the signed profile of a name, and was answered. -/
def Answered (log : List (Entry σ)) (g : Gateway σ) (id : Nat) (response : Router.Response) : Prop :=
  ∃ d ∈ log, ∃ path, WantsSigned d id path ∧ g.response? id path = some response

/-- Whether a response holds this profile and nothing else. -/
structure Carries (response : Router.Response) (profile : Profile) : Prop where
  status : response.status = 200
  body : Profile.format.read (Utf8.ofString response.body) = .ok profile

/-- What becomes of a profile in a body with which the session server replies 200. -/
structure PassesThrough (log : List (Entry σ)) (g : Gateway σ) : Prop where
  /-- Whoever has begun or joined the run that has sent the request is answered with it. -/
  fresh : ∀ e ∈ log, ∀ run body found, Delivers e run body found →
    ∀ id response call, Answered log g id response →
      g.pipeline.resolver.group.calls.get? id = some call → call.run = run →
      Carries response found.profile
  /-- So is whoever has begun or joined a run that finds it in the cache. -/
  cached : ∀ e ∈ log, ∀ run body found, Delivers e run body found →
    ∀ d ∈ log, ∀ later fault account other, d.2.2 = .inner (.work later fault) →
      d.1.pipeline.resolver.group.work? later = some (.dressing account .looking) →
      d.1.pipeline.textures.entries.get? d.2.1 account.id = some (some other) →
      other.request = found.request → ∀ id response call, Answered log g id response →
        g.pipeline.resolver.group.calls.get? id = some call → call.run = later →
        Carries response found.profile
  /-- Nothing else is ever answered with 200. -/
  origin : ∀ id response, Answered log g id response → response.status = 200 →
    ∃ e ∈ log, ∃ run body found, Delivers e run body found ∧ Carries response found.profile

theorem found_of_present {result : FetchResult} {profile : Profile}
    (h : present result = .ok (some profile)) : ∃ found, result = .ok (some found) := by
  match result with
  | .error _ => cases h
  | .ok none => cases h
  | .ok (some found) => exact ⟨found, rfl⟩

theorem carries_answer (route : Option Router.Route) (found : Fetched) :
    Carries (Router.respond "GET" route (Router.answer .signed (present (.ok (some found)))))
      found.profile :=
  ⟨rfl, Router.read_answer_signed _ _⟩

variable [NameStore σ] {store : σ} {settings : BatchSettings} {log : List (Entry σ)} {g : Gateway σ}
  {id : Nat} {response : Router.Response}

/-- The answer is what the lookup has returned, unless there was none. -/
theorem Answered.reply (h : History Step (ofStore store settings) log g)
    (answered : Answered log g id response) : ∃ route reply,
    response = Router.respond "GET" route reply ∧
    ((g.pipeline.resolver.group.calls.get? id = none ∧
        ∃ error, reply = Router.answer .signed (.error error)) ∨
      ∃ call result, g.pipeline.resolver.group.calls.get? id = some call ∧
        call.phase = .returned result ∧ reply = Router.answer .signed (present result)) := by
  obtain ⟨d, hd, path, ⟨gets, name, asked⟩, hresponse⟩ := answered
  unfold response? at hresponse
  split at hresponse
  · rename_i reply hv
    refine ⟨_, reply, (Option.some.inj hresponse).symm, ?_⟩
    exact (answer_of_get h hd gets asked hv).imp_left fun hnone => ⟨hnone.1, _, hnone.2⟩
  · cases hresponse

/-- Whoever has a call is answered with what it has returned. -/
theorem Answered.returned (h : History Step (ofStore store settings) log g)
    (answered : Answered log g id response) {call : Flight.Call FetchResult}
    (hc : g.pipeline.resolver.group.calls.get? id = some call) : ∃ route result,
    call.phase = .returned result ∧
      response = Router.respond "GET" route (Router.answer .signed (present result)) := by
  obtain ⟨route, reply, rfl, ⟨hnone, -⟩ | ⟨call', result, hc', hreturned, rfl⟩⟩ := answered.reply h
  · cases hnone.symm.trans hc
  · cases hc.symm.trans hc'
    exact ⟨route, result, hreturned, rfl⟩

theorem passesThrough_of_history (h : History Step (ofStore store settings) log g) :
    PassesThrough log g where
  fresh e he run body found delivers id response call answered hc own := by
    obtain ⟨route, result, returned, rfl⟩ := answered.returned h hc
    rw [returned_of_delivers h he delivers hc own returned]
    exact carries_answer route found
  cached e he run body found delivers d hd later fault account other works hwork alive same
      id response call answered hc own := by
    obtain ⟨route, result, returned, rfl⟩ := answered.returned h hc
    obtain rfl := returned_of_hit h hd works hwork alive hc own returned
    obtain ⟨e', he', run', body', delivers'⟩ := delivered_of_returned h hc returned
    obtain rfl := delivers_unique h he' he delivers' delivers same
    exact carries_answer route other
  origin id response answered ok := by
    obtain ⟨route, reply, rfl, ⟨-, error, rfl⟩ | ⟨call, result, hc, returned, rfl⟩⟩ :=
      answered.reply h
    · exact absurd ok (Router.status_failure_ne_ok error)
    · obtain ⟨profile, hprofile⟩ := Router.profile_of_ok ok
      obtain ⟨found, rfl⟩ := found_of_present hprofile
      obtain ⟨e, he, run, body, delivers⟩ := delivered_of_returned h hc returned
      exact ⟨e, he, run, body, found, delivers, carries_answer route found⟩

end Gateway

namespace SharingGateway

/-- Whoever asks for a signed profile gets all that was signed, however many share it and whoever of
them has asked for its textures before. -/
theorem signed_profiles_pass_through {σ : Type} [NameStore σ] {store : σ}
    {settings : BatchSettings} {log : List (Entry σ)} {g : SharingGateway σ}
    (h : History Step (ofStore store settings) log g) :
    Gateway.PassesThrough (plain log) g.gateway :=
  Gateway.passesThrough_of_history (gateway_of_history h)

/-- A name that is asked for in brief, at the same time signed in another casing, and later signed
once more, when the profile is in the cache. The first of its two textures cannot be decoded, which
is kept, and only the first caller is told. -/
theorem signed_profiles_pass_through_undecodable :
    ∃ (log : List (Entry MemoryStore)) (g : SharingGateway MemoryStore),
      History Step (ofStore {} {}) log g ∧ Gateway.PassesThrough (plain log) g.gateway ∧
      (g.gateway.pipeline.textures.requests, (g.decoded.get? 0).isSome,
        g.gateway.told [(0, "/textures/Notch"), (1, "/textures/signed/NOTCH"),
          (2, "/textures/signed/notch")]) =
        (1, true, [some (502, "\x7b\"error\":\"Upstream error\"\x7d")] ++ List.replicate 2
          (some (200, Profile.format.write ⟨"069a", "Notch",
            [⟨"textures", none, "%"⟩, ⟨"textures", some "s/+=", "e30="⟩]⟩))) := by
  have hrun : (History.replay (fun (g : SharingGateway MemoryStore) a => g.step? a.1 a.2)
      (ofStore {} {})
      [(0, .get 0 "/textures/Notch"), (0, .get 1 "/textures/signed/NOTCH"), (0, .inner (.spawn 0)),
        (1, .inner (.work 0 none)), (1, .inner (.work 0 none)), (1, .inner (.work 0 none)),
        (2, .inner (.batch .park)), (Time.seconds 3, .inner (.batch (.wake .delay))),
        (Time.seconds 3, .inner (.batch .drain)), (Time.seconds 3, .inner (.batch .fire)),
        (Time.seconds 3, .inner (.batch (.send 0))),
        (Time.seconds 4, .accounts 0 (.received 200 (Utf8.ofString
          "[\x7b\"id\":\"069a\",\"name\":\"Notch\"\x7d]"))),
        (Time.seconds 4, .inner (.work 0 none)), (Time.seconds 4, .inner (.work 0 none)),
        (Time.seconds 4, .inner (.work 0 none)), (Time.seconds 4, .inner (.work 0 none)),
        (Time.seconds 4, .inner (.work 0 none)), (Time.seconds 4, .inner (.work 0 none)),
        (Time.seconds 5, .profile 0 (.received 200 (Utf8.ofString <|
          "\x7b \"properties\": [" ++
          "\x7b \"value\": \"%\", \"signature\": null, \"name\": \"textures\" \x7d, " ++
          "\x7b\"name\":\"textures\",\"value\":\"e30=\",\"signature\":\"s\\u002f+=\"\x7d]," ++
          " \"name\": \"Notch\", \"id\": \"069a\" \x7d"))),
        (Time.seconds 5, .inner (.work 0 none)), (Time.seconds 5, .inner (.work 0 none)),
        (Time.seconds 5, .inner (.work 0 none)), (Time.seconds 5, .inner (.release 0)),
        (Time.seconds 5, .inner (.publish 0)), (Time.seconds 5, .answer 0),
        (Time.seconds 5, .answer 1), (Time.seconds 6, .get 2 "/textures/signed/notch"),
        (Time.seconds 6, .inner (.spawn 1)), (Time.seconds 6, .inner (.work 1 none)),
        (Time.seconds 6, .inner (.work 1 none)), (Time.seconds 6, .inner (.work 1 none)),
        (Time.seconds 6, .inner (.work 1 none)), (Time.seconds 6, .inner (.release 1)),
        (Time.seconds 6, .inner (.publish 1)), (Time.seconds 6, .answer 2)]).map (fun (_, g) =>
      (g.gateway.pipeline.textures.requests, (g.decoded.get? 0).isSome,
        g.gateway.told [(0, "/textures/Notch"), (1, "/textures/signed/NOTCH"),
          (2, "/textures/signed/notch")])) =
        some (1, true, [some (502, "\x7b\"error\":\"Upstream error\"\x7d")] ++ List.replicate 2
          (some (200, Profile.format.write ⟨"069a", "Notch",
            [⟨"textures", none, "%"⟩, ⟨"textures", some "s/+=", "e30="⟩]⟩))) := by
    decide +kernel
  obtain ⟨⟨log, g⟩, hreplay, hview⟩ := Option.map_eq_some_iff.mp hrun
  have h : History Step (ofStore ({} : MemoryStore) {}) log g := History.of_replay _ hreplay
  exact ⟨log, g, h, signed_profiles_pass_through h, hview⟩

end SharingGateway

end SkinRelay
