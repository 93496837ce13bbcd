import SkinRelay.Proofs.Pipeline.Requests

/-!
Where profiles come from. A request to the session server has a number of its own and is replied to
at most once (`brought_unique`), and whatever profile is in the cache or in a run came with the reply
to a request (`sourced_of_history`). From then on nothing changes it (`Phase.Holds`).
-/

namespace SkinRelay

namespace TexturesCache

/-- The profile that a lookup has found. -/
def Stage.found? : Stage → Option Fetched
  | .storing found | .stored found | .done (.ok found) => found
  | _ => none

theorem fetched_ne_fetching {result : FetchResult} {request : Nat} :
    fetched result ≠ .fetching request := by
  cases result <;> simp [fetched]

end TexturesCache

namespace Pipeline

/-- The profile that the work of a run has found. -/
def Work.found? : Work → Option Fetched
  | .naming .. => none
  | .dressing _ stage => stage.found?

/-- The profile that a run has found. -/
def found? : Flight.Phase Work FetchResult → Option Fetched
  | .entered work | .working work => work.found?
  | .finished result | .released result | .published result => result.toOption.join
  | .broken | .unwound | .lost => none

theorem Work.found?_of_result? {work : Work} {result : FetchResult}
    (ends : work.result? = some result) : work.found? = result.toOption.join := by
  match work, ends with
  | .naming _ (.done (.error _)), rfl => rfl
  | .naming _ (.done (.ok none)), rfl => rfl
  | .dressing _ (.done (.error _)), rfl => rfl
  | .dressing _ (.done (.ok _)), rfl => rfl

section

variable {σ : Type}

/-- Whether a run waits for the reply to this request. -/
def Awaits (p : Pipeline σ) (run request : Nat) : Prop :=
  ∃ account, p.resolver.group.work? run = some (.dressing account (.fetching request))

/-- The session server replies to this request of a run. -/
def Replies (e : Entry σ) (run request : Nat) (reply : Except RemoteError (Option Profile)) : Prop :=
  e.2.2 = .fetched run reply ∧ Awaits e.1 run request

/-- The reply to a request has brought this profile. -/
def Brought (log : List (Entry σ)) (found : Fetched) : Prop :=
  ∃ e ∈ log, ∃ run, Replies e run found.request (.ok (some found.profile))

theorem Brought.append {log : List (Entry σ)} {found : Fetched} (h : Brought log found)
    (rest : List (Entry σ)) : Brought (log ++ rest) found := by
  obtain ⟨e, he, h⟩ := h
  exact ⟨e, List.mem_append_left rest he, h⟩

end

variable {σ : Type} [NameStore σ] {now : Nat} {p q : Pipeline σ} {a : Action}
  {run request : Nat} {log : List (Entry σ)} {found : Fetched}

/-! ### Where a profile comes from -/

theorem Proceeds.found? {work next : Work} {known : KnownAccounts σ} {textures : TexturesCache}
    (h : Proceeds now p run a work next known textures) (hnext : next.found? = some found) :
    work.found? = some found ∨
    (∃ id, p.textures.entries.get? now id = some (some found)) ∨
    ∃ account reply, a = .fetched run reply ∧ reply = .ok (some found.profile) ∧
      work = .dressing account (.fetching found.request) := by
  cases h with
  | read | answered | write => cases hnext
  | dress => cases hnext
  | @cache account fault stage next _ advances =>
    cases TexturesCache.advances_of_advance? advances with
    | hit alive =>
      obtain rfl : _ = some found := hnext
      exact .inr (.inl ⟨_, alive⟩)
    | miss | request => cases hnext
    | store | sweep => exact .inl hnext
  | @fetched account request reply =>
    right; right
    cases reply with
    | error => cases hnext
    | ok profile =>
      cases profile with
      | none => cases hnext
      | some profile =>
        cases hnext
        exact ⟨account, _, rfl, rfl, rfl⟩

/-- Whether every profile in a run or in the cache was brought by a reply. -/
structure Sourced (log : List (Entry σ)) (p : Pipeline σ) : Prop where
  runs : ∀ run key phase found, p.resolver.group.runs.get? run = some ⟨key, phase⟩ →
    found? phase = some found → Brought log found
  cache : ∀ id entry found, (id, entry) ∈ p.textures.entries.entries.entries →
    entry.value = some found → Brought log found

namespace Sourced

omit [NameStore σ] in
theorem ofStore (store : σ) (settings : BatchSettings) : Sourced [] (ofStore store settings) where
  runs run key phase found hr := by cases hr
  cache id entry found hmem := by cases hmem

omit [NameStore σ] in
theorem get? (hp : Sourced log p) {id : String}
    (h : p.textures.entries.get? now id = some (some found)) : Brought log found := by
  obtain ⟨entry, hentry, hvalue⟩ := Option.map_eq_some_iff.mp h
  obtain ⟨hget, -⟩ := Option.filter_eq_some_iff.mp hentry
  exact hp.cache id entry found (Table.mem_of_get? hget) hvalue

theorem passes (hp : Sourced log p) {key : String} {old phase : Flight.Phase Work FetchResult}
    {known : KnownAccounts σ} {textures : TexturesCache}
    (hr : p.resolver.group.runs.get? run = some ⟨key, old⟩)
    (passes : Passes now p run a old phase known textures) (hfound : found? phase = some found) :
    Brought (log ++ [(p, (now, a))]) found := by
  cases passes with
  | spawn | release | publish => exact (hp.runs run key _ found hr hfound).append _
  | unwind | lose => cases hfound
  | proceed proceeds =>
    rcases proceeds.found? hfound with hold | ⟨id, hcached⟩ | ⟨account, _, rfl, rfl, rfl⟩
    · exact (hp.runs run key _ found hr hold).append _
    · exact (hp.get? hcached).append _
    · exact ⟨_, List.mem_append_right _ (List.mem_singleton_self _), run, rfl, account,
        Flight.work?_eq_some.mpr ⟨key, hr⟩⟩
  | finish ends =>
    exact (hp.runs run key _ found hr ((Work.found?_of_result? ends).trans hfound)).append _

theorem move (hp : Sourced log p) (coherent : Flight.Coherent p.resolver.group)
    (h : Moves now p a q) : Sourced (log ++ [(p, (now, a))]) q where
  runs run key phase found hq hfound := by
    rcases h.passes coherent hq with hsame | ⟨-, rfl, -⟩ | ⟨old, _, _, hold, passes, -⟩
    · exact (hp.runs run key phase found hsame hfound).append _
    · cases hfound
    · exact hp.passes hold passes hfound
  cache id entry found hmem hvalue := by
    rcases h.entries with hsame | hsweep | ⟨run, key, account, value, fault, -, hr, -, hinsert⟩
    · rw [hsame] at hmem
      exact (hp.cache id entry found hmem hvalue).append _
    · rw [hsweep] at hmem
      exact (hp.cache id entry found (List.mem_filter.mp hmem).1 hvalue).append _
    · rw [hinsert] at hmem
      rcases Table.mem_entries_insert hmem with hnew | hold
      · cases hnew
        exact (hp.runs run key _ found hr hvalue).append _
      · exact (hp.cache id entry found hold hvalue).append _

end Sourced

/-! ### Requests have numbers of their own -/

theorem Moves.requests_le (h : Moves now p a q) : p.textures.requests ≤ q.textures.requests := by
  cases h with
  | proceed _ proceeds =>
    cases proceeds with
    | cache advances =>
      cases TexturesCache.advances_of_advance? advances with
      | request => exact Nat.le_succ _
      | hit | miss | store | sweep => exact Nat.le_refl _
    | _ => exact Nat.le_refl _
  | _ => exact Nat.le_refl _

/-- A reply moves its run on. -/
theorem Moves.fetched {reply : Except RemoteError (Option Profile)} {key : String}
    {phase : Flight.Phase Work FetchResult} (h : Moves now p (.fetched run reply) q)
    (hr : q.resolver.group.runs.get? run = some ⟨key, phase⟩) :
    ∃ account request, Awaits p run request ∧
      phase = .working (.dressing account (TexturesCache.fetched (.ofReply request reply))) := by
  cases h with
  | turn own => cases own
  | proceed at_ proceeds stepped =>
    cases proceeds with
    | fetched =>
      obtain ⟨key', hr'⟩ := Flight.work?_eq_some.mp at_
      have hnext := (Resolver.group_of_step? stepped).advance hr'
      cases hr.symm.trans hnext
      exact ⟨_, _, ⟨_, at_⟩, rfl⟩

/-- A run that waits for a reply has waited for it before, or else has just sent the request. -/
theorem Moves.awaits (h : Moves now p a q) (coherent : Flight.Coherent p.resolver.group)
    (hbegin : ∀ key work, p.resolver.group.runs.get? run = some ⟨key, .entered work⟩ →
      work = .begin key) (hq : Awaits q run request) :
    (Awaits p run request ∧ ∀ reply, a ≠ .fetched run reply) ∨
    request = p.textures.requests ∧ q.textures.requests = p.textures.requests + 1 ∧
      ∃ fault, a = .work run fault := by
  obtain ⟨account, hwork⟩ := hq
  obtain ⟨key, hr⟩ := Flight.work?_eq_some.mp hwork
  rcases h.passes coherent hr with hsame | ⟨-, hphase, -⟩ | ⟨old, _, _, hold, passes, -, htextures⟩
  · refine .inl ⟨⟨account, Flight.work?_eq_some.mpr ⟨key, hsame⟩⟩, ?_⟩
    rintro reply rfl
    obtain ⟨account', request', -, hphase⟩ := h.fetched hr
    exact TexturesCache.fetched_ne_fetching
      (Work.dressing.inj (Flight.Phase.working.inj hphase)).2.symm
  · cases hphase
  · cases passes with
    | spawn =>
      cases hbegin _ _ hold
    | proceed proceeds =>
      generalize hnext : Work.dressing account (.fetching request) = next at proceeds
      cases proceeds with
      | cache advances =>
        cases hnext
        cases TexturesCache.advances_of_advance? advances with
        | request => exact .inr ⟨rfl, by rw [htextures], _, rfl⟩
      | fetched =>
        exact absurd (Work.dressing.inj hnext).2.symm TexturesCache.fetched_ne_fetching
      | _ => cases hnext

/-- What is known about the numbers of requests after a log. -/
structure Numbered (log : List (Entry σ)) (p : Pipeline σ) : Prop where
  sent : ∀ run request, Awaits p run request → request < p.textures.requests
  alone : ∀ run run' request, Awaits p run request → Awaits p run' request → run = run'
  replied : ∀ e ∈ log, ∀ run request reply, Replies e run request reply →
    request < p.textures.requests ∧ ∀ run', ¬Awaits p run' request
  once : ∀ e ∈ log, ∀ d ∈ log, ∀ run run' request reply reply', Replies e run request reply →
    Replies d run' request reply' → run = run' ∧ reply = reply'

theorem Numbered.move (hp : Numbered log p) (coherent : Flight.Coherent p.resolver.group)
    (hbegin : ∀ run key work, p.resolver.group.runs.get? run = some ⟨key, .entered work⟩ →
      work = .begin key) (h : Moves now p a q) : Numbered (log ++ [(p, (now, a))]) q := by
  have hle := h.requests_le
  have before {run request : Nat} (hq : Awaits q run request) := h.awaits coherent (hbegin run) hq
  have none_ : ∀ {request}, request < p.textures.requests → (∀ run, ¬Awaits p run request) →
      ∀ run, ¬Awaits q run request := by
    intro request hlt hnot run hq
    rcases before hq with ⟨hold, -⟩ | ⟨rfl, -⟩
    · exact hnot run hold
    · omega
  constructor
  case sent =>
    intro run request hq
    rcases before hq with ⟨hold, -⟩ | ⟨rfl, hnext, -⟩
    · exact Nat.lt_of_lt_of_le (hp.sent run request hold) hle
    · omega
  case alone =>
    intro run run' request hq hq'
    rcases before hq with ⟨hold, -⟩ | ⟨rfl, -, fault, ha⟩
    · rcases before hq' with ⟨hold', -⟩ | ⟨rfl, -⟩
      · exact hp.alone run run' request hold hold'
      · exact absurd (hp.sent run _ hold) (Nat.lt_irrefl _)
    · rcases before hq' with ⟨hold', -⟩ | ⟨-, -, fault', ha'⟩
      · exact absurd (hp.sent run' _ hold') (Nat.lt_irrefl _)
      · cases ha.symm.trans ha'
        rfl
  case replied =>
    intro e he run request reply hreply
    rcases List.mem_append.mp he with hold | hnew
    · obtain ⟨hlt, hnot⟩ := hp.replied e hold run request reply hreply
      exact ⟨Nat.lt_of_lt_of_le hlt hle, none_ hlt hnot⟩
    · obtain rfl := List.mem_singleton.mp hnew
      obtain ⟨ha, hawaits⟩ := hreply
      have hlt := hp.sent run request hawaits
      refine ⟨Nat.lt_of_lt_of_le hlt hle, fun run' hq => ?_⟩
      rcases before hq with ⟨hold, hother⟩ | ⟨rfl, -⟩
      · obtain rfl := hp.alone run run' request hawaits hold
        exact hother reply ha
      · omega
  case once =>
    intro e he d hd run run' request reply reply' hreply hreply'
    rcases List.mem_append.mp he with hold | hnew
    · rcases List.mem_append.mp hd with hold' | hnew'
      · exact hp.once e hold d hold' run run' request reply reply' hreply hreply'
      · obtain rfl := List.mem_singleton.mp hnew'
        exact absurd hreply'.2 ((hp.replied e hold run request reply hreply).2 run')
    · obtain rfl := List.mem_singleton.mp hnew
      rcases List.mem_append.mp hd with hold' | hnew'
      · exact absurd hreply.2 ((hp.replied d hold' run' request reply' hreply').2 run)
      · obtain rfl := List.mem_singleton.mp hnew'
        cases hreply.1.symm.trans hreply'.1
        exact ⟨rfl, rfl⟩

section

variable {store : σ} {settings : BatchSettings}

theorem sourced_of_history (h : History Step (ofStore store settings) log p) : Sourced log p := by
  induction h with
  | start => exact .ofStore store settings
  | next h hs ih => exact ih.move (coherent_of_history h) (moves_of_step? hs)

theorem numbered_of_history (h : History Step (ofStore store settings) log p) : Numbered log p := by
  induction h with
  | start =>
    refine ⟨?_, ?_, by simp, by simp⟩
    · rintro run request ⟨account, hwork⟩
      cases hwork
    · rintro run run' request ⟨account, hwork⟩
      cases hwork
  | next h hs ih =>
    exact ih.move (coherent_of_history h) (fun _ _ _ => begin_of_entered h) (moves_of_step? hs)

/-- No two profiles were brought by one request. -/
theorem brought_unique (h : History Step (ofStore store settings) log p) {other : Fetched}
    (hfound : Brought log found) (hother : Brought log other)
    (same : found.request = other.request) : found = other := by
  obtain ⟨e, he, run, hreply⟩ := hfound
  obtain ⟨d, hd, run', hreply'⟩ := hother
  rw [← same] at hreply'
  obtain ⟨-, hprofile⟩ := (numbered_of_history h).once e he d hd _ _ _ _ _ hreply hreply'
  obtain ⟨request, profile⟩ := found
  obtain ⟨request', profile'⟩ := other
  obtain rfl : request = request' := same
  obtain rfl : profile = profile' := by simpa using hprofile
  rfl

/-- What a call has returned was brought by a reply. -/
theorem brought_of_returned (h : History Step (ofStore store settings) log p) {id : Nat}
    {call : Flight.Call FetchResult} (hc : p.resolver.group.calls.get? id = some call)
    (returned : call.phase = .returned (.ok (some found))) : Brought log found := by
  obtain ⟨⟨key, phase⟩, hr, hpublished, -⟩ := (coherent_of_history h).outcome id call hc
  obtain rfl : phase = .published (.ok (some found)) := hpublished _ returned
  exact (sourced_of_history h).runs call.run key _ found hr rfl

/-! ### What a run has found stays -/

/-- A run whose lookup finds a profile in the cache has found it. -/
theorem Moves.hit {fault : Option StoreError} {account : Account}
    (h : Moves now p (.work run fault) q)
    (hwork : p.resolver.group.work? run = some (.dressing account .looking))
    (alive : p.textures.entries.get? now account.id = some (some found)) :
    ∃ key phase, q.resolver.group.runs.get? run = some ⟨key, phase⟩ ∧
      Pipeline.found? phase = some found := by
  cases h with
  | turn own => cases own
  | @proceed _ run' work' next known textures _ hat hproceeds stepped =>
    obtain rfl : run = run' := by cases hproceeds <;> rfl
    cases hwork.symm.trans hat
    cases hproceeds with
    | cache advances =>
      obtain ⟨key, hr⟩ := Flight.work?_eq_some.mp hat
      refine ⟨key, _, (Resolver.group_of_step? stepped).advance hr, ?_⟩
      cases TexturesCache.advances_of_advance? advances with
      | hit alive' =>
        cases alive.symm.trans alive'
        rfl
      | miss gone => cases alive.symm.trans gone
  | finish hat ends =>
    cases hwork.symm.trans hat
    cases ends
  | ask hat => cases hwork.symm.trans hat

/-- A run that has found a profile keeps it to its end. -/
theorem Moves.found? (h : Moves now p a q) (coherent : Flight.Coherent p.resolver.group)
    {key : String} {phase : Flight.Phase Work FetchResult}
    (hr : p.resolver.group.runs.get? run = some ⟨key, phase⟩)
    (hfound : Pipeline.found? phase = some found) :
    ∃ next, q.resolver.group.runs.get? run = some ⟨key, next⟩ ∧
      Pipeline.found? next = some found := by
  obtain ⟨next, hnext⟩ := h.run coherent hr
  refine ⟨next, hnext, ?_⟩
  rcases h.passes coherent hnext with hsame | ⟨hnone, -⟩ | ⟨old, _, _, hold, passes, -⟩
  · cases hsame.symm.trans hr
    exact hfound
  · cases hnone.symm.trans hr
  · cases hold.symm.trans hr
    cases passes with
    | spawn | release | publish => exact hfound
    | unwind | lose => cases hfound
    | finish ends => exact (Work.found?_of_result? ends).symm.trans hfound
    | proceed proceeds =>
      cases proceeds with
      | read | answered | write | dress | fetched => cases hfound
      | cache advances =>
        cases TexturesCache.advances_of_advance? advances with
        | hit | miss | request => cases hfound
        | store | sweep => exact hfound

/-- The calls that a run serves return the profile that it has found. -/
theorem returned_of_found {rest : List (Entry σ)} {t : Pipeline σ} {id : Nat} {key : String}
    {phase : Flight.Phase Work FetchResult} {call : Flight.Call FetchResult} {result : FetchResult}
    (h : History Step (ofStore store settings) log p) (hrest : History Step p rest t)
    (hr : p.resolver.group.runs.get? run = some ⟨key, phase⟩)
    (hfound : found? phase = some found) (hc : t.resolver.group.calls.get? id = some call)
    (own : call.run = run) (returned : call.phase = .returned result) :
    result = .ok (some found) := by
  have hend := hrest.invariant
    (I := fun t => Flight.Coherent t.resolver.group ∧ ∃ next,
      t.resolver.group.runs.get? run = some ⟨key, next⟩ ∧ found? next = some found)
    ⟨coherent_of_history h, phase, hr, hfound⟩ (by
      rintro t a u ⟨coherent, next, hnext, hkeeps⟩ hs
      have hmove := moves_of_step? hs
      exact ⟨hmove.coherent coherent, hmove.found? coherent hnext hkeeps⟩)
  obtain ⟨coherent, next, hnext, hkeeps⟩ := hend
  obtain ⟨⟨key', phase'⟩, hr', hpublished, -⟩ := coherent.outcome id call hc
  rw [own] at hr'
  cases hnext.symm.trans hr'
  obtain rfl : next = .published result := hpublished result returned
  cases result with
  | error => cases hkeeps
  | ok profile => exact congrArg Except.ok hkeeps

end

end Pipeline

end SkinRelay
