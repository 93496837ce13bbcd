import SkinRelay.Proofs.Pipeline.Waiters

/-!
What runs do, told by the log alone: each run does a few things with the store, the queue and the
cache, in one of a few orders (`told_of_history`), and the counters of the store and the cache
count these deeds (`tallied_of_history`).
-/

namespace SkinRelay.Pipeline

/-- What a run does. -/
inductive Deed where
  /-- The store fails to be read. -/
  | unread
  /-- The store has a record of the name, with an account or without. -/
  | found (account : Bool)
  /-- The store has no record of the name. -/
  | lacked
  /-- The queue gives an error. -/
  | refused
  /-- The queue gives an answer, with an account or without. -/
  | answered (account : Bool)
  | stored
  /-- The store fails to be written. -/
  | unstored
  /-- The cache has the profile. -/
  | hit
  | missed
  /-- The session server is asked. -/
  | requested
  deriving DecidableEq, Repr

variable {σ : Type} [NameStore σ]

/-- What a run with this work does in its next step. -/
def Work.deed? (p : Pipeline σ) (now run : Nat) (fault : Option StoreError) : Work → Option Deed
  | .naming username .reading =>
    match fault with
    | some _ => some .unread
    | none =>
      match NameStore.lookup p.known.store now (Username.key username) with
      | some record => some (.found record.uuid.isSome)
      | none => some .lacked
  | .naming _ .asking =>
    match p.batch.calls.get? run with
    | some { phase := .returned (.error _), .. } => some .refused
    | some { phase := .returned (.ok found), .. } => some (.answered found.isSome)
    | _ => none
  | .naming _ (.writing _) => some (if fault.isSome then .unstored else .stored)
  | .dressing account .looking =>
    some (if (p.textures.entries.get? now account.id).isSome then .hit else .missed)
  | .dressing _ .missed => some .requested
  | _ => none

/-- Who does something in an entry of a log, and what. -/
def deed? (e : Entry σ) : Option (Nat × Deed) :=
  match e.2.2 with
  | .work run fault =>
    ((e.1.resolver.group.work? run).bind (Work.deed? e.1 e.2.1 run fault)).map (run, ·)
  | _ => none

def deeds (log : List (Entry σ)) : List (Nat × Deed) := log.filterMap deed?

/-- What one of all who did something did, in order. -/
def storyOf (deeds : List (Nat × Deed)) (run : Nat) : List Deed :=
  (deeds.filter (·.1 = run)).map (·.2)

/-- What a run has done. -/
def story (log : List (Entry σ)) (run : Nat) : List Deed := storyOf (deeds log) run

/-! ### The stories that there are -/

/-- The ways to learn whether there is an account. -/
def learnt (account : Bool) : List (List Deed) :=
  [[.found account], [.lacked, .answered account, .stored], [.lacked, .answered account, .unstored]]

/-- The ways to be without an answer. -/
def failed : List (List Deed) := [[.unread], [.lacked, .refused]]

/-- The ways to the end of a lookup of a profile. -/
def dressed : List (List Deed) :=
  (learnt true).map (· ++ [.hit]) ++ (learnt true).map (· ++ [.missed, .requested])

/-- The stories of runs that have come to an end. -/
def endings : List (List Deed) := failed ++ learnt false ++ dressed

/-- The stories of runs whose work has come so far. -/
def Work.stories : Work → List (List Deed)
  | .naming _ .reading => [[]]
  | .naming _ .asking => [[.lacked]]
  | .naming _ (.writing found) => [[.lacked, .answered found.isSome]]
  | .naming _ (.done (.error _)) => failed
  | .naming _ (.done (.ok found)) => learnt found.isSome
  | .dressing _ .looking => learnt true
  | .dressing _ .missed => (learnt true).map (· ++ [.missed])
  | .dressing _ (.done _) => dressed
  | .dressing _ _ => (learnt true).map (· ++ [.missed, .requested])

/-- The stories of runs in this phase. No run ends without an output. -/
def stories : Option (Flight.Phase Work FetchResult) → List (List Deed)
  | none | some (.entered _) => [[]]
  | some (.working work) => work.stories
  | some (.finished _) | some (.released _) | some (.published _) => endings
  | some .broken | some .unwound | some .lost => []

/-- Whether a record of the name was found. -/
def Deed.isFound : Deed → Bool
  | .found _ => true
  | _ => false

/-! ### Steps -/

section

variable {now run : Nat} {p q : Pipeline σ} {a : Action} {work next : Work}
  {known : KnownAccounts σ} {textures : TexturesCache} {d : Deed}

/-- What a run does, or does not do, as its work goes on: its story becomes one of those of the next
work, and what is to be counted is counted. -/
structure Tells (p : Pipeline σ) (did : Option Deed) (work next : Work) (known : KnownAccounts σ)
    (textures : TexturesCache) : Prop where
  story : ∀ tale ∈ work.stories, tale ++ did.toList ∈ next.stories
  uuids : known.stats =
    { hits := p.known.stats.hits + did.toList.countP Deed.isFound
      misses := p.known.stats.misses + did.toList.count .stored }
  profiles : textures.stats =
    { hits := p.textures.stats.hits + did.toList.count .hit
      misses := p.textures.stats.misses + did.toList.count .missed }
  requests : textures.requests = p.textures.requests + did.toList.count .requested

theorem tells_read (fault : Option StoreError) (username : String) :
    Tells p (Work.deed? p now run fault (.naming username .reading)) (.naming username .reading)
      (.naming username (p.known.read now fault username).1) (p.known.read now fault username).2
      p.textures := by
  cases fault with
  | some error =>
    exact ⟨by simp [Work.stories, Work.deed?, KnownAccounts.read, failed], rfl, rfl, rfl⟩
  | none =>
    cases hlookup : NameStore.lookup p.known.store now (Username.key username) with
    | some record =>
      simp only [Work.deed?, KnownAccounts.read, hlookup]
      exact ⟨by simp [Work.stories, KnownAccounts.account?, learnt], rfl, rfl, rfl⟩
    | none =>
      simp only [Work.deed?, KnownAccounts.read, hlookup]
      exact ⟨by simp [Work.stories], rfl, rfl, rfl⟩

theorem tells_answered {fault : Option StoreError} {username : String} {call : Batch.Call}
    {result : AccountResult} (at_ : p.batch.calls.get? run = some call)
    (returned : call.phase = .returned result) :
    Tells p (Work.deed? p now run fault (.naming username .asking)) (.naming username .asking)
      (.naming username (KnownAccounts.answered result)) p.known p.textures := by
  obtain ⟨name, token, phase⟩ := call
  obtain rfl : phase = .returned result := returned
  simp only [Work.deed?, at_]
  cases result with
  | error => exact ⟨by simp [Work.stories, KnownAccounts.answered, failed], rfl, rfl, rfl⟩
  | ok found => exact ⟨by simp [Work.stories, KnownAccounts.answered], rfl, rfl, rfl⟩

theorem tells_write (fault : Option StoreError) (username : String) (found : Option Account) :
    Tells p (Work.deed? p now run fault (.naming username (.writing found)))
      (.naming username (.writing found))
      (.naming username (p.known.write now fault username found).1)
      (p.known.write now fault username found).2 p.textures := by
  cases fault <;>
    exact ⟨by simp [Work.stories, Work.deed?, KnownAccounts.write, learnt], rfl, rfl, rfl⟩

theorem tells_cache {fault : Option StoreError} {account : Account}
    {stage stage' : TexturesCache.Stage}
    (advances : p.textures.advance? now account.id stage = some (stage', textures)) :
    Tells p (Work.deed? p now run fault (.dressing account stage)) (.dressing account stage)
      (.dressing account stage') p.known textures := by
  cases stage with
  | looking =>
    cases hget : p.textures.entries.get? now account.id with
    | some found =>
      simp only [TexturesCache.advance?, TexturesCache.look, hget] at advances
      cases advances
      simp only [Work.deed?, hget]
      exact ⟨by simp [Work.stories, dressed, learnt], rfl, rfl, rfl⟩
    | none =>
      simp only [TexturesCache.advance?, TexturesCache.look, hget] at advances
      cases advances
      simp only [Work.deed?, hget]
      exact ⟨by simp [Work.stories, learnt], rfl, rfl, rfl⟩
  | missed =>
    cases advances
    exact ⟨by simp [Work.stories, Work.deed?, learnt], rfl, rfl, rfl⟩
  | storing found =>
    cases advances
    exact ⟨by simp [Work.stories, Work.deed?], rfl, rfl, rfl⟩
  | stored found =>
    cases advances
    refine ⟨?_, rfl, ?_, ?_⟩
    · intro tale told
      exact (List.append_nil tale).symm ▸ List.mem_append_right _ told
    all_goals
      · unfold TexturesCache.startSweeper
        split <;> rfl
  | fetching | done => cases advances

theorem deed?_of_work {fault : Option StoreError}
    (at_ : p.resolver.group.work? run = some work) :
    deed? (p, (now, .work run fault)) = (work.deed? p now run fault).map (run, ·) := by
  simp [deed?, at_]

theorem Proceeds.tells (h : Proceeds now p run a work next known textures)
    (at_ : p.resolver.group.work? run = some work) :
    ∃ did, deed? (p, (now, a)) = did.map (run, ·) ∧ Tells p did work next known textures := by
  cases h with
  | read fault => exact ⟨_, deed?_of_work at_, tells_read fault _⟩
  | answered hc returned => exact ⟨_, deed?_of_work at_, tells_answered hc returned⟩
  | write fault => exact ⟨_, deed?_of_work at_, tells_write fault _ _⟩
  | dress => exact ⟨_, deed?_of_work at_, by simp [Work.stories, Work.deed?], rfl, rfl, rfl⟩
  | cache advances => exact ⟨_, deed?_of_work at_, tells_cache advances⟩
  | @fetched account request reply =>
    refine ⟨none, rfl, ?_, rfl, rfl, rfl⟩
    cases reply with
    | error =>
      intro tale told
      exact (List.append_nil tale).symm ▸ List.mem_append_right _ told
    | ok => simp [Work.stories, TexturesCache.fetched, FetchResult.ofReply]

/-- A work that has come to its end has nothing more to do. -/
theorem Work.deed?_of_result? {result : FetchResult} {fault : Option StoreError}
    (ends : work.result? = some result) : work.deed? p now run fault = none := by
  unfold Work.result? at ends
  split at ends <;> first | rfl | cases ends

theorem Work.stories_of_result? {result : FetchResult} (ends : work.result? = some result)
    {tale : List Deed} (told : tale ∈ work.stories) : tale ∈ endings := by
  unfold Work.result? at ends
  split at ends
  · exact List.mem_append_left _ (List.mem_append_left _ told)
  · exact List.mem_append_left _ (List.mem_append_right _ told)
  · exact List.mem_append_right _ told
  · cases ends

/-- A run that is a caller of the queue has nothing to tell until its call returns. -/
theorem Work.deed?_of_asks {username : String} {action : Batch.Action} {fault : Option StoreError}
    (asks : p.asks? run username = some action) :
    Work.deed? p now run fault (.naming username .asking) = none := by
  unfold asks? at asks
  simp only [Work.deed?]
  split at asks
  · rename_i hnone
    simp [hnone]
  · rename_i call hc
    obtain ⟨name, token, phase⟩ := call
    cases phase with
    | returned => cases asks
    | _ => simp [hc]

/-- A step in which nothing is told counts nothing, and in any other the work of a run goes on. -/
theorem Moves.tells (h : Moves now p a q) :
    (deed? (p, (now, a)) = none ∧ q.known.stats = p.known.stats ∧
      q.textures.stats = p.textures.stats ∧ q.textures.requests = p.textures.requests) ∨
    ∃ run key work next did, p.resolver.group.runs.get? run = some ⟨key, .working work⟩ ∧
      q.resolver.group.runs.get? run = some ⟨key, .working next⟩ ∧
      deed? (p, (now, a)) = did.map (run, ·) ∧ Tells p did work next q.known q.textures := by
  cases h with
  | @turn a _ _ own =>
    refine .inl ⟨?_, rfl, rfl, rfl⟩
    cases a <;> first | rfl | cases own
  | proceed hat proceeds stepped =>
    obtain ⟨key, hr⟩ := Flight.work?_eq_some.mp hat
    obtain ⟨did, hdid, tells⟩ := proceeds.tells hat
    exact .inr ⟨_, key, _, _, did, hr, (Resolver.group_of_step? stepped).advance hr, hdid, tells⟩
  | finish hat ends =>
    refine .inl ⟨?_, rfl, rfl, rfl⟩
    rw [deed?_of_work hat, Work.deed?_of_result? ends]
    rfl
  | ask hat asks =>
    refine .inl ⟨?_, rfl, rfl, rfl⟩
    rw [deed?_of_work hat, Work.deed?_of_asks asks]
    rfl
  | _ => exact .inl ⟨rfl, rfl, rfl, rfl⟩

end

/-! ### Logs -/

section

variable {log : List (Entry σ)} {e : Entry σ} {run : Nat} {d : Deed}

theorem deeds_concat : deeds (log ++ [e]) = deeds log ++ (deed? e).toList := by
  unfold deeds
  rw [List.filterMap_append, List.filterMap_cons]
  cases deed? e <;> rfl

theorem story_concat : story (log ++ [e]) run = story log run ++ storyOf (deed? e).toList run := by
  simp [story, storyOf, deeds_concat]

theorem story_concat_of_deed {did : Option Deed} (hdid : deed? e = did.map (run, ·)) :
    story (log ++ [e]) run = story log run ++ did.toList := by
  rw [story_concat, hdid]
  cases did <;> simp [storyOf]

theorem story_concat_of_ne (other : ∀ d, deed? e ≠ some (run, d)) :
    story (log ++ [e]) run = story log run := by
  rw [story_concat]
  cases hd : deed? e with
  | none => simp [storyOf]
  | some did =>
    have hne : did.1 ≠ run := by
      rintro rfl
      exact other did.2 hd
    simp [storyOf, hne]

end

/-! ### Runs -/

/-- Whether the story of every run is one of those for its phase. -/
def Told (log : List (Entry σ)) (p : Pipeline σ) : Prop :=
  ∀ run, story log run ∈ stories (p.resolver.group.phase? run)

section

variable {log : List (Entry σ)} {now run : Nat} {p q : Pipeline σ} {a : Action}

omit [NameStore σ] in
theorem phase?_of_get? {key : String} {phase : Flight.Phase Work FetchResult}
    (hr : p.resolver.group.runs.get? run = some ⟨key, phase⟩) :
    p.resolver.group.phase? run = some phase := by
  rw [Flight.phase?, hr]
  rfl

/-- A run that does nothing keeps its story. -/
theorem Moves.silent (h : Moves now p a q) (coherent : Flight.Coherent p.resolver.group)
    (begins : ∀ key work, p.resolver.group.runs.get? run = some ⟨key, .entered work⟩ →
      work = .begin key) (silent : ∀ d, deed? (p, (now, a)) ≠ some (run, d)) {tale : List Deed}
    (told : tale ∈ stories (p.resolver.group.phase? run)) :
    tale ∈ stories (q.resolver.group.phase? run) := by
  cases hq : q.resolver.group.runs.get? run with
  | none =>
    cases hp : p.resolver.group.runs.get? run with
    | none => simpa [Flight.phase?, hp, hq] using told
    | some old =>
      obtain ⟨next, hnext⟩ := h.run coherent hp
      cases hnext.symm.trans hq
  | some r =>
    obtain ⟨key, phase⟩ := r
    rw [phase?_of_get? hq]
    rcases h.passes coherent hq with hsame | ⟨hnone, rfl, -⟩ | ⟨old, _, _, hold, passes, -⟩
    · rwa [phase?_of_get? hsame] at told
    · rw [Flight.phase?, hnone] at told
      exact told
    · rw [phase?_of_get? hold] at told
      cases passes with
      | spawn =>
        rw [begins key _ hold]
        exact told
      | proceed proceeds =>
        obtain ⟨did, hdid, tells⟩ := proceeds.tells (Flight.work?_eq_some.mpr ⟨key, hold⟩)
        cases did with
        | none => exact List.append_nil tale ▸ tells.story tale told
        | some did => exact absurd hdid (silent did)
      | finish ends => exact Work.stories_of_result? ends told
      | release | publish => exact told
      | unwind | lose => cases told

theorem Told.move (hp : Told log p) (coherent : Flight.Coherent p.resolver.group)
    (begins : ∀ run key work, p.resolver.group.runs.get? run = some ⟨key, .entered work⟩ →
      work = .begin key) (h : Moves now p a q) : Told (log ++ [(p, (now, a))]) q := by
  intro run
  rcases h.tells with ⟨hnone, -⟩ | ⟨r, key, work, next, did, hr, hq, hdid, tells⟩
  · have silent : ∀ d, deed? (p, (now, a)) ≠ some (run, d) := by simp [hnone]
    rw [story_concat_of_ne silent]
    exact h.silent coherent (begins run) silent (hp run)
  · by_cases hrun : run = r
    · subst hrun
      have told := hp run
      rw [phase?_of_get? hr] at told
      rw [story_concat_of_deed hdid, phase?_of_get? hq]
      exact tells.story _ told
    · have silent : ∀ d, deed? (p, (now, a)) ≠ some (run, d) := by
        cases did with
        | none => simp [hdid]
        | some did => simp [hdid, Ne.symm hrun]
      rw [story_concat_of_ne silent]
      exact h.silent coherent (begins run) silent (hp run)

/-- Whether these deeds are what the store and the cache have counted. -/
structure Tallied (done : List Deed) (p : Pipeline σ) : Prop where
  found : p.known.stats.hits = done.countP Deed.isFound
  stored : p.known.stats.misses = done.count .stored
  hit : p.textures.stats.hits = done.count .hit
  missed : p.textures.stats.misses = done.count .missed
  requested : p.textures.requests = done.count .requested

theorem Tallied.move {done : List Deed} (hp : Tallied done p) (h : Moves now p a q) :
    Tallied (done ++ (deed? (p, (now, a))).toList.map Prod.snd) q := by
  rcases h.tells with ⟨hnone, huuids, hprofiles, hrequests⟩ | ⟨r, _, _, _, did, -, -, hdid, tells⟩
  · rw [hnone, Option.toList_none, List.map_nil, List.append_nil]
    constructor
    case found => rw [huuids, hp.found]
    case stored => rw [huuids, hp.stored]
    case hit => rw [hprofiles, hp.hit]
    case missed => rw [hprofiles, hp.missed]
    case requested => rw [hrequests, hp.requested]
  · have hdeeds : (deed? (p, (now, a))).toList.map Prod.snd = did.toList := by
      rw [hdid]
      cases did <;> rfl
    rw [hdeeds]
    constructor
    case found => rw [tells.uuids, hp.found, List.countP_append]
    case stored => rw [tells.uuids, hp.stored, List.count_append]
    case hit => rw [tells.profiles, hp.hit, List.count_append]
    case missed => rw [tells.profiles, hp.missed, List.count_append]
    case requested => rw [tells.requests, hp.requested, List.count_append]

end

section

variable {store : σ} {settings : BatchSettings} {log : List (Entry σ)} {p : Pipeline σ}

theorem told_of_history (h : History Step (ofStore store settings) log p) : Told log p := by
  induction h with
  | start => exact fun run => List.mem_singleton_self _
  | next h hs ih =>
    exact ih.move (coherent_of_history h) (fun _ _ _ => begin_of_entered h) (moves_of_step? hs)

theorem tallied_of_history (h : History Step (ofStore store settings) log p) :
    Tallied ((deeds log).map Prod.snd) p := by
  induction h with
  | start => exact ⟨rfl, rfl, rfl, rfl, rfl⟩
  | next h hs ih =>
    rw [deeds_concat, List.map_append]
    exact ih.move (moves_of_step? hs)

end

end SkinRelay.Pipeline
