import Mathlib.Algebra.BigOperators.Group.Finset.Piecewise
import SkinRelay.Proofs.Batch.Counters
import SkinRelay.Proofs.Pipeline.Deeds
import SkinRelay.Proofs.Pipeline.Returns

/-!
The counters of the service add up: each of them is the number of calls that have returned in some
way, of runs that have done something, or of jobs that were sent (`counters_are_balanced`).
-/

namespace SkinRelay.Pipeline

variable {σ : Type}

/-- How many of the runs that have begun are such. -/
def number (p : Pipeline σ) (P : Nat → Prop) [DecidablePred P] : Nat :=
  ((Finset.range p.resolver.group.begun).filter P).card

/-- Whether no run is in flight. -/
def Idle (p : Pipeline σ) : Prop := p.resolver.group.size = 0

/-- Whether no run is on its way from a look into the cache to the request that follows at once. -/
def BetweenPolls (p : Pipeline σ) : Prop :=
  ∀ run account, p.resolver.group.work? run ≠ some (.dressing account .missed)

/-- The batch that an entry of a log takes out of the queue, if it takes out one. -/
def drain? (e : Entry σ) : Option Batch.Dispatch :=
  match e.2.2 with
  | .batch action => Batch.dispatch? (e.1.batch, (e.2.1, action))
  | _ => none

/-- The runs whose jobs were drained. -/
def drained (log : List (Entry σ)) : List Nat :=
  ((log.filterMap drain?).flatMap Batch.Dispatch.jobs).map Batch.Job.id

/-! ### Stories -/

/-- The stories of runs, whether or not they have come to an end. They are few, and so what is said
of all of them can be decided. -/
def tales : List (List Deed) := endings.flatMap List.inits

theorem count_found : ∀ tale ∈ tales, tale.countP Deed.isFound =
    if .found true ∈ tale ∨ .found false ∈ tale then 1 else 0 := by decide

theorem count_stored : ∀ tale ∈ tales, tale.countP (· == .stored) =
    if (.answered true ∈ tale ∨ .answered false ∈ tale) ∧ .stored ∈ tale then 1 else 0 := by decide

theorem count_looks : ∀ tale ∈ endings, tale.countP (· == .hit) + tale.countP (· == .missed) =
    if .found true ∈ tale ∨ .answered true ∈ tale then 1 else 0 := by decide

theorem count_learnt : ∀ tale ∈ endings, tale.countP Deed.isFound + tale.countP (· == .stored) =
    if .unread ∉ tale ∧ .unstored ∉ tale ∧ .refused ∉ tale then 1 else 0 := by decide

/-- Whether a story can be that of a run between two polls: each miss has led to a request. -/
def IsEven (tale : List Deed) : Prop :=
  tale ∈ tales ∧ tale.count .requested = tale.count .missed

instance : DecidablePred IsEven := fun _ => inferInstanceAs (Decidable (_ ∧ _))

theorem Work.isEven {work : Work} {tale : List Deed} (told : tale ∈ work.stories)
    (other : ∀ account, work ≠ .dressing account .missed) : IsEven tale := by
  have requested : ∀ tale ∈ (learnt true).map (· ++ [.missed, .requested]), IsEven tale := by decide
  cases work with
  | naming username stage =>
    cases stage with
    | reading =>
      have even : ∀ tale ∈ [[]], IsEven tale := by decide
      exact even tale told
    | asking =>
      have even : ∀ tale ∈ [[.lacked]], IsEven tale := by decide
      exact even tale told
    | writing found =>
      have even : ∀ account, ∀ tale ∈ [[.lacked, .answered account]], IsEven tale := by decide
      exact even found.isSome tale told
    | done result =>
      cases result with
      | error =>
        have even : ∀ tale ∈ failed, IsEven tale := by decide
        exact even tale told
      | ok found =>
        have even : ∀ account, ∀ tale ∈ learnt account, IsEven tale := by decide
        exact even found.isSome tale told
  | dressing account stage =>
    cases stage with
    | looking =>
      have even : ∀ tale ∈ learnt true, IsEven tale := by decide
      exact even tale told
    | missed => exact absurd rfl (other account)
    | fetching | storing | stored => exact requested tale told
    | done =>
      have even : ∀ tale ∈ dressed, IsEven tale := by decide
      exact even tale told

theorem isEven_of_story {phase : Option (Flight.Phase Work FetchResult)} {tale : List Deed}
    (told : tale ∈ stories phase)
    (other : ∀ account, phase ≠ some (.working (.dressing account .missed))) : IsEven tale := by
  have begun : ∀ tale ∈ [[]], IsEven tale := by decide
  have ended : ∀ tale ∈ endings, IsEven tale := by decide
  cases phase with
  | none => exact begun tale told
  | some phase =>
    cases phase with
    | entered => exact begun tale told
    | working work => exact Work.isEven told fun account heq => other account (by rw [heq])
    | finished | released | published => exact ended tale told
    | broken | unwound | lost => cases told

theorem tale_of_story {phase : Option (Flight.Phase Work FetchResult)} {tale : List Deed}
    (told : tale ∈ stories phase) : tale ∈ tales := by
  have missed : ∀ tale ∈ (learnt true).map (· ++ [.missed]), tale ∈ tales := by decide
  by_cases other : ∀ account, phase ≠ some (.working (.dressing account .missed))
  · exact (isEven_of_story told other).1
  · obtain ⟨account, rfl⟩ := by simpa using other
    exact missed tale told

/-! ### Runs and their deeds -/

/-- What was done is what each run did. -/
theorem countP_deeds {deeds : List (Nat × Deed)} {n : Nat} (bound : ∀ e ∈ deeds, e.1 < n)
    (P : Deed → Bool) :
    (deeds.map Prod.snd).countP P = ∑ run ∈ Finset.range n, (storyOf deeds run).countP P := by
  induction deeds with
  | nil => simp [storyOf]
  | cons e rest ih =>
    obtain ⟨hfirst, hrest⟩ := List.forall_mem_cons.mp bound
    have hstory : ∀ run, (storyOf (e :: rest) run).countP P =
        (storyOf rest run).countP P + if e.1 = run then (if P e.2 then 1 else 0) else 0 := by
      intro run
      by_cases hrun : e.1 = run <;> simp [storyOf, hrun, List.countP_cons]
    simp only [List.map_cons, List.countP_cons, hstory, Finset.sum_add_distrib,
      Finset.sum_ite_eq, Finset.mem_range, hfirst, if_true, ih hrest]

section

variable [NameStore σ] {store : σ} {settings : BatchSettings} {log : List (Entry σ)}
  {p : Pipeline σ}

theorem lt_begun_of_deed (h : History Step (ofStore store settings) log p) {e : Nat × Deed}
    (he : e ∈ deeds log) : e.1 < p.resolver.group.begun := by
  have told := told_of_history h e.1
  cases hr : p.resolver.group.runs.get? e.1 with
  | some run => exact (coherent_of_history h).fresh _ run hr
  | none =>
    -- A run that is not there has done nothing.
    rw [Flight.phase?, hr] at told
    have hnothing : story log e.1 = [] := List.mem_singleton.mp told
    have hmem : e.2 ∈ story log e.1 :=
      List.mem_map.mpr ⟨e, List.mem_filter.mpr ⟨he, by simp⟩, rfl⟩
    rw [hnothing] at hmem
    cases hmem

theorem countP_deeds_of_history (h : History Step (ofStore store settings) log p)
    (P : Deed → Bool) : ((deeds log).map Prod.snd).countP P =
      ∑ run ∈ Finset.range p.resolver.group.begun, (story log run).countP P :=
  countP_deeds (fun _ he => lt_begun_of_deed h he) P

omit [NameStore σ] in
theorem number_eq_sum (P : Nat → Prop) [DecidablePred P] :
    p.number P = ∑ run ∈ Finset.range p.resolver.group.begun, if P run then 1 else 0 :=
  Finset.card_filter _ _

omit [NameStore σ] in
theorem number_eq_begun (P : Nat → Prop) [DecidablePred P] :
    p.number P = p.resolver.group.begun ↔ ∀ run < p.resolver.group.begun, P run := by
  have hall := Finset.card_filter_eq_iff (s := Finset.range p.resolver.group.begun) (p := P)
  rw [Finset.card_range] at hall
  simpa only [number, Finset.mem_range] using hall

/-- A deed that no run does twice has been done as often as there are runs that have done it. -/
theorem number_of_once (h : History Step (ofStore store settings) log p) {P : Deed → Bool}
    {Q : List Deed → Prop} [DecidablePred Q]
    (once : ∀ tale ∈ tales, tale.countP P = if Q tale then 1 else 0) :
    ((deeds log).map Prod.snd).countP P = p.number fun run => Q (story log run) := by
  rw [countP_deeds_of_history h, number_eq_sum]
  exact Finset.sum_congr rfl fun run _ => once _ (tale_of_story (told_of_history h run))

/-! ### When no run is in flight -/

theorem holdsKey_of_idle (h : History Step (ofStore store settings) log p) (idle : Idle p)
    {run : Nat} {key : String} {phase : Flight.Phase Work FetchResult}
    (hr : p.resolver.group.runs.get? run = some ⟨key, phase⟩) : phase.holdsKey = false := by
  rw [← Bool.not_eq_true]
  intro holds
  have hkey := ((coherent_of_history h).keys key run).mpr ⟨phase, hr, holds⟩
  have hmem := Table.mem_of_get? hkey
  rw [List.length_eq_zero_iff.mp idle] at hmem
  cases hmem

theorem ending_of_idle (h : History Step (ofStore store settings) log p) (idle : Idle p)
    {run : Nat} (hrun : run < p.resolver.group.begun) : story log run ∈ endings := by
  have told := told_of_history h run
  obtain ⟨groupLog, hgroup, -⟩ := group_of_history h
  obtain ⟨⟨key, phase⟩, hr⟩ := Flight.exists_run_of_lt hgroup hrun
  rw [phase?_of_get? hr] at told
  have free := holdsKey_of_idle h idle hr
  cases phase with
  | released | published => exact told
  | unwound | lost => cases told
  | entered | working | finished | broken => cases free

theorem betweenPolls_of_idle (h : History Step (ofStore store settings) log p) (idle : Idle p) :
    BetweenPolls p := by
  intro run account hwork
  obtain ⟨key, hr⟩ := Flight.work?_eq_some.mp hwork
  cases holdsKey_of_idle h idle hr

theorem pending_of_idle (h : History Step (ofStore store settings) log p) (idle : Idle p) :
    p.batch.pending = [] := by
  rw [List.eq_nil_iff_forall_not_mem]
  intro job hj
  obtain ⟨-, -, -, hr⟩ := waiter_of_pending h hj
  cases holdsKey_of_idle h idle hr

/-- Two deeds together, if each run that has come to an end has done one of them or none. -/
theorem number_of_idle (h : History Step (ofStore store settings) log p) (idle : Idle p)
    {P P' : Deed → Bool} {Q : List Deed → Prop} [DecidablePred Q]
    (once : ∀ tale ∈ endings, tale.countP P + tale.countP P' = if Q tale then 1 else 0) :
    ((deeds log).map Prod.snd).countP P + ((deeds log).map Prod.snd).countP P' =
      p.number fun run => Q (story log run) := by
  rw [countP_deeds_of_history h, countP_deeds_of_history h, ← Finset.sum_add_distrib,
    number_eq_sum]
  refine Finset.sum_congr rfl fun run hrun => once _ ?_
  exact ending_of_idle h idle (Finset.mem_range.mp hrun)

/-! ### Requests -/

theorem requests_of_betweenPolls (h : History Step (ofStore store settings) log p)
    (between : BetweenPolls p) : p.textures.requests = p.textures.stats.misses := by
  have tallied := tallied_of_history h
  rw [tallied.requested, tallied.missed, List.count, List.count, countP_deeds_of_history h,
    countP_deeds_of_history h]
  refine Finset.sum_congr rfl fun run _ => ?_
  refine (isEven_of_story (told_of_history h run) fun account hphase => ?_).2
  exact between run account (by rw [Flight.work?, hphase])

/-! ### Jobs -/

/-- A run that has asked for its name has not found it in the store. -/
theorem lacked_of_call (h : History Step (ofStore store settings) log p) {run : Nat}
    {call : Batch.Call} (hc : p.batch.calls.get? run = some call) :
    .lacked ∈ story log run := by
  induction h generalizing call with
  | start => cases hc
  | @next log p q a h hs ih =>
    obtain ⟨now, action⟩ := a
    have later : ∀ {call}, p.batch.calls.get? run = some call →
        .lacked ∈ story (log ++ [(p, (now, action))]) run := by
      intro call hc
      rw [story_concat]
      exact List.mem_append_left _ (ih hc)
    rcases (moves_of_step? hs).ofQueue with ⟨hsame, -⟩ | ⟨action', hstep, queues⟩
    · exact later (hsame ▸ hc)
    · cases queues with
      | own own => exact later (calls_of_isOfQueue own (Batch.moves_of_step? hstep) ▸ hc)
      | @ask asking _ username _ hat asks =>
        obtain ⟨phase, -, hcalls⟩ := calls_of_asks asks (Batch.moves_of_step? hstep)
        by_cases hrun : run = asking
        · subst hrun
          obtain ⟨key, hr⟩ := Flight.work?_eq_some.mp hat
          have told := told_of_history h run
          rw [phase?_of_get? hr] at told
          rw [story_concat, List.mem_singleton.mp told]
          exact List.mem_append_left _ (List.mem_singleton_self _)
        · rw [hcalls, Table.get?_insert, if_neg hrun] at hc
          exact later hc

/-- The run of a job that the queue has is one that has not found its name in the store. -/
theorem lacked_of_holds (h : History Step (ofStore store settings) log p) {job : Batch.Job}
    (hj : p.batch.Holds job) :
    job.id < p.resolver.group.begun ∧ .lacked ∈ story log job.id := by
  obtain ⟨call, hc, -⟩ := (orderly_of_history h).named job hj
  obtain ⟨-, -, phase, hr, -⟩ := (attended_of_history h).caller job.id call hc
  exact ⟨(coherent_of_history h).fresh _ _ hr, lacked_of_call h hc⟩

/-- What is taken out of the queue is what the queue dispatches. -/
theorem drain?_of_queueLog (h : History Step (ofStore store settings) log p) :
    ∃ queueLog, History Batch.Step (.ofSettings settings) queueLog p.batch ∧
      ∀ d, d ∈ log.filterMap drain? ↔ d ∈ Batch.dispatches queueLog := by
  obtain ⟨queueLog, hqueue, hfrom, hto⟩ := queueLog_of_history h
  refine ⟨queueLog, hqueue, fun d => ?_⟩
  rw [Batch.dispatches, List.mem_filterMap, List.mem_filterMap]
  constructor
  · rintro ⟨e, he, hd⟩
    unfold drain? at hd
    split at hd
    · rename_i action ha
      exact ⟨_, hto e he action ha, hd⟩
    · cases hd
  · rintro ⟨⟨b, now, action⟩, he', hd⟩
    obtain ⟨e, he, rfl, rfl, queues⟩ := hfrom _ he'
    refine ⟨e, he, ?_⟩
    dsimp only at queues hd
    generalize ha : e.2.2 = a at queues
    cases queues with
    | own => rwa [drain?, ha]
    | ask _ asks =>
      -- A run does not drain the queue.
      cases action with
      | drain => cases isOfQueue_of_asks asks
      | _ => cases hd

theorem usernamesSent_of_idle (h : History Step (ofStore store settings) log p) (idle : Idle p) :
    p.batch.stats.usernamesSent =
      p.number fun run => .lacked ∈ story log run ∧ run ∈ drained log := by
  obtain ⟨queueLog, hqueue, hsame⟩ := drain?_of_queueLog h
  have hmem : ∀ run, run ∈ drained log ↔
      run ∈ ((Batch.dispatches queueLog).flatMap Batch.Dispatch.jobs).map Batch.Job.id := by
    intro run
    simp only [drained, List.mem_map, List.mem_flatMap, hsame]
  have hrun : ∀ run ∈ drained log,
      run < p.resolver.group.begun ∧ .lacked ∈ story log run := by
    intro run hrun
    obtain ⟨job, hj, rfl⟩ := List.mem_map.mp ((hmem run).mp hrun)
    rw [Batch.jobs_of_dispatches hqueue] at hj
    refine lacked_of_holds h ?_
    rcases List.mem_append.mp hj with hdrawn | hloop
    · exact .inr (.inr hdrawn)
    · exact .inr (.inl hloop)
  rw [Batch.usernamesSent_of_settled hqueue (pending_of_idle h idle), ← List.length_map Batch.Job.id,
    ← List.toFinset_card_of_nodup (Batch.nodup_dispatches hqueue), number]
  congr 1
  ext run
  rw [List.mem_toFinset, ← hmem, Finset.mem_filter, Finset.mem_range]
  constructor
  · intro hdrained
    obtain ⟨hlt, hlacked⟩ := hrun run hdrained
    exact ⟨hlt, hlacked, hdrained⟩
  · exact fun hboth => hboth.2.2

/-! ### All together -/

/-- What the counters say after a run of the service. -/
structure Balanced (log : List (Entry σ)) (p : Pipeline σ) : Prop where
  /-- A call that was let in is one call, and it was let in with a name that an account can have. -/
  calls : ((callers log).map Prod.fst).Nodup
  accepted : ∀ e ∈ log, ∀ id name, e.2.2 = .call id name → Username.isValid name = true
  /-- Any other call leaves no trace. -/
  rejected : ∀ id name, ¬Username.isValid name = true →
    p.call id name = .error (.invalidUsername name) ∧ ∀ now, p.step? now (.call id name) = none
  dropped : ∀ e ∈ log, ∀ id, e.2.2 = .drop id → p.output? id = none
  /-- A call counts once it has returned. -/
  found : p.stats.resolver.found =
    (callers log).countP fun c => (p.output? c.1).any FetchResult.isFound
  missed : p.stats.resolver.missed =
    (callers log).countP fun c => (p.output? c.1).any FetchResult.isMissed
  failed : p.stats.resolver.failed =
    (callers log).countP fun c => (p.output? c.1).any FetchResult.isFailed
  returned : p.stats.resolver.found + p.stats.resolver.missed + p.stats.resolver.failed =
    (callers log).countP fun c => (p.output? c.1).isSome
  shared : p.stats.resolver.joined = (callers log).countP fun c => c.2 && (p.output? c.1).isSome
  requests : BetweenPolls p → p.stats.texturesRequests = p.stats.texturesCache.misses
  /-- A run counts with what it did to the store. -/
  hits : p.stats.uuidCache.hits =
    p.number fun run => .found true ∈ story log run ∨ .found false ∈ story log run
  misses : p.stats.uuidCache.misses =
    p.number fun run =>
      (.answered true ∈ story log run ∨ .answered false ∈ story log run) ∧ .stored ∈ story log run
  faultless : Idle p →
    (p.stats.uuidCache.hits + p.stats.uuidCache.misses = p.resolver.group.begun ↔
      ∀ run < p.resolver.group.begun,
        .unread ∉ story log run ∧ .unstored ∉ story log run ∧ .refused ∉ story log run)
  looks : Idle p → p.stats.texturesCache.hits + p.stats.texturesCache.misses =
    p.number fun run => .found true ∈ story log run ∨ .answered true ∈ story log run
  sent : Idle p → p.stats.batch.usernamesSent =
    p.number fun run => .lacked ∈ story log run ∧ run ∈ drained log
  rounds : p.stats.batch.rounds ≤ p.stats.batch.usernamesSent ∧
    p.stats.batch.usernamesSent ≤ p.batch.settings.batchSize * p.stats.batch.rounds

/-- Whatever the order of the steps, the counters add up. -/
theorem counters_are_balanced (h : History Step (ofStore store settings) log p) :
    Balanced log p := by
  have settled := settled_of_history h
  have tallied := tallied_of_history h
  have found := settled.found.trans
    (countP_calls h fun _ output? => output?.any FetchResult.isFound)
  have missed := settled.missed.trans
    (countP_calls h fun _ output? => output?.any FetchResult.isMissed)
  have failed := settled.failed.trans
    (countP_calls h fun _ output? => output?.any FetchResult.isFailed)
  obtain ⟨queueLog, hqueue, -⟩ := drain?_of_queueLog h
  constructor
  case calls => exact nodup_callers_of_history h
  case accepted =>
    intro e he id name ha
    obtain ⟨before, after, u, -, -, hs, -⟩ := h.cut he
    have hmove := moves_of_step? hs
    rw [ha] at hmove
    exact isValid_of_call hmove
  case rejected =>
    intro id name invalid
    exact ⟨call_of_not_isValid invalid, fun _ => step?_call_eq_none invalid⟩
  case dropped => exact fun e he id ha => output?_of_drop h he ha
  case found => exact found
  case missed => exact missed
  case failed => exact failed
  case returned =>
    have hall := FetchResult.countP_kinds (callers log) fun c => p.output? c.1
    rw [← found, ← missed, ← failed] at hall
    exact hall
  case shared =>
    exact settled.joined.trans (countP_calls h fun joined output? => joined && output?.isSome)
  case requests => exact requests_of_betweenPolls h
  case hits => exact tallied.found.trans (number_of_once h count_found)
  case misses => exact tallied.stored.trans (number_of_once h count_stored)
  case faultless =>
    intro idle
    rw [← number_eq_begun]
    exact ((congrArg₂ (· + ·) tallied.found tallied.stored).trans
      (number_of_idle h idle count_learnt)).congr_left
  case looks =>
    intro idle
    exact (congrArg₂ (· + ·) tallied.hit tallied.missed).trans (number_of_idle h idle count_looks)
  case sent => exact usernamesSent_of_idle h
  case rounds => exact Batch.rounds_le_usernamesSent hqueue

end

set_option maxRecDepth 2000 in
/-- A lookup for three callers, one of whom leaves, another one that finds everything in the store
and in the cache, and one for which the store fails. -/
theorem counters_are_balanced_after_three_runs :
    ∃ (log : List (Entry MemoryStore)) (p : Pipeline MemoryStore),
      History Step (ofStore {} {}) log p ∧ Balanced log p ∧ Idle p ∧ BetweenPolls p ∧
      drained log = [0] ∧
      story log 0 = [.lacked, .answered true, .stored, .missed, .requested] ∧
      story log 1 = [.found true, .hit] ∧ story log 2 = [.unread] ∧
      p.stats =
        { uuidCache := { hits := 1, misses := 1 }
          batch := { rounds := 1, usernamesSent := 1, lastBatchSize := 1, lastRoundMillis := 1000 }
          texturesCache := { hits := 1, misses := 1 }
          texturesRequests := 1
          resolver := { found := 3, failed := 1, joined := 1 } } := by
  have h : History Step (ofStore ({} : MemoryStore) {}) _ _ :=
    History.of_replay
      [(0, .call 0 "Notch"), (0, .spawn 0), (0, .call 1 "NOTCH"), (0, .call 2 "notch"),
        (0, .drop 2), (0, .work 0 none), (0, .work 0 none), (0, .work 0 none),
        (0, .batch .park), (Time.seconds 3, .batch (.wake .delay)),
        (Time.seconds 3, .batch .drain), (Time.seconds 3, .batch .fire),
        (Time.seconds 3, .batch (.send 0)),
        (Time.seconds 4, .batch (.deliver 0 (.ok [{ id := "069a79f4", name := "Notch" }]))),
        (Time.seconds 4, .work 0 none), (Time.seconds 4, .work 0 none),
        (Time.seconds 4, .work 0 none), (Time.seconds 4, .work 0 none),
        (Time.seconds 4, .work 0 none), (Time.seconds 4, .work 0 none),
        (Time.seconds 5, .fetched 0 (.ok (some { id := "069a79f4", name := "Notch" }))),
        (Time.seconds 5, .work 0 none), (Time.seconds 5, .work 0 none),
        (Time.seconds 5, .work 0 none), (Time.seconds 5, .release 0),
        (Time.seconds 5, .publish 0), (Time.seconds 5, .collect 0), (Time.seconds 5, .collect 1),
        (Time.seconds 9, .call 3 "notch"), (Time.seconds 9, .spawn 1),
        (Time.seconds 9, .work 1 none), (Time.seconds 9, .work 1 none),
        (Time.seconds 9, .work 1 none), (Time.seconds 9, .work 1 none),
        (Time.seconds 9, .release 1), (Time.seconds 9, .publish 1), (Time.seconds 9, .collect 3),
        (Time.seconds 9, .call 4 "jeb_"), (Time.seconds 9, .spawn 2),
        (Time.seconds 9, .work 2 (some ⟨"down"⟩)), (Time.seconds 9, .work 2 none),
        (Time.seconds 9, .release 2), (Time.seconds 9, .publish 2),
        (Time.seconds 9, .collect 4)] rfl
  exact ⟨_, _, h, counters_are_balanced h, rfl, betweenPolls_of_idle h rfl, rfl, rfl, rfl, rfl, rfl⟩

end SkinRelay.Pipeline
