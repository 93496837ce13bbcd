import SkinRelay.Proofs.Pipeline.Failures

/-!
Requests are not wasted. What upstream has said about a name is not asked for again for thirty days,
and what it has said about an account id not for a minute, however often it is wanted; and what
upstream has failed to say is asked for again by the next run of the name. The main result is
`requests_are_not_repeated`.

Neither the store nor the cache has a capacity here: nothing is ever put out to make room.
-/

namespace SkinRelay.Pipeline

/-- Whether `next` is the first run of a key after `run`. -/
def Succeeds (p : Pipeline MemoryStore) (run : Nat) (key : String) (next : Nat) : Prop :=
  run < next ∧ ∀ r phase, run < r → r < next → p.resolver.group.runs.get? r ≠ some ⟨key, phase⟩

/-- A run of a key has sent a request, for accounts or for the profile of the id `wanted`, or it was
kept from that. -/
inductive Again (log : List (Entry MemoryStore)) (p : Pipeline MemoryStore) (next : Nat)
    (key : String) (wanted : Option String) : Prop
  | stopped (stopped : p.batch.lifecycle = .stopped)
  /-- The store has failed when the run read it. -/
  | faulty (e : Entry MemoryStore) (he : e ∈ log) (error : StoreError)
      (fault : e.2.2 = .work next (some error))
      (reads : e.1.resolver.group.work? next = some (.naming key .reading))
  | asked (e : Entry MemoryStore) (he : e ∈ log) (asks : Asks next key e)
  | fetched (e : Entry MemoryStore) (he : e ∈ log) (id : String) (hid : wanted = some id)
      (fetches : Fetches next id e)

/-- Whether an account has the id that is wanted, and the cache nothing for it. -/
def Lacks (log : List (Entry MemoryStore)) (p : Pipeline MemoryStore) (wanted : Option String)
    (account : Account) : Prop :=
  wanted = some account.id ∧
    ∀ later, Until log later → p.textures.entries.get? later account.id = none

/-- Whether the work of a run has sent a request, or cannot end without one. -/
def Work.Repeats (log : List (Entry MemoryStore)) (p : Pipeline MemoryStore) (next : Nat)
    (wanted : Option String) (key : String) : Work → Prop
  | .naming _ .reading | .naming _ .asking => True
  | .naming _ (.done (.ok (some account))) | .dressing account .looking =>
    Again log p next key wanted ∨ Lacks log p wanted account
  | .dressing account .missed => Again log p next key wanted ∨ wanted = some account.id
  | _ => Again log p next key wanted

section

variable {owns : String → String → Prop} {settings : BatchSettings}
  {log : List (Entry MemoryStore)} {p q : Pipeline MemoryStore} {now : Nat} {a : Action}
  {run next : Nat} {key : String} {wanted : Option String}

theorem Again.move (h : Again log p next key wanted) (hs : Moves now p a q) :
    Again (log ++ [(p, (now, a))]) q next key wanted := by
  cases h with
  | stopped stopped =>
    apply Again.stopped
    rcases hs.ofQueue with ⟨hsame, -⟩ | ⟨action, hstep, -⟩
    · rw [hsame]
      exact stopped
    · exact (Batch.moves_of_step? hstep).stopped stopped
  | faulty e he error fault reads => exact .faulty e (List.mem_append_left _ he) error fault reads
  | asked e he asks => exact .asked e (List.mem_append_left _ he) asks
  | fetched e he id hid fetches => exact .fetched e (List.mem_append_left _ he) id hid fetches

theorem Lacks.move {account : Account} (h : Lacks log p wanted account)
    (hentries : ∀ later, Until (log ++ [(p, (now, a))]) later →
      q.textures.entries.get? later account.id = p.textures.entries.get? later account.id) :
    Lacks (log ++ [(p, (now, a))]) q wanted account := by
  refine ⟨h.1, fun later hle => ?_⟩
  rw [hentries later hle]
  exact h.2 later (until_concat.mp hle).1

namespace Work.Repeats

theorem of_again (h : Again log p next key wanted) (work : Work) :
    work.Repeats log p next wanted key := by
  unfold Work.Repeats
  split <;> simp [h]

theorem result {work : Work} {result : FetchResult} (h : work.Repeats log p next wanted key)
    (ends : work.result? = some result) : Again log p next key wanted := by
  match work, ends with
  | .naming _ (.done (.error _)), _ => exact h
  | .naming _ (.done (.ok none)), _ => exact h
  | .dressing _ (.done _), _ => exact h

/-- A work that waits goes on to lack what it lacks. -/
theorem frame {work : Work} (h : work.Repeats log p next wanted key) (hs : Moves now p a q)
    (own : work.Owns owns key)
    (hentries : ∀ id later, owns key id → Until (log ++ [(p, (now, a))]) later →
      q.textures.entries.get? later id = p.textures.entries.get? later id) :
    work.Repeats (log ++ [(p, (now, a))]) q next wanted key := by
  match work with
  | .naming _ .reading | .naming _ .asking => trivial
  | .naming _ (.done (.ok (some account))) =>
    refine h.imp (·.move hs) fun lacks => lacks.move fun later => ?_
    exact hentries account.id later (own account rfl)
  | .dressing account .looking =>
    refine h.imp (·.move hs) fun lacks => lacks.move fun later => ?_
    exact hentries account.id later own
  | .dressing account .missed => exact h.imp_left (·.move hs)
  | .naming _ (.writing _) | .naming _ (.done (.error _)) | .naming _ (.done (.ok none))
  | .dressing _ (.fetching _) | .dressing _ (.storing _) | .dressing _ (.stored _)
  | .dressing _ (.done _) => exact Again.move h hs

end Work.Repeats

/-- Where a failure has left a name dry, a run that reads the store comes to nothing but the id that
is wanted. -/
theorem repeats_read {fault : Option StoreError}
    (dry : ∀ later, Until log later → Dry owns p later key wanted) (huntil : Until log now)
    (hkey : Username.key key = key)
    (hr : p.resolver.group.runs.get? next = some ⟨key, .working (.naming key .reading)⟩)
    (ha : a = .work next fault) (htextures : q.textures = p.textures) :
    (Work.naming key (p.known.read now fault key).1).Repeats (log ++ [(p, (now, a))]) q next wanted
      key := by
  have hreads := p.known.reads_read now fault key
  generalize (p.known.read now fault key).1 = stage at hreads ⊢
  cases hreads with
  | fail error =>
    have hwork := Flight.work?_eq_some.mpr ⟨key, hr⟩
    exact Again.faulty _ List.mem_concat_self error ha hwork
  | miss => trivial
  | @hit r found =>
    rw [MemoryStore.lookup_key _ _ hkey] at found
    obtain ⟨id, hid, huuid⟩ := (dry now huntil).records r found
    simp only [KnownAccounts.account?, huuid, Option.map_some]
    refine .inr ⟨hid, fun later hle => ?_⟩
    rw [htextures]
    exact ((dry later (until_concat.mp hle).1).entries id hid).2

theorem repeats_advance {account : Account} {stage onward : TexturesCache.Stage}
    {textures : TexturesCache} {fault : Option StoreError} (huntil : Until log now)
    (hr : p.resolver.group.runs.get? next = some ⟨key, .working (.dressing account stage)⟩)
    (hs : Moves now p a q) (ha : a = .work next fault)
    (advances : p.textures.advance? now account.id stage = some (onward, textures))
    (hold : (Work.dressing account stage).Repeats log p next wanted key) :
    (Work.dressing account onward).Repeats (log ++ [(p, (now, a))]) q next wanted key := by
  cases TexturesCache.advances_of_advance? advances with
  | hit found =>
    rcases hold with again | ⟨hid, hnone⟩
    · exact again.move hs
    · cases (hnone now huntil).symm.trans found
  | miss => exact hold.imp (·.move hs) And.left
  | request =>
    rcases hold with again | hid
    · exact again.move hs
    · have hwork := Flight.work?_eq_some.mpr ⟨key, hr⟩
      exact .fetched _ List.mem_concat_self account.id hid ⟨fault, account, ha, rfl, hwork⟩
  | store | sweep => exact Again.move hold hs

/-- A run that proceeds repeats the request, if what it finds is what a failure has left. -/
theorem Proceeds.repeats (h : History Step (ofStore {} settings) log p) (huntil : Until log now)
    {work onward : Work} {known : KnownAccounts MemoryStore} {textures : TexturesCache}
    (hp : Proceeds now p next a work onward known textures) (hs : Moves now p a q)
    (hr : p.resolver.group.runs.get? next = some ⟨key, .working work⟩)
    (htextures : q.textures = textures)
    (dry : Unread (.working work) → ∀ later, Until log later → Dry owns p later key wanted)
    (hold : work.Repeats log p next wanted key) :
    onward.Repeats (log ++ [(p, (now, a))]) q next wanted key := by
  cases hp with
  | read fault =>
    obtain ⟨rfl, hkey⟩ := (attended_of_history h).own next key _ hr
    exact repeats_read (dry trivial) huntil hkey hr rfl htextures
  | @answered _ _ call _ hc returned =>
    obtain ⟨-, -, phase, hr', -⟩ := (attended_of_history h).caller next call hc
    have hname : call.username = key := congrArg Flight.Run.key (Option.some.inj (hr'.symm.trans hr))
    have again : Again log p next key wanted := by
      rcases asked_of_returned h hc returned with stopped | ⟨e, he, asks⟩
      · exact .stopped stopped
      · rw [hname] at asks
        exact .asked e he asks
    exact .of_again (again.move hs) _
  | write fault => exact .of_again (Again.move hold hs) _
  | dress =>
    refine hold.imp (·.move hs) fun lacks => lacks.move fun later _ => ?_
    rw [htextures]
  | cache advances => exact repeats_advance huntil hr hs rfl advances hold
  | fetched => exact .of_again (Again.move hold hs) _

/-- A run that comes after another one came after it in every earlier state. -/
theorem Succeeds.before (h : Succeeds q run key next) (coherent : Flight.Coherent p.resolver.group)
    (hs : Moves now p a q) : Succeeds p run key next := by
  refine ⟨h.1, fun r phase hlt hlt' hr => ?_⟩
  obtain ⟨phase', hr'⟩ := hs.run coherent hr
  exact h.2 r phase' hlt hlt' hr'

/-- The run that comes after a failure reads the store before any newer run of the name. -/
theorem Succeeds.unread (h : History Step (ofStore {} settings) log p)
    (succeeds : Succeeds p run key next) {phase : Flight.Phase Work FetchResult}
    (hr : p.resolver.group.runs.get? next = some ⟨key, phase⟩) (holds : phase.holdsKey = true)
    (unread : Unread phase) :
    ∀ s other, run < s → p.resolver.group.runs.get? s = some ⟨key, other⟩ → Unread other := by
  intro s other hlt hs
  have hle : s ≤ next := newest_of_history h key next s _ _ hr holds hs
  obtain rfl : s = next := by
    by_contra hne
    exact succeeds.2 s other hlt (by omega) hs
  cases hr.symm.trans hs
  exact unread

/-- A run that has just failed is the newest of its key. -/
theorem Fails.newest (h : History Step (ofStore {} settings) log p) (hs : Step p (now, a) q)
    (fails : Fails run key (p, (now, a)) wanted) {phase : Flight.Phase Work FetchResult}
    (hr : q.resolver.group.runs.get? next = some ⟨key, phase⟩) : next ≤ run := by
  obtain ⟨-, -, ⟨-, -, hrun⟩ | ⟨_, _, _, -, -, hrun⟩⟩ := fails.waits h hs
  · exact newest_of_history (h.next hs) key run next _ _ hrun rfl hr
  · exact newest_of_history (h.next hs) key run next _ _ hrun rfl hr

/-- Every step brings a run nearer to the request that it has to repeat. -/
theorem repeats_move (h : History Step (ofStore {} settings) log p) (hs : Step p (now, a) q)
    (regular : Regular owns (log ++ [(p, (now, a))]))
    (dry : ∀ phase, p.resolver.group.runs.get? next = some ⟨key, phase⟩ → phase.holdsKey = true →
      Unread phase → ∀ later, Until log later → Dry owns p later key wanted)
    {phase : Flight.Phase Work FetchResult}
    (hr : q.resolver.group.runs.get? next = some ⟨key, phase⟩)
    (hkept : ∀ old, p.resolver.group.runs.get? next = some ⟨key, old⟩ →
      old.Keeps (Work.Repeats log p next wanted key) (fun _ => Again log p next key wanted)) :
    phase.Keeps (Work.Repeats (log ++ [(p, (now, a))]) q next wanted key)
      (fun _ => Again (log ++ [(p, (now, a))]) q next key wanted) := by
  obtain ⟨hlog, huntil⟩ := regular.init
  have coherent := coherent_of_history h
  have owned := owned_of_history h hlog.reports
  have hmove := moves_of_step? hs
  rcases hmove.passes coherent hr with
    hsame | ⟨-, rfl, -⟩ | ⟨old, known, textures, hp, hpasses, -, htextures⟩
  · -- The run has stayed where it is.
    have frame : ∀ work : Work, phase.holdsKey = true → work.Owns owns key →
        work.Repeats log p next wanted key →
        work.Repeats (log ++ [(p, (now, a))]) q next wanted key := by
      intro work holds own hwork
      refine hwork.frame hmove own fun id later hid hle => ?_
      have unique := (watched_of_history h hlog).unique
      exact entries_frame owned unique regular.functional coherent hmove holds hsame hr hid
        (until_concat.mp hle).2
    have own := owned.runs next key phase hsame
    have hold := hkept phase hsame
    cases phase with
    | entered work | working work => exact frame work rfl own hold
    | finished | released | published => exact Again.move hold hmove
    | broken | unwound | lost => trivial
  · trivial
  · have hold := hkept old hp
    cases hpasses with
    | spawn =>
      refine Work.Repeats.frame hold hmove (owned.runs next key _ hp) fun id later _ _ => ?_
      rw [htextures]
    | proceed hproceeds => exact hproceeds.repeats h huntil hmove hp htextures (dry _ hp rfl) hold
    | finish ends => exact (Work.Repeats.result hold ends).move hmove
    | release | publish => exact Again.move hold hmove
    | unwind | lose => trivial

/-- The run that comes after a failed request sends one itself. -/
theorem repeats_of_history (h : History Step (ofStore {} settings) log p)
    (regular : Regular owns log) {d : Entry MemoryStore} (hd : d ∈ log)
    (fails : Fails run key d wanted) (succeeds : Succeeds p run key next)
    {phase : Flight.Phase Work FetchResult}
    (hr : p.resolver.group.runs.get? next = some ⟨key, phase⟩) :
    phase.Keeps (Work.Repeats log p next wanted key) (fun _ => Again log p next key wanted) := by
  -- The name stays dry until the next run reads the store, and from then on its work carries this.
  induction h generalizing phase with
  | start => cases hd
  | @next log t u a h hs ih =>
    rcases List.mem_append.mp hd with hold | hnew
    · obtain ⟨hlog, -⟩ := regular.init
      have hbefore := succeeds.before (coherent_of_history h) (moves_of_step? hs)
      refine repeats_move h hs regular ?_ hr fun old hp => ih hlog hold hbefore hp
      intro old hp holds unread later hle
      exact dry_of_history h hlog hold fails (hbefore.unread h hp holds unread) hle
    · obtain rfl := List.mem_singleton.mp hnew
      have hle := fails.newest h hs hr
      have hlt := succeeds.1
      omega

end

/-! ### The whole service -/

/-- An account that upstream has reported. -/
def Reported (log : List (Entry MemoryStore)) (account : Account) : Prop :=
  ∃ e ∈ log, ∃ n accounts, e.2.2 = .batch (.deliver n (.ok accounts)) ∧ account ∈ accounts

/-- Whether upstream has never reported one id for two names. -/
def Unambiguous (log : List (Entry MemoryStore)) : Prop :=
  ∀ account other, Reported log account → Reported log other → account.id = other.id →
    Username.key account.name = Username.key other.name

/-- What holds of the requests that were sent in a run of the service. -/
structure Frugal (log : List (Entry MemoryStore)) (p : Pipeline MemoryStore) : Prop where
  /-- No name is in a request for accounts while an answer about it that was stored lives. -/
  names : log.Pairwise fun d e => ∀ run key, Records run key d → ∀ other, Asks other key e →
    d.2.1 + NameRecord.lifetime ≤ e.2.1
  /-- No request is sent for a profile while an answer about it that was cached lives. -/
  profiles : log.Pairwise fun d e => ∀ run id, Caches run id d → ∀ other, Fetches other id e →
    d.2.1 + Time.seconds 60 ≤ e.2.1
  /-- Nothing else sends such requests, and nothing but answers changes the store and the cache,
  apart from sweeps. -/
  changes : ∀ e ∈ log, ∀ u, Step e.1 e.2 u →
    (u.known.store = e.1.known.store ∨ ∃ run key, Records run key e) ∧
    (u.textures.entries = e.1.textures.entries ∨
      u.textures.entries = e.1.textures.entries.sweep e.2.1 ∨ ∃ run id, Caches run id e) ∧
    (u.textures.requests = e.1.textures.requests ∨ ∃ run id, Fetches run id e)
  /-- A failure leaves no record, neither at once nor later on. -/
  failures : ∀ d ∈ log, ∀ u, Step d.1 d.2 u → ∀ run key wanted, Fails run key d wanted →
    u.known = d.1.known ∧ u.textures = d.1.textures
  unrecorded : log.Pairwise fun d e => ∀ run key wanted, Fails run key d wanted →
    (∀ k, ¬Records run k e) ∧ ∀ id, ¬Caches run id e
  /-- The next run of the name has an output only after a request of its own. -/
  repeated : ∀ d ∈ log, ∀ run key wanted, Fails run key d wanted → ∀ next, Succeeds p run key next →
    ∀ phase output, p.resolver.group.runs.get? next = some ⟨key, phase⟩ →
      phase.output? = some output → Again log p next key wanted

section

variable {settings : BatchSettings} {log : List (Entry MemoryStore)} {p : Pipeline MemoryStore}

/-- The names for which an id was reported own it. -/
theorem regular_of_unambiguous (chronological : log.Pairwise fun d e => d.2.1 ≤ e.2.1)
    (unambiguous : Unambiguous log) :
    Regular (fun key id => ∃ account, Reported log account ∧ account.id = id ∧
      Username.key account.name = key) log where
  chronological := chronological
  reports e he n accounts ha account hmem := ⟨account, ⟨e, he, n, accounts, ha, hmem⟩, rfl, rfl⟩
  functional := by
    rintro _ _ id ⟨account, hreported, rfl, rfl⟩ ⟨other, hother, hid, rfl⟩
    exact unambiguous account other hreported hother hid.symm

/-- What upstream has said is not asked for again as long as it is kept, and what it has failed to
say is asked for again by the next run. -/
theorem requests_are_not_repeated (h : History Step (ofStore ({} : MemoryStore) settings) log p)
    (chronological : log.Pairwise fun d e => d.2.1 ≤ e.2.1) (unambiguous : Unambiguous log) :
    Frugal log p where
  names := asks_spared h (regular_of_unambiguous chronological unambiguous)
  profiles := fetches_spared h (regular_of_unambiguous chronological unambiguous)
  changes e _ u hs := by
    have hmove := moves_of_step? hs
    refine ⟨hmove.store.imp_right ?_, hmove.entries.imp_right (Or.imp_right ?_),
      hmove.requests.imp_right ?_⟩
    · rintro ⟨run, key, username, found, ha, hr, -⟩
      exact ⟨run, key, ha, username, found, hr⟩
    · rintro ⟨run, key, account, found, fault, ha, hr, -⟩
      have hwork := Flight.work?_eq_some.mpr ⟨key, hr⟩
      exact ⟨run, account.id, fault, account, found, ha, rfl, hwork⟩
    · rintro ⟨run, account, fault, ha, hwork⟩
      exact ⟨run, account.id, fault, account, ha, rfl, hwork⟩
  failures d hd u hs run key wanted fails := by
    obtain ⟨before, after, t, -, hbefore, -, -⟩ := h.cut hd
    obtain ⟨hknown, htextures, -⟩ := fails.waits hbefore hs
    exact ⟨hknown, htextures⟩
  unrecorded := unrecorded_of_history h
  repeated d hd run key wanted fails next succeeds phase output hr ends := by
    have regular := regular_of_unambiguous chronological unambiguous
    have hkept := repeats_of_history h regular hd fails succeeds hr
    cases phase with
    | finished | released | published => exact hkept
    | entered | working | broken | unwound | lost => cases ends

set_option maxRecDepth 2000 in
/-- Three lookups of one name. The request of the first one fails, the second one sends one of its
own, and the third one needs none. -/
theorem requests_are_not_repeated_after_failure :
    ∃ (log : List (Entry MemoryStore)) (p : Pipeline MemoryStore),
      History Step (ofStore {} {}) log p ∧ (log.Pairwise fun d e => d.2.1 ≤ e.2.1) ∧
      Unambiguous log ∧ Frugal log p ∧ p.stats.batch.rounds = 2 ∧ p.stats.texturesRequests = 1 ∧
      (p.resolver.group.phase? 2).bind (·.output?) =
        some (.ok (some ⟨0, { id := "069a79f4", name := "Notch" }⟩)) := by
  have hrun : ∃ log p,
    History.replay (fun (p : Pipeline MemoryStore) a => p.step? a.1 a.2) (ofStore {} {})
    [(0, .call 0 "Notch"), (0, .spawn 0), (0, .work 0 none), (0, .work 0 none), (0, .work 0 none),
      (0, .batch .park), (Time.seconds 3, .batch (.wake .delay)), (Time.seconds 3, .batch .drain),
      (Time.seconds 3, .batch .fire), (Time.seconds 3, .batch (.send 0)),
      (Time.seconds 4, .batch (.deliver 0 (.error .tooManyRequests))),
      (Time.seconds 4, .work 0 none), (Time.seconds 4, .work 0 none), (Time.seconds 4, .work 0 none),
      (Time.seconds 4, .release 0), (Time.seconds 5, .call 1 "NOTCH"), (Time.seconds 5, .spawn 1),
      (Time.seconds 5, .work 1 none), (Time.seconds 5, .work 1 none), (Time.seconds 5, .work 1 none),
      (Time.seconds 5, .batch .park), (Time.seconds 8, .batch (.wake .delay)),
      (Time.seconds 8, .batch .drain), (Time.seconds 8, .batch .fire),
      (Time.seconds 8, .batch (.send 1)),
      (Time.seconds 9, .batch (.deliver 1 (.ok [{ id := "069a79f4", name := "Notch" }]))),
      (Time.seconds 9, .work 1 none), (Time.seconds 9, .work 1 none), (Time.seconds 9, .work 1 none),
      (Time.seconds 9, .work 1 none), (Time.seconds 9, .work 1 none), (Time.seconds 9, .work 1 none),
      (Time.seconds 10, .fetched 1 (.ok (some { id := "069a79f4", name := "Notch" }))),
      (Time.seconds 10, .work 1 none), (Time.seconds 10, .work 1 none),
      (Time.seconds 10, .work 1 none), (Time.seconds 10, .release 1),
      (Time.seconds 60, .call 2 "notch"), (Time.seconds 60, .spawn 2),
      (Time.seconds 60, .work 2 none), (Time.seconds 60, .work 2 none),
      (Time.seconds 60, .work 2 none), (Time.seconds 60, .work 2 none)] = some (log, p) ∧
    p.stats.batch.rounds = 2 ∧ p.stats.texturesRequests = 1 ∧
    (p.resolver.group.phase? 2).bind (·.output?) =
      some (.ok (some ⟨0, { id := "069a79f4", name := "Notch" }⟩)) := ⟨_, _, rfl, rfl, rfl, rfl⟩
  obtain ⟨log, p, hreplay, hends⟩ := hrun
  have h : History Step (ofStore ({} : MemoryStore) {}) log p := History.of_replay _ hreplay
  have hactions := History.actions_of_replay _ hreplay
  have chronological : log.Pairwise fun d e => d.2.1 ≤ e.2.1 := by
    rw [← List.pairwise_map (R := fun d e : Nat × Action => d.1 ≤ e.1), hactions]
    decide
  have hreplies : ∀ a ∈ log.map Prod.snd, ∀ n accounts, a.2 = .batch (.deliver n (.ok accounts)) →
      accounts = [{ id := "069a79f4", name := "Notch" }] := by
    rw [hactions]
    simp
  have unambiguous : Unambiguous log := by
    rintro account other ⟨e, he, n, accounts, ha, hmem⟩ ⟨e', he', n', accounts', ha', hmem'⟩ -
    obtain rfl := hreplies _ (List.mem_map_of_mem he) n accounts ha
    obtain rfl := hreplies _ (List.mem_map_of_mem he') n' accounts' ha'
    rw [List.mem_singleton.mp hmem, List.mem_singleton.mp hmem']
  exact ⟨log, p, h, chronological, unambiguous,
    requests_are_not_repeated h chronological unambiguous, hends⟩

end

end SkinRelay.Pipeline
