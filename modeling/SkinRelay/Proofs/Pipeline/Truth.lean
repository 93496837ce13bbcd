import SkinRelay.Proofs.Pipeline.Parts
import SkinRelay.Proofs.Store.Contract

/-!
All that the service knows is true: what is in the store and in the cache, and what every run has
learnt about its own name. Errors, expiry, stops and whoever goes away can only make it know less.
-/

namespace SkinRelay

namespace Directory

variable (d : Directory)

/-- Whether what the lookup of an account has learnt is true of the name `key`. -/
def TrueStage (key : String) : KnownAccounts.Stage → Prop
  | .writing found => found = d.account key
  | .done (.ok found) => found.map (·.id) = (d.account key).map (·.id)
  | _ => True

/-- Whether what the lookup of a profile has learnt is true of the account id. -/
def TrueProfile (id : String) : TexturesCache.Stage → Prop
  | .storing found | .stored found | .done (.ok found) =>
    found.map (·.profile) = d.profile id
  | _ => True

/-- Whether the work of a run is about its own key, and has learnt the truth. -/
def TrueWork (key : String) : Pipeline.Work → Prop
  | .naming username stage =>
    username = key ∧ Username.key key = key ∧ d.TrueStage key stage
  | .dressing account stage =>
    (d.account key).map (·.id) = some account.id ∧ d.TrueProfile account.id stage

/-- Whether the output of a run is true of its key. -/
def TrueResult (key : String) : FetchResult → Prop
  | .ok found => found.map (·.profile) = (d.account key).bind fun a => d.profile a.id
  | .error _ => True

/-- Whether all that a cache of profiles holds is true. -/
def TrueCache (c : TexturesCache) : Prop :=
  ∀ id entry, (id, entry) ∈ c.entries.entries.entries →
    entry.value.map (·.profile) = d.profile id

variable {d}

/-! ### The store and the cache -/

section

variable {σ : Type} [NameStore σ] {known : KnownAccounts σ} {now : Nat} {key : String}

theorem AgreesWith.read (h : d.AgreesWith known.store) (hkey : Username.key key = key)
    (fault : Option StoreError) :
    d.TrueStage key (known.read now fault key).1 ∧
      (known.read now fault key).2.store = known.store := by
  unfold KnownAccounts.read
  cases fault with
  | some error => exact ⟨trivial, rfl⟩
  | none =>
    simp only [hkey]
    split
    · rename_i r hr
      have huuid := h now key r hr
      rw [hkey] at huuid
      refine ⟨?_, rfl⟩
      simp [TrueStage, KnownAccounts.account?, ← huuid, Function.comp_def]
    · exact ⟨trivial, rfl⟩

theorem AgreesWith.write [LawfulNameStore σ] (h : d.AgreesWith known.store)
    (hkey : Username.key key = key) (fault : Option StoreError) :
    d.TrueStage key (known.write now fault key (d.account key)).1 ∧
      d.AgreesWith (known.write now fault key (d.account key)).2.store := by
  refine ⟨rfl, ?_⟩
  unfold KnownAccounts.write
  cases fault with
  | some error => exact h
  | none =>
    -- The record has the name that the account itself has, and so another casing of the key.
    refine h.record now ?_
    cases hfound : d.account key with
    | none => simp [KnownAccounts.storedName, hkey, hfound]
    | some a => simp [KnownAccounts.storedName, d.name_eq key a hfound, hfound]

end

theorem TrueCache.sweep {c : TexturesCache} (h : d.TrueCache c) (now : Nat) :
    d.TrueCache (c.sweep now) := by
  intro id entry hmem
  exact h id entry (List.mem_filter.mp hmem).1

theorem TrueCache.startSweeper {c : TexturesCache} (h : d.TrueCache c) (now : Nat) :
    d.TrueCache (c.startSweeper now) := by
  unfold TexturesCache.startSweeper
  split
  · exact h
  · exact h
  · exact h

theorem TrueCache.get? {c : TexturesCache} (h : d.TrueCache c) {now : Nat} {id : String}
    {found : Option Fetched} (hfound : c.entries.get? now id = some found) :
    found.map (·.profile) = d.profile id := by
  obtain ⟨entry, hentry, rfl⟩ := Option.map_eq_some_iff.mp hfound
  obtain ⟨hget, -⟩ := Option.filter_eq_some_iff.mp hentry
  exact h id entry (Table.mem_of_get? hget)

theorem TrueCache.advance {c c' : TexturesCache} {now : Nat} {id : String}
    {stage next : TexturesCache.Stage} (h : d.TrueCache c) (hstage : d.TrueProfile id stage)
    (hadv : c.advance? now id stage = some (next, c')) :
    d.TrueProfile id next ∧ d.TrueCache c' := by
  cases stage with
  | looking =>
    simp only [TexturesCache.advance?, TexturesCache.look] at hadv
    split at hadv
    · rename_i found hfound
      cases hadv
      exact ⟨h.get? hfound, h⟩
    · cases hadv
      exact ⟨trivial, h⟩
  | missed =>
    cases hadv
    exact ⟨trivial, h⟩
  | fetching request => cases hadv
  | storing found =>
    cases hadv
    refine ⟨hstage, ?_⟩
    intro id' entry hmem
    rcases Table.mem_entries_insert hmem with hnew | hold
    · cases hnew
      exact hstage
    · exact h id' entry hold
  | stored found =>
    cases hadv
    exact ⟨hstage, h.startSweeper now⟩
  | done result => cases hadv

end Directory

namespace Pipeline

variable {σ : Type} [NameStore σ] {d : Directory} {now : Nat} {p q : Pipeline σ} {a : Action}

structure Truthful (d : Directory) (p : Pipeline σ) : Prop where
  store : d.AgreesWith p.known.store
  cache : d.TrueCache p.textures
  runs : Flight.Keeps d.TrueWork d.TrueResult p.resolver.group
  /-- A run asks the queue about its own key. -/
  asked : ∀ run call, p.batch.calls.get? run = some call →
    ∃ phase, p.resolver.group.runs.get? run = some ⟨call.username, phase⟩

/-- Whether the queue has given only true answers. -/
def TrueAnswers (d : Directory) (b : Batch) : Prop :=
  ∀ id call found, b.calls.get? id = some call → call.phase = .returned (.ok found) →
    found = d.account (Username.key call.username)

/-- The work of a run that has come to its end gives a true output. -/
theorem trueResult_of_trueWork {key : String} {work : Work} {result : FetchResult}
    (h : d.TrueWork key work) (ends : work.result? = some result) : d.TrueResult key result := by
  match work, ends with
  | .naming username (.done (.error error)), rfl => trivial
  | .naming username (.done (.ok none)), rfl =>
    have hnone : (d.account key).map (·.id) = none := h.2.2.symm
    simp [Directory.TrueResult, Option.map_eq_none_iff.mp hnone]
  | .dressing account (.done (.error error)), rfl => trivial
  | .dressing account (.done (.ok found)), rfl =>
    obtain ⟨hid, hprofile⟩ := h
    obtain ⟨known, hknown, hid⟩ := Option.map_eq_some_iff.mp hid
    have htrue : found.map (·.profile) = d.profile account.id := hprofile
    simp [Directory.TrueResult, htrue, hknown, hid]

namespace Truthful

/-- Whatever the work of a run goes on with is true, and so is what it leaves in the store and in
the cache. -/
theorem proceeds [LawfulNameStore σ] (hp : Truthful d p) (answers : TrueAnswers d p.batch)
    (honest : Honest d p a) {run : Nat} {key : String} {work next : Work}
    {known : KnownAccounts σ} {textures : TexturesCache}
    (hrun : p.resolver.group.runs.get? run = some ⟨key, .working work⟩)
    (h : Proceeds now p run a work next known textures) :
    d.TrueWork key next ∧ d.AgreesWith known.store ∧ d.TrueCache textures := by
  have hwork : d.TrueWork key work := hp.runs run key _ hrun
  cases h with
  | read fault =>
    obtain ⟨rfl, hkey, -⟩ := hwork
    obtain ⟨hstage, hstore⟩ := hp.store.read hkey fault
    exact ⟨⟨rfl, hkey, hstage⟩, hstore ▸ hp.store, hp.cache⟩
  | @answered username _ call result hc hret =>
    obtain ⟨rfl, hkey, -⟩ := hwork
    refine ⟨⟨rfl, hkey, ?_⟩, hp.store, hp.cache⟩
    cases result with
    | error => trivial
    | ok found =>
      obtain ⟨phase, hrun'⟩ := hp.asked run call hc
      cases hrun'.symm.trans hrun
      have htrue := answers run call found hc hret
      rwa [hkey] at htrue
  | write fault =>
    obtain ⟨rfl, hkey, rfl⟩ := hwork
    obtain ⟨hstage, hstore⟩ := hp.store.write hkey fault
    exact ⟨⟨rfl, hkey, hstage⟩, hstore, hp.cache⟩
  | dress => exact ⟨⟨hwork.2.2.symm, trivial⟩, hp.store, hp.cache⟩
  | cache advances =>
    obtain ⟨hprofile, hcache⟩ := hp.cache.advance hwork.2 advances
    exact ⟨⟨hwork.1, hprofile⟩, hp.store, hcache⟩
  | @fetched account request reply =>
    refine ⟨⟨hwork.1, ?_⟩, hp.store, hp.cache⟩
    cases reply with
    | error => trivial
    | ok profile =>
      have htrue := honest account _ (Flight.work?_eq_some.mpr ⟨key, hrun⟩)
      simp [TexturesCache.fetched, FetchResult.ofReply, Directory.TrueProfile, htrue,
        Function.comp_def]

/-- The runs that a step leaves are those of before, and so asked only about their own keys. -/
theorem asked_of_step (hp : Truthful d p) (coherent : Flight.Coherent p.resolver.group)
    {group : Flight String Work FetchResult} {action : Flight.Action String Work FetchResult}
    (h : Flight.Step p.resolver.group action group) (run : Nat) (call : Batch.Call)
    (hc : p.batch.calls.get? run = some call) :
    ∃ phase, group.runs.get? run = some ⟨call.username, phase⟩ := by
  obtain ⟨phase, hrun⟩ := hp.asked run call hc
  exact h.run coherent hrun

/-- A step of the queue adds at most the call of a run that asks about its own key. -/
theorem asked_of_queue (hp : Truthful d p) {action : Batch.Action} {batch : Batch}
    (h : Batch.Step p.batch (now, action) batch)
    (own : ∀ run username token, action = .enter run username token →
      ∃ phase, p.resolver.group.runs.get? run = some ⟨username, phase⟩)
    (run : Nat) (call : Batch.Call) (hc : batch.calls.get? run = some call) :
    ∃ phase, p.resolver.group.runs.get? run = some ⟨call.username, phase⟩ := by
  have hmove := Batch.moves_of_step? h
  cases hold : p.batch.calls.get? run with
  | some old =>
    obtain ⟨call', hc', hbec⟩ := hmove.calls.call hold
    obtain rfl : call' = call := Option.some.inj (hc'.symm.trans hc)
    rw [hbec.username]
    exact hp.asked run old hold
  | none =>
    exact own run call.username call.token (hmove.calls.new hold hc)

theorem move [LawfulNameStore σ] (hp : Truthful d p)
    (coherent : Flight.Coherent p.resolver.group) (answers : TrueAnswers d p.batch)
    (honest : Honest d p a) (h : Moves now p a q) : Truthful d q := by
  cases h with
  | @call id username new _ =>
    have hstep := Flight.step_call new (Username.key username)
      (Work.begin (Username.key username))
    exact ⟨hp.store, hp.cache, hp.runs.step hstep ⟨rfl, Username.key_key username, trivial⟩,
      hp.asked_of_step coherent hstep⟩
  | @turn a action _ own stepped =>
    have hstep := Resolver.group_of_step? stepped
    have hkeeps : action.Keeps d.TrueWork d.TrueResult p.resolver.group := by
      cases a <;> cases own <;> trivial
    exact ⟨hp.store, hp.cache, hp.runs.step hstep hkeeps, hp.asked_of_step coherent hstep⟩
  | @proceed _ run work next known textures _ hat hproceeds stepped =>
    obtain ⟨key, hrun⟩ := Flight.work?_eq_some.mp hat
    obtain ⟨hnext, hstore, hcache⟩ := hp.proceeds answers honest hrun hproceeds
    have hstep := Resolver.group_of_step? stepped
    refine ⟨hstore, hcache, hp.runs.step hstep ?_, hp.asked_of_step coherent hstep⟩
    intro k phase hk
    cases hk.symm.trans hrun
    exact hnext
  | @finish run fault work result _ hat ends stepped =>
    obtain ⟨key, hrun⟩ := Flight.work?_eq_some.mp hat
    have hwork : d.TrueWork key work := hp.runs run key _ hrun
    have hstep := Resolver.group_of_step? stepped
    refine ⟨hp.store, hp.cache, hp.runs.step hstep ?_, hp.asked_of_step coherent hstep⟩
    intro k phase hk
    cases hk.symm.trans hrun
    exact trueResult_of_trueWork hwork ends
  | @ask run fault username action batch hat hasks stepped =>
    obtain ⟨key, hrun⟩ := Flight.work?_eq_some.mp hat
    have hwork : d.TrueWork key (.naming username .asking) := hp.runs run key _ hrun
    obtain ⟨rfl, -, -⟩ := hwork
    refine ⟨hp.store, hp.cache, hp.runs, hp.asked_of_queue stepped ?_⟩
    rintro run' username' token rfl
    unfold asks? at hasks
    split at hasks
    · cases hasks
      exact ⟨_, hrun⟩
    · split at hasks <;> cases hasks
  | @queue action batch own stepped =>
    refine ⟨hp.store, hp.cache, hp.runs, hp.asked_of_queue stepped ?_⟩
    rintro run username token rfl
    cases own
  | stopSweeper => exact ⟨hp.store, hp.cache, hp.runs, hp.asked⟩
  | sweep => exact ⟨hp.store, hp.cache.sweep now, hp.runs, hp.asked⟩

end Truthful

section

variable {store : σ} {settings : BatchSettings} {log : List (Entry σ)}

theorem truthful_ofStore (h : d.AgreesWith store) : Truthful d (ofStore store settings) where
  store := h
  cache id entry hmem := by cases hmem
  runs := Flight.keeps_empty
  asked run call hc := by cases hc

variable [LawfulNameStore σ]

theorem truthful_of_history (agrees : d.AgreesWith store)
    (h : History Step (ofStore store settings) log p) (honest : ∀ e ∈ log, Honest d e.1 e.2.2) :
    Truthful d p := by
  induction h with
  | start => exact truthful_ofStore agrees
  | @next log t u a h hs ih =>
    have hlog : ∀ e ∈ log, Honest d e.1 e.2.2 := fun e he => honest e (List.mem_append_left _ he)
    obtain ⟨groupLog, hgroup, -, -⟩ := group_of_history h
    obtain ⟨queueLog, hqueue, hqueueHonest⟩ := queue_of_history h hlog
    refine (ih hlog).move (Flight.coherent_of_history hgroup) ?_ (honest (t, a) (by simp))
      (moves_of_step? hs)
    intro id call found hc hret
    exact Batch.returned_of_honest hqueue hqueueHonest hc hret

/-- The service answers as if it had no queue, no store and no cache. -/
structure Transparent (d : Directory) (log : List (Entry σ)) (p : Pipeline σ) : Prop where
  /-- A call that returns without an error returns the truth about its own name. -/
  answers : ∀ e ∈ log, ∀ id username, e.2.2 = .call id username →
    ∃ call, p.resolver.group.calls.get? id = some call ∧
      ∀ found, call.phase = .returned (.ok found) → found.map (·.profile) = d.answer username
  /-- Nobody else has a call. -/
  called : ∀ id call, p.resolver.group.calls.get? id = some call →
    ∃ e ∈ log, ∃ username, e.2.2 = .call id username
  /-- Failures leave nothing untrue behind. -/
  store : d.AgreesWith p.known.store
  cache : ∀ later id found, p.textures.entries.get? later id = some found →
    found.map (·.profile) = d.profile id

/-- Whatever fails, expires, stops or goes away, the parts of the service are not to be seen in
what it answers. -/
theorem service_is_transparent (agrees : d.AgreesWith store)
    (h : History Step (ofStore store settings) log p) (honest : ∀ e ∈ log, Honest d e.1 e.2.2) :
    Transparent d log p where
  answers e he id username ha := by
    obtain ⟨groupLog, hgroup, hto, -⟩ := group_of_history h
    have he' := hto e he id username ha
    obtain ⟨call, -, hc, -⟩ := Flight.run_of_call hgroup he' rfl
    refine ⟨call, hc, ?_⟩
    intro found hret
    have htrue : d.TrueResult (Username.key username) (.ok found) :=
      (truthful_of_history agrees h honest).runs.returned hgroup he' rfl hc hret
    exact htrue
  called id call hc := by
    obtain ⟨groupLog, hgroup, -, hfrom⟩ := group_of_history h
    obtain ⟨e, he, key, work, ha⟩ := Flight.called_of_history hgroup hc
    exact hfrom e he id key work ha
  store := (truthful_of_history agrees h honest).store
  cache _ _ _ hfound := (truthful_of_history agrees h honest).cache.get? hfound

/-- Two calls of one name in two casings, the first of which is dropped. The name goes through the
queue, and the answer cannot be stored. -/
theorem service_is_transparent_after_failures :
    ∃ (d : Directory) (log : List (Entry MemoryStore)) (p : Pipeline MemoryStore),
      History Step (ofStore {} {}) log p ∧ Transparent d log p ∧
      p.resolver.group.calls.get? 1 =
        some ⟨0, true, .returned (.ok (some ⟨0, { id := "069a79f4", name := "Notch" }⟩))⟩ := by
  have h := History.of_replay_all (fun (p : Pipeline MemoryStore) a => p.step? a.1 a.2)
    (ofStore {} {})
    (fun e => Honest
      (.single { id := "069a79f4", name := "Notch" } { id := "069a79f4", name := "Notch" })
      e.1 e.2.2)
    [(0, .call 0 "Notch"), (0, .call 1 "NOTCH"), (0, .spawn 0), (1, .drop 0), (1, .work 0 none),
      (1, .work 0 none), (1, .work 0 none), (2, .batch .park),
      (Time.seconds 3, .batch (.wake .delay)), (Time.seconds 3, .batch .drain),
      (Time.seconds 3, .batch .fire), (Time.seconds 3, .batch (.send 0)),
      (Time.seconds 4, .batch (.deliver 0 (.ok [{ id := "069a79f4", name := "Notch" }]))),
      (Time.seconds 4, .work 0 none), (Time.seconds 4, .work 0 none),
      (Time.seconds 4, .work 0 (some ⟨"disk full"⟩)), (Time.seconds 4, .work 0 none),
      (Time.seconds 4, .work 0 none), (Time.seconds 4, .work 0 none),
      (Time.seconds 5, .fetched 0 (.ok (some { id := "069a79f4", name := "Notch" }))),
      (Time.seconds 5, .work 0 none), (Time.seconds 5, .work 0 none),
      (Time.seconds 5, .work 0 none), (Time.seconds 5, .release 0), (Time.seconds 5, .publish 0),
      (Time.seconds 5, .collect 1)]
    (by simp [Honest, Batch.Honest, Directory.answers_single]) rfl
  refine ⟨_, _, _, h.1, service_is_transparent ?_ h.1 h.2, rfl⟩
  intro now query r hfound
  cases hfound

end

end Pipeline

end SkinRelay
