import SkinRelay.Proofs.Expiring
import SkinRelay.Proofs.Pipeline.Owners

/-!
Nothing that is still known is asked for again. A run that asks upstream has found nothing in the
store or in the cache before, and until its request is sent nobody else puts anything there for it:
runs of its key wait, and no other name has its account id.
-/

namespace SkinRelay.Pipeline

/-- Whether no entry of a log is later than this. -/
def Until {σ : Type} (log : List (Entry σ)) (later : Nat) : Prop := ∀ e ∈ log, e.2.1 ≤ later

/-- Whether time goes on along a log, and no id in it is that of two names. -/
structure Regular {σ : Type} (owns : String → String → Prop) (log : List (Entry σ)) : Prop where
  chronological : log.Pairwise fun d e => d.2.1 ≤ e.2.1
  reports : ∀ e ∈ log, Reports owns e.2.2
  functional : ∀ key key' id, owns key id → owns key' id → key = key'

/-- Whether the store has nothing under a name but this id. -/
def HasId (p : Pipeline MemoryStore) (later : Nat) (key id : String) : Prop :=
  ∀ r, p.known.store.records.get? later key = some r → r.uuid = some id

/-- Whether the store and the cache are still as the run of a key has found them. -/
def Work.Knows (p : Pipeline MemoryStore) (later : Nat) (key : String) : Work → Prop
  | .naming _ .asking | .naming _ (.writing _) => p.known.store.records.get? later key = none
  | .naming _ (.done (.ok (some account))) | .dressing account .looking =>
    p.HasId later key account.id
  | .dressing account .missed | .dressing account (.fetching _) =>
    p.HasId later key account.id ∧ p.textures.entries.get? later account.id = none
  | _ => True

section

variable {owns : String → String → Prop} {now later : Nat} {p q : Pipeline MemoryStore} {a : Action}

/-! ### What the other runs leave alone -/

/-- As long as a run has its key and stays where it is, nobody stores anything under the key. -/
theorem records_frame (owned : Owned owns p) (attended : Attended p)
    (coherent : Flight.Coherent p.resolver.group) (h : Moves now p a q) {run : Nat} {key : String}
    {phase : Flight.Phase Work FetchResult} (holds : phase.holdsKey = true)
    (hp : p.resolver.group.runs.get? run = some ⟨key, phase⟩)
    (hq : q.resolver.group.runs.get? run = some ⟨key, phase⟩) (later : Nat) :
    q.known.store.records.get? later key = p.known.store.records.get? later key := by
  rcases owned.records_move attended h with hsame | ⟨r, k, username, found, -, hr, hr', hstore⟩
  · rw [hsame]
  · have hk : key ≠ k := by
      rintro rfl
      obtain rfl := coherent.holder_unique hp holds hr rfl
      cases hp.symm.trans hr
      cases hq.symm.trans hr'
    rw [hstore, Expiring.get?_insert_of_ne _ _ _ _ hk]

/-- As long as a run has its key and stays where it is, nobody caches anything under its id. -/
theorem entries_frame (owned : Owned owns p) (unique : p.textures.entries.entries.keys.Nodup)
    (functional : ∀ key key' id, owns key id → owns key' id → key = key')
    (coherent : Flight.Coherent p.resolver.group) (h : Moves now p a q) {run : Nat} {key : String}
    {phase : Flight.Phase Work FetchResult} (holds : phase.holdsKey = true)
    (hp : p.resolver.group.runs.get? run = some ⟨key, phase⟩)
    (hq : q.resolver.group.runs.get? run = some ⟨key, phase⟩) {id : String} (own : owns key id)
    (hle : now ≤ later) :
    q.textures.entries.get? later id = p.textures.entries.get? later id := by
  rcases h.entries with hsame | hsweep | ⟨r, k, account, found, fault, -, hr, hr', hinsert⟩
  · rw [hsame]
  · rw [hsweep, Expiring.get?_sweep unique hle]
  · have hid : id ≠ account.id := by
      rintro rfl
      obtain rfl := functional key k account.id own (owned.runs r k _ hr)
      obtain rfl := coherent.holder_unique hp holds hr rfl
      cases hp.symm.trans hr
      cases hq.symm.trans hr'
    rw [hinsert, Expiring.get?_insert_of_ne _ _ _ _ hid]

theorem Work.Knows.frame {key : String} {work : Work} (h : work.Knows p later key)
    (hrecords : q.known.store.records.get? later key = p.known.store.records.get? later key)
    (hentries : ∀ account stage, work = .dressing account stage →
      q.textures.entries.get? later account.id = p.textures.entries.get? later account.id) :
    work.Knows q later key := by
  unfold Work.Knows HasId at h ⊢
  rw [hrecords]
  split <;> simp_all

/-! ### What a run finds out -/

theorem knows_read {key : String} {fault : Option StoreError} (hkey : Username.key key = key)
    (hle : now ≤ later) (hknown : q.known = (p.known.read now fault key).2) :
    (Work.naming key (p.known.read now fault key).1).Knows q later key := by
  have hstore : q.known.store = p.known.store := by
    rw [hknown, KnownAccounts.read_store]
  have hreads := p.known.reads_read now fault key
  generalize (p.known.read now fault key).1 = stage at hreads ⊢
  cases hreads with
  | fail => trivial
  | miss gone =>
    rw [MemoryStore.lookup_key _ _ hkey] at gone
    show q.known.store.records.get? later key = none
    rw [hstore]
    exact Expiring.get?_eq_none_of_le gone hle
  | @hit r found =>
    rw [MemoryStore.lookup_key _ _ hkey] at found
    cases huuid : r.uuid with
    | none => simp [Work.Knows, KnownAccounts.account?, huuid]
    | some id =>
      simp only [Work.Knows, KnownAccounts.account?, huuid, Option.map_some]
      intro r' hr'
      rw [hstore] at hr'
      rw [← Expiring.get?_inj found hr', huuid]

theorem knows_write (owned : Owned owns p) (attended : Attended p) {run : Nat} {key : String}
    {fault : Option StoreError} {username : String} {found : Option Account}
    (hr : p.resolver.group.runs.get? run =
      some ⟨key, .working (.naming username (.writing found))⟩)
    (hk : (Work.naming username (.writing found)).Knows p later key)
    (hknown : q.known = (p.known.write now fault username found).2) :
    (Work.naming username (p.known.write now fault username found).1).Knows q later key := by
  cases found with
  | none => trivial
  | some account =>
    intro r hfound
    rw [hknown] at hfound
    cases fault with
    | some error =>
      have hnone : p.known.store.records.get? later key = none := hk
      cases hnone.symm.trans hfound
    | none =>
      have hname := owned.key_storedName attended hr
      simp only [KnownAccounts.write, NameStore.record, MemoryStore.record, hname,
        Expiring.get?_insert_self] at hfound
      split at hfound
      · cases hfound
        rfl
      · cases hfound

theorem knows_advance {key : String} {account : Account} {stage next : TexturesCache.Stage}
    {textures : TexturesCache} (hk : (Work.dressing account stage).Knows p later key)
    (advances : p.textures.advance? now account.id stage = some (next, textures))
    (hle : now ≤ later) (hknown : q.known = p.known) (htextures : q.textures = textures) :
    (Work.dressing account next).Knows q later key := by
  have hid : p.HasId later key account.id → q.HasId later key account.id := by
    intro h r hr
    rw [hknown] at hr
    exact h r hr
  cases TexturesCache.advances_of_advance? advances with
  | hit | store | sweep => trivial
  | miss gone =>
    refine ⟨hid hk, ?_⟩
    rw [htextures]
    exact Expiring.get?_eq_none_of_le gone hle
  | request =>
    refine ⟨hid hk.1, ?_⟩
    rw [htextures]
    exact hk.2

theorem Proceeds.knows (owned : Owned owns p) (attended : Attended p) {run : Nat} {key : String}
    {work next : Work} {known : KnownAccounts MemoryStore} {textures : TexturesCache}
    (hr : p.resolver.group.runs.get? run = some ⟨key, .working work⟩)
    (h : Proceeds now p run a work next known textures) (hk : work.Knows p later key)
    (hle : now ≤ later) (hknown : q.known = known) (htextures : q.textures = textures) :
    next.Knows q later key := by
  cases h with
  | read =>
    obtain ⟨rfl, hkey⟩ := attended.own run key _ hr
    exact knows_read hkey hle hknown
  | @answered _ _ _ result =>
    cases result with
    | error => trivial
    | ok found =>
      have hnone : p.known.store.records.get? later key = none := hk
      show q.known.store.records.get? later key = none
      rw [hknown, hnone]
  | write => exact knows_write owned attended hr hk hknown
  | dress =>
    intro r hfound
    rw [hknown] at hfound
    exact hk r hfound
  | cache advances => exact knows_advance hk advances hle hknown htextures
  | @fetched _ _ reply => cases reply <;> trivial

/-- What the works of all runs know holds on. -/
theorem knows_move (owned : Owned owns p) (attended : Attended p)
    (unique : p.textures.entries.entries.keys.Nodup)
    (functional : ∀ key key' id, owns key id → owns key' id → key = key')
    (coherent : Flight.Coherent p.resolver.group) (h : Moves now p a q) (hle : now ≤ later)
    (hk : Flight.Keeps (Work.Knows p later) (fun _ _ => True) p.resolver.group) :
    Flight.Keeps (Work.Knows q later) (fun _ _ => True) q.resolver.group := by
  intro run key phase hq
  rcases h.passes coherent hq with
    hp | ⟨-, rfl, -⟩ | ⟨old, known, textures, hp, hpasses, hknown, htextures⟩
  · -- The run has stayed where it is.
    have same : ∀ work, phase.holdsKey = true → (∀ account stage,
        work = Work.dressing account stage → owns key account.id) →
        work.Knows p later key → work.Knows q later key := by
      intro work holds own hwork
      refine hwork.frame (records_frame owned attended coherent h holds hp hq later) ?_
      intro account stage heq
      exact entries_frame owned unique functional coherent h holds hp hq (own account stage heq) hle
    have howns := owned.runs run key phase hp
    have hwork := hk run key phase hp
    cases phase with
    | entered work | working work =>
      refine same work rfl ?_ hwork
      rintro account stage rfl
      exact howns
    | _ => exact hwork
  · trivial
  · have hold := hk run key old hp
    cases hpasses with
    | spawn =>
      refine hold.frame (by rw [hknown]) ?_
      intro account stage _
      rw [htextures]
    | proceed hproceeds => exact hproceeds.knows owned attended hp hold hle hknown htextures
    | _ => trivial

end

/-! ### Along a run -/

/-- What is stored or cached is to be found until its lifetime is over, and what runs know holds. -/
structure Watched (log : List (Entry MemoryStore)) (p : Pipeline MemoryStore) : Prop where
  unique : p.textures.entries.entries.keys.Nodup
  nameLifetime : p.known.store.records.lifetime = NameRecord.lifetime
  profileLifetime : p.textures.entries.lifetime = Time.seconds 60
  recorded : ∀ d ∈ log, ∀ run key, Records run key d → ∀ later, Until log later →
    p.known.store.records.get? later key = none → d.2.1 + NameRecord.lifetime ≤ later
  cached : ∀ d ∈ log, ∀ run id, Caches run id d → ∀ later, Until log later →
    p.textures.entries.get? later id = none → d.2.1 + Time.seconds 60 ≤ later
  knows : ∀ later, Until log later →
    Flight.Keeps (Work.Knows p later) (fun _ _ => True) p.resolver.group

theorem watched_ofStore (settings : BatchSettings) : Watched [] (ofStore {} settings) where
  unique := List.nodup_nil
  nameLifetime := rfl
  profileLifetime := rfl
  recorded d hd := by cases hd
  cached d hd := by cases hd
  knows later _ := Flight.keeps_empty

section

variable {owns : String → String → Prop} {now : Nat} {p q : Pipeline MemoryStore} {a : Action}
  {log : List (Entry MemoryStore)}

theorem until_concat {later : Nat} :
    Until (log ++ [(p, (now, a))]) later ↔ Until log later ∧ now ≤ later := by
  rw [Until, List.forall_mem_append, List.forall_mem_singleton]
  rfl

namespace Watched

/-- A record that was stored at some moment is found, or overwritten, for its whole lifetime. -/
theorem recorded_next (hw : Watched log p) (owned : Owned owns p) (attended : Attended p)
    (chronological : Until log now) (h : Moves now p a q) (d : Entry MemoryStore)
    (hd : d ∈ log ++ [(p, (now, a))]) (run : Nat) (key : String) (records : Records run key d)
    (later : Nat) (hle : Until (log ++ [(p, (now, a))]) later)
    (hnone : q.known.store.records.get? later key = none) :
    d.2.1 + NameRecord.lifetime ≤ later := by
  obtain ⟨huntil, hnow⟩ := until_concat.mp hle
  -- A record that goes in now outlives every older one, also one that it replaces.
  have fresh : ∀ r, q.known.store.records = p.known.store.records.insert now key r →
      now + NameRecord.lifetime ≤ later := by
    intro r hinsert
    rw [hinsert, Expiring.get?_insert_self, hw.nameLifetime] at hnone
    by_contra hlater
    rw [if_pos (by omega)] at hnone
    cases hnone
  rcases List.mem_append.mp hd with hold | hnew
  · rcases owned.records_move attended h with hsame | ⟨r, k, username, found, -, -, -, hinsert⟩
    · rw [hsame] at hnone
      exact hw.recorded d hold run key records later huntil hnone
    · by_cases hk : key = k
      · subst hk
        have htime := chronological d hold
        have hlater := fresh _ hinsert
        omega
      · rw [hinsert, Expiring.get?_insert_of_ne _ _ _ _ hk] at hnone
        exact hw.recorded d hold run key records later huntil hnone
  · obtain rfl := List.mem_singleton.mp hnew
    obtain ⟨rfl, username, found, hr⟩ := records
    have hstore := h.records hr
    refine fresh ⟨KnownAccounts.storedName username found, found.map (·.id)⟩ ?_
    rw [hstore, ← owned.key_storedName attended hr]
    rfl

/-- A profile that was cached at some moment is found, or overwritten, for its whole lifetime. -/
theorem cached_next (hw : Watched log p) (chronological : Until log now) (h : Moves now p a q)
    (d : Entry MemoryStore) (hd : d ∈ log ++ [(p, (now, a))]) (run : Nat) (id : String)
    (caches : Caches run id d) (later : Nat) (hle : Until (log ++ [(p, (now, a))]) later)
    (hnone : q.textures.entries.get? later id = none) : d.2.1 + Time.seconds 60 ≤ later := by
  obtain ⟨huntil, hnow⟩ := until_concat.mp hle
  have fresh : ∀ found, q.textures.entries = p.textures.entries.insert now id found →
      now + Time.seconds 60 ≤ later := by
    intro found hinsert
    rw [hinsert, Expiring.get?_insert_self, hw.profileLifetime] at hnone
    by_contra hlater
    rw [if_pos (by omega)] at hnone
    cases hnone
  rcases List.mem_append.mp hd with hold | hnew
  · rcases h.entries with hsame | hsweep | ⟨r, k, account, found, fault, -, -, -, hinsert⟩
    · rw [hsame] at hnone
      exact hw.cached d hold run id caches later huntil hnone
    · rw [hsweep, Expiring.get?_sweep hw.unique hnow] at hnone
      exact hw.cached d hold run id caches later huntil hnone
    · by_cases hid : id = account.id
      · subst hid
        have htime := chronological d hold
        have hlater := fresh _ hinsert
        omega
      · rw [hinsert, Expiring.get?_insert_of_ne _ _ _ _ hid] at hnone
        exact hw.cached d hold run id caches later huntil hnone
  · obtain rfl := List.mem_singleton.mp hnew
    obtain ⟨fault, account, found, rfl, rfl, hwork⟩ := caches
    exact fresh found (h.caches hwork)

theorem next (hw : Watched log p) (owned : Owned owns p) (attended : Attended p)
    (functional : ∀ key key' id, owns key id → owns key' id → key = key')
    (coherent : Flight.Coherent p.resolver.group) (chronological : Until log now)
    (h : Moves now p a q) : Watched (log ++ [(p, (now, a))]) q where
  unique := by
    rcases h.entries with hsame | hsweep | ⟨_, _, _, _, _, -, -, -, hinsert⟩
    · rw [hsame]
      exact hw.unique
    · rw [hsweep]
      exact Expiring.nodup_keys_sweep hw.unique now
    · rw [hinsert]
      exact Table.nodup_keys_insert hw.unique _ _
  nameLifetime := by
    rcases owned.records_move attended h with hsame | ⟨_, _, _, _, -, -, -, hinsert⟩
    · rw [hsame]
      exact hw.nameLifetime
    · rw [hinsert]
      exact hw.nameLifetime
  profileLifetime := by
    rcases h.entries with hsame | hsweep | ⟨_, _, _, _, _, -, -, -, hinsert⟩
    · rw [hsame]
      exact hw.profileLifetime
    · rw [hsweep]
      exact hw.profileLifetime
    · rw [hinsert]
      exact hw.profileLifetime
  recorded := hw.recorded_next owned attended chronological h
  cached := hw.cached_next chronological h
  knows later hle := by
    obtain ⟨huntil, hnow⟩ := until_concat.mp hle
    exact knows_move owned attended hw.unique functional coherent h hnow (hw.knows later huntil)

end Watched

end

section

variable {owns : String → String → Prop} {settings : BatchSettings} {log : List (Entry MemoryStore)}
  {p : Pipeline MemoryStore}

theorem Regular.init {now : Nat} {a : Action} (h : Regular owns (log ++ [(p, (now, a))])) :
    Regular owns log ∧ Until log now := by
  obtain ⟨hlog, -, hlast⟩ := List.pairwise_append.mp h.chronological
  exact ⟨⟨hlog, fun e he => h.reports e (List.mem_append_left _ he), h.functional⟩,
    fun e he => hlast e he _ (List.mem_singleton_self _)⟩

theorem watched_of_history (h : History Step (ofStore {} settings) log p)
    (regular : Regular owns log) : Watched log p := by
  induction h with
  | start => exact watched_ofStore settings
  | @next log t u a h hs ih =>
    obtain ⟨hlog, huntil⟩ := regular.init
    exact (ih hlog).next (owned_of_history h hlog.reports) (attended_of_history h)
      regular.functional (coherent_of_history h) huntil (moves_of_step? hs)

/-- While a record lives, no request holds its name. -/
theorem asks_spared (h : History Step (ofStore {} settings) log p)
    (regular : Regular owns log) :
    log.Pairwise fun d e => ∀ run key, Records run key d → ∀ later, Asks later key e →
      d.2.1 + NameRecord.lifetime ≤ e.2.1 := by
  induction h with
  | start => exact .nil
  | @next log t u a h hs ih =>
    obtain ⟨hlog, huntil⟩ := regular.init
    have hw := watched_of_history h hlog
    refine List.pairwise_append.mpr ⟨ih hlog, List.pairwise_singleton _ _, ?_⟩
    intro d hd e he run key records later hasks
    obtain rfl := List.mem_singleton.mp he
    obtain ⟨n, round, sends, hat, job, hj, rfl, rfl⟩ := hasks
    obtain ⟨hkey, hr⟩ := asks_of_send (h.next hs) (by simp) sends hat hj
    rw [hkey] at records
    exact hw.recorded d hd run job.username records a.1 huntil (hw.knows a.1 huntil _ _ _ hr)

/-- While a cached profile lives, no request is sent for it. -/
theorem fetches_spared (h : History Step (ofStore {} settings) log p)
    (regular : Regular owns log) :
    log.Pairwise fun d e => ∀ run id, Caches run id d → ∀ later, Fetches later id e →
      d.2.1 + Time.seconds 60 ≤ e.2.1 := by
  induction h with
  | start => exact .nil
  | @next log t u a h hs ih =>
    obtain ⟨hlog, huntil⟩ := regular.init
    have hw := watched_of_history h hlog
    refine List.pairwise_append.mpr ⟨ih hlog, List.pairwise_singleton _ _, ?_⟩
    intro d hd e he run id caches later hfetches
    obtain rfl := List.mem_singleton.mp he
    obtain ⟨fault, account, -, rfl, hwork⟩ := hfetches
    obtain ⟨key, hr⟩ := Flight.work?_eq_some.mp hwork
    obtain ⟨-, hnone⟩ := hw.knows a.1 huntil _ _ _ hr
    exact hw.cached d hd run account.id caches a.1 huntil hnone

end

end SkinRelay.Pipeline
