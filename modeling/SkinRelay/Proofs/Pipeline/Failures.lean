import SkinRelay.Proofs.Flight.Freshness
import SkinRelay.Proofs.Pipeline.Errors
import SkinRelay.Proofs.Pipeline.Expiry

/-!
A failed request leaves nothing behind. The run that sent it ends with the error and stores nothing,
so that the next run of its key finds as little as it did, and has to send a request itself.
-/

namespace SkinRelay.Pipeline

/-- Whether the work of a run may be here after a request of it has failed. -/
def Work.Barren (wanted : Option String) : Work → Prop
  | .naming _ .asking | .naming _ (.done (.error (.remote _))) => wanted = none
  | .dressing _ (.done (.error (.remote _))) => wanted ≠ none
  | _ => False

/-- Whether a run may be in this phase after a request of it has failed. -/
def Barren (wanted : Option String) : Flight.Phase Work FetchResult → Prop
  | .working work => work.Barren wanted
  | .finished result | .released result | .published result =>
    ∃ error, result = .error (.remote error)
  | _ => False

/-- Whether a run in this phase has not read the store yet. -/
def Unread : Flight.Phase Work FetchResult → Prop
  | .entered _ | .working (.naming _ .reading) => True
  | _ => False

/-- Whether the store and the cache have nothing for a name but the id `wanted`, and no profile for
that. -/
structure Dry (owns : String → String → Prop) (p : Pipeline MemoryStore) (later : Nat) (key : String)
    (wanted : Option String) : Prop where
  records : ∀ r, p.known.store.records.get? later key = some r →
    ∃ id, wanted = some id ∧ r.uuid = some id
  entries : ∀ id, wanted = some id →
    owns key id ∧ p.textures.entries.get? later id = none

section

variable {settings : BatchSettings} {log : List (Entry MemoryStore)} {p q : Pipeline MemoryStore}
  {now : Nat} {a : Action} {run : Nat} {key : String} {wanted : Option String}

theorem Work.Barren.result {work : Work} {result : FetchResult} (h : work.Barren wanted)
    (ends : work.result? = some result) : ∃ error, result = .error (.remote error) := by
  match work, ends with
  | .naming _ (.done (.error (.remote error))), rfl => exact ⟨error, rfl⟩
  | .dressing _ (.done (.error (.remote error))), rfl => exact ⟨error, rfl⟩

/-- A request that fails is one of a run that waits for it. -/
theorem Fails.waits (h : History Step (ofStore {} settings) log p) (hs : Step p (now, a) q)
    (fails : Fails run key (p, (now, a)) wanted) :
    q.known = p.known ∧ q.textures = p.textures ∧
    (wanted = none ∧
      p.resolver.group.runs.get? run = some ⟨key, .working (.naming key .asking)⟩ ∧
      q.resolver.group.runs.get? run = some ⟨key, .working (.naming key .asking)⟩ ∨
    ∃ account request error, wanted = some account.id ∧
      p.resolver.group.runs.get? run = some ⟨key, .working (.dressing account (.fetching request))⟩ ∧
      q.resolver.group.runs.get? run =
        some ⟨key, .working (.dressing account (.done (.error (.remote error))))⟩) := by
  cases fails with
  | @accounts n error round job delivers hat hj own name =>
    obtain rfl : a = .batch (.deliver n (.error error)) := delivers
    obtain ⟨batch, hmove, rfl⟩ := (moves_of_step? hs).ofBatch
    cases hmove with
    | @deliver _ time round' _ hat' sent =>
      obtain rfl : round = round' := Option.some.inj (hat.symm.trans hat')
      have hpending := (Batch.round_sublist_pending hat (by simp [sent])).subset hj
      obtain ⟨-, -, -, hr⟩ := waiter_of_pending h hpending
      rw [key_of_pending h hpending] at name
      rw [own, name] at hr
      exact ⟨rfl, rfl, .inl ⟨rfl, hr, hr⟩⟩
  | @profile error account request fetched hr =>
    obtain rfl : a = .fetched run (.error error) := fetched
    cases moves_of_step? hs with
    | turn own => cases own
    | proceed hat hproceeds stepped =>
      cases hproceeds with
      | @fetched account' request' =>
        cases (Flight.work?_eq_some.mpr ⟨key, hr⟩).symm.trans hat
        exact ⟨rfl, rfl, .inr ⟨account, request, error, rfl, hr,
          (Resolver.group_of_step? stepped).advance hr⟩⟩

/-- What the call of a run returns whose request has failed. -/
theorem result_of_refused (h : History Step (ofStore {} settings) log p) {d : Entry MemoryStore}
    (hd : d ∈ log) (fails : Fails run key d none) {call : Batch.Call} {result : AccountResult}
    (hc : p.batch.calls.get? run = some call) (hp : call.phase = .returned result) :
    ∃ error, result = .error (.remote error) := by
  cases fails with
  | @accounts n error round job delivers hat hj own name =>
    have hf := fate_of_delivered h hd delivers hat hj
    rw [own] at hf
    exact ⟨error, (returned_iff h hc hp).mpr hf⟩

/-- A run whose request has failed ends with the error. -/
theorem barren_of_history (h : History Step (ofStore {} settings) log p) {d : Entry MemoryStore}
    (hd : d ∈ log) (fails : Fails run key d wanted) :
    ∃ phase, p.resolver.group.runs.get? run = some ⟨key, phase⟩ ∧ Barren wanted phase := by
  induction h with
  | start => cases hd
  | @next log t u a h hs ih =>
    obtain ⟨now, a⟩ := a
    rcases List.mem_append.mp hd with hold | hnew
    · obtain ⟨old, hr, hbarren⟩ := ih hold
      obtain ⟨phase, hr'⟩ := (moves_of_step? hs).run (coherent_of_history h) hr
      refine ⟨phase, hr', ?_⟩
      rcases (moves_of_step? hs).passes (coherent_of_history h) hr' with
        hsame | ⟨hnone, -⟩ | ⟨old', _, _, hr'', hpasses, -⟩
      · cases hr.symm.trans hsame
        exact hbarren
      · rw [hr] at hnone
        cases hnone
      · cases hr.symm.trans hr''
        cases hpasses with
        | spawn => cases hbarren
        | proceed hproceeds =>
          cases hproceeds with
          | answered hc returned =>
            obtain rfl : wanted = none := hbarren
            obtain ⟨error, rfl⟩ := result_of_refused h hold fails hc returned
            rfl
          | @cache _ _ stage _ _ advances => cases stage <;> first | cases hbarren | cases advances
          | read | write | dress | fetched => cases hbarren
        | finish ends => exact Work.Barren.result hbarren ends
        | release => exact hbarren
        | publish => exact hbarren
        | unwind | lose => cases hbarren
    · obtain rfl := List.mem_singleton.mp hnew
      obtain ⟨-, -, ⟨rfl, -, hr⟩ | ⟨account, request, error, rfl, -, hr⟩⟩ := fails.waits h hs
      · exact ⟨_, hr, rfl⟩
      · exact ⟨_, hr, by simp [Barren, Work.Barren]⟩

/-- A run whose request has failed stores nothing any more. -/
theorem unrecorded_of_history (h : History Step (ofStore {} settings) log p) :
    log.Pairwise fun d e => ∀ run key wanted, Fails run key d wanted →
      (∀ k, ¬Records run k e) ∧ ∀ id, ¬Caches run id e := by
  induction h with
  | start => exact .nil
  | @next log t u a h hs ih =>
    refine List.pairwise_append.mpr ⟨ih, List.pairwise_singleton _ _, ?_⟩
    intro d hd e he run key wanted fails
    obtain rfl := List.mem_singleton.mp he
    obtain ⟨phase, hr, hbarren⟩ := barren_of_history h hd fails
    constructor
    · rintro k ⟨-, username, found, hr'⟩
      cases hr.symm.trans hr'
      cases hbarren
    · rintro id ⟨fault, account, found, -, -, hwork⟩
      obtain ⟨k, hr'⟩ := Flight.work?_eq_some.mp hwork
      cases hr.symm.trans hr'
      cases hbarren

/-- Of all runs of a key, the one that has it is the newest. -/
theorem newest_of_history (h : History Step (ofStore {} settings) log p) :
    Flight.Newest p.resolver.group := by
  obtain ⟨groupLog, hgroup, -⟩ := group_of_history h
  exact Flight.newest_of_history hgroup

/-! ### Until the next run reads the store -/

theorem Proceeds.not_unread {work next : Work} {known : KnownAccounts MemoryStore}
    {textures : TexturesCache} (h : Proceeds now p run a work next known textures) :
    ¬Unread (.working next) := by
  cases h with
  | @read username fault =>
    have hreads := p.known.reads_read now fault username
    generalize (p.known.read now fault username).1 = stage at hreads ⊢
    cases hreads <;> exact id
  | @answered _ _ _ result => cases result <;> exact id
  | write => exact id
  | dress | cache | fetched => exact id

/-- A run that has not read the store had not read it before. -/
theorem Moves.unread (h : Moves now p a q) (coherent : Flight.Coherent p.resolver.group)
    {s : Nat} {k : String} {old : Flight.Phase Work FetchResult}
    (hp : p.resolver.group.runs.get? s = some ⟨k, old⟩)
    (hq : ∀ phase, q.resolver.group.runs.get? s = some ⟨k, phase⟩ → Unread phase) : Unread old := by
  obtain ⟨phase, hs⟩ := h.run coherent hp
  have hunread := hq phase hs
  rcases h.passes coherent hs with hsame | ⟨hnone, -⟩ | ⟨old', _, _, hp', hpasses, -⟩
  · cases hp.symm.trans hsame
    exact hunread
  · rw [hp] at hnone
    cases hnone
  · cases hp.symm.trans hp'
    cases hpasses with
    | spawn => trivial
    | proceed hproceeds => exact absurd hunread hproceeds.not_unread
    | finish | release | publish | unwind | lose => cases hunread

section

variable {owns : String → String → Prop}

/-- Runs of other names leave a name as dry as it is. -/
theorem Dry.frame {later : Nat} (hdry : Dry owns p later key wanted) (owned : Owned owns p)
    (attended : Attended p) (unique : p.textures.entries.entries.keys.Nodup)
    (functional : ∀ key key' id, owns key id → owns key' id → key = key') (h : Moves now p a q)
    (hle : now ≤ later)
    (idle : ∀ s work, p.resolver.group.runs.get? s = some ⟨key, .working work⟩ →
      (∀ username found, work ≠ .naming username (.writing found)) ∧
      ∀ account found, work ≠ .dressing account (.storing found)) :
    Dry owns q later key wanted where
  records r hfound := by
    rcases owned.records_move attended h with hsame | ⟨s, k, username, found, -, hp, -, hinsert⟩
    · rw [hsame] at hfound
      exact hdry.records r hfound
    · have hk : key ≠ k := by
        rintro rfl
        exact (idle s _ hp).1 username found rfl
      rw [hinsert, Expiring.get?_insert_of_ne _ _ _ _ hk] at hfound
      exact hdry.records r hfound
  entries id hid := by
    obtain ⟨own, hnone⟩ := hdry.entries id hid
    refine ⟨own, ?_⟩
    rcases h.entries with hsame | hsweep | ⟨s, k, account, found, -, -, hp, -, hinsert⟩
    · rw [hsame]
      exact hnone
    · rw [hsweep, Expiring.get?_sweep unique hle]
      exact hnone
    · have hne : id ≠ account.id := by
        rintro rfl
        obtain rfl := functional key k account.id own (owned.runs s k _ hp)
        exact (idle s _ hp).2 account found rfl
      rw [hinsert, Expiring.get?_insert_of_ne _ _ _ _ hne]
      exact hnone

/-- A request that fails was of a run that knows the name to be dry. -/
theorem Fails.dry (h : History Step (ofStore {} settings) log p) (hs : Step p (now, a) q)
    (fails : Fails run key (p, (now, a)) wanted) (owned : Owned owns p) {later : Nat}
    (knows : Flight.Keeps (Work.Knows p later) (fun _ _ => True) p.resolver.group) :
    Dry owns q later key wanted := by
  obtain ⟨hknown, htextures, ⟨rfl, hr, -⟩ | ⟨account, request, error, rfl, hr, -⟩⟩ :=
    fails.waits h hs
  · have hnone : p.known.store.records.get? later key = none := knows _ _ _ hr
    refine ⟨?_, by simp⟩
    intro r hfound
    rw [hknown, hnone] at hfound
    cases hfound
  · obtain ⟨hid, hnone⟩ := knows _ _ _ hr
    refine ⟨?_, ?_⟩
    · intro r hfound
      rw [hknown] at hfound
      exact ⟨account.id, rfl, hid r hfound⟩
    · rintro id ⟨⟩
      rw [htextures]
      exact ⟨owned.runs run key _ hr, hnone⟩

/-- What failed leaves a name dry, until a newer run of the name reads the store. -/
theorem dry_of_history (h : History Step (ofStore {} settings) log p) (regular : Regular owns log)
    {d : Entry MemoryStore} (hd : d ∈ log) (fails : Fails run key d wanted)
    (unread : ∀ s phase, run < s → p.resolver.group.runs.get? s = some ⟨key, phase⟩ → Unread phase)
    {later : Nat} (hle : Until log later) : Dry owns p later key wanted := by
  induction h with
  | start => cases hd
  | @next log t u a h hs ih =>
    obtain ⟨now, a⟩ := a
    obtain ⟨hlog, -⟩ := regular.init
    obtain ⟨huntil, hnow⟩ := until_concat.mp hle
    have owned := owned_of_history h hlog.reports
    have hw := watched_of_history h hlog
    have hmove := moves_of_step? hs
    rcases List.mem_append.mp hd with hold | hnew
    · have hunread : ∀ s phase, run < s → t.resolver.group.runs.get? s = some ⟨key, phase⟩ →
          Unread phase := fun s phase hlt hp =>
        hmove.unread (coherent_of_history h) hp fun phase' => unread s phase' hlt
      obtain ⟨phase, hr, hbarren⟩ := barren_of_history h hold fails
      -- Whoever works on the name is the run that failed, or a newer one that has read nothing.
      have idle : ∀ s work, t.resolver.group.runs.get? s = some ⟨key, .working work⟩ →
          Barren wanted (.working work) ∨ Unread (.working work) := by
        intro s work hp
        have hge := newest_of_history h key s run _ _ hp rfl hr
        by_cases hs : s = run
        · subst hs
          cases hr.symm.trans hp
          exact .inl hbarren
        · exact .inr (hunread s _ (by omega) hp)
      refine (ih hlog hold hunread huntil).frame owned (attended_of_history h) hw.unique
        regular.functional hmove hnow fun s work hp => ⟨?_, ?_⟩
      · rintro username found rfl
        rcases idle s _ hp with hbarren | hunread
        · cases hbarren
        · cases hunread
      · rintro account found rfl
        rcases idle s _ hp with hbarren | hunread
        · cases hbarren
        · cases hunread
    · obtain rfl := List.mem_singleton.mp hnew
      exact fails.dry h hs owned (hw.knows later huntil)

end

end

end SkinRelay.Pipeline
