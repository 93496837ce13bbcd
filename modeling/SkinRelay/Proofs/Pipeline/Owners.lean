import SkinRelay.Proofs.Pipeline.Requests
import SkinRelay.Store.Memory

/-!
Whose an account id is. If upstream never reports one id for two names, then whatever id a run has
come to, and whatever id the store has under a name, is the id of that name.
-/

namespace SkinRelay.Pipeline

/-- Whether an action reports only ids of the names that own them. -/
def Reports (owns : String → String → Prop) (a : Action) : Prop :=
  ∀ n accounts, a = .batch (.deliver n (.ok accounts)) →
    ∀ account ∈ accounts, owns (Username.key account.name) account.id

/-- Whether the account that a work has come to is that of its key. -/
def Work.Owns (owns : String → String → Prop) (key : String) : Work → Prop
  | .naming _ (.writing found) =>
    ∀ account, found = some account → Username.key account.name = key ∧ owns key account.id
  | .naming _ (.done (.ok found)) => ∀ account, found = some account → owns key account.id
  | .dressing account _ => owns key account.id
  | _ => True

variable {owns : String → String → Prop} {now : Nat} {p q : Pipeline MemoryStore} {a : Action}

structure Owned (owns : String → String → Prop) (p : Pipeline MemoryStore) : Prop where
  store : ∀ now key r id, p.known.store.records.get? now key = some r → r.uuid = some id →
    owns key id
  runs : Flight.Keeps (Work.Owns owns) (fun _ _ => True) p.resolver.group

/-- Whether the queue has answered only with accounts of the names that it was asked about. -/
def OwnAnswers (owns : String → String → Prop) (b : Batch) : Prop :=
  ∀ run call account, b.calls.get? run = some call →
    call.phase = .returned (.ok (some account)) →
    Username.key account.name = Username.key call.username ∧
      owns (Username.key account.name) account.id

theorem owned_ofStore (settings : BatchSettings) : Owned owns (ofStore {} settings) where
  store now key r id h := by cases h
  runs := Flight.keeps_empty

namespace Owned

/-- A record goes under the key of the run that stores it. -/
theorem key_storedName (hp : Owned owns p) (attended : Attended p) {run : Nat}
    {key username : String} {found : Option Account}
    (hr : p.resolver.group.runs.get? run =
      some ⟨key, .working (.naming username (.writing found))⟩) :
    Username.key (KnownAccounts.storedName username found) = key := by
  obtain ⟨rfl, hkey⟩ : username = key ∧ Username.key key = key := attended.own run key _ hr
  have howns : (Work.naming username (.writing found)).Owns owns username := hp.runs run username _ hr
  cases found with
  | none => exact hkey
  | some account => exact (howns account rfl).1

/-- The store stays as it is, or takes up a record under the key of the run that stores it. -/
theorem records_move (hp : Owned owns p) (attended : Attended p) (h : Moves now p a q) :
    q.known.store.records = p.known.store.records ∨ ∃ run key username found, a = .work run none ∧
      p.resolver.group.runs.get? run = some ⟨key, .working (.naming username (.writing found))⟩ ∧
      q.resolver.group.runs.get? run =
        some ⟨key, .working (.naming username (.done (.ok found)))⟩ ∧
      q.known.store.records = p.known.store.records.insert now key
        { username := KnownAccounts.storedName username found, uuid := found.map (·.id) } := by
  rcases h.store with hsame | ⟨run, key, username, found, ha, hr, hr', hstore⟩
  · exact .inl (congrArg MemoryStore.records hsame)
  · refine .inr ⟨run, key, username, found, ha, hr, hr', ?_⟩
    rw [hstore, ← hp.key_storedName attended hr]
    rfl

theorem store_move (hp : Owned owns p) (attended : Attended p) (h : Moves now p a q) (later : Nat)
    (key : String) (r : NameRecord) (id : String)
    (hfound : q.known.store.records.get? later key = some r) (huuid : r.uuid = some id) :
    owns key id := by
  rcases hp.records_move attended h with hsame | ⟨run, k, username, found, -, hr, -, hstore⟩
  · rw [hsame] at hfound
    exact hp.store later key r id hfound huuid
  · rw [hstore] at hfound
    by_cases hk : key = k
    · subst hk
      rw [Expiring.get?_insert_self] at hfound
      split at hfound
      · cases hfound
        obtain ⟨account, rfl, rfl⟩ := Option.map_eq_some_iff.mp huuid
        exact (hp.runs run key _ hr account rfl).2
      · cases hfound
    · rw [Expiring.get?_insert_of_ne _ _ _ _ hk] at hfound
      exact hp.store later key r id hfound huuid

/-- Whatever account a run comes to is that of its key. -/
theorem proceeds (hp : Owned owns p) (attended : Attended p) (answers : OwnAnswers owns p.batch)
    {run : Nat} {key : String} {work next : Work} {known : KnownAccounts MemoryStore}
    {textures : TexturesCache}
    (hr : p.resolver.group.runs.get? run = some ⟨key, .working work⟩)
    (h : Proceeds now p run a work next known textures) : next.Owns owns key := by
  have hwork : work.Owns owns key := hp.runs run key _ hr
  cases h with
  | @read username fault =>
    obtain ⟨rfl, hkey⟩ : username = key ∧ Username.key key = key := attended.own run key _ hr
    have hreads := p.known.reads_read now fault username
    generalize (p.known.read now fault username).1 = stage at hreads ⊢
    cases hreads with
    | fail | miss => trivial
    | @hit r found =>
      rw [MemoryStore.lookup_key _ _ hkey] at found
      intro account haccount
      obtain ⟨id, hid, rfl⟩ := Option.map_eq_some_iff.mp haccount
      exact hp.store now username r id found hid
  | @answered username fault call result hc returned =>
    cases result with
    | error => trivial
    | ok found =>
      rintro account rfl
      obtain ⟨-, -, phase, hr', -⟩ := attended.caller run call hc
      obtain ⟨rfl, hkey⟩ : username = key ∧ Username.key key = key := attended.own run key _ hr
      obtain ⟨hname, howns⟩ := answers run call account hc returned
      have hcall : call.username = username :=
        congrArg Flight.Run.key (Option.some.inj (hr'.symm.trans hr))
      rw [hcall, hkey] at hname
      exact ⟨hname, hname ▸ howns⟩
  | write => exact fun account haccount => (hwork account haccount).2
  | @dress _ _ account => exact hwork account rfl
  | cache => exact hwork
  | fetched => exact hwork

theorem move (hp : Owned owns p) (attended : Attended p) (answers : OwnAnswers owns p.batch)
    (h : Moves now p a q) : Owned owns q where
  store := hp.store_move attended h
  runs := by
    cases h with
    | @call id username new _ =>
      exact hp.runs.step (Flight.step_call new _ _) trivial
    | @turn a action _ own stepped =>
      refine hp.runs.step (Resolver.group_of_step? stepped) ?_
      cases a <;> cases own <;> trivial
    | proceed hat hproceeds stepped =>
      refine hp.runs.step (Resolver.group_of_step? stepped) ?_
      intro key phase hr
      obtain ⟨key', hr'⟩ := Flight.work?_eq_some.mp hat
      cases hr.symm.trans hr'
      exact hp.proceeds attended answers hr hproceeds
    | finish _ _ stepped =>
      exact hp.runs.step (Resolver.group_of_step? stepped) fun _ _ _ => trivial
    | _ => exact hp.runs

end Owned

section

variable {settings : BatchSettings} {log : List (Entry MemoryStore)}

theorem ownAnswers_of_history (h : History Step (ofStore {} settings) log p)
    (reports : ∀ e ∈ log, Reports owns e.2.2) : OwnAnswers owns p.batch := by
  intro run call account hc returned
  obtain ⟨queueLog, hqueue, hfrom, -⟩ := queueLog_of_history h
  obtain ⟨⟨b, now, action⟩, he', n, accounts, round, rfl, -, -, hfound⟩ :=
    Batch.answer_of_returned hqueue hc returned
  obtain ⟨⟨t, now', a⟩, he, -, -, hqueues⟩ := hfrom _ he'
  have hname : Username.key account.name = Username.key call.username := by
    simpa using List.find?_some hfound.symm
  have hmem : account ∈ accounts := List.mem_of_find?_eq_some hfound.symm
  dsimp only at hqueues
  cases hqueues with
  | ask _ hasks => cases isOfQueue_of_asks hasks
  | own => exact ⟨hname, reports _ he n accounts rfl account hmem⟩

theorem owned_of_history (h : History Step (ofStore {} settings) log p)
    (reports : ∀ e ∈ log, Reports owns e.2.2) : Owned owns p := by
  induction h with
  | start => exact owned_ofStore settings
  | next h hs ih =>
    have hlog := fun e he => reports e (List.mem_append_left _ he)
    exact (ih hlog).move (attended_of_history h) (ownAnswers_of_history h hlog) (moves_of_step? hs)

end

end SkinRelay.Pipeline
