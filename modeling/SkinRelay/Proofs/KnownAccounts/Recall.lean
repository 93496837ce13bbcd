import SkinRelay.Proofs.KnownAccounts.Lookups
import SkinRelay.Proofs.Store.Contract

/-!
What was learnt about a name is remembered. Once an answer is stored, it is the answer to every
lookup of the name, in whatever casing, until it expires or another one is stored, and nobody else is
asked. A failure of the store or of whoever is asked leaves no trace: `answers_are_remembered`.
-/

namespace SkinRelay.KnownAccounts

/-- The account that an action brings to a lookup. -/
def Action.brings? : Action → Option (Nat × Account)
  | .reply id (.ok (some a)) => some (id, a)
  | _ => none

namespace Readers

section

variable {σ : Type} [NameStore σ]

/-- Whether an entry reads the store for this lookup of this name, with this fault. -/
def Looks (e : Entry σ) (id : Nat) (username : String) (fault : Option StoreError) : Prop :=
  e.2.2 = .read id fault ∧ e.1.lookups.get? id = some ⟨username, .reading⟩

/-- Whether an entry writes the answer of this lookup of this name, with this fault. -/
def Writes (e : Entry σ) (id : Nat) (username : String) (found : Option Account)
    (fault : Option StoreError) : Prop :=
  e.2.2 = .write id fault ∧ e.1.lookups.get? id = some ⟨username, .writing found⟩

/-- Whether a lookup asks somebody else with an entry. -/
def Asks (e : Entry σ) (id : Nat) : Prop :=
  e.2.2.mover? = some id ∧ ∃ u username, Step e.1 e.2 u ∧ u.lookups.get? id = some ⟨username, .asking⟩

/-- Whether nothing is stored under any casing of a name. -/
def Quiet (log : List (Entry σ)) (username : String) : Prop :=
  ∀ e ∈ log, ∀ id other found, Writes e id other found none →
    Username.key other ≠ Username.key username

/-- Whether the account in a reply, if there is one, has the name that was asked for. -/
def Honest (e : Entry σ) : Prop :=
  ∀ r ∈ e.2.2.brings?, ∀ l ∈ e.1.lookups.get? r.1, Username.key r.2.name = Username.key l.username

instance (e : Entry σ) : Decidable (Honest e) :=
  inferInstanceAs (Decidable (∀ r ∈ _, ∀ l ∈ _, _))

/-- Whether no step of a lookup touches the store or the counters. -/
def Untouched (log : List (Entry σ)) (id : Nat) : Prop :=
  ∀ e ∈ log, e.2.2.mover? = some id → ∀ u, Step e.1 e.2 u → u.known = e.1.known

variable {now later id : Nat} {username query : String} {found : Option Account}
  {fault : Option StoreError} {s t u : Readers σ} {a : Action} {e : Entry σ}
  {log rest : List (Entry σ)} {known : KnownAccounts σ} {result : AccountResult}

/-! ### Answers on their way to the store -/

/-- An answer that is about to be written was the reply, and its account has the name that was asked
for. -/
def Backed (log : List (Entry σ)) (s : Readers σ) : Prop :=
  ∀ id username found, s.lookups.get? id = some ⟨username, .writing found⟩ →
    (∃ e ∈ log, e.2.2 = .reply id (.ok found)) ∧
      ∀ a, found = some a → Username.key a.name = Username.key username

theorem Moves.backed (h : Moves now s a t) (honest : Honest (s, (now, a))) (hs : Backed log s) :
    Backed (log ++ [(s, (now, a))]) t := by
  have kept : ∀ {id username found}, s.lookups.get? id = some ⟨username, .writing found⟩ →
      (∃ e ∈ log ++ [(s, (now, a))], e.2.2 = .reply id (.ok found)) ∧
        ∀ a, found = some a → Username.key a.name = Username.key username := by
    intro id username found hat
    obtain ⟨⟨e, he, replies⟩, hname⟩ := hs id username found hat
    exact ⟨⟨e, List.mem_append_left _ he, replies⟩, hname⟩
  intro id username found hat
  cases h with
  | begin | fail | hit | miss | store | skip =>
    simp only [get?_setLookup] at hat
    split at hat
    · cases hat
    · exact kept hat
  | @reply i name result at_ =>
    simp only [get?_setLookup] at hat
    split at hat
    · rename_i hid
      subst hid
      cases result with
      | error => cases hat
      | ok =>
        cases hat
        refine ⟨⟨_, List.mem_append_right _ (List.mem_singleton_self _), rfl⟩, ?_⟩
        rintro a rfl
        exact honest (id, a) rfl _ at_
    · exact kept hat

theorem backed_of_history (h : History Step ({ known } : Readers σ) log s)
    (honest : ∀ e ∈ log, Honest e) : Backed log s := by
  induction h with
  | start =>
    intro id username found hat
    cases hat
  | next _ hs ih =>
    obtain ⟨hlog, hlast⟩ := List.forall_mem_append.mp honest
    exact (moves_of_step? hs).backed (hlast _ (List.mem_singleton_self _)) (ih hlog)

omit [NameStore σ] in
/-- An answer is stored under the name that was asked for, in some casing. -/
theorem Backed.key_storedName (hs : Backed log s)
    (hat : s.lookups.get? id = some ⟨username, .writing found⟩) :
    Username.key (storedName username found) = Username.key username := by
  cases found with
  | none => rfl
  | some a => exact (hs id username _ hat).2 a rfl

end

section

variable {σ : Type} [NameStore σ] [ExpiringNameStore σ]

variable {now later id : Nat} {username query : String} {found : Option Account}
  {s t u : Readers σ} {a : Action} {e : Entry σ} {log rest before after : List (Entry σ)}
  {known : KnownAccounts σ}

/-! ### What the store says about a name -/

/-- A step that stores nothing under a name leaves what the store says about it. -/
theorem Moves.lookup_store (h : Moves now s a t) (hs : Backed log s)
    (quiet : Quiet [(s, (now, a))] username) (same : Username.key query = Username.key username)
    (later : Nat) :
    NameStore.lookup t.known.store later query = NameStore.lookup s.known.store later query := by
  cases h with
  | begin | fail | hit | miss | reply | skip => rfl
  | @store id name found at_ =>
    have other := quiet _ (List.mem_singleton_self _) id name found ⟨rfl, at_⟩
    refine ExpiringNameStore.lookup_of_ne ?_
    rw [hs.key_storedName at_, same]
    exact other.symm

/-- As long as nothing is stored under a name, what the store says about it stays the same. -/
theorem lookup_store_of_history (h : History Step ({ known } : Readers σ) log s)
    (hrest : History Step s rest t) (honest : ∀ e ∈ log ++ rest, Honest e)
    (quiet : Quiet rest username) (same : Username.key query = Username.key username)
    (later : Nat) :
    NameStore.lookup t.known.store later query = NameStore.lookup s.known.store later query := by
  induction hrest with
  | start => rfl
  | @next rest t u a hrest hs ih =>
    have hsplit : log ++ (rest ++ [(t, a)]) = (log ++ rest) ++ [(t, a)] := by simp
    rw [hsplit] at honest
    obtain ⟨hhonest, -⟩ := List.forall_mem_append.mp honest
    obtain ⟨hquiet, hlast⟩ := List.forall_mem_append.mp quiet
    rw [(moves_of_step? hs).lookup_store (backed_of_history (h.trans hrest) hhonest) hlast same,
      ih hhonest hquiet]

/-- After an answer was stored, the store says it about every casing of the name until it expires. -/
theorem lookup_store_of_writes (h : History Step ({ known } : Readers σ) (before ++ e :: rest) t)
    (honest : ∀ d ∈ before ++ e :: rest, Honest d) (writes : Writes e id username found none)
    (quiet : Quiet rest username) (same : Username.key query = Username.key username)
    (believed : ExpiringNameStore.believes e.1.known.store e.2.1 later = true) :
    NameStore.lookup t.known.store later query =
      some { username := storedName username found, uuid := found.map (·.id) } := by
  obtain ⟨u, hbefore, hs, hrest⟩ := h.split
  have hhonest : ∀ d ∈ before, Honest d := fun d hd => honest d (List.mem_append_left _ hd)
  have hbacked := backed_of_history hbefore hhonest
  have hsplit : before ++ e :: rest = (before ++ [e]) ++ rest := by simp
  rw [hsplit] at honest
  rw [lookup_store_of_history (hbefore.next hs) hrest honest quiet same]
  obtain ⟨s, now, a⟩ := e
  obtain ⟨rfl, hat⟩ := writes
  have hmove := moves_of_step? hs
  cases hmove with
  | store at_ =>
    cases hat.symm.trans at_
    exact ExpiringNameStore.lookup_of_believed (same.trans (hbacked.key_storedName hat).symm) believed

/-- A record of an answer reads as the answer. -/
theorem account?_stored (username : String) (found : Option Account) :
    account? { username := storedName username found, uuid := found.map (·.id) } =
      found.map fun a => { id := a.id, name := a.name } := by
  cases found <;> rfl

end

/-! ### Single steps -/

section

variable {σ : Type} [NameStore σ] {id : Nat} {username : String} {found : Option Account}
  {error : StoreError} {fault : Option StoreError} {result : AccountResult} {t u : Readers σ}
  {e : Entry σ} {log : List (Entry σ)}

theorem Looks.failed (looks : Looks e id username (some error)) (hs : Step e.1 e.2 u) :
    u.lookups.get? id = some ⟨username, .done (.error (.storage error))⟩ ∧
      u.known = e.1.known := by
  obtain ⟨s, now, a⟩ := e
  obtain ⟨rfl, hat⟩ := looks
  cases moves_of_step? hs with
  | fail at_ =>
    cases hat.symm.trans at_
    exact ⟨by simp, rfl⟩

theorem Looks.hit (looks : Looks e id username none) {r : NameRecord}
    (known : NameStore.lookup e.1.known.store e.2.1 (Username.key username) = some r)
    (hs : Step e.1 e.2 u) :
    u.lookups.get? id = some ⟨username, .done (.ok (account? r))⟩ ∧
      u.known.store = e.1.known.store ∧
      u.known.stats = { e.1.known.stats with hits := e.1.known.stats.hits + 1 } := by
  obtain ⟨s, now, a⟩ := e
  obtain ⟨rfl, hat⟩ := looks
  cases moves_of_step? hs with
  | hit at_ found =>
    cases hat.symm.trans at_
    cases known.symm.trans found
    exact ⟨by simp, rfl, rfl⟩
  | miss at_ gone =>
    cases hat.symm.trans at_
    cases known.symm.trans gone

theorem Looks.missed (looks : Looks e id username none)
    (gone : NameStore.lookup e.1.known.store e.2.1 (Username.key username) = none)
    (hs : Step e.1 e.2 u) :
    u.lookups.get? id = some ⟨username, .asking⟩ ∧ u.known = e.1.known := by
  obtain ⟨s, now, a⟩ := e
  obtain ⟨rfl, hat⟩ := looks
  cases moves_of_step? hs with
  | hit at_ found =>
    cases hat.symm.trans at_
    cases gone.symm.trans found
  | miss at_ =>
    cases hat.symm.trans at_
    exact ⟨by simp, rfl⟩

theorem Writes.stored (writes : Writes e id username found none) (hs : Step e.1 e.2 u) :
    u.lookups.get? id = some ⟨username, .done (.ok found)⟩ ∧
      u.known.stats = { e.1.known.stats with misses := e.1.known.stats.misses + 1 } := by
  obtain ⟨s, now, a⟩ := e
  obtain ⟨rfl, hat⟩ := writes
  cases moves_of_step? hs with
  | store at_ =>
    cases hat.symm.trans at_
    exact ⟨by simp, rfl⟩

theorem Writes.unstored (writes : Writes e id username found (some error)) (hs : Step e.1 e.2 u) :
    u.lookups.get? id = some ⟨username, .done (.ok found)⟩ ∧ u.known = e.1.known := by
  obtain ⟨s, now, a⟩ := e
  obtain ⟨rfl, hat⟩ := writes
  cases moves_of_step? hs with
  | skip at_ =>
    cases hat.symm.trans at_
    exact ⟨by simp, rfl⟩

/-- A lookup that is done once it has read the store does nothing else, and asks nobody. -/
theorem only_of_looks {known : KnownAccounts σ} (h : History Step ({ known } : Readers σ) log t)
    (he : e ∈ log) (looks : Looks e id username fault)
    (ends : ∀ u, Step e.1 e.2 u → u.lookups.get? id = some ⟨username, .done result⟩) :
    t.lookups.get? id = some ⟨username, .done result⟩ ∧ (∀ d ∈ log, ¬Asks d id) ∧
      ∀ d ∈ log, d.2.2.mover? = some id → d = e := by
  obtain ⟨hend, hrest⟩ := ended_of_history h he (by rw [looks.1]; rfl) looks.2 ends
  have only : ∀ d ∈ log, d.2.2.mover? = some id → d = e := by
    intro d hd hown
    rcases hrest d hd hown with heq | ⟨⟨l, -, hrank⟩, -⟩
    · exact heq
    · exact absurd hrank (Nat.not_lt_zero _)
  refine ⟨hend, ?_, only⟩
  rintro d hd ⟨hown, u, name, hs, hasks⟩
  obtain rfl := only d hd hown
  cases (ends u hs).symm.trans hasks

/-- If the step that ends a lookup touches nothing, then none of its steps does. -/
theorem untouched_of_ended {stage : Stage} {known : KnownAccounts σ}
    (h : History Step ({ known } : Readers σ) log t) (he : e ∈ log)
    (own : e.2.2.mover? = some id) (hat : e.1.lookups.get? id = some ⟨username, stage⟩)
    (ends : ∀ u, Step e.1 e.2 u →
      u.lookups.get? id = some ⟨username, .done result⟩ ∧ u.known = e.1.known) :
    t.lookups.get? id = some ⟨username, .done result⟩ ∧ Untouched log id := by
  obtain ⟨hend, hrest⟩ := ended_of_history h he own hat fun u hs => (ends u hs).1
  refine ⟨hend, ?_⟩
  intro d hd hown u hs
  rcases hrest d hd hown with rfl | ⟨-, hsame⟩
  · exact (ends u hs).2
  · exact hsame u hs

end

/-! ### All lookups -/

section

variable {σ : Type} [NameStore σ] [ExpiringNameStore σ] {known : KnownAccounts σ} {t : Readers σ}
  {log : List (Entry σ)}

/-- What those who look names up can rely on. -/
structure Remembered (log : List (Entry σ)) (t : Readers σ) : Prop where
  /-- Nothing holds up a lookup. -/
  proceeds : ∀ id username stage, t.lookups.get? id = some ⟨username, stage⟩ → ∀ now,
    match stage with
    | .reading => ∀ fault, ∃ u, Step t (now, .read id fault) u
    | .asking => ∀ result, ∃ u, Step t (now, .reply id result) u
    | .writing _ => ∀ fault, ∃ u, Step t (now, .write id fault) u
    | .done _ => True
  /-- An answer that is stored is returned, and counts as a miss. -/
  stored : ∀ e ∈ log, ∀ id username found, Writes e id username found none →
    t.lookups.get? id = some ⟨username, .done (.ok found)⟩ ∧ ∀ u, Step e.1 e.2 u →
      u.known.stats = { e.1.known.stats with misses := e.1.known.stats.misses + 1 }
  /-- Until it expires or another one is stored, it is the answer to every casing of the name. All
  that such a lookup does is to read it, which counts as a hit. -/
  remembered : ∀ before w between e after i id username other found,
    log = before ++ w :: between ++ e :: after → Writes w i username found none →
    Quiet between username → ExpiringNameStore.believes w.1.known.store w.2.1 e.2.1 = true →
    Looks e id other none → Username.key other = Username.key username →
    t.lookups.get? id =
        some ⟨other, .done (.ok (found.map fun a => { id := a.id, name := a.name }))⟩ ∧
      (∀ d ∈ log, ¬Asks d id) ∧ (∀ d ∈ log, d.2.2.mover? = some id → d = e) ∧
      ∀ u, Step e.1 e.2 u → u.known.store = e.1.known.store ∧
        u.known.stats = { e.1.known.stats with hits := e.1.known.stats.hits + 1 }
  /-- A lookup that cannot read the store ends there, and asks nobody. -/
  unread : ∀ e ∈ log, ∀ id username error, Looks e id username (some error) →
    t.lookups.get? id = some ⟨username, .done (.error (.storage error))⟩ ∧
      (∀ d ∈ log, ¬Asks d id) ∧ Untouched log id
  /-- An error of whoever is asked is returned as it is. -/
  failed : ∀ e ∈ log, ∀ id error, e.2.2 = .reply id (.error error) →
    (∃ username, t.lookups.get? id = some ⟨username, .done (.error error)⟩) ∧ Untouched log id
  /-- An answer that cannot be stored is returned all the same. -/
  unstored : ∀ e ∈ log, ∀ id username found error, Writes e id username found (some error) →
    (∃ d ∈ log, d.2.2 = .reply id (.ok found)) ∧
      t.lookups.get? id = some ⟨username, .done (.ok found)⟩ ∧ Untouched log id
  /-- It is not remembered, so that whoever looks next asks again, if nobody else has stored one. -/
  asked_again : ∀ before r between e after i id username other found error,
    log = before ++ r :: between ++ e :: after → Looks r i username none →
    (∃ w ∈ between, Writes w i username found (some error)) → Quiet between username →
    Looks e id other none → Username.key other = Username.key username → Asks e id

/-- In front of an account service that replies with accounts of the names that it is asked for,
answers are remembered by every store that keeps the contract, and failures are not. -/
theorem answers_are_remembered (h : History Step ({ known } : Readers σ) log t)
    (honest : ∀ e ∈ log, Honest e) (chronological : log.Pairwise fun d e => d.2.1 ≤ e.2.1) :
    Remembered log t where
  proceeds := by
    intro id username stage hat now
    cases stage with
    | done => trivial
    | reading | asking | writing => simp [Step, step?, hat]
  stored := by
    intro e he id username found writes
    obtain ⟨hend, -⟩ := ended_of_history h he (by rw [writes.1]; rfl) writes.2
      fun u hs => (writes.stored hs).1
    exact ⟨hend, fun u hs => (writes.stored hs).2⟩
  remembered := by
    rintro before w between e after i id username other found rfl writes quiet believed looks same
    obtain ⟨u, hbefore, hs, -⟩ := h.split
    have hfound := lookup_store_of_writes hbefore
      (fun d hd => honest d (List.mem_append_left _ hd)) writes quiet
      ((Username.key_key other).trans same) believed
    have hhit := fun u hs => looks.hit (u := u) hfound hs
    rw [account?_stored] at hhit
    obtain ⟨hend, hasks, honly⟩ := only_of_looks h (by simp) looks fun u hs => (hhit u hs).1
    exact ⟨hend, hasks, honly, fun u hs => (hhit u hs).2⟩
  unread := by
    intro e he id username error looks
    obtain ⟨hend, hasks, -⟩ := only_of_looks h he looks fun u hs => (looks.failed hs).1
    exact ⟨hend, hasks,
      (untouched_of_ended h he (by rw [looks.1]; rfl) looks.2 fun u hs => looks.failed hs).2⟩
  failed := by
    intro e he id error replies
    obtain ⟨before, after, u, -, -, hs, -⟩ := h.cut he
    obtain ⟨s, now, a⟩ := e
    obtain rfl : a = .reply id (.error error) := replies
    cases moves_of_step? hs with
    | @reply _ username _ at_ =>
      have ends : ∀ u, Step s (now, .reply id (.error error)) u →
          u.lookups.get? id = some ⟨username, .done (.error error)⟩ ∧ u.known = s.known := by
        intro u hu
        cases hs.symm.trans hu
        exact ⟨by simp [answered], rfl⟩
      obtain ⟨hend, huntouched⟩ := untouched_of_ended h he rfl at_ ends
      exact ⟨⟨username, hend⟩, huntouched⟩
  unstored := by
    intro e he id username found error writes
    obtain ⟨before, after, u, rfl, hbefore, hs, -⟩ := h.cut he
    have hbacked := backed_of_history hbefore fun d hd => honest d (List.mem_append_left _ hd)
    obtain ⟨⟨d, hd, hreply⟩, -⟩ := hbacked id username found writes.2
    refine ⟨⟨d, List.mem_append_left _ hd, hreply⟩, ?_⟩
    exact untouched_of_ended h he (by rw [writes.1]; rfl) writes.2 fun u hs => writes.unstored hs
  asked_again := by
    rintro before r between e after i id username other found error rfl looked ⟨w, hw, writes⟩ quiet
      looks same
    obtain ⟨u, hbefore, hs, -⟩ := h.split
    obtain ⟨v, hfirst, hr, hbetween⟩ := hbefore.split
    have hle : r.2.1 ≤ e.2.1 :=
      (List.pairwise_append.mp chronological).2.2 r (by simp) e List.mem_cons_self
    -- The store did not know the name, or else the answer would not have been written later.
    have gone : NameStore.lookup r.1.known.store r.2.1 (Username.key username) = none := by
      rw [Option.eq_none_iff_forall_ne_some]
      intro record hrecord
      have unmoved := (done_of_history hbetween (looked.hit hrecord hr).1).2
      exact unmoved w hw (by rw [writes.1]; rfl)
    have hhonest : ∀ d ∈ (before ++ [r]) ++ between, Honest d := by
      intro d hd
      refine honest d (List.mem_append_left _ ?_)
      simpa using hd
    have hsame := lookup_store_of_history (hfirst.next hr) hbetween hhonest quiet
      (Username.key_key username) e.2.1
    rw [(looked.missed gone hr).2,
      ExpiringNameStore.lookup_eq_none_of_le _ _ _ _ hle gone, ← same] at hsame
    exact ⟨by rw [looks.1]; rfl, u, other, hs, (looks.missed hsame hs).1⟩

/-- A store that forgets after a hundred microseconds. The first answer is the next one too, in another
casing; the second cannot be stored, so that the next lookup asks again, but in vain; one lookup cannot
read the store; and the last one comes when the first answer has expired. -/
theorem answers_are_remembered_in_memory :
    ∃ log, ∃ t : Readers MemoryStore,
      History Step ({ known := { store := .ofLifetime 100 } } : Readers MemoryStore) log t ∧
      (∀ e ∈ log, Honest e) ∧ (log.Pairwise fun d e => d.2.1 ≤ e.2.1) ∧ Remembered log t ∧
      t.known.stats = { hits := 1, misses := 1 } ∧
      t.lookups.entries.map (fun l => l.2.stage) =
        [.done (.ok (some { id := "069a79f4", name := "Notch" })),
          .done (.ok (some { id := "069a79f4", name := "Notch" })), .done (.ok none),
          .done (.error (.remote .tooManyRequests)), .done (.error (.storage ⟨"read failed"⟩)),
          .asking] := by
  have hrun : ∃ log t, History.replay (fun (s : Readers MemoryStore) a => s.step? a.1 a.2)
      ({ known := { store := .ofLifetime 100 } } : Readers MemoryStore)
      [(0, .begin 0 "notch"), (0, .read 0 none),
        (0, .reply 0 (.ok (some { id := "069a79f4", name := "Notch" }))), (0, .write 0 none),
        (10, .begin 1 "NOTCH"), (10, .read 1 none), (20, .begin 2 "jeb_"), (20, .read 2 none),
        (20, .reply 2 (.ok none)), (20, .write 2 (some ⟨"write failed"⟩)), (30, .begin 3 "Jeb_"),
        (30, .read 3 none), (30, .reply 3 (.error (.remote .tooManyRequests))),
        (40, .begin 4 "notch"), (40, .read 4 (some ⟨"read failed"⟩)), (100, .begin 5 "Notch"),
        (100, .read 5 none)] = some (log, t) ∧ (∀ e ∈ log, Honest e) ∧
      t.known.stats = { hits := 1, misses := 1 } ∧
      t.lookups.entries.map (fun l => l.2.stage) =
        [.done (.ok (some { id := "069a79f4", name := "Notch" })),
          .done (.ok (some { id := "069a79f4", name := "Notch" })), .done (.ok none),
          .done (.error (.remote .tooManyRequests)), .done (.error (.storage ⟨"read failed"⟩)),
          .asking] :=
    ⟨_, _, rfl, by decide +kernel, rfl, rfl⟩
  obtain ⟨log, t, hreplay, honest, hstats, hstages⟩ := hrun
  have h : History Step _ log t := History.of_replay _ hreplay
  have chronological := History.chronological_of_replay _ hreplay (by decide)
  exact ⟨log, t, h, honest, chronological, answers_are_remembered h honest chronological, hstats,
    hstages⟩

end

end Readers

end SkinRelay.KnownAccounts
