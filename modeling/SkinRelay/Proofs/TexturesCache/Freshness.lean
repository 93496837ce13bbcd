import SkinRelay.Proofs.Expiring
import SkinRelay.Proofs.TexturesCache.Lookups

/-!
Profiles are fresh. Whatever requests overlap, a lookup is answered with the outcome of its own
request, or with what a request for the same id had brought and what was put into the cache less than
a lifetime before the lookup looked there: `profiles_are_fresh`.
-/

namespace SkinRelay.TexturesCache.Readers

open Expiring (Last Follows)

variable {lifetime now id : Nat} {uuid : String} {stage : Stage} {found : Option Fetched}
  {result : FetchResult} {s t : Readers} {a : Action} {e : Entry} {log rest : List Entry}

/-- Whether an entry moves this lookup of this account on from this stage. -/
def Leaves (e : Entry) (id : Nat) (uuid : String) (stage : Stage) : Prop :=
  e.2.2 = .advance id ∧ e.1.lookups.get? id = some ⟨uuid, stage⟩

/-- What an entry puts into the cache, and under which account id. -/
def put? (e : Entry) : Option (String × Dated (Option Fetched)) :=
  match e.2.2 with
  | .advance id =>
    match e.1.lookups.get? id with
    | some { uuid, stage := .storing found } => some (uuid, ⟨found, e.2.1⟩)
    | _ => none
  | _ => none

theorem put?_of_leaves (h : Leaves e id uuid (.storing found)) :
    put? e = some (uuid, ⟨found, e.2.1⟩) := by
  simp [put?, h.1, h.2]

theorem leaves_of_put? {entry : Dated (Option Fetched)} (h : put? e = some (uuid, entry)) :
    entry.since = e.2.1 ∧ ∃ id, Leaves e id uuid (.storing entry.value) := by
  unfold put? at h
  split at h
  · rename_i id hadvance
    split at h
    · rename_i hat
      cases h
      exact ⟨rfl, id, hadvance, hat⟩
    · cases h
  · cases h

theorem put?_eq_none (h : Leaves e id uuid stage) (other : stage.rank ≠ 3) : put? e = none := by
  rw [Option.eq_none_iff_forall_ne_some]
  rintro ⟨uuid', entry⟩ hput
  obtain ⟨-, id', hadvance, hat⟩ := leaves_of_put? hput
  cases h.1.symm.trans hadvance
  cases h.2.symm.trans hat
  exact other rfl

/-! ### Where an answer comes from -/

/-- `Brought log id uuid result`: this is what came of the request of this lookup of this account. -/
def Brought (log : List Entry) (id : Nat) (uuid : String) (result : FetchResult) : Prop :=
  ∃ e ∈ log, ∃ request reply, e.2.2 = .reply id reply ∧
    e.1.lookups.get? id = some ⟨uuid, .fetching request⟩ ∧
    FetchResult.ofReply request reply = result

/-- `Hit lifetime log id uuid found`: when this lookup looked into the cache, this was the last value
put in for this account, and that less than the lifetime before. -/
def Hit (lifetime : Nat) (log : List Entry) (id : Nat) (uuid : String) (found : Option Fetched) :
    Prop :=
  ∃ before e after since, log = before ++ e :: after ∧ Leaves e id uuid .looking ∧
    Last put? before uuid ⟨found, since⟩ ∧ e.2.1 < since + lifetime

/-- What is known of a lookup at a stage. -/
def Backed (lifetime : Nat) (log : List Entry) (id : Nat) (uuid : String) : Stage → Prop
  | .looking | .missed | .fetching _ => True
  | .storing found | .stored found => Brought log id uuid (.ok found)
  | .done (.ok found) => Brought log id uuid (.ok found) ∨ Hit lifetime log id uuid found
  | .done (.error error) => Brought log id uuid (.error error)

theorem Brought.append (h : Brought log id uuid result) (rest : List Entry) :
    Brought (log ++ rest) id uuid result := by
  obtain ⟨e, he, h⟩ := h
  exact ⟨e, List.mem_append_left rest he, h⟩

theorem Hit.append (h : Hit lifetime log id uuid found) (rest : List Entry) :
    Hit lifetime (log ++ rest) id uuid found := by
  obtain ⟨before, e, after, since, rfl, h⟩ := h
  exact ⟨before, e, after ++ rest, since, by simp, h⟩

theorem Backed.append (h : Backed lifetime log id uuid stage) (rest : List Entry) :
    Backed lifetime (log ++ rest) id uuid stage := by
  cases stage with
  | looking | missed | fetching => trivial
  | storing | stored => exact Brought.append h rest
  | done result =>
    cases result with
    | error => exact Brought.append h rest
    | ok => exact Or.imp (·.append rest) (·.append rest) h

/-! ### What the cache holds -/

/-- A step puts something into the cache, or else what can be found there stays the same. -/
theorem Moves.entries (h : Moves now s a t) :
    (∃ uuid found, put? (s, (now, a)) = some (uuid, ⟨found, now⟩) ∧
      t.cache.entries = s.cache.entries.insert now uuid found) ∨
    put? (s, (now, a)) = none ∧
      (t.cache.entries = s.cache.entries ∨ t.cache.entries = s.cache.entries.sweep now) := by
  cases h with
  | @advance id uuid _ _ _ at_ advances =>
    have silent {stage : Stage} (at_ : s.lookups.get? id = some ⟨uuid, stage⟩) :
      stage.rank ≠ 3 → put? (s, (now, .advance id)) = none := put?_eq_none ⟨rfl, at_⟩
    cases advances with
    | @store found => exact .inl ⟨uuid, found, put?_of_leaves ⟨rfl, at_⟩, rfl⟩
    | hit | miss | request | sweep => exact .inr ⟨silent at_ (by simp [Stage.rank]), .inl rfl⟩
  | begin | reply | stopSweeper => exact .inr ⟨rfl, .inl rfl⟩
  | sweep => exact .inr ⟨rfl, .inr rfl⟩

theorem Moves.follows (h : Moves now s a t)
    (hs : Follows put? (fun e => e.2.1) log s.cache.entries) :
    Follows put? (fun e => e.2.1) (log ++ [(s, (now, a))]) t.cache.entries := by
  rcases h.entries with ⟨uuid, found, puts, hentries⟩ | ⟨silent, hentries | hentries⟩
  · rw [hentries]
    exact hs.insert puts
  · rw [hentries]
    exact hs.keep silent
  · rw [hentries]
    exact hs.sweep silent

theorem Moves.lifetime_eq (h : Moves now s a t) :
    t.cache.entries.lifetime = s.cache.entries.lifetime := by
  rcases h.entries with ⟨uuid, found, -, hentries⟩ | ⟨-, hentries | hentries⟩ <;> rw [hentries] <;> rfl

theorem backed_reply {request : Nat} (reply : Except RemoteError (Option Profile))
    (hat : s.lookups.get? id = some ⟨uuid, .fetching request⟩) :
    Backed lifetime (log ++ [(s, (now, .reply id reply))]) id uuid
      (fetched (.ofReply request reply)) := by
  have hbrought : Brought (log ++ [(s, (now, .reply id reply))]) id uuid
      (.ofReply request reply) :=
    ⟨_, List.mem_append_right _ (List.mem_singleton_self _), request, reply, rfl, hat, rfl⟩
  cases hresult : FetchResult.ofReply request reply with
  | error | ok =>
    rw [hresult] at hbrought
    exact hbrought

/-- What is known after a log: the cache holds what was put in, and every lookup has reason to be
where it is. -/
structure Sound (lifetime : Nat) (log : List Entry) (s : Readers) : Prop where
  lifetime_eq : s.cache.entries.lifetime = lifetime
  follows : Follows put? (fun e => e.2.1) log s.cache.entries
  backed : ∀ id l, s.lookups.get? id = some l → Backed lifetime log id l.uuid l.stage

theorem sound_ofLifetime (lifetime : Nat) : Sound lifetime [] (ofLifetime lifetime) where
  lifetime_eq := rfl
  follows := Expiring.follows_nil lifetime
  backed id l h := by cases h

namespace Sound

/-- A look into the cache finds what was put in last, as long as it is alive. -/
theorem found_iff (hs : Sound lifetime log s) (huntil : History.Until log now) :
    s.cache.entries.get? now uuid = some found ↔
      ∃ since, Last put? log uuid ⟨found, since⟩ ∧ now < since + lifetime := by
  rw [← hs.lifetime_eq]
  exact hs.follows.finds now huntil uuid found

theorem advance {next : Stage} {cache : TexturesCache} (hs : Sound lifetime log s)
    (huntil : History.Until log now) (hat : s.lookups.get? id = some ⟨uuid, stage⟩)
    (advances : Advances s.cache now uuid stage next cache) :
    Backed lifetime (log ++ [(s, (now, .advance id))]) id uuid next := by
  cases advances with
  | hit alive =>
    obtain ⟨since, hlast, hnow⟩ := (hs.found_iff huntil).mp alive
    exact .inr ⟨log, _, [], since, rfl, ⟨rfl, hat⟩, hlast, hnow⟩
  | miss | request => trivial
  | store => exact (hs.backed id _ hat).append _
  | sweep => exact .inl ((hs.backed id _ hat).append _)

theorem move (hs : Sound lifetime log s) (huntil : History.Until log now) (h : Moves now s a t) :
    Sound lifetime (log ++ [(s, (now, a))]) t where
  lifetime_eq := h.lifetime_eq.trans hs.lifetime_eq
  follows := h.follows hs.follows
  backed := by
    have others : ∀ {i l}, s.lookups.get? i = some l →
        Backed lifetime (log ++ [(s, (now, a))]) i l.uuid l.stage :=
      fun hl => (hs.backed _ _ hl).append _
    have moved : ∀ {r : Readers} {i : Nat} (l' : Lookup), r.lookups = s.lookups →
        Backed lifetime (log ++ [(s, (now, a))]) i l'.uuid l'.stage →
        ∀ j l, (r.setLookup i l').lookups.get? j = some l →
          Backed lifetime (log ++ [(s, (now, a))]) j l.uuid l.stage := by
      intro r i l' hr hl' j l hl
      by_cases hj : j = i
      · subst hj
        rw [get?_setLookup_self] at hl
        cases hl
        exact hl'
      · rw [get?_setLookup_of_ne l' hj, hr] at hl
        exact others hl
    cases h with
    | begin => exact moved _ rfl trivial
    | advance at_ advances => exact moved ⟨_, _⟩ rfl (hs.advance huntil at_ advances)
    | reply at_ => exact moved ⟨_, _⟩ rfl (backed_reply _ at_)
    | sweep | stopSweeper => exact fun _ _ => others

end Sound

theorem sound_of_history (h : History Step (ofLifetime lifetime) log s)
    (chronological : log.Pairwise fun d e => d.2.1 ≤ e.2.1) : Sound lifetime log s := by
  induction h with
  | start => exact sound_ofLifetime lifetime
  | next _ hs ih =>
    obtain ⟨hlog, huntil⟩ := History.chronological_concat.mp chronological
    exact (ih hlog).move huntil (moves_of_step? hs)

/-- The part of a chronological run up to an entry. -/
theorem sound_before {before after : List Entry}
    (h : History Step (ofLifetime lifetime) (before ++ e :: after) s)
    (chronological : (before ++ e :: after).Pairwise fun d e => d.2.1 ≤ e.2.1) :
    Sound lifetime before e.1 ∧ History.Until before e.2.1 := by
  obtain ⟨u, hbefore, -, -⟩ := h.split
  obtain ⟨hpairwise, -, hle⟩ := List.pairwise_append.mp chronological
  exact ⟨sound_of_history hbefore hpairwise, fun d hd => hle d hd e List.mem_cons_self⟩

/-! ### Single steps -/

section

variable {u : Readers}

theorem hit_of_step (hlook : Leaves e id uuid .looking)
    (alive : e.1.cache.entries.get? e.2.1 uuid = some found) (hs : Step e.1 e.2 u) :
    u.lookups.get? id = some ⟨uuid, .done (.ok found)⟩ := by
  obtain ⟨s, now, a⟩ := e
  obtain ⟨rfl, hat⟩ := hlook
  cases moves_of_step? hs with
  | advance at_ advances =>
    cases hat.symm.trans at_
    cases advances with
    | hit alive' =>
      cases alive.symm.trans alive'
      exact get?_setLookup_self _
    | miss gone => cases gone.symm.trans alive

theorem miss_of_step (hlook : Leaves e id uuid .looking)
    (gone : e.1.cache.entries.get? e.2.1 uuid = none) (hs : Step e.1 e.2 u) :
    u.lookups.get? id = some ⟨uuid, .missed⟩ := by
  obtain ⟨s, now, a⟩ := e
  obtain ⟨rfl, hat⟩ := hlook
  cases moves_of_step? hs with
  | advance at_ advances =>
    cases hat.symm.trans at_
    cases advances with
    | hit alive => cases gone.symm.trans alive
    | miss => exact get?_setLookup_self _

theorem reply_of_step {request : Nat} {reply : Except RemoteError (Option Profile)}
    (hreply : e.2.2 = .reply id reply) (hat : e.1.lookups.get? id = some ⟨uuid, .fetching request⟩)
    (hs : Step e.1 e.2 u) :
    u.lookups.get? id = some ⟨uuid, fetched (.ofReply request reply)⟩ := by
  obtain ⟨s, now, a⟩ := e
  obtain rfl : a = .reply id reply := hreply
  cases moves_of_step? hs with
  | reply at_ =>
    cases hat.symm.trans at_
    exact get?_setLookup_self _

/-- A step that puts nothing into the cache changes nothing that can be found. -/
theorem Moves.get?_entries (h : Moves now s a t) (unique : s.cache.entries.entries.keys.Nodup)
    (silent : put? (s, (now, a)) = none) {later : Nat} (hle : now ≤ later) (uuid : String) :
    t.cache.entries.get? later uuid = s.cache.entries.get? later uuid := by
  rcases h.entries with ⟨uuid', found, puts, -⟩ | ⟨-, hentries | hentries⟩
  · rw [puts] at silent
    cases silent
  · rw [hentries]
  · rw [hentries, Expiring.get?_sweep unique hle]

/-- Only a lookup that found nothing in the cache sends a request. -/
theorem Moves.requests (h : Moves now s a t) (sent : t.cache.requests ≠ s.cache.requests) :
    ∃ id uuid, Leaves (s, (now, a)) id uuid .missed := by
  cases h with
  | @advance id uuid _ _ _ at_ advances =>
    cases advances with
    | request => exact ⟨id, uuid, rfl, at_⟩
    | hit | miss | store | sweep => exact absurd rfl sent
  | begin | reply | sweep | stopSweeper => exact absurd rfl sent

end

/-! ### All lookups -/

/-- What is true of every lookup in a cache of this lifetime. -/
structure Fresh (lifetime : Nat) (log : List Entry) (s : Readers) : Prop where
  answers : ∀ id uuid found, s.lookups.get? id = some ⟨uuid, .done (.ok found)⟩ →
    Brought log id uuid (.ok found) ∨ Hit lifetime log id uuid found
  /-- An error is that of the own request. -/
  errors : ∀ id uuid error, s.lookups.get? id = some ⟨uuid, .done (.error error)⟩ →
    Brought log id uuid (.error error)
  /-- What is put into the cache is what the own request has brought for the account. -/
  puts : ∀ before e after uuid entry, log = before ++ e :: after → put? e = some (uuid, entry) →
    entry.since = e.2.1 ∧ ∃ id, e.2.2 = .advance id ∧ Brought before id uuid (.ok entry.value)
  /-- A hit is the answer, also if it is that there is no profile, and no request is sent. -/
  hits : ∀ id uuid found, Hit lifetime log id uuid found →
    s.lookups.get? id = some ⟨uuid, .done (.ok found)⟩ ∧
      ∀ e ∈ log, ∀ uuid', ¬Leaves e id uuid' .missed
  misses : ∀ before e after id uuid u, log = before ++ e :: after → Leaves e id uuid .looking →
    (∀ found since, Last put? before uuid ⟨found, since⟩ → since + lifetime ≤ e.2.1) →
    Step e.1 e.2 u → u.lookups.get? id = some ⟨uuid, .missed⟩
  /-- A lookup whose request has failed is answered with the error and puts nothing in. -/
  failures : ∀ id uuid error, Brought log id uuid (.error error) →
    s.lookups.get? id = some ⟨uuid, .done (.error error)⟩ ∧
      ∀ e ∈ log, e.2.2 = .advance id → put? e = none
  /-- What can be found, then or later, is changed only by what is put in. -/
  kept : ∀ e ∈ log, ∀ u, Step e.1 e.2 u → put? e = none → ∀ later, e.2.1 ≤ later →
    ∀ uuid, u.cache.entries.get? later uuid = e.1.cache.entries.get? later uuid
  requests : ∀ e ∈ log, ∀ u, Step e.1 e.2 u → u.cache.requests ≠ e.1.cache.requests →
    ∃ id uuid, Leaves e id uuid .missed

/-- Whatever lookups and requests overlap, everyone is answered with what the own request has
brought, or with what another one for the same account has brought less than a lifetime before. -/
theorem profiles_are_fresh (h : History Step (ofLifetime lifetime) log s)
    (chronological : log.Pairwise fun d e => d.2.1 ≤ e.2.1) : Fresh lifetime log s where
  answers id uuid found hat := (sound_of_history h chronological).backed id _ hat
  errors id uuid error hat := (sound_of_history h chronological).backed id _ hat
  puts := by
    rintro before e after uuid entry rfl hput
    obtain ⟨hsince, id, hadvance, hat⟩ := leaves_of_put? hput
    exact ⟨hsince, id, hadvance, (sound_before h chronological).1.backed id _ hat⟩
  hits := by
    rintro id uuid found ⟨before, e, after, since, rfl, hlook, hlast, hnow⟩
    obtain ⟨hsound, huntil⟩ := sound_before h chronological
    have alive := (hsound.found_iff huntil).mpr ⟨since, hlast, hnow⟩
    obtain ⟨hend, hrank⟩ := finished_of_history h (by simp) (by rw [hlook.1]; rfl) hlook.2
      fun u => hit_of_step hlook alive
    refine ⟨hend, ?_⟩
    rintro d hd uuid' ⟨hadvance, hat⟩
    have hle := hrank d hd (by rw [hadvance]; rfl) _ hat
    simp [Stage.rank] at hle
  misses := by
    rintro before e after id uuid u rfl hlook old hs
    obtain ⟨hsound, huntil⟩ := sound_before h chronological
    have gone : e.1.cache.entries.get? e.2.1 uuid = none := by
      rw [Option.eq_none_iff_forall_ne_some]
      intro found alive
      obtain ⟨since, hlast, hnow⟩ := (hsound.found_iff huntil).mp alive
      have hold := old found since hlast
      omega
    exact miss_of_step hlook gone hs
  failures := by
    rintro id uuid error ⟨e, he, request, reply, hreply, hat, hresult⟩
    have hdone : ∀ u, Step e.1 e.2 u →
        u.lookups.get? id = some ⟨uuid, .done (.error error)⟩ := by
      intro u hs
      rw [reply_of_step hreply hat hs, hresult]
      rfl
    obtain ⟨hend, hrank⟩ := finished_of_history h he (by rw [hreply]; rfl) hat hdone
    refine ⟨hend, ?_⟩
    intro d hd hadvance
    rw [Option.eq_none_iff_forall_ne_some]
    rintro ⟨uuid', entry⟩ hput
    obtain ⟨-, id', hadvance', hat'⟩ := leaves_of_put? hput
    cases hadvance.symm.trans hadvance'
    have hle := hrank d hd (by rw [hadvance]; rfl) _ hat'
    simp [Stage.rank] at hle
  kept := by
    intro e he u hs silent later hle uuid
    obtain ⟨before, after, -, rfl, -⟩ := h.cut he
    have unique := (sound_before h chronological).1.follows.unique
    exact (moves_of_step? hs).get?_entries unique silent hle uuid
  requests := by
    intro e _ u hs sent
    exact (moves_of_step? hs).requests sent

/-- Two requests for one account overlap, and the one sent first is answered last: there is no profile
any more. That is what the others find, up to the end of the lifetime, and then the request of the
last one fails. -/
theorem profiles_are_fresh_while_requests_overlap :
    ∃ log s, History Step (ofLifetime 100) log s ∧
      (log.Pairwise fun d e => d.2.1 ≤ e.2.1) ∧ Fresh 100 log s ∧
      s.lookups.entries.map (fun l => l.2.stage) =
        [.done (.ok none), .done (.ok (some ⟨1, ⟨"ely", "Ely", []⟩⟩)),
          .done (.ok (some ⟨1, ⟨"ely", "Ely", []⟩⟩)), .done (.ok none),
          .done (.error (.remote .tooManyRequests))] := by
  have hrun : ∃ log s, History.replay (fun (s : Readers) a => s.step? a.1 a.2) (ofLifetime 100)
      [(0, .begin 0 "ely"), (0, .advance 0), (0, .advance 0), (1, .begin 1 "ely"), (1, .advance 1),
        (1, .advance 1), (5, .reply 1 (.ok (some ⟨"ely", "Ely", []⟩))), (5, .advance 1),
        (5, .advance 1), (10, .begin 2 "ely"), (10, .advance 2), (20, .reply 0 (.ok none)),
        (20, .advance 0), (20, .advance 0), (100, .sweep), (119, .begin 3 "ely"), (119, .advance 3),
        (120, .stopSweeper), (120, .begin 4 "ely"), (120, .advance 4), (120, .advance 4),
        (130, .reply 4 (.error .tooManyRequests))] = some (log, s) ∧
      s.lookups.entries.map (fun l => l.2.stage) =
        [.done (.ok none), .done (.ok (some ⟨1, ⟨"ely", "Ely", []⟩⟩)),
          .done (.ok (some ⟨1, ⟨"ely", "Ely", []⟩⟩)), .done (.ok none),
          .done (.error (.remote .tooManyRequests))] :=
    ⟨_, _, rfl, rfl⟩
  obtain ⟨log, s, hreplay, hstages⟩ := hrun
  have h : History Step (ofLifetime 100) log s := History.of_replay _ hreplay
  have chronological := History.chronological_of_replay _ hreplay (by decide)
  exact ⟨log, s, h, chronological, profiles_are_fresh h chronological, hstages⟩

end SkinRelay.TexturesCache.Readers
