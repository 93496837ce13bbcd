import SkinRelay.Proofs.Batch.Pending
import SkinRelay.Proofs.Pipeline.Parts
import SkinRelay.Store.Memory

/-!
Who waits for the jobs of the queue. Every job is that of a run, which asks about its own key as
long as the job is pending, whatever becomes of the callers of the run. As no two runs of one key go
on at the same time, no name is pending twice (`pending_names_are_distinct`).
-/

namespace SkinRelay.Pipeline

/-- Whether a work is about the name that its run has as key, in lower case. -/
def Work.IsAbout (key : String) : Work → Prop
  | .naming username _ => username = key ∧ Username.key key = key
  | .dressing .. => True

section

variable {σ : Type} {now : Nat} {p q : Pipeline σ} {a : Action}

/-- Whether every run is about its own key, and every call of the queue that of a run, which asks
as long as its call has not returned. -/
structure Attended (p : Pipeline σ) : Prop where
  own : Flight.Keeps Work.IsAbout (fun _ _ => True) p.resolver.group
  caller : ∀ run call, p.batch.calls.get? run = some call →
    call.token = none ∧ call.phase ≠ .gone ∧
    ∃ phase, p.resolver.group.runs.get? run = some ⟨call.username, phase⟩ ∧
      (call.hasLeft = false → phase = .working (.naming call.username .asking))

/-- What a run does as a caller of the queue leaves its call without a token, and not dropped. -/
theorem calls_of_asks {run : Nat} {username : String} {action : Batch.Action} {b : Batch}
    (asks : p.asks? run username = some action) (h : Batch.Moves now p.batch action b) :
    ∃ phase, phase ≠ .gone ∧
      b.calls = p.batch.calls.insert run
        { (p.batch.calls.get? run).getD { username } with phase } := by
  unfold asks? at asks
  cases hc : p.batch.calls.get? run with
  | none =>
    rw [hc] at asks
    cases asks
    obtain ⟨phase, hphase, hcalls⟩ := p.batch.enter_calls now run username none
    cases h with
    | enter =>
      refine ⟨phase, ?_, hcalls⟩
      rcases hphase with rfl | rfl <;> simp
  | some call =>
    simp only [hc] at asks
    split at asks <;> cases asks
    · cases h with
      | @push _ call' hc' =>
        obtain rfl : call = call' := Option.some.inj (hc.symm.trans hc')
        obtain ⟨phase, hphase, hcalls⟩ := p.batch.push_calls run call
        refine ⟨phase, ?_, hcalls⟩
        rcases hphase with rfl | rfl | ⟨rfl, -⟩ <;> simp
    · cases h with
      | @signal _ call' hc' =>
        obtain rfl : call = call' := Option.some.inj (hc.symm.trans hc')
        refine ⟨.waiting, by simp, ?_⟩
        rw [Batch.setCall_calls, (Batch.notify_frame p.batch).2.2.2.1]
        rfl
    · cases h with
      | @collect _ call' result hc' =>
        obtain rfl : call = call' := Option.some.inj (hc.symm.trans hc')
        exact ⟨.returned result, by simp, rfl⟩

/-- The queue by itself leaves the calls alone. -/
theorem calls_of_isOfQueue {action : Batch.Action} {b c : Batch} (own : isOfQueue action = true)
    (h : Batch.Moves now b action c) : c.calls = b.calls := by
  cases h with
  | enter | push | signal | collect | cancel | drop => cases own
  | start hs => exact (Batch.start_frame hs).2.2.2.1
  | drain => exact (b.drainQueue_frame _).1
  | _ => rfl

namespace Attended

theorem ofStore (store : σ) (settings : BatchSettings) : Attended (ofStore store settings) where
  own := Flight.keeps_empty
  caller run call hc := by cases hc

/-- What a run does as a caller of the queue is about its own name. -/
theorem caller_ask (hp : Attended p) {run : Nat} {username : String} {action : Batch.Action}
    {batch : Batch} (at_ : p.resolver.group.work? run = some (.naming username .asking))
    (asks : p.asks? run username = some action) (stepped : p.batch.step? now action = some batch)
    (id : Nat) (call : Batch.Call) (hc : batch.calls.get? id = some call) :
    call.token = none ∧ call.phase ≠ .gone ∧
    ∃ phase, p.resolver.group.runs.get? id = some ⟨call.username, phase⟩ ∧
      (call.hasLeft = false → phase = .working (.naming call.username .asking)) := by
  obtain ⟨phase, hne, hcalls⟩ := calls_of_asks asks (Batch.moves_of_step? stepped)
  obtain ⟨key, hr⟩ := Flight.work?_eq_some.mp at_
  obtain ⟨rfl, -⟩ : username = key ∧ Username.key key = key := hp.own run key _ hr
  rw [hcalls, Table.get?_insert] at hc
  by_cases hid : id = run
  · subst hid
    obtain rfl := Option.some.inj ((if_pos rfl).symm.trans hc)
    cases hold : p.batch.calls.get? id with
    | none => exact ⟨rfl, hne, _, hr, fun _ => rfl⟩
    | some old =>
      obtain ⟨htoken, -, phase', hr', -⟩ := hp.caller id old hold
      obtain rfl : username = old.username := by
        cases hr.symm.trans hr'
        rfl
      exact ⟨htoken, hne, _, hr, fun _ => rfl⟩
  · rw [if_neg hid] at hc
    exact hp.caller id call hc

variable [NameStore σ]

/-- A step of the group keeps every run that asks, as long as its call has not returned. -/
theorem caller_move (hp : Attended p) (coherent : Flight.Coherent p.resolver.group)
    (h : Moves now p a q) {run : Nat} {call : Batch.Call}
    (hc : p.batch.calls.get? run = some call) :
    ∃ phase, q.resolver.group.runs.get? run = some ⟨call.username, phase⟩ ∧
      (call.hasLeft = false → phase = .working (.naming call.username .asking)) := by
  obtain ⟨-, -, phase, hr, hasking⟩ := hp.caller run call hc
  obtain ⟨next, hnext⟩ := h.run coherent hr
  refine ⟨next, hnext, fun hleft => ?_⟩
  rw [hasking hleft] at hr
  rcases h.passes coherent hnext with hsame | ⟨hnone, -⟩ | ⟨old, _, _, hold, hpasses, -⟩
  · cases hsame.symm.trans hr
    rfl
  · rw [hr] at hnone
    cases hnone
  · cases hold.symm.trans hr
    cases hpasses with
    | proceed hproceeds =>
      cases hproceeds with
      | answered hc' returned =>
        obtain rfl := Option.some.inj (hc.symm.trans hc')
        simp [Batch.Call.hasLeft, returned] at hleft
    | finish ends => cases ends

theorem own_move (hp : Attended p) (h : Moves now p a q) :
    Flight.Keeps Work.IsAbout (fun _ _ => True) q.resolver.group := by
  cases h with
  | @call id username new _ =>
    have hstep := Flight.step_call new (Username.key username)
      (Work.begin (Username.key username))
    exact hp.own.step hstep ⟨rfl, Username.key_key username⟩
  | @turn a action _ own stepped =>
    refine hp.own.step (Resolver.group_of_step? stepped) ?_
    cases a <;> cases own <;> trivial
  | @proceed _ run work next known textures _ hat hproceeds stepped =>
    refine hp.own.step (Resolver.group_of_step? stepped) ?_
    intro key phase hr
    obtain ⟨key', hr'⟩ := Flight.work?_eq_some.mp hat
    cases hr.symm.trans hr'
    have hwork : work.IsAbout key := hp.own run key _ hr
    cases hproceeds with
    | read | answered | write => exact hwork
    | dress | cache | fetched => trivial
  | finish _ _ stepped => exact hp.own.step (Resolver.group_of_step? stepped) fun _ _ _ => trivial
  | _ => exact hp.own

theorem move (hp : Attended p) (coherent : Flight.Coherent p.resolver.group)
    (h : Moves now p a q) : Attended q where
  own := hp.own_move h
  caller := by
    have frame : q.batch = p.batch → ∀ run call, q.batch.calls.get? run = some call →
        call.token = none ∧ call.phase ≠ .gone ∧
        ∃ phase, q.resolver.group.runs.get? run = some ⟨call.username, phase⟩ ∧
          (call.hasLeft = false → phase = .working (.naming call.username .asking)) := by
      intro hsame run call hc
      rw [hsame] at hc
      obtain ⟨htoken, hgone, -⟩ := hp.caller run call hc
      exact ⟨htoken, hgone, hp.caller_move coherent h hc⟩
    cases h with
    | ask hat hasks stepped => exact hp.caller_ask hat hasks stepped
    | queue own stepped =>
      intro run call hc
      rw [calls_of_isOfQueue own (Batch.moves_of_step? stepped)] at hc
      exact hp.caller run call hc
    | _ => exact frame rfl

end Attended

end

section

variable {σ : Type} [NameStore σ] {store : σ} {settings : BatchSettings} {log : List (Entry σ)}
  {p : Pipeline σ}

/-- What holds of the jobs without an answer in a run of the service. -/
structure Distinct (log : List (Entry σ)) (p : Pipeline σ) : Prop where
  /-- No name is in the queue or in batches without an answer twice, and each is its own key. -/
  names : (p.batch.pending.map Batch.Job.username).Nodup
  own_key : ∀ job ∈ p.batch.pending, Username.key job.username = job.username
  /-- No request holds two names that differ only in casing. -/
  requests : ∀ e ∈ log, ∀ n round, e.2.2 = .batch (.send n) → e.1.batch.rounds.get? n = some round →
    (round.jobs.map fun job => Username.key job.username).Nodup
  /-- The run that has queued a job waits for it. -/
  waiter : ∀ job ∈ p.batch.pending, p.batch.isGone job = false ∧
    p.resolver.group.work? job.id = some (.naming job.username .asking)
  /-- Callers that are dropped take neither jobs nor runs with them. -/
  outlives : ∀ now id q, Step p (now, .drop id) q →
    q.batch = p.batch ∧ q.resolver.group.runs = p.resolver.group.runs
  /-- No drain throws anything away. -/
  drains : (∀ e ∈ log, e.2.2 = .batch .drain → e.1.batch.discards = []) ∧
    ∀ run, Batch.Place.discarded ∉ p.batch.places run

theorem coherent_of_history (h : History Step (ofStore store settings) log p) :
    Flight.Coherent p.resolver.group := by
  obtain ⟨groupLog, hgroup, -⟩ := group_of_history h
  exact Flight.coherent_of_history hgroup

theorem orderly_of_history (h : History Step (ofStore store settings) log p) :
    Batch.Orderly p.batch := by
  obtain ⟨queueLog, hqueue, -⟩ := queueLog_of_history h
  exact Batch.orderly_of_history hqueue

theorem attended_of_history (h : History Step (ofStore store settings) log p) : Attended p := by
  induction h with
  | start => exact .ofStore store settings
  | next h hs ih => exact ih.move (coherent_of_history h) (moves_of_step? hs)

/-- A run whose task is about to be started has done nothing yet. -/
theorem begin_of_entered (h : History Step (ofStore store settings) log p) {run : Nat}
    {key : String} {work : Work} (hr : p.resolver.group.runs.get? run = some ⟨key, .entered work⟩) :
    work = .begin key := by
  induction h with
  | start => cases hr
  | @next log t u a h hs ih =>
    obtain ⟨now, action⟩ := a
    rcases (moves_of_step? hs).passes (coherent_of_history h) hr with
      hsame | ⟨-, hbegin, -⟩ | ⟨_, _, _, -, passes, -⟩
    · exact ih hsame
    · exact Flight.Phase.entered.inj hbegin
    · cases passes

/-- A pending job is that of a run that asks about its own key. -/
theorem waiter_of_pending (h : History Step (ofStore store settings) log p) {job : Batch.Job}
    (hj : job ∈ p.batch.pending) :
    ∃ call, p.batch.calls.get? job.id = some call ∧ call.hasLeft = false ∧
      p.resolver.group.runs.get? job.id =
        some ⟨job.username, .working (.naming job.username .asking)⟩ := by
  have hb := orderly_of_history h
  obtain ⟨call, hc, hname⟩ := hb.named job (Batch.holds_of_pending hj)
  obtain ⟨htoken, hgone, phase, hr, hasking⟩ := (attended_of_history h).caller job.id call hc
  have hleft := hb.waits_of_pending hj hc (by simp [htoken]) hgone
  rw [hasking hleft, hname] at hr
  exact ⟨call, hc, hleft, hr⟩

theorem isGone_of_pending (h : History Step (ofStore store settings) log p) {job : Batch.Job}
    (hj : job ∈ p.batch.pending) : p.batch.isGone job = false := by
  obtain ⟨call, hc, hleft, -⟩ := waiter_of_pending h hj
  rw [← Bool.not_eq_true, Batch.isGone_iff]
  rintro ⟨call', hc', hleft'⟩
  obtain rfl : call = call' := Option.some.inj (hc.symm.trans hc')
  rw [hleft] at hleft'
  cases hleft'

theorem key_of_pending (h : History Step (ofStore store settings) log p) {job : Batch.Job}
    (hj : job ∈ p.batch.pending) : Username.key job.username = job.username := by
  obtain ⟨-, -, -, hr⟩ := waiter_of_pending h hj
  exact ((attended_of_history h).own _ _ _ hr).2

/-- Two pending jobs for one name are those of one run. -/
theorem names_nodup (h : History Step (ofStore store settings) log p) :
    (p.batch.pending.map Batch.Job.username).Nodup := by
  have hids := (orderly_of_history h).nodup_pending
  refine List.Nodup.map_on ?_ hids.of_map
  intro job hj other hother hname
  obtain ⟨-, -, -, hr⟩ := waiter_of_pending h hj
  obtain ⟨-, -, -, hr'⟩ := waiter_of_pending h hother
  rw [← hname] at hr'
  have hid := (coherent_of_history h).holder_unique hr rfl hr' rfl
  obtain ⟨id, username⟩ := job
  obtain ⟨id', username'⟩ := other
  obtain rfl : id = id' := hid
  obtain rfl : username = username' := hname
  rfl

theorem discards_eq_nil (h : History Step (ofStore store settings) log p) :
    p.batch.discards = [] := by
  rw [List.eq_nil_iff_forall_not_mem]
  intro job hj
  obtain ⟨hq, hg⟩ := Batch.mem_discards hj
  have hpending : job ∈ p.batch.pending := List.mem_append_left _ (List.mem_append_left _ hq)
  rw [isGone_of_pending h hpending] at hg
  cases hg

/-- The jobs of a request are pending when it is sent. -/
theorem pending_of_send {now n : Nat} {q : Pipeline σ} (hs : Step p (now, .batch (.send n)) q)
    {round : Batch.Round} (hat : p.batch.rounds.get? n = some round) :
    round.jobs.Sublist p.batch.pending := by
  obtain ⟨batch, hmove, -⟩ := (moves_of_step? hs).ofBatch
  cases hmove with
  | @send _ round' hat' ready =>
    obtain rfl : round = round' := Option.some.inj (hat.symm.trans hat')
    exact Batch.round_sublist_pending hat (by simp [ready])

theorem request_nodup (h : History Step (ofStore store settings) log p) {now n : Nat}
    {q : Pipeline σ} (hs : Step p (now, .batch (.send n)) q) {round : Batch.Round}
    (hat : p.batch.rounds.get? n = some round) :
    (round.jobs.map fun job => Username.key job.username).Nodup := by
  have hsub := pending_of_send hs hat
  have hkeys : (round.jobs.map fun job => Username.key job.username) =
      round.jobs.map Batch.Job.username := by
    apply List.map_congr_left
    intro job hj
    exact key_of_pending h (hsub.subset hj)
  rw [hkeys]
  exact (names_nodup h).sublist (hsub.map _)

/-- No job of the queue is ever thrown away. -/
theorem discarded_not_mem_places (h : History Step (ofStore store settings) log p) (run : Nat) :
    Batch.Place.discarded ∉ p.batch.places run := by
  intro hplace
  obtain ⟨queueLog, hqueue, hfrom, -⟩ := queueLog_of_history h
  obtain ⟨⟨b, now, action⟩, he', hd⟩ :=
    Batch.decided_of_history hqueue (Batch.discarded_mem_places.mp hplace)
  obtain ⟨e, he, rfl, -⟩ := hfrom _ he'
  obtain ⟨before, after, u, -, hbefore, -, -⟩ := h.cut he
  cases hd with
  | discard hj =>
    rw [discards_eq_nil hbefore] at hj
    cases hj

/-- A caller that is dropped takes neither jobs nor runs with it. -/
theorem drop_frame {now id : Nat} {q : Pipeline σ} (h : Step p (now, .drop id) q) :
    q.batch = p.batch ∧ q.resolver.group.runs = p.resolver.group.runs := by
  cases moves_of_step? h with
  | turn own stepped =>
    cases own
    exact ⟨rfl, (Flight.drop_frame (Resolver.group_of_step? stepped)).2.1⟩
  | proceed _ hproceeds => cases hproceeds

/-- No two names that are pending differ only in casing. -/
theorem pending_names_are_distinct (h : History Step (ofStore store settings) log p) :
    Distinct log p where
  names := names_nodup h
  own_key job hj := key_of_pending h hj
  requests e he n round ha hat := by
    obtain ⟨before, after, u, -, hbefore, hs, -⟩ := h.cut he
    obtain ⟨t, now, action⟩ := e
    obtain rfl : action = .batch (.send n) := ha
    exact request_nodup hbefore hs hat
  waiter job hj := by
    obtain ⟨-, -, -, hr⟩ := waiter_of_pending h hj
    exact ⟨isGone_of_pending h hj, Flight.work?_eq_some.mpr ⟨_, hr⟩⟩
  outlives now id q hs := drop_frame hs
  drains := by
    refine ⟨?_, discarded_not_mem_places h⟩
    intro e he _
    obtain ⟨before, after, u, -, hbefore, -, -⟩ := h.cut he
    exact discards_eq_nil hbefore

/-- Two names, one of them asked for in two casings, of which the caller that came first is dropped:
both are in one request. -/
theorem pending_names_are_distinct_after_drop :
    ∃ (log : List (Entry MemoryStore)) (p : Pipeline MemoryStore),
      History Step (ofStore {} {}) log p ∧ Distinct log p ∧
      p.batch.pending = [⟨0, "notch"⟩, ⟨1, "jeb_"⟩] ∧
      (p.resolver.group.calls.get? 0).map (·.phase) = some .gone := by
  have h : History Step (ofStore ({} : MemoryStore) {}) _ _ :=
    History.of_replay [(0, .call 0 "Notch"), (0, .spawn 0), (0, .call 1 "NOTCH"),
      (0, .call 2 "jeb_"), (0, .spawn 1), (1, .work 0 none), (1, .work 1 none), (1, .work 0 none),
      (1, .work 0 none), (1, .work 1 none), (1, .work 1 none), (2, .drop 0), (2, .batch .park),
      (Time.seconds 3, .batch (.wake .delay)), (Time.seconds 3, .batch .drain),
      (Time.seconds 3, .batch .fire), (Time.seconds 3, .batch (.send 0))] rfl
  exact ⟨_, _, h, pending_names_are_distinct h, rfl, rfl⟩

end

end SkinRelay.Pipeline
