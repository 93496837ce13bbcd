import SkinRelay.Proofs.Batch.Conservation

/-!
Every job is accounted for. In a run of a queue, with any number of calls, starts and stops, each
job that was accepted is in one place, is part of at most one request, and gives its call at most
one value: the one that its own batch delivered, or that the queue was stopped.
-/

namespace SkinRelay.Batch

/-- The jobs of the round that an action is about. -/
def carriedBy (round? : Action → Option Nat) (e : Entry) : List Job :=
  (((round? e.2.2).bind e.1.rounds.get?).map Round.jobs).getD []

theorem mem_carriedBy {round? : Action → Option Nat} {e : Entry} {job : Job} :
    job ∈ carriedBy round? e ↔ ∃ n round, round? e.2.2 = some n ∧
      e.1.rounds.get? n = some round ∧ job ∈ round.jobs := by
  unfold carriedBy
  cases hn : round? e.2.2 with
  | none => simp
  | some n => cases hr : e.1.rounds.get? n <;> simp [hr]

def carried (round? : Action → Option Nat) (log : List Entry) : List Job :=
  log.flatMap (carriedBy round?)

/-- The jobs of all requests that were sent. -/
def requested (log : List Entry) : List Job := carried Action.sends? log

/-- The jobs of all requests that were answered. -/
def delivered (log : List Entry) : List Job := carried Action.answers? log

/-- Whether a waiting call receives its value. -/
def collects (id : Nat) (e : Entry) : Bool :=
  match e.2.2 with
  | .collect i => i == id
  | _ => false

/-! ### Along a run -/

section

variable {b c : Batch} {log : List Entry}

theorem call_of_history (h : History Step b log c) {id : Nat} {call : Call}
    (hc : b.calls.get? id = some call) : ∃ d, c.calls.get? id = some d ∧ call.Becomes d := by
  induction h with
  | start => exact ⟨call, hc, .refl call⟩
  | next _ hs ih =>
    obtain ⟨d, hd, hbec⟩ := ih
    obtain ⟨e, he, hbec'⟩ := (moves_of_step? hs).calls.call hd
    exact ⟨e, he, hbec.trans hbec'⟩

theorem Orderly.history (hb : Orderly b) (h : History Step b log c) : Orderly c :=
  h.invariant hb fun _ _ _ hb hs => hb.move (moves_of_step? hs)

theorem Orderly.fate_of_history (hb : Orderly b) (h : History Step b log c) {id : Nat} {fate : Fate}
    (hf : b.fates.get? id = some fate) : c.fates.get? id = some fate := by
  induction h with
  | start => exact hf
  | next h hs ih => exact (hb.history h).fate_kept (moves_of_step? hs) ih

theorem Orderly.round_of_history (hb : Orderly b) (h : History Step b log c) {n : Nat}
    {round : Round} (hr : b.rounds.get? n = some round) :
    ∃ next, c.rounds.get? n = some next ∧ next.jobs = round.jobs ∧
      (round.phase = .answered → next.phase = .answered) := by
  induction h with
  | start => exact ⟨round, hr, rfl, fun h => h⟩
  | next h hs ih =>
    obtain ⟨next, hn, hj, hp⟩ := ih
    obtain ⟨later, hl, hj', hp'⟩ := (moves_of_step? hs).rounds.round (hb.history h).numbered hn
    exact ⟨later, hl, hj'.trans hj, fun ha => hp' (hp ha)⟩

end

section

variable {settings : BatchSettings} {log : List Entry} {b : Batch}

/-- What was decided was decided by a step of the run. -/
theorem decided_of_history (h : History Step (ofSettings settings) log b) {id : Nat} {fate : Fate}
    (hf : b.fates.get? id = some fate) : ∃ e ∈ log, Decides e.1 e.2.2 id fate := by
  induction h with
  | start => cases hf
  | @next log t u a h hs ih =>
    rcases (moves_of_step? hs).fate id with hsame | ⟨next, hn, hd⟩
    · obtain ⟨e, he, hd⟩ := ih (hsame ▸ hf)
      exact ⟨e, List.mem_append_left _ he, hd⟩
    · obtain rfl : fate = next := Option.some.inj (hf.symm.trans hn)
      exact ⟨(t, a), by simp, hd⟩

/-- A round that has been answered was answered by a step of the run. -/
theorem answered_of_history (h : History Step (ofSettings settings) log b) {n : Nat} {round : Round}
    (hr : (n, round) ∈ b.rounds.entries) (answered : round.phase = .answered) :
    ∃ e ∈ log, ∃ result old, e.2.2 = .deliver n result ∧ e.1.rounds.get? n = some old ∧
      old.jobs = round.jobs := by
  induction h generalizing round with
  | start => cases hr
  | @next log t u a h hs ih =>
    have earlier : (n, round) ∈ t.rounds.entries →
        ∃ e ∈ log ++ [(t, a)], ∃ result old, e.2.2 = .deliver n result ∧
          e.1.rounds.get? n = some old ∧ old.jobs = round.jobs := by
      intro hr
      obtain ⟨e, he, rest⟩ := ih hr answered
      exact ⟨e, List.mem_append_left _ he, rest⟩
    obtain ⟨now, action⟩ := a
    have hd := (moves_of_step? hs).rounds
    generalize u.rounds = rounds at hd hr
    cases hd with
    | same => exact earlier hr
    | draw | send =>
      rcases Table.mem_entries_insert hr with hnew | hold
      · cases hnew
        cases answered
      · exact earlier hold
    | @answer m time old result hold sent =>
      rcases Table.mem_entries_insert hr with hnew | hr
      · cases hnew
        exact ⟨(t, (now, .deliver n result)), by simp, result, old, rfl, hold, rfl⟩
      · exact earlier hr

/-- The places of a job are as many as the steps that accepted it. -/
theorem length_places_of_history (h : History Step (ofSettings settings) log b) (id : Nat) :
    (b.places id).length = log.countP (accepts id) := by
  induction h with
  | start => simp [places_ofSettings]
  | @next log t u a h hs ih =>
    rw [(orderly_of_history h).length_places_move (moves_of_step? hs) id, ih]
    simp [List.countP_append, List.countP_cons]

/-- Jobs that each step carries into rounds of some phases are carried into them by a run. -/
theorem carried_of_history {p : RoundPhase → Bool} {round? : Action → Option Nat} {id : Nat}
    (step : ∀ {now : Nat} {b : Batch} {a : Action} {rounds : Table Nat Round},
      Redraws now b a rounds → Numbered b.rounds →
      occurrences id (drawnIn p rounds) =
        occurrences id (drawnIn p b.rounds) + occurrences id (carriedBy round? (b, (now, a))))
    (h : History Step (ofSettings settings) log b) :
    occurrences id (carried round? log) = occurrences id (drawnIn p b.rounds) := by
  induction h with
  | start => rfl
  | @next log t u a h hs ih =>
    have hstep := step (moves_of_step? hs).rounds (orderly_of_history h).numbered
    rw [hstep, carried, List.flatMap_append, occurrences_append, ← carried, ih]
    simp

theorem requested_of_history (h : History Step (ofSettings settings) log b) (id : Nat) :
    occurrences id (requested log) = occurrences id (drawnIn RoundPhase.isSent b.rounds) := by
  refine carried_of_history ?_ h
  intro now b a rounds hd numbered
  cases hd with
  | same sends => simp [carriedBy, sends, occurrences]
  | draw =>
    rw [occurrences_drawnIn_new _ _ _ numbered.next]
    simp [carriedBy, Action.sends?, RoundPhase.isSent, occurrences]
  | @send n round hold ready =>
    have heq := occurrences_drawnIn_old { round with phase := .sent now } RoundPhase.isSent id hold
    simpa [carriedBy, Action.sends?, hold, ready, RoundPhase.isSent] using heq
  | @answer n time round _ hold sent =>
    have heq := occurrences_drawnIn_old { round with phase := .answered } RoundPhase.isSent id hold
    simpa [carriedBy, Action.sends?, sent, RoundPhase.isSent, occurrences] using heq

/-- The request for a job that has been answered was sent. -/
theorem sent_of_answered (h : History Step (ofSettings settings) log b) {id : Nat}
    {reply : Except RemoteError (Option Account)} (hf : b.fates.get? id = some (.answered reply)) :
    ∃ e ∈ log, ∃ n round, e.2.2 = .send n ∧ e.1.rounds.get? n = some round ∧
      ∃ job ∈ round.jobs, job.id = id := by
  obtain ⟨n, round, hround, hanswered, hpos⟩ := (orderly_of_history h).answered id reply hf
  have hsent : 0 < occurrences id (requested log) := by
    rw [requested_of_history h id]
    obtain ⟨job, hj, hid⟩ := occurrences_pos.mp hpos
    refine occurrences_pos.mpr ⟨job, mem_drawnIn.mpr ?_, hid⟩
    exact ⟨_, Table.mem_of_get? hround, by rw [hanswered]; rfl, hj⟩
  obtain ⟨job, hrequested, hid⟩ := occurrences_pos.mp hsent
  obtain ⟨⟨t, now, action⟩, he, hcarried⟩ := List.mem_flatMap.mp hrequested
  obtain ⟨m, sent, hm, hat, hj⟩ := mem_carriedBy.mp hcarried
  obtain rfl : action = .send m := by
    cases action <;> cases hm
    rfl
  exact ⟨_, he, m, sent, rfl, hat, job, hj, hid⟩

theorem delivered_of_history (h : History Step (ofSettings settings) log b) (id : Nat) :
    occurrences id (delivered log) = occurrences id (drawnIn RoundPhase.isAnswered b.rounds) := by
  refine carried_of_history ?_ h
  intro now b a rounds hd numbered
  cases hd with
  | same _ answers => simp [carriedBy, answers, occurrences]
  | draw =>
    rw [occurrences_drawnIn_new _ _ _ numbered.next]
    simp [carriedBy, Action.answers?, RoundPhase.isAnswered, occurrences]
  | @send n round hold ready =>
    have heq :=
      occurrences_drawnIn_old { round with phase := .sent now } RoundPhase.isAnswered id hold
    simpa [carriedBy, Action.answers?, ready, RoundPhase.isAnswered, occurrences] using heq
  | @answer n time round _ hold sent =>
    have heq :=
      occurrences_drawnIn_old { round with phase := .answered } RoundPhase.isAnswered id hold
    simpa [carriedBy, Action.answers?, hold, sent, RoundPhase.isAnswered] using heq

theorem requested_le (h : History Step (ofSettings settings) log b) (id : Nat) :
    occurrences id (requested log) ≤ occurrences id (drawn b.rounds) := by
  rw [requested_of_history h id]
  exact occurrences_drawnIn_le ..

theorem delivered_le (h : History Step (ofSettings settings) log b) (id : Nat) :
    occurrences id (delivered log) ≤ occurrences id (drawn b.rounds) := by
  rw [delivered_of_history h id]
  exact occurrences_drawnIn_le ..

/-- A call that has received its value has left, so that it receives no other. -/
theorem collects_of_history (h : History Step (ofSettings settings) log b) (id : Nat) :
    log.countP (collects id) ≤ 1 ∧ (0 < log.countP (collects id) →
      ∃ call, b.calls.get? id = some call ∧ call.hasLeft = true) := by
  induction h with
  | start => simp
  | @next log t u a h hs ih =>
    obtain ⟨hle, hleft⟩ := ih
    have hmove := moves_of_step? hs
    rw [List.countP_append, List.countP_singleton]
    by_cases hcol : collects id (t, a) = true
    · obtain ⟨now, action⟩ := a
      cases hmove with
      | @collect i call result hc waiting ready =>
        obtain rfl : i = id := by simpa [collects] using hcol
        have hzero : ¬0 < log.countP (collects i) := by
          intro hpos
          obtain ⟨d, hd, hl⟩ := hleft hpos
          obtain rfl : d = call := Option.some.inj (hd.symm.trans hc)
          simp [Call.hasLeft, waiting] at hl
        rw [if_pos hcol]
        refine ⟨by omega, fun _ => ⟨{ call with phase := .returned result }, by simp, rfl⟩⟩
      | _ => cases hcol
    · rw [if_neg hcol, Nat.add_zero]
      refine ⟨hle, fun hpos => ?_⟩
      obtain ⟨call, hc, hl⟩ := hleft hpos
      obtain ⟨d, hd, hbec⟩ := hmove.calls.call hc
      exact ⟨d, hd, hbec.hasLeft hl⟩

end

/-! ### Where a job is, and how it came there -/

theorem discarded_mem_places {b : Batch} {id : Nat} :
    .discarded ∈ b.places id ↔ b.fates.get? id = some .discarded := by
  rw [mem_places]
  constructor
  · rintro (⟨h, -⟩ | ⟨h, -⟩ | ⟨⟨n, round⟩, -, h, -⟩ | h)
    · cases h
    · cases h
    · unfold Round.place at h
      split at h <;> cases h
    · unfold Fate.places at h
      split at h
      · assumption
      · simp at h
      · simp at h
  · intro h
    exact .inr (.inr (.inr (by simp [h, Fate.places])))

theorem cleared_mem_places {b : Batch} {id : Nat} :
    .cleared ∈ b.places id ↔ b.fates.get? id = some .cleared := by
  rw [mem_places]
  constructor
  · rintro (⟨h, -⟩ | ⟨h, -⟩ | ⟨⟨n, round⟩, -, h, -⟩ | h)
    · cases h
    · cases h
    · unfold Round.place at h
      split at h <;> cases h
    · unfold Fate.places at h
      split at h
      · simp at h
      · assumption
      · simp at h
  · intro h
    exact .inr (.inr (.inr (by simp [h, Fate.places])))

theorem settled_mem_places {b : Batch} {id n : Nat} (h : .settled n ∈ b.places id) :
    ∃ round, (n, round) ∈ b.rounds.entries ∧ round.phase = .answered ∧
      0 < occurrences id round.jobs := by
  rcases mem_places.mp h with ⟨h, -⟩ | ⟨h, -⟩ | ⟨⟨m, round⟩, he, h, hpos⟩ | h
  · cases h
  · cases h
  · unfold Round.place at h
    split at h
    · cases h
      exact ⟨round, he, ‹_›, hpos⟩
    · cases h
  · unfold Fate.places at h
    split at h <;> simp at h

/-- A job that a drain pops while nobody waits for it is thrown away. -/
theorem discarded_of_popped {now : Nat} {b c : Batch} (h : Moves now b .drain c) {job : Job}
    (queued : job ∈ b.queue) (popped : job ∉ c.queue) (gone : b.isGone job = true) :
    c.fates.get? job.id = some .discarded := by
  cases h with
  | @drain wake _ =>
    rcases b.drainQueue_spec wake with hcrash | ⟨hq, -, hf⟩
    · exact absurd queued (by rw [hcrash] at popped; exact popped)
    · obtain ⟨front, hqueue, -, hd, -⟩ := drain_pops b.isGone b.settings.batchSize b.queue
      rw [hq] at popped
      rw [hqueue, List.mem_append] at queued
      have hj : job ∈ b.discards := by
        rw [discards, hd]
        exact List.mem_filter.mpr ⟨queued.resolve_right popped, gone⟩
      rw [hf]
      rcases b.get?_setFates b.discards (fun _ => .discarded) job.id with ⟨_, _, _, hnew⟩ | ⟨hne, -⟩
      · exact hnew
      · exact absurd rfl (hne job hj)

/-! ### The account -/

/-- Why a call has returned what it has. -/
inductive Receipt (log : List Entry) (b : Batch) (id : Nat) (call : Call) : AccountResult → Prop
  /-- The queue was stopped before it accepted a job of the call. -/
  | refused (nowhere : b.places id = []) : Receipt log b id call (.error .queueStopped)
  | cancelled (fired : call.token = some true) : Receipt log b id call (.error .cancelled)
  | cleared (place : b.places id = [.cleared]) : Receipt log b id call (.error .queueStopped)
  /-- The call has the answer for its own name, out of the reply to the request of its own job. -/
  | answered {e : Entry} {n : Nat} {result : Except RemoteError (List Account)} {round : Round}
      (entry : e ∈ log) (delivers : e.2.2 = .deliver n result)
      (at_ : e.1.rounds.get? n = some round) (own : ⟨id, call.username⟩ ∈ round.jobs)
      (place : b.places id = [.settled n]) :
      Receipt log b id call ((Job.reply result ⟨id, call.username⟩).mapError .remote)

/-- Every job is accounted for. -/
structure Accounted (log : List Entry) (b : Batch) : Prop where
  /-- A job that was accepted is in exactly one place, and any other in none. -/
  one_place : ∀ id, (b.places id).length = log.countP (accepts id) ∧ log.countP (accepts id) ≤ 1
  discarded : ∀ id, .discarded ∈ b.places id →
    ∃ e ∈ log, e.2.2 = .drain ∧ ∃ job ∈ e.1.queue, job.id = id ∧ e.1.isGone job = true
  cleared : ∀ id, .cleared ∈ b.places id →
    ∃ e ∈ log, e.2.2 = .closeQueue ∧ ∃ job ∈ e.1.queue, job.id = id
  settled : ∀ id n, .settled n ∈ b.places id →
    ∃ e ∈ log, ∃ result round, e.2.2 = .deliver n result ∧ e.1.rounds.get? n = some round ∧
      ∃ job ∈ round.jobs, job.id = id
  /-- No job is part of two requests. -/
  one_request : ∀ id, occurrences id (requested log) ≤ 1
  /-- A job that nobody waits for when a drain pops it is part of none. -/
  gone_unsent : ∀ e ∈ log, e.2.2 = .drain → ∀ c, Step e.1 e.2 c →
    ∀ job ∈ e.1.queue, job ∉ c.queue → e.1.isGone job = true →
      b.places job.id = [.discarded] ∧ occurrences job.id (requested log) = 0
  /-- A job that is waited for is not thrown away. -/
  kept : ∀ id call, b.calls.get? id = some call → call.hasLeft = false → .discarded ∉ b.places id
  /-- A job is answered at most once, and its call receives at most one value. -/
  one_value : ∀ id, occurrences id (delivered log) ≤ 1 ∧ log.countP (collects id) ≤ 1
  value : ∀ id call result, b.calls.get? id = some call → call.phase = .returned result →
    Receipt log b id call result

section

variable {settings : BatchSettings} {log : List Entry} {b : Batch}

/-- An answer reaches the call whose job the answered batch carried. -/
theorem answer_of_history (h : History Step (ofSettings settings) log b) {id : Nat} {call : Call}
    {reply : Except RemoteError (Option Account)} (hc : b.calls.get? id = some call)
    (hf : b.fates.get? id = some (.answered reply)) :
    ∃ e ∈ log, ∃ n result round, e.2.2 = .deliver n result ∧ e.1.rounds.get? n = some round ∧
      ⟨id, call.username⟩ ∈ round.jobs ∧ reply = Job.reply result ⟨id, call.username⟩ ∧
      b.places id = [.settled n] := by
  obtain ⟨e, he, hd⟩ := decided_of_history h hf
  obtain ⟨before, after, u, -, hbefore, hs, hafter⟩ := h.cut he
  obtain ⟨t, now, a⟩ := e
  dsimp only at hd
  cases hd with
  | @answer n time round job result hat sent hj =>
    have hmove := moves_of_step? hs
    have hu := (orderly_of_history hbefore).move hmove
    cases hmove with
    | @deliver _ sentAt _ _ hat' _ =>
      obtain rfl := Option.some.inj (hat.symm.trans hat')
      have hround : (t.deliver now n round sentAt result).rounds.get? n =
          some { round with phase := .answered } := by simp [Batch.deliver]
      obtain ⟨next, hn, hjobs, hanswered⟩ := hu.round_of_history hafter hround
      have hj' : job ∈ next.jobs := hjobs ▸ hj
      obtain ⟨d, hd, hname⟩ := (orderly_of_history h).named job
        (.inr (.inr (List.mem_flatMap.mpr ⟨_, Table.mem_of_get? hn, hj'⟩)))
      obtain rfl : d = call := Option.some.inj (hd.symm.trans hc)
      have hplace := round_mem_places hn (occurrences_pos.mpr ⟨job, hj', rfl⟩)
      rw [Round.place, hanswered rfl] at hplace
      have hown : (⟨job.id, d.username⟩ : Job) = job := by rw [hname]
      exact ⟨_, he, n, result, round, rfl, hat, hown.symm ▸ hj, by rw [hown],
        (orderly_of_history h).places_eq hplace⟩

/-- In every run of a queue, every job is accounted for. -/
theorem jobs_are_accounted_for (h : History Step (ofSettings settings) log b) :
    Accounted log b where
  one_place id := by
    have hlen := length_places_of_history h id
    exact ⟨hlen, hlen ▸ (orderly_of_history h).once id⟩
  discarded id hp := by
    obtain ⟨e, he, hd⟩ := decided_of_history h (discarded_mem_places.mp hp)
    obtain ⟨t, now, a⟩ := e
    dsimp only at hd
    cases hd with
    | @discard job hj =>
      obtain ⟨hq, hg⟩ := mem_discards hj
      exact ⟨_, he, rfl, job, hq, rfl, hg⟩
  cleared id hp := by
    obtain ⟨e, he, hd⟩ := decided_of_history h (cleared_mem_places.mp hp)
    obtain ⟨t, now, a⟩ := e
    dsimp only at hd
    cases hd with
    | @clear job hj => exact ⟨_, he, rfl, job, hj, rfl⟩
  settled id n hp := by
    obtain ⟨round, hr, hanswered, hpos⟩ := settled_mem_places hp
    obtain ⟨e, he, result, old, ha, hold, hjobs⟩ := answered_of_history h hr hanswered
    exact ⟨e, he, result, old, ha, hold, occurrences_pos.mp (hjobs ▸ hpos)⟩
  one_request id := by
    have hle := requested_le h id
    have honce := (orderly_of_history h).once id
    rw [length_places] at honce
    omega
  gone_unsent e he ha c hs job queued popped gone := by
    obtain ⟨before, after, u, -, hbefore, hs', hafter⟩ := h.cut he
    obtain rfl : c = u := Option.some.inj (hs.symm.trans hs')
    have ht := orderly_of_history hbefore
    have hmove := moves_of_step? hs
    have hfate := (ht.move hmove).fate_of_history hafter
      (discarded_of_popped (ha ▸ hmove) queued popped gone)
    have hplace := (orderly_of_history h).places_eq (discarded_mem_places.mpr hfate)
    refine ⟨hplace, ?_⟩
    have hle := requested_le h job.id
    have hlen := length_places b job.id
    rw [hplace, hfate] at hlen
    simp only [Fate.places, List.length_singleton] at hlen
    omega
  kept id call hc hl hp := by
    obtain ⟨d, hd, hleft⟩ := (orderly_of_history h).left id (discarded_mem_places.mp hp)
    obtain rfl : d = call := Option.some.inj (hd.symm.trans hc)
    rw [hl] at hleft
    cases hleft
  one_value id := by
    have hle := delivered_le h id
    have honce := (orderly_of_history h).once id
    rw [length_places] at honce
    exact ⟨by omega, (collects_of_history h id).1⟩
  value id call result hc hp := by
    have hb := orderly_of_history h
    rcases hb.returned id call result hc hp with ⟨hnone, rfl⟩ | ⟨hfired, rfl⟩ | ⟨fate, hf, hres⟩
    · exact .refused hnone
    · exact .cancelled hfired
    · cases fate with
      | discarded => cases hres
      | cleared =>
        cases hres
        exact .cleared (hb.places_eq (cleared_mem_places.mpr hf))
      | answered reply =>
        cases hres
        obtain ⟨e, he, n, result, round, ha, hat, hown, rfl, hplace⟩ := answer_of_history h hc hf
        exact .answered he ha hat hown hplace

/-- Three calls: one is answered, one is dropped before its job is drained, and the job of one is in
the queue when it is stopped. -/
theorem jobs_are_accounted_for_until_stop :
    ∃ log, ∃ b : Batch, History Step (ofSettings {}) log b ∧ Accounted log b ∧
      b.places 0 = [.settled 0] ∧ b.places 1 = [.discarded] ∧ b.places 2 = [.cleared] := by
  have h : History Step (ofSettings {}) _ _ :=
    History.of_replay [(0, .enter 0 "Notch" none), (0, .push 0), (0, .enter 1 "jeb_" none),
      (0, .push 1), (0, .park), (1, .drop 1), (Time.millis 2500, .wake .delay),
      (Time.millis 2500, .drain), (Time.millis 2500, .fire), (Time.millis 2501, .send 0),
      (Time.millis 2600, .enter 2 "Dinnerbone" (some false)), (Time.millis 2600, .push 2),
      (Time.millis 2700, .deliver 0 (.ok [{ id := "069a79f4", name := "Notch" }])),
      (Time.millis 2700, .collect 0),
      (Time.millis 2800, .haltLoop), (Time.millis 2800, .closeQueue)] rfl
  exact ⟨_, _, h, jobs_are_accounted_for h, rfl, rfl, rfl⟩

end

end SkinRelay.Batch
