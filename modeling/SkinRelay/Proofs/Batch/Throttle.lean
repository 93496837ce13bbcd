import SkinRelay.Proofs.Batch.Pace

/-!
The delay as a throttle. If full batches have to wait for the delay, nobody notifies the loop: it
wakes up only when the delay is over, takes at most one batch out, and waits again. So its requests
are at least the delay apart, whatever the callers and the servers do: `requests_are_throttled`.
-/

namespace SkinRelay.Batch

/-- A batch that the loop has taken out of the queue, to have a request sent for it. -/
structure Dispatch where
  time : Nat
  jobs : List Job
  deriving DecidableEq, Repr

/-- The batch that a step takes out of the queue, if it takes one. -/
def dispatch? (e : Entry) : Option Dispatch :=
  match e.2.2, e.1.loop with
  | .drain, .draining wake => (e.1.drainQueue wake).loop.draft?.map fun d => ⟨e.2.1, d.2⟩
  | _, _ => none

def dispatches (log : List Entry) : List Dispatch := log.filterMap dispatch?

/-! ### What a step dispatches -/

section

variable {b c : Batch} {now : Nat} {a : Action} {e : Entry} {d : Dispatch} {log : List Entry}

theorem dispatch?_of_ne (other : a ≠ .drain) : dispatch? (b, (now, a)) = none := by
  cases a with
  | drain => exact absurd rfl other
  | _ => rfl

theorem Moves.dispatch (h : Moves now b .drain c) :
    dispatch? (b, (now, .drain)) = c.loop.draft?.map fun d => ⟨now, d.2⟩ := by
  cases h with
  | drain draining => simp only [dispatch?, draining]

theorem time_of_dispatch? (h : dispatch? e = some d) : d.time = e.2.1 := by
  unfold dispatch? at h
  split at h
  · obtain ⟨draft, -, rfl⟩ := Option.map_eq_some_iff.mp h
    rfl
  · cases h

/-- A batch that goes out holds a name, and no more names than it may. -/
theorem size_of_dispatch? (h : dispatch? e = some d) :
    1 ≤ d.jobs.length ∧ d.jobs.length ≤ e.1.settings.batchSize := by
  unfold dispatch? at h
  split at h
  · rename_i wake _ _
    obtain ⟨draft, hdraft, rfl⟩ := Option.map_eq_some_iff.mp h
    unfold drainQueue at hdraft
    split at hdraft
    · cases hdraft
    · dsimp only at hdraft
      split at hdraft
      · cases hdraft
      · rename_i some_
        cases hdraft
        refine ⟨?_, length_taken_le ..⟩
        exact List.length_pos_iff.mpr (by simpa using some_)
  · cases h

theorem time_of_dispatches (h : d ∈ dispatches log) : ∃ e ∈ log, d.time = e.2.1 := by
  obtain ⟨e, he, hd⟩ := List.mem_filterMap.mp h
  exact ⟨e, he, time_of_dispatch? hd⟩

theorem dispatches_append (log rest : List Entry) :
    dispatches (log ++ rest) = dispatches log ++ dispatches rest := List.filterMap_append

theorem dispatches_concat :
    dispatches (log ++ [e]) = dispatches log ++ (dispatch? e).toList := by
  have hlast : dispatches [e] = (dispatch? e).toList := by
    rw [dispatches, List.filterMap_cons]
    cases dispatch? e <;> rfl
  rw [dispatches_append, hlast]

/-- The batches that were taken out are those that were dispatched. -/
theorem batches_move (hb : Orderly b) (h : Moves now b a c)
    (same : b.batches.map Prod.snd = (dispatches log).map Dispatch.jobs) :
    c.batches.map Prod.snd = (dispatches (log ++ [(b, (now, a))])).map Dispatch.jobs := by
  by_cases hdrain : a = .drain
  · subst hdrain
    have hdispatch := h.dispatch
    cases h with
    | @drain wake draining =>
      have hrounds := (b.drainQueue_frame wake).2.1
      have hb' : b.batches = b.rounds.values.map fun round => (round.wake, round.jobs) := by
        simp [batches, draining, Loop.draft?]
      rw [dispatches_concat, hdispatch, List.map_append, ← same, hb', batches, hrounds,
        List.map_append]
      cases (b.drainQueue wake).loop.draft? <;> rfl
  · rw [h.batches hb hdrain, dispatches_concat, dispatch?_of_ne hdrain]
    simpa using same

end

/-! ### When the loop wakes up -/

section

variable {b c : Batch} {now : Nat} {a : Action}

/-- A loop is started only if there was none, and only a start is remembered as one. -/
theorem Moves.starts (hb : Orderly b) (h : Moves now b a c) :
    c.starts = b.starts ∧ (c.loop = .absent ↔ b.loop = .absent) ∨
      b.loop = .absent ∧ c.loop = .ready ∧ c.starts = b.starts ++ [now] := by
  have started : ∀ {s : Batch}, b.start now = .ok s →
      s.starts = b.starts ∧ (s.loop = .absent ↔ b.loop = .absent) ∨
        b.loop = .absent ∧ s.loop = .ready ∧ s.starts = b.starts ++ [now] := by
    intro s hs
    unfold Batch.start at hs
    split at hs
    · cases hs
      exact .inl ⟨rfl, .rfl⟩
    · cases hs
    · rename_i idle
      cases hs
      exact .inr ⟨hb.idle idle, rfl, rfl⟩
  cases h with
  | enter =>
    unfold Batch.enter
    split
    · rename_i hs
      have kept := started hs
      exact kept
    · exact .inl ⟨rfl, .rfl⟩
  | push =>
    unfold Batch.push
    split <;> exact .inl ⟨rfl, .rfl⟩
  | signal =>
    left
    unfold notify
    split
    · rename_i parked
      simp [setCall, parked]
    · exact ⟨rfl, .rfl⟩
  | start hs => exact started hs
  | park at_ | wakeDelay at_ | wakeFull at_ | exit at_ => exact .inl ⟨rfl, by simp [Batch.park, at_]⟩
  | @drain wake draining =>
    left
    unfold drainQueue
    split
    · exact ⟨rfl, by simp [draining]⟩
    · dsimp only
      split <;> exact ⟨rfl, by simp [draining]⟩
  | fire firing =>
    refine .inl ⟨rfl, ?_⟩
    simp only [Batch.fire, firing]
    split <;> simp
  | _ => exact .inl ⟨rfl, .rfl⟩

/-- A loop that has not been notified waits for its deadline. -/
theorem Moves.due {cause : Wake} (h : Moves now b (.wake cause) c) {deadline : Nat}
    (parked : b.loop = .parked deadline false) : deadline ≤ now := by
  cases h with
  | wakeDelay parked' due =>
    cases parked.symm.trans parked'
    exact due
  | wakeFull parked' => cases parked.symm.trans parked'

/-- If full batches have to wait, no call is ever about to notify the loop. -/
theorem Moves.silent (h : Moves now b a c) (periodic : b.settings.fireOnFull = false)
    (silent : Batch.signals b.calls = 0) :
    Batch.signals c.calls = 0 ∧ ∀ id, a ≠ .signal id := by
  have hsignals := h.signals
  have unannounced : announces (b, (now, a)) = false := by
    cases a <;> simp [announces, isFull, periodic]
  rw [silent, unannounced] at hsignals
  refine ⟨by simp at hsignals; omega, ?_⟩
  rintro id rfl
  simp [notifies] at hsignals

end

/-! ### The spacing of batches -/

/-- Whether the delay is over since the start and since every batch that was taken out. -/
def Rested (log : List Entry) (b : Batch) (later : Nat) : Prop :=
  (∀ t ∈ b.starts, t + Time.millis b.settings.delay ≤ later) ∧
    ∀ d ∈ dispatches log, d.time + Time.millis b.settings.delay ≤ later

/-- What holds between two steps, if full batches have to wait for the delay. -/
structure Spaced (log : List Entry) (b : Batch) : Prop where
  silent : signals b.calls = 0
  absent : b.loop = .absent → b.starts = [] ∧ dispatches log = []
  present : b.loop ≠ .absent → ∃ t, b.starts = [t]
  past : ∀ t ∈ b.starts, ∀ later, History.Until log later → t ≤ later
  parked : ∀ deadline notified, b.loop = .parked deadline notified →
    notified = false ∧ Rested log b deadline
  draining : ∀ wake, b.loop = .draining wake → ∀ later, History.Until log later →
    Rested log b later
  first : ∀ t ∈ b.starts, ∀ d ∈ dispatches log, t + Time.millis b.settings.delay ≤ d.time
  apart : (dispatches log).Pairwise fun d e => d.time + Time.millis b.settings.delay ≤ e.time

section

variable {b c : Batch} {now : Nat} {a : Action} {log : List Entry}

theorem spaced_ofSettings (settings : BatchSettings) : Spaced [] (ofSettings settings) where
  silent := rfl
  absent _ := ⟨rfl, rfl⟩
  present h := absurd rfl h
  past t ht := by cases ht
  parked _ _ h := by cases h
  draining _ h := by cases h
  first t ht := by cases ht
  apart := List.Pairwise.nil

namespace Spaced

theorem rested_now (hb : Spaced log b) {later : Nat} (huntil : History.Until log later) :
    Rested log b (later + Time.millis b.settings.delay) := by
  refine ⟨fun t ht => ?_, fun d hd => ?_⟩
  · have hle := hb.past t ht later huntil
    omega
  · obtain ⟨e, he, htime⟩ := time_of_dispatches hd
    have hle := huntil e he
    omega

/-- A loop that begins has had nothing to dispatch. -/
theorem begin_move (hb : Spaced log b) (hc : signals c.calls = 0) (absent : b.loop = .absent)
    (ready : c.loop = .ready) (starts : c.starts = b.starts ++ [now]) (other : a ≠ .drain) :
    Spaced (log ++ [(b, (now, a))]) c := by
  obtain ⟨hstarts, hnone⟩ := hb.absent absent
  have hstarted : c.starts = [now] := by rw [starts, hstarts, List.nil_append]
  have hnothing : dispatches (log ++ [(b, (now, a))]) = [] := by
    rw [dispatches_concat, hnone, dispatch?_of_ne other]
    rfl
  constructor
  case silent => exact hc
  case absent =>
    intro h
    rw [ready] at h
    cases h
  case present => exact fun _ => ⟨now, hstarted⟩
  case past =>
    intro t ht later huntil
    rw [hstarted, List.mem_singleton] at ht
    rw [ht]
    exact (History.until_concat.mp huntil).2
  case parked =>
    intro deadline notified h
    rw [ready] at h
    cases h
  case draining =>
    intro wake h
    rw [ready] at h
    cases h
  case first =>
    intro t _ d hd
    rw [hnothing] at hd
    cases hd
  case apart =>
    rw [hnothing]
    exact List.Pairwise.nil

/-- A batch that is taken out now comes the delay after all others. -/
theorem drain_move (hb : Spaced log b) (positive : 0 < b.settings.batchSize)
    (huntil : History.Until log now) (h : Moves now b .drain c) (hc : signals c.calls = 0)
    (starts : c.starts = b.starts) (present : c.loop = .absent ↔ b.loop = .absent) :
    Spaced (log ++ [(b, (now, .drain))]) c := by
  obtain ⟨wake, draining⟩ : ∃ wake, b.loop = .draining wake := by
    cases h with
    | drain draining => exact ⟨_, draining⟩
  obtain ⟨hstart, hothers⟩ := hb.draining wake draining now huntil
  have hloop : c.loop = .crashed ∨ c.loop = .ready ∨ ∃ jobs left, c.loop = .firing wake jobs left := by
    cases h with
    | drain draining' =>
      obtain rfl := Loop.draining.inj (draining.symm.trans draining')
      rcases b.drainQueue_loop wake positive with ⟨hl, -⟩ | ⟨hl, -⟩ | ⟨jobs, hl⟩
      · exact .inl hl
      · exact .inr (.inl hl)
      · exact .inr (.inr ⟨jobs, _, hl⟩)
  -- Whatever is new among the dispatches has the time of this step.
  have hnew : ∀ d, d ∈ (dispatch? (b, (now, .drain))).toList → d.time = now := by
    intro d hd
    exact time_of_dispatch? (Option.mem_toList.mp hd)
  rw [← h.settings] at hstart hothers
  constructor
  case silent => exact hc
  case absent =>
    intro habsent
    rw [present, draining] at habsent
    cases habsent
  case present =>
    intro _
    rw [starts]
    exact hb.present (by simp [draining])
  case past =>
    intro t ht later hlater
    exact hb.past t (starts ▸ ht) later (History.until_concat.mp hlater).1
  case parked =>
    intro deadline notified hparked
    rcases hloop with hl | hl | ⟨jobs, left, hl⟩ <;> rw [hl] at hparked <;> cases hparked
  case draining =>
    intro wake hdraining
    rcases hloop with hl | hl | ⟨jobs, left, hl⟩ <;> rw [hl] at hdraining <;> cases hdraining
  case first =>
    intro t ht d hd
    rw [starts] at ht
    rw [dispatches_concat] at hd
    rcases List.mem_append.mp hd with hold | hlast
    · rw [h.settings]
      exact hb.first t ht d hold
    · rw [hnew d hlast]
      exact hstart t ht
  case apart =>
    rw [dispatches_concat, List.pairwise_append]
    refine ⟨by rw [h.settings]; exact hb.apart, ?_, ?_⟩
    · cases dispatch? (b, (now, .drain)) with
      | none => exact List.Pairwise.nil
      | some d => exact List.pairwise_singleton _ d
    · intro d hd e he
      rw [hnew e he]
      exact hothers d hd

/-- Any other step leaves the dispatches alone, and the loop waits and wakes up in time. -/
theorem other_move (hb : Spaced log b) (ordered : Orderly b) (positive : 0 < b.settings.batchSize)
    (periodic : b.settings.fireOnFull = false) (huntil : History.Until log now) (h : Moves now b a c)
    (hc : signals c.calls = 0) (starts : c.starts = b.starts)
    (present : c.loop = .absent ↔ b.loop = .absent) (other : a ≠ .drain) :
    Spaced (log ++ [(b, (now, a))]) c := by
  have hsame : dispatches (log ++ [(b, (now, a))]) = dispatches log := by
    rw [dispatches_concat, dispatch?_of_ne other, Option.toList_none, List.append_nil]
  have hrested : ∀ later, Rested log b later → Rested (log ++ [(b, (now, a))]) c later := by
    intro later hold
    unfold Rested
    rw [hsame, starts, h.settings]
    exact hold
  have hspins := h.spins ordered positive
  have hsilent := (h.silent periodic hb.silent).2
  constructor
  case silent => exact hc
  case absent =>
    intro habsent
    rw [starts, hsame]
    exact hb.absent (present.mp habsent)
  case present =>
    intro hpresent
    rw [starts]
    exact hb.present fun habsent => hpresent (present.mpr habsent)
  case past =>
    intro t ht later hlater
    exact hb.past t (starts ▸ ht) later (History.until_concat.mp hlater).1
  case parked =>
    intro deadline notified hparked
    rw [hparked] at hspins
    generalize hl : Loop.parked deadline notified = loop at hspins
    generalize c.permit = permit at hspins
    cases hspins with
    | same | store =>
      obtain ⟨hnotified, hold⟩ := hb.parked deadline notified hl.symm
      exact ⟨hnotified, hrested _ hold⟩
    | rouse => exact absurd rfl (hsilent _)
    | park =>
      obtain ⟨rfl, rfl⟩ := Loop.parked.inj hl
      exact ⟨by simp [periodic], hrested _ (hb.rested_now huntil)⟩
    | _ => cases hl
  case draining =>
    intro wake hdraining later hlater
    obtain ⟨hbefore, hnow⟩ := History.until_concat.mp hlater
    rw [hdraining] at hspins
    generalize hl : Loop.draining wake = loop at hspins
    generalize c.permit = permit at hspins
    cases hspins with
    | same | store => exact hrested _ (hb.draining wake hl.symm later hbefore)
    | @wake _ deadline notified _ parked =>
      obtain ⟨rfl, hstart, hothers⟩ := hb.parked deadline notified parked
      have hdue : deadline ≤ now := h.due parked
      refine hrested _ ⟨fun t ht => ?_, fun d hd => ?_⟩
      · have hle := hstart t ht
        dsimp only at hnow
        omega
      · have hle := hothers d hd
        dsimp only at hnow
        omega
    | again _ full => simp [periodic] at full
    | _ => cases hl
  case first =>
    intro t ht d hd
    rw [hsame] at hd
    rw [h.settings]
    exact hb.first t (starts ▸ ht) d hd
  case apart =>
    rw [hsame, h.settings]
    exact hb.apart

theorem move (hb : Spaced log b) (ordered : Orderly b) (positive : 0 < b.settings.batchSize)
    (periodic : b.settings.fireOnFull = false) (huntil : History.Until log now)
    (h : Moves now b a c) : Spaced (log ++ [(b, (now, a))]) c := by
  have hc := (h.silent periodic hb.silent).1
  rcases h.starts ordered with ⟨starts, present⟩ | ⟨absent, ready, starts⟩
  · by_cases hdrain : a = .drain
    · subst hdrain
      exact hb.drain_move positive huntil h hc starts present
    · exact hb.other_move ordered positive periodic huntil h hc starts present hdrain
  · refine hb.begin_move hc absent ready starts ?_
    rintro rfl
    cases h with
    | drain draining => simp [absent] at draining

end Spaced

variable {settings : BatchSettings}

theorem spaced_of_history (h : History Step (ofSettings settings) log b)
    (periodic : settings.fireOnFull = false)
    (chronological : log.Pairwise fun d e => d.2.1 ≤ e.2.1) : Spaced log b := by
  induction h with
  | start => exact spaced_ofSettings settings
  | @next log b c a h hs ih =>
    obtain ⟨hold, huntil⟩ := History.chronological_concat.mp chronological
    have hsettings := settings_of_history h
    refine (ih hold).move (orderly_of_history h) (positive_of_history h) ?_ huntil (moves_of_step? hs)
    rw [hsettings]
    exact periodic

theorem batches_of_history (h : History Step (ofSettings settings) log b) :
    b.batches.map Prod.snd = (dispatches log).map Dispatch.jobs := by
  induction h with
  | start => rfl
  | next h hs ih => exact batches_move (orderly_of_history h) (moves_of_step? hs) ih

end

/-! ### The rate of requests -/

/-- Moments that are a gap apart are no more than the gaps between the first and the last. -/
theorem length_mul_gap_le {gap low high : Nat} {times : List Nat}
    (apart : times.Pairwise fun s t => s + gap ≤ t) (within : ∀ t ∈ times, low ≤ t ∧ t ≤ high)
    (some_ : times ≠ []) : times.length * gap ≤ high - low + gap := by
  induction times generalizing low with
  | nil => exact absurd rfl some_
  | cons t rest ih =>
    obtain ⟨hafter, hrest⟩ := List.pairwise_cons.mp apart
    obtain ⟨⟨hlow, hhigh⟩, hwithin⟩ := List.forall_mem_cons.mp within
    rw [List.length_cons, Nat.succ_mul]
    by_cases hnil : rest = []
    · simp [hnil]
    · have hle := ih hrest (fun s hs => ⟨hafter s hs, (hwithin s hs).2⟩) hnil
      obtain ⟨s, hs⟩ := List.exists_mem_of_ne_nil rest hnil
      have hgap : t + gap ≤ high := Nat.le_trans (hafter s hs) (hwithin s hs).2
      omega

/-- In a span of time there are only so many moments that are a gap apart. -/
theorem length_le_of_apart {gap span : Nat} (low : Nat) {times : List Nat} (positive : 0 < gap)
    (apart : times.Pairwise fun s t => s + gap ≤ t)
    (within : ∀ t ∈ times, low ≤ t ∧ t ≤ low + span) : times.length ≤ span / gap + 1 := by
  by_cases hnil : times = []
  · simp [hnil]
  · have hle := length_mul_gap_le apart within hnil
    rw [Nat.add_sub_cancel_left] at hle
    rw [← Nat.add_div_right span positive]
    exact (Nat.le_div_iff_mul_le positive).mpr hle

/-- What is true of the requests of a run in which full batches have to wait for the delay. -/
structure Throttled (settings : BatchSettings) (log : List Entry) (b : Batch) : Prop where
  /-- There is one loop, and it has run for the delay before it takes out its first batch. -/
  first : ∀ d ∈ dispatches log, ∃ t, b.starts = [t] ∧ t + Time.millis settings.delay ≤ d.time
  apart : (dispatches log).Pairwise fun d e => d.time + Time.millis settings.delay ≤ e.time
  sizes : ∀ d ∈ dispatches log, 1 ≤ d.jobs.length ∧ d.jobs.length ≤ max settings.batchSize 1
  /-- Nothing else has a request sent for it. -/
  batches : b.batches.map Prod.snd = (dispatches log).map Dispatch.jobs
  /-- Requests are sent for batches in the order in which these were dispatched. -/
  sent : ∀ e ∈ log, ∀ n, e.2.2 = .send n → ∃ round d, e.1.rounds.get? n = some round ∧
    (dispatches log)[n]? = some d ∧ d.jobs = round.jobs ∧ d.time ≤ e.2.1
  rate : ∀ low span, ((dispatches log).filter fun d =>
    low ≤ d.time ∧ d.time ≤ low + span).length ≤ span / Time.millis settings.delay + 1

section

variable {settings : BatchSettings} {log : List Entry} {b : Batch}

theorem keys_of_history (h : History Step (ofSettings settings) log b) :
    b.rounds.keys = List.range b.rounds.size := by
  induction h with
  | start => rfl
  | next h hs ih => exact (moves_of_step? hs).rounds.keys ih (orderly_of_history h).numbered

/-- The request with a number is sent for the batch that was dispatched at that place. -/
theorem dispatched_of_round (h : History Step (ofSettings settings) log b) {n : Nat} {round : Round}
    (at_ : b.rounds.get? n = some round) :
    ∃ d, (dispatches log)[n]? = some d ∧ d.jobs = round.jobs := by
  have hvalue := Table.values_getElem?_of_get? (keys_of_history h) at_
  have hbatch : (b.batches.map Prod.snd)[n]? = some round.jobs := by
    have hlen := (List.getElem?_eq_some_iff.mp hvalue).1
    rw [batches, List.map_append, List.getElem?_append_left (by simpa using hlen)]
    simp [hvalue]
  rw [batches_of_history h, List.getElem?_map] at hbatch
  exact Option.map_eq_some_iff.mp hbatch

/-- If full batches have to wait for the delay, requests are the delay apart. -/
theorem requests_are_throttled (h : History Step (ofSettings settings) log b)
    (periodic : settings.fireOnFull = false) (positive : 0 < settings.delay)
    (chronological : log.Pairwise fun d e => d.2.1 ≤ e.2.1) : Throttled settings log b := by
  have hb := spaced_of_history h periodic chronological
  have hsettings := settings_of_history h
  have hdelay : b.settings.delay = settings.delay := by rw [hsettings]; rfl
  constructor
  case first =>
    intro d hd
    have hpresent : b.loop ≠ .absent := by
      intro habsent
      rw [(hb.absent habsent).2] at hd
      cases hd
    obtain ⟨t, ht⟩ := hb.present hpresent
    refine ⟨t, ht, ?_⟩
    rw [← hdelay]
    exact hb.first t (by simp [ht]) d hd
  case apart =>
    rw [← hdelay]
    exact hb.apart
  case sizes =>
    intro d hd
    obtain ⟨e, he, hdispatch⟩ := List.mem_filterMap.mp hd
    obtain ⟨before, after, u, -, hbefore, -, -⟩ := h.cut he
    have hsize := size_of_dispatch? hdispatch
    rw [settings_of_history hbefore] at hsize
    exact hsize
  case batches => exact batches_of_history h
  case sent =>
    intro e he n hsend
    obtain ⟨before, after, u, hlog, hbefore, hstep, -⟩ := h.cut he
    obtain ⟨t, now, action⟩ := e
    obtain rfl : action = .send n := hsend
    cases moves_of_step? hstep with
    | @send _ round at_ _ =>
      obtain ⟨d, hd, hjobs⟩ := dispatched_of_round hbefore at_
      refine ⟨round, d, at_, ?_, hjobs, ?_⟩
      · have hlen := (List.getElem?_eq_some_iff.mp hd).1
        rw [hlog, dispatches_append, List.getElem?_append_left hlen]
        exact hd
      · obtain ⟨e, he, htime⟩ := time_of_dispatches (List.mem_of_getElem? hd)
        rw [hlog, List.pairwise_append] at chronological
        rw [htime]
        exact chronological.2.2 e he _ List.mem_cons_self
  case rate =>
    intro low span
    have hgap : 0 < Time.millis settings.delay := by
      unfold Time.millis
      omega
    have happart := hb.apart
    rw [hdelay] at happart
    rw [← List.length_map (f := Dispatch.time)]
    refine length_le_of_apart low hgap ?_ ?_
    · rw [List.pairwise_map]
      exact happart.sublist List.filter_sublist
    · intro t ht
      obtain ⟨d, hd, rfl⟩ := List.mem_map.mp ht
      simpa using (List.mem_filter.mp hd).2

/-- Three names come at once, for batches of two, and the queue is started once more. The first
request is not answered any more when the second one goes out. -/
theorem requests_are_throttled_while_unanswered :
    ∃ log, ∃ b : Batch, History Step (ofSettings { batchSize := 2, delay := 1000 }) log b ∧
      (log.Pairwise fun d e => d.2.1 ≤ e.2.1) ∧
      Throttled { batchSize := 2, delay := 1000 } log b ∧
      dispatches log = [⟨1000005, [⟨0, "Notch"⟩, ⟨1, "jeb_"⟩]⟩, ⟨2000010, [⟨2, "Grumm"⟩]⟩] := by
  have hrun : ∃ log b, History.replay (fun (b : Batch) a => b.step? a.1 a.2)
      (ofSettings { batchSize := 2, delay := 1000 })
      [(0, .enter 0 "Notch" none), (0, .push 0), (0, .enter 1 "jeb_" none), (0, .push 1),
        (0, .enter 2 "Grumm" (some false)), (0, .push 2), (3, .start), (5, .park),
        (1000005, .wake .delay), (1000005, .drain), (1000005, .fire), (1000005, .send 0),
        (1000010, .park), (2000010, .wake .delay), (2000010, .drain), (2000010, .fire),
        (2000010, .send 1)] = some (log, b) ∧
      dispatches log = [⟨1000005, [⟨0, "Notch"⟩, ⟨1, "jeb_"⟩]⟩, ⟨2000010, [⟨2, "Grumm"⟩]⟩] :=
    ⟨_, _, rfl, rfl⟩
  obtain ⟨log, b, hreplay, hdispatches⟩ := hrun
  have h : History Step (ofSettings { batchSize := 2, delay := 1000 }) log b :=
    History.of_replay _ hreplay
  have chronological := History.chronological_of_replay _ hreplay (by decide)
  exact ⟨log, b, h, chronological, requests_are_throttled h rfl (by decide) chronological,
    hdispatches⟩

end

end SkinRelay.Batch
