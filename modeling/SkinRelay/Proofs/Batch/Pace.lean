import SkinRelay.Proofs.Batch.Closing
import SkinRelay.Proofs.Batch.Pending

/-!
What full batches cost that need not wait for the delay. A notification can outlive its batch, and
then the loop sends whatever is left without having waited. It does so at most once for each full
batch that has gone out before: `short_batches_are_matched`. The account is kept like a ledger, from
the batches that become full over the notifications and the wake-ups to the batches that go out.
-/

namespace SkinRelay.Batch

/-- Whether an action neither cancels nor drops a call. -/
def Action.isPatient : Action → Bool
  | .cancel _ | .drop _ | .enter _ _ (some true) => false
  | _ => true

/-- Whether a job has filled a batch. -/
def announces (e : Entry) : Bool :=
  match e.2.2 with
  | .push _ => !e.1.closed && e.1.isFull (e.1.queue.length + 1)
  | _ => false

/-- Whether the loop has been notified. -/
def notifies (e : Entry) : Bool :=
  match e.2.2 with
  | .signal _ => true
  | _ => false

/-- Whether a notification has woken the loop. -/
def rouses (e : Entry) : Bool :=
  match e.2.2 with
  | .wake .full => true
  | _ => false

def Call.isSignalling (call : Call) : Bool :=
  match call.phase with
  | .signalling => true
  | _ => false

/-- How many calls are about to notify the loop. -/
def signals (calls : Table Nat Call) : Nat := calls.values.countP Call.isSignalling

/-- Whether a loop that waits has been notified. -/
def Loop.isNotified : Loop → Bool
  | .parked _ notified => notified
  | _ => false

/-- How many notifications wait for the loop. -/
def notifications (b : Batch) : Nat := b.permit.toNat + b.loop.isNotified.toNat

/-- The batch that the loop is about to fire. -/
def Loop.draft? : Loop → Option (Wake × List Job)
  | .firing wake jobs _ => some (wake, jobs)
  | _ => none

/-- All batches that were taken out, in their order, each with what woke the loop. -/
def batches (b : Batch) : List (Wake × List Job) :=
  (b.rounds.values.map fun round => (round.wake, round.jobs)) ++ b.loop.draft?.toList

/-- How many batches are full. -/
def wholes (b : Batch) : Nat := b.batches.countP fun d => d.2.length == b.settings.batchSize

/-- How many batches are short and did not wait for the delay. -/
def earlies (b : Batch) : Nat :=
  b.batches.countP fun d => d.1 == .full && d.2.length < b.settings.batchSize

/-- Whether a notified loop takes another batch before it waits again. -/
def Loop.isRoused (size : Nat) : Loop → Bool
  | .draining .full => true
  | .firing .full _ left => size ≤ left
  | _ => false

/-! ### Nobody leaves -/

section

variable {b c : Batch} {now : Nat} {a : Action} {settings : BatchSettings} {log : List Entry}

/-- Without cancelled and dropped calls, no token has fired and no call is gone. -/
theorem patient_move (h : Moves now b a c) (patient : a.isPatient = true)
    (hb : ∀ id call, b.calls.get? id = some call → call.token ≠ some true ∧ call.phase ≠ .gone)
    (id : Nat) (call : Call) (hc : c.calls.get? id = some call) :
    call.token ≠ some true ∧ call.phase ≠ .gone := by
  have other : ∀ {i : Nat} (next : Call), next.token ≠ some true → next.phase ≠ .gone →
      (b.calls.insert i next).get? id = some call → call.token ≠ some true ∧ call.phase ≠ .gone := by
    intro i next unfired here hget
    by_cases hid : id = i
    · obtain rfl : next = call := by simpa [hid] using hget
      exact ⟨unfired, here⟩
    · exact hb id call (by simpa [hid] using hget)
  have rephase : ∀ {i : Nat} {old : Call} (phase : CallPhase), b.calls.get? i = some old →
      phase ≠ .gone → (b.calls.insert i { old with phase }).get? id = some call →
      call.token ≠ some true ∧ call.phase ≠ .gone := by
    intro i old phase hold hne hget
    exact other { old with phase } (hb i old hold).1 hne hget
  cases h with
  | @enter i username token _ =>
    obtain ⟨phase, hphase, hcalls⟩ := b.enter_calls now i username token
    rw [hcalls] at hc
    refine other _ ?_ ?_ hc
    · rintro rfl
      cases patient
    · rcases hphase with rfl | rfl <;> simp
  | @push i old hold _ =>
    obtain ⟨phase, hphase, hcalls⟩ := b.push_calls i old
    rw [hcalls] at hc
    refine rephase phase hold ?_ hc
    rcases hphase with rfl | rfl | ⟨rfl, -⟩ <;> simp
  | signal hold _ =>
    rw [setCall_calls, (notify_frame b).2.2.2.1] at hc
    exact rephase _ hold (by simp) hc
  | collect hold _ _ => exact rephase _ hold (by simp) hc
  | cancel | drop => cases patient
  | start hs => exact hb id call ((start_frame hs).2.2.2.1 ▸ hc)
  | drain => exact hb id call ((b.drainQueue_frame _).1 ▸ hc)
  | _ => exact hb id call hc

/-- Somebody waits for every job in the queue. -/
theorem kept_of_history (h : History Step (ofSettings settings) log b)
    (patient : ∀ e ∈ log, e.2.2.isPatient = true) : ∀ job ∈ b.queue, b.isGone job = false := by
  have hcalls : ∀ id call, b.calls.get? id = some call →
      call.token ≠ some true ∧ call.phase ≠ .gone := by
    induction h with
    | start =>
      intro id call hc
      cases hc
    | @next log t c a h hs ih =>
      obtain ⟨hold, hnew⟩ := List.forall_mem_append.mp patient
      exact patient_move (moves_of_step? hs) (hnew (t, a) (by simp)) (ih hold)
  intro job hj
  have hpending : job ∈ b.pending := by simp [pending, hj]
  obtain ⟨call, hc, -⟩ := (orderly_of_history h).named job (.inl hj)
  obtain ⟨unfired, here⟩ := hcalls job.id call hc
  have hwaits := (orderly_of_history h).waits_of_pending hpending hc unfired here
  by_contra hgone
  obtain ⟨d, hd, hleft⟩ := isGone_iff.mp (by simpa using hgone)
  obtain rfl : d = call := Option.some.inj (hd.symm.trans hc)
  rw [hwaits] at hleft
  cases hleft

/-- A drain of a queue in which somebody waits for every job takes the front of it out, if there is
one. -/
theorem drainQueue_kept (kept : ∀ job ∈ b.queue, b.isGone job = false)
    (positive : 0 < b.settings.batchSize) {wake : Wake} (draining : b.loop = .draining wake) :
    ((b.drainQueue wake).loop = .crashed ∨ (b.drainQueue wake).loop = .ready) ∧
        (b.drainQueue wake).queue = b.queue ∧ (b.drainQueue wake).batches = b.batches ∨
      b.queue ≠ [] ∧
        (b.drainQueue wake).loop = .firing wake (b.queue.take b.settings.batchSize)
          (b.queue.length - b.settings.batchSize) ∧
        (b.drainQueue wake).queue = b.queue.drop b.settings.batchSize ∧
        (b.drainQueue wake).batches = b.batches ++ [(wake, b.queue.take b.settings.batchSize)] := by
  have hpos : b.settings.batchSize ≠ 0 := by omega
  unfold drainQueue
  split
  · exact .inl ⟨.inl rfl, rfl, by simp [batches, draining, Loop.draft?]⟩
  · simp only [drain_of_kept _ kept, List.isEmpty_iff, List.take_eq_nil_iff, hpos, false_or]
    by_cases hq : b.queue = []
    · rw [if_pos hq]
      exact .inl ⟨.inr rfl, by simp [hq], by simp [batches, draining, Loop.draft?, setFates]⟩
    · rw [if_neg hq]
      refine .inr ⟨hq, by simp, rfl, ?_⟩
      simp [batches, draining, Loop.draft?, setFates]

end

/-! ### From full batches to notifications -/

section

variable {b c : Batch} {now : Nat} {a : Action}

theorem signals_insert_new {calls : Table Nat Call} {id : Nat} {call : Call}
    (new : calls.get? id = none) :
    signals (calls.insert id call) = signals calls + if call.isSignalling then 1 else 0 := by
  simp [signals, Table.values_insert_of_none call new, List.countP_append, List.countP_singleton]

theorem signals_insert_old {calls : Table Nat Call} {id : Nat} {old : Call} (call : Call)
    (at_ : calls.get? id = some old) :
    signals (calls.insert id call) + (if old.isSignalling then 1 else 0) =
      signals calls + if call.isSignalling then 1 else 0 := by
  obtain ⟨before, after, h₁, h₂⟩ := Table.values_insert_of_some call at_
  simp only [signals, h₁, h₂, List.countP_append, List.countP_cons]
  omega

/-- A call is about to notify the loop from when its job has filled a batch until it does so. -/
theorem Moves.signals (h : Moves now b a c) :
    signals c.calls + (if notifies (b, (now, a)) then 1 else 0) =
      signals b.calls + if announces (b, (now, a)) then 1 else 0 := by
  have same : c.calls = b.calls → notifies (b, (now, a)) = false →
      announces (b, (now, a)) = false →
      Batch.signals c.calls + (if notifies (b, (now, a)) then 1 else 0) =
        Batch.signals b.calls + if announces (b, (now, a)) then 1 else 0 := by
    intro hc hn ha
    rw [hc, hn, ha]
  have rephase : ∀ {i : Nat} {old : Call} (phase : CallPhase), b.calls.get? i = some old →
      Batch.signals (b.calls.insert i { old with phase }) + (if old.isSignalling then 1 else 0) =
        Batch.signals b.calls + if ({ old with phase } : Call).isSignalling then 1 else 0 :=
    fun phase hold => signals_insert_old _ hold
  cases h with
  | @enter i username token new =>
    obtain ⟨phase, hphase, hcalls⟩ := b.enter_calls now i username token
    rw [hcalls, signals_insert_new new]
    rcases hphase with rfl | rfl <;> rfl
  | @push i old hold entered =>
    unfold Batch.push
    split
    · rename_i closed
      have hcount := rephase (.returned (.error .queueStopped)) hold
      simpa [Call.isSignalling, entered, announces, notifies, closed] using hcount
    · rename_i opened
      by_cases hfull :
          b.settings.fireOnFull = true ∧ (b.queue.length + 1) % b.settings.batchSize = 0
      · have hcount := rephase .signalling hold
        simpa [Call.isSignalling, entered, announces, notifies, opened, hfull, isFull] using hcount
      · have hcount := rephase .waiting hold
        simpa [Call.isSignalling, entered, announces, notifies, opened, hfull, isFull] using hcount
  | signal hold signalling =>
    have hcount := rephase .waiting hold
    simpa [Call.isSignalling, signalling, announces, notifies, (notify_frame b).2.2.2.1] using hcount
  | @collect _ _ result hold waiting _ =>
    have hcount := rephase (.returned result) hold
    simpa [Call.isSignalling, waiting, announces, notifies] using hcount
  | @cancel _ old hold _ =>
    have hcount := signals_insert_old { old with token := some true } hold
    exact Nat.add_right_cancel hcount
  | drop hold waiting =>
    have hcount := rephase .gone hold
    simpa [Call.isSignalling, waiting, announces, notifies] using hcount
  | start hs => exact same (start_frame hs).2.2.2.1 rfl rfl
  | drain => exact same (b.drainQueue_frame _).1 rfl rfl
  | _ => exact same rfl rfl rfl

/-- A notification wakes the loop at most once. -/
theorem Moves.notifications (hb : Orderly b) (h : Moves now b a c) :
    c.notifications + (if rouses (b, (now, a)) then 1 else 0) ≤
      b.notifications + if notifies (b, (now, a)) then 1 else 0 := by
  have started : ∀ {s : Batch}, b.start now = .ok s → s.notifications = b.notifications := by
    intro s hs
    rcases start_loop hs with hl | ⟨idle, hl⟩
    · simp only [Batch.notifications, start_permit hs, hl]
    · simp only [Batch.notifications, start_permit hs, hl, hb.idle idle]
      rfl
  have same : c.permit = b.permit → c.loop = b.loop → rouses (b, (now, a)) = false →
      c.notifications + (if rouses (b, (now, a)) then 1 else 0) ≤
        b.notifications + if notifies (b, (now, a)) then 1 else 0 := by
    intro hp hl hr
    simp [Batch.notifications, hp, hl, hr]
  cases h with
  | enter =>
    unfold Batch.enter
    split
    · rename_i hs
      have heq := started hs
      exact Nat.le_of_eq heq
    · exact Nat.le_refl _
  | push =>
    unfold Batch.push
    split <;> exact Nat.le_refl _
  | signal =>
    have hcount : b.notify.notifications ≤ b.notifications + 1 := by
      unfold Batch.notifications notify
      split
      · rename_i hl
        simp [hl, Loop.isNotified]
      · simp only [Bool.toNat_true]
        omega
    exact hcount
  | start hs => exact Nat.le_of_eq (started hs)
  | park ready =>
    simp only [Batch.notifications, Batch.park, ready, Loop.isNotified]
    cases b.permit <;> cases b.settings.fireOnFull <;> simp [rouses, notifies]
  | @wakeDelay deadline notified parked _ =>
    simp only [Batch.notifications, parked, Loop.isNotified]
    cases b.permit <;> cases notified <;> simp [rouses, notifies]
  | wakeFull parked => simp [Batch.notifications, parked, Loop.isNotified, rouses, notifies]
  | @exit deadline notified parked _ =>
    simp only [Batch.notifications, parked, Loop.isNotified]
    cases b.permit <;> cases notified <;> simp [rouses, notifies]
  | @drain wake draining =>
    have asleep : (b.drainQueue wake).loop.isNotified = false := by
      unfold drainQueue
      split
      · rfl
      · dsimp only
        split <;> rfl
    simp only [Batch.notifications, asleep, (b.drainQueue_permit wake).1]
    simp [draining, rouses, notifies]
  | @fire wake jobs left firing =>
    simp only [Batch.notifications, Batch.fire, firing]
    split <;> simp [Loop.isNotified, rouses, notifies]
  | _ => exact same rfl rfl rfl

end

/-! ### From notifications to batches -/

section

variable {b c : Batch} {now : Nat} {a : Action}

/-- Only a drain takes a batch out. -/
theorem Moves.batches (hb : Orderly b) (h : Moves now b a c) (other : a ≠ .drain) :
    c.batches = b.batches := by
  have same : c.rounds = b.rounds → c.loop.draft? = b.loop.draft? → c.batches = b.batches := by
    intro hr hl
    rw [Batch.batches, hr, hl, ← Batch.batches]
  have started : ∀ {s : Batch}, b.start now = .ok s → s.loop.draft? = b.loop.draft? := by
    intro s hs
    rcases start_loop hs with hl | ⟨idle, hl⟩
    · rw [hl]
    · rw [hl, hb.idle idle]
      rfl
  -- The request of a round changes neither its jobs nor what it was taken for.
  have rephase : ∀ {n : Nat} {round : Round} (phase : RoundPhase), b.rounds.get? n = some round →
      (b.rounds.insert n { round with phase }).values.map (fun round => (round.wake, round.jobs)) =
        b.rounds.values.map fun round => (round.wake, round.jobs) := by
    intro n round phase hat
    obtain ⟨before, after, h₁, h₂⟩ := Table.values_insert_of_some { round with phase } hat
    simp [h₁, h₂]
  cases h with
  | enter =>
    refine same (b.enter_frame ..).2.1 ?_
    unfold Batch.enter
    split
    · rename_i hs
      have heq := started hs
      exact heq
    · rfl
  | push => exact same (b.push_frame ..).1 (by rw [(b.push_frame ..).2.2.1])
  | signal =>
    refine same (by simp [(notify_frame b).2.1]) ?_
    rw [setCall_loop]
    unfold notify
    split
    · rename_i hl
      rw [hl]
      rfl
    · rfl
  | start hs => exact same (start_frame hs).2.1 (started hs)
  | park ready => exact same rfl (by rw [ready]; rfl)
  | wakeDelay parked | wakeFull parked | exit parked => exact same rfl (by rw [parked]; rfl)
  | drain => exact absurd rfl other
  | @fire wake jobs left firing =>
    have hnone : (b.fire now wake jobs left).loop.draft? = none := by
      simp only [Batch.fire]
      split <;> rfl
    rw [Batch.batches, hnone, Batch.batches, firing]
    simp [Batch.fire, Table.values_insert_of_none _ hb.numbered.next, Loop.draft?]
  | send hat _ =>
    simp only [Batch.batches]
    rw [rephase _ hat]
  | deliver hat _ =>
    simp only [Batch.batches, Batch.deliver]
    rw [rephase _ hat]
    rfl
  | _ => exact same rfl rfl

/-- A loop that takes one more batch has been notified, or was about to take one before. -/
theorem Spins.isRoused {loop : Loop} {permit : Bool} (h : Spins now b a loop permit)
    (other : a ≠ .drain) (roused : loop.isRoused b.settings.batchSize = true) :
    b.loop.isRoused b.settings.batchSize = true ∨ rouses (b, (now, a)) = true := by
  cases h with
  | same | store => exact .inl roused
  | @wake cause =>
    cases cause with
    | delay => cases roused
    | full => exact .inr rfl
  | crash | rest | take => exact absurd rfl other
  | @again cause _ _ firing _ more =>
    cases cause with
    | delay => cases roused
    | full =>
      rw [firing]
      exact .inl (decide_eq_true more)
  | _ => cases roused

/-- A loop that is about to fire was so before, unless it has just drained the queue. -/
theorem Spins.firing {loop : Loop} {permit : Bool} (h : Spins now b a loop permit)
    (other : a ≠ .drain) {wake : Wake} {jobs : List Job} {left : Nat}
    (fires : loop = .firing wake jobs left) : loop = b.loop := by
  cases h with
  | same | store => rfl
  | crash | rest | take => exact absurd rfl other
  | _ => cases fires

/-- As long as the queue is open, a step other than a drain can only add a job to it, and then it
fills a batch or not. -/
theorem Moves.queue (h : Moves now b a c) (full : b.settings.fireOnFull = true)
    (other : a ≠ .drain) (opened : c.closed = false) :
    b.closed = false ∧ c.queue.length / b.settings.batchSize =
      b.queue.length / b.settings.batchSize + if announces (b, (now, a)) then 1 else 0 := by
  have hclosed : b.closed = false := by
    cases h.halts with
    | neither closed => exact closed ▸ opened
    | first => exact opened
    | second => cases opened
  have same : c.queue = b.queue → announces (b, (now, a)) = false →
      b.closed = false ∧ c.queue.length / b.settings.batchSize =
        b.queue.length / b.settings.batchSize + if announces (b, (now, a)) then 1 else 0 := by
    intro hq ha
    simp [hclosed, hq, ha]
  cases h with
  | enter => exact same (b.enter_frame ..).1 rfl
  | @push id call _ _ =>
    refine ⟨hclosed, ?_⟩
    have hq : (b.push id call).queue.length = b.queue.length + 1 := by simp [Batch.push, hclosed]
    rw [hq, Nat.succ_div]
    simp [announces, hclosed, isFull, full, Nat.dvd_iff_mod_eq_zero]
  | signal => exact same (notify_frame b).1 rfl
  | start hs => exact same (start_frame hs).1 rfl
  | closeQueue => cases opened
  | drain => exact absurd rfl other
  | _ => exact same rfl rfl

/-- The account of a run in which somebody waits for every job: batches become full, calls notify
the loop of them, notifications wake it, and it takes batches out. -/
structure Ledger (log : List Entry) (b : Batch) : Prop where
  notified : log.countP rouses + b.notifications + signals b.calls ≤ log.countP announces
  announced : b.closed = false →
    log.countP announces = b.wholes + b.queue.length / b.settings.batchSize
  roused : b.earlies + (if b.loop.isRoused b.settings.batchSize then 1 else 0) ≤ log.countP rouses
  matched : b.earlies ≤ b.wholes
  whole : ∀ wake jobs left, b.loop = .firing wake jobs left →
    jobs.length = b.settings.batchSize ∨
      0 < jobs.length ∧ jobs.length < b.settings.batchSize ∧ left = 0

theorem ledger_ofSettings (settings : BatchSettings) : Ledger [] (ofSettings settings) where
  notified := Nat.le_refl _
  announced _ := by simp [ofSettings, wholes, batches, Table.values, Loop.draft?]
  roused := Nat.le_refl _
  matched := Nat.le_refl _
  whole wake jobs left h := by cases h

/-- A drain neither announces a batch nor wakes the loop. -/
theorem countP_announces_drain (log : List Entry) :
    (log ++ [(b, (now, Action.drain))]).countP announces = log.countP announces := by
  simp [announces]

theorem countP_rouses_drain (log : List Entry) :
    (log ++ [(b, (now, Action.drain))]).countP rouses = log.countP rouses := by
  simp [rouses]

namespace Ledger

variable {log : List Entry}

theorem notified_move (hl : Ledger log b) (hb : Orderly b) (h : Moves now b a c) :
    (log ++ [(b, (now, a))]).countP rouses + c.notifications + Batch.signals c.calls ≤
      (log ++ [(b, (now, a))]).countP announces := by
  have hcalls := h.signals
  have hloop := h.notifications hb
  have hold := hl.notified
  simp only [List.countP_append, List.countP_singleton]
  omega

/-- A step other than a drain takes no batch out. -/
theorem other_move (hl : Ledger log b) (hb : Orderly b) (full : b.settings.fireOnFull = true)
    (positive : 0 < b.settings.batchSize) (h : Moves now b a c) (other : a ≠ .drain) :
    Ledger (log ++ [(b, (now, a))]) c := by
  have hbatches := h.batches hb other
  have hsettings := h.settings
  have hspins := h.spins hb positive
  have hearlies : c.earlies = b.earlies := by rw [earlies, earlies, hbatches, hsettings]
  have hwholes : c.wholes = b.wholes := by rw [wholes, wholes, hbatches, hsettings]
  refine ⟨hl.notified_move hb h, fun opened => ?announced, ?roused, ?matched, ?whole⟩
  case announced =>
    obtain ⟨hclosed, hqueue⟩ := h.queue full other opened
    have hold := hl.announced hclosed
    simp only [List.countP_append, List.countP_singleton]
    rw [hwholes, hsettings, hqueue, hold]
    omega
  case roused =>
    have hold := hl.roused
    simp only [List.countP_append, List.countP_singleton]
    rw [hearlies, hsettings]
    by_cases hnow : c.loop.isRoused b.settings.batchSize = true
    · rw [if_pos hnow]
      rcases hspins.isRoused other hnow with hbefore | hrouses
      · rw [if_pos hbefore] at hold
        omega
      · rw [if_pos hrouses]
        omega
    · rw [if_neg hnow]
      omega
  case matched =>
    rw [hearlies, hwholes]
    exact hl.matched
  case whole =>
    intro wake jobs left hfiring
    have hsame : c.loop = b.loop := hspins.firing other hfiring
    rw [hsettings]
    exact hl.whole wake jobs left (hsame ▸ hfiring)

/-- A drain that takes nothing changes nothing in the account. -/
theorem rest_move (hl : Ledger log b) (hb : Orderly b) (h : Moves now b .drain c)
    (asleep : c.loop = .crashed ∨ c.loop = .ready) (closed : c.closed = b.closed)
    (queue : c.queue = b.queue) (batches : c.batches = b.batches) :
    Ledger (log ++ [(b, (now, .drain))]) c := by
  have hsettings := h.settings
  have hrests : c.loop.isRoused b.settings.batchSize = false := by
    rcases asleep with hloop | hloop <;> rw [hloop] <;> rfl
  have hearlies : c.earlies = b.earlies := by rw [earlies, earlies, batches, hsettings]
  have hwholes : c.wholes = b.wholes := by rw [wholes, wholes, batches, hsettings]
  refine ⟨hl.notified_move hb h, fun opened => ?announced, ?roused, ?matched, ?whole⟩
  case announced =>
    rw [countP_announces_drain, hwholes, queue, hsettings]
    exact hl.announced (closed ▸ opened)
  case roused =>
    have hold := hl.roused
    rw [countP_rouses_drain, hearlies, hsettings, hrests]
    simp only [Bool.false_eq_true, if_false]
    omega
  case matched =>
    rw [hearlies, hwholes]
    exact hl.matched
  case whole =>
    intro wake jobs left firing
    rcases asleep with hloop | hloop <;> simp [hloop] at firing

/-- A drain takes a full batch out, or whatever is left. A short batch that it takes out because of
a notification has a full batch to match it, for the notification was about a full one. -/
theorem take_move (hl : Ledger log b) (hb : Orderly b) (positive : 0 < b.settings.batchSize)
    (opened : b.closed = false) (queued : b.queue ≠ []) {wake : Wake}
    (draining : b.loop = .draining wake) (h : Moves now b .drain c)
    (firing : c.loop = .firing wake (b.queue.take b.settings.batchSize)
      (b.queue.length - b.settings.batchSize))
    (queue : c.queue = b.queue.drop b.settings.batchSize)
    (batches : c.batches = b.batches ++ [(wake, b.queue.take b.settings.batchSize)]) :
    Ledger (log ++ [(b, (now, .drain))]) c := by
  have hsettings := h.settings
  have hlen : 0 < b.queue.length := List.length_pos_iff.mpr queued
  have htaken : (b.queue.take b.settings.batchSize).length =
      min b.settings.batchSize b.queue.length := List.length_take
  have hearlies : c.earlies = b.earlies +
      if wake = .full ∧ b.queue.length < b.settings.batchSize then 1 else 0 := by
    have hless : min b.settings.batchSize b.queue.length < b.settings.batchSize ↔
        b.queue.length < b.settings.batchSize := by omega
    rw [earlies, earlies, batches, hsettings]
    simp [List.countP_append, List.countP_singleton, hless]
  have hwholes : c.wholes = b.wholes +
      if b.settings.batchSize ≤ b.queue.length then 1 else 0 := by
    have hequal : min b.settings.batchSize b.queue.length = b.settings.batchSize ↔
        b.settings.batchSize ≤ b.queue.length := by omega
    rw [wholes, wholes, batches, hsettings]
    simp [List.countP_append, List.countP_singleton, hequal]
  have hroused := hl.roused
  have hcount := hl.announced opened
  rw [draining] at hroused
  refine ⟨hl.notified_move hb h, fun _ => ?announced, ?roused, ?matched, ?whole⟩
  case announced =>
    rw [countP_announces_drain, hwholes, queue, hsettings, hcount, List.length_drop]
    split
    · rw [Nat.div_eq_sub_div positive ‹_›]
      omega
    · rw [Nat.div_eq_of_lt (by omega), Nat.div_eq_of_lt (by omega)]
  case roused =>
    rw [countP_rouses_drain, hearlies, hsettings, firing]
    cases wake with
    | delay => simpa [Loop.isRoused] using hroused
    | full =>
      simp only [Loop.isRoused, decide_eq_true_eq, true_and, if_true] at hroused ⊢
      split <;> split <;> omega
  case matched =>
    have hold := hl.matched
    have hpaid := hl.notified
    rw [hearlies, hwholes]
    by_cases hshort : wake = .full ∧ b.queue.length < b.settings.batchSize
    · -- No full batch is left to be announced.
      rw [Nat.div_eq_of_lt hshort.2] at hcount
      rw [hshort.1] at hroused
      simp only [Loop.isRoused, if_true] at hroused
      rw [if_pos hshort]
      omega
    · rw [if_neg hshort]
      omega
  case whole =>
    intro wake' jobs left hfiring
    obtain ⟨rfl, rfl, rfl⟩ := Loop.firing.inj (firing.symm.trans hfiring)
    rw [hsettings, htaken]
    omega

theorem drain_move (hl : Ledger log b) (hb : Orderly b) (positive : 0 < b.settings.batchSize)
    (kept : ∀ job ∈ b.queue, b.isGone job = false) (shut : b.closed = true → b.queue = [])
    (h : Moves now b .drain c) : Ledger (log ++ [(b, (now, .drain))]) c := by
  have hm := h
  cases h with
  | @drain wake draining =>
    rcases drainQueue_kept kept positive draining with ⟨hasleep, hqueue, hbatches⟩ |
      ⟨hne, hfiring, hqueue, hbatches⟩
    · exact hl.rest_move hb hm hasleep (b.drainQueue_stops wake).1 hqueue hbatches
    · have opened : b.closed = false := by
        by_contra hclosed
        exact hne (shut (by simpa using hclosed))
      exact hl.take_move hb positive opened hne draining hm hfiring hqueue hbatches

end Ledger

variable {settings : BatchSettings} {log : List Entry}

theorem ledger_of_history (h : History Step (ofSettings settings) log b)
    (full : settings.fireOnFull = true) (patient : ∀ e ∈ log, e.2.2.isPatient = true) :
    Ledger log b := by
  induction h with
  | start => exact ledger_ofSettings settings
  | @next log b c a h hs ih =>
    obtain ⟨hold, -⟩ := List.forall_mem_append.mp patient
    obtain ⟨now, action⟩ := a
    have hl := ih hold
    have hb := orderly_of_history h
    have hm := moves_of_step? hs
    have positive := positive_of_history h
    have full' : b.settings.fireOnFull = true := by
      rw [(attentive_of_history h full).2.2]
      exact full
    by_cases hdrain : action = .drain
    · subst hdrain
      exact hl.drain_move hb positive (kept_of_history h hold)
        (fun closed => (shut_of_history h closed).empty) hm
    · exact hl.other_move hb full' positive hm hdrain

end

/-- What is true of the batches of a run in which nobody cancels or drops a call, if full batches
need not wait for the delay. -/
structure Paced (log : List Entry) (b : Batch) : Prop where
  /-- A batch is full, or it leaves nothing behind. -/
  whole : ∀ wake jobs left, b.loop = .firing wake jobs left →
    jobs.length = b.settings.batchSize ∨
      0 < jobs.length ∧ jobs.length < b.settings.batchSize ∧ left = 0
  /-- The loop is woken by a notification at most as often as a batch has become full. -/
  roused : log.countP rouses ≤ log.countP announces
  /-- Whatever has become full has been taken out or is in the queue. -/
  announced : b.closed = false →
    log.countP announces = b.wholes + b.queue.length / b.settings.batchSize
  /-- There are never more short batches that did not wait for the delay than full batches. -/
  matched : b.earlies ≤ b.wholes

section

variable {settings : BatchSettings} {log : List Entry} {b : Batch}

/-- A short batch goes out without having waited only for a notification that has outlived its own
batch, and so at most once for each full batch. -/
theorem short_batches_are_matched (h : History Step (ofSettings settings) log b)
    (full : settings.fireOnFull = true) (patient : ∀ e ∈ log, e.2.2.isPatient = true) :
    Paced log b := by
  have hl := ledger_of_history h full patient
  have hnotified := hl.notified
  exact ⟨hl.whole, by omega, hl.announced, hl.matched⟩

/-- The delay is over while a call is about to tell that a batch is full. Its notification comes
when the batch has been taken out, and the next job goes out without waiting. -/
theorem short_batches_are_matched_by_late_signal :
    ∃ log, ∃ b : Batch, History Step (ofSettings { batchSize := 2, fireOnFull := true }) log b ∧
      (∀ e ∈ log, e.2.2.isPatient = true) ∧ Paced log b ∧
      b.loop = .firing .full [⟨2, "Dinnerbone"⟩] 0 ∧ b.earlies = 1 ∧ b.wholes = 1 := by
  have h := History.of_replay_all (fun (b : Batch) a => b.step? a.1 a.2)
    (ofSettings { batchSize := 2, fireOnFull := true }) (fun e => e.2.2.isPatient = true)
    [(0, .enter 0 "Notch" none), (0, .push 0), (0, .park), (0, .enter 1 "jeb_" none),
      (0, .push 1), (Time.millis 2500, .wake .delay), (Time.millis 2500, .drain),
      (Time.millis 2500, .signal 1), (Time.millis 2500, .fire), (Time.millis 2500, .park),
      (Time.millis 2600, .enter 2 "Dinnerbone" (some false)), (Time.millis 2600, .push 2),
      (Time.millis 2600, .wake .full), (Time.millis 2600, .drain)]
    (by simp [Action.isPatient]) rfl
  exact ⟨_, _, h.1, h.2, short_batches_are_matched h.1 rfl h.2, rfl, rfl, rfl⟩

/-- Five names, for batches of two, come while the loop waits with an empty queue. The second full
batch notifies it once more, and so the last name is sent at once. -/
theorem short_batch_goes_out_early :
    ∃ before log, ∃ t b : Batch,
      History Step (ofSettings { batchSize := 2, delay := 1000, fireOnFull := true }) before t ∧
      t.queue = [] ∧ t.loop = .parked (Time.millis 1000) false ∧
      History Step t log b ∧ (∀ e ∈ log, e.2.1 = 0 ∧ e.2.2.isPatient = true) ∧
      b.rounds.values = [
        { jobs := [⟨0, "a1"⟩, ⟨1, "b2"⟩], wake := .full, drainedAt := 0 },
        { jobs := [⟨2, "c3"⟩, ⟨3, "d4"⟩], wake := .full, drainedAt := 0 },
        { jobs := [⟨4, "e5"⟩], wake := .full, drainedAt := 0 }] := by
  have h : History Step (ofSettings { batchSize := 2, delay := 1000, fireOnFull := true }) _ _ :=
    History.of_replay [(0, .start), (0, .park)] rfl
  have k := History.of_replay_all (fun (b : Batch) a => b.step? a.1 a.2)
    { ofSettings { batchSize := 2, delay := 1000, fireOnFull := true } with
      lifecycle := .running, starts := [0], loop := .parked (Time.millis 1000) false }
    (fun e => e.2.1 = 0 ∧ e.2.2.isPatient = true)
    [(0, .enter 0 "a1" none), (0, .push 0), (0, .enter 1 "b2" none), (0, .push 1), (0, .signal 1),
      (0, .enter 2 "c3" none), (0, .push 2), (0, .enter 3 "d4" none), (0, .push 3), (0, .signal 3),
      (0, .enter 4 "e5" none), (0, .push 4), (0, .wake .full), (0, .drain), (0, .fire), (0, .drain),
      (0, .fire), (0, .park), (0, .wake .full), (0, .drain), (0, .fire)]
    (by simp [Action.isPatient]) rfl
  exact ⟨_, _, _, _, h, rfl, rfl, k.1, k.2, rfl⟩

end

end SkinRelay.Batch
