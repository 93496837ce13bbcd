import SkinRelay.Proofs.Batch.Conservation

/-!
No full batch is overlooked. If full batches need not wait for the delay, then as long as the queue
holds a batch, the loop has been notified, or a call is about to notify it, or the loop drains the
queue once more before it waits. The main result, `full_batches_are_announced`, says so of every
run, and that a loop which waits again has left less than a batch behind.
-/

namespace SkinRelay.Batch

/-- Why a full batch in the queue is not overlooked. -/
inductive Alerted (b : Batch) : Prop
  /-- The loop has been notified while it was not waiting. -/
  | stored (permit : b.permit = true)
  /-- The loop has been notified while it was waiting. -/
  | woken {deadline : Nat} (parked : b.loop = .parked deadline true)
  /-- A call has queued its job, and has not notified the loop yet. -/
  | coming {id : Nat} {call : Call} (at_ : b.calls.get? id = some call)
      (signalling : call.phase = .signalling)
  | draining {wake : Wake} (awake : b.loop = .draining wake)
  /-- The last drain has left a batch, and so another one follows. -/
  | firing {wake : Wake} {jobs : List Job} {left : Nat} (awake : b.loop = .firing wake jobs left)
      (again : b.settings.batchSize ≤ left)

/-- Whether a full batch in the queue is not overlooked, unless the loop has crashed. -/
def Announced (b : Batch) : Prop :=
  b.loop ≠ .crashed → b.settings.batchSize ≤ b.queue.length → Alerted b

/-! ### What the operations leave alone -/

section

variable {b c : Batch} {now : Nat} {a : Action}

theorem notify_settings (b : Batch) : b.notify.settings = b.settings := by
  unfold notify
  split <;> rfl

theorem notify_notified (b : Batch) :
    b.notify.permit = true ∨ ∃ deadline, b.notify.loop = .parked deadline true := by
  unfold notify
  split
  · exact .inr ⟨_, rfl⟩
  · exact .inl rfl

theorem start_permit (h : b.start now = .ok c) : c.permit = b.permit := by
  unfold start at h
  split at h <;> cases h <;> rfl

/-- A start makes a loop if there was none, and else leaves the loop alone. -/
theorem start_loop (h : b.start now = .ok c) :
    c.loop = b.loop ∨ b.lifecycle = .idle ∧ c.loop = .ready := by
  unfold start at h
  split at h
  · cases h
    exact .inl rfl
  · cases h
  · rename_i idle
    cases h
    exact .inr ⟨idle, rfl⟩

theorem drainQueue_permit (b : Batch) (wake : Wake) :
    (b.drainQueue wake).permit = b.permit ∧ (b.drainQueue wake).settings = b.settings := by
  unfold drainQueue
  split
  · exact ⟨rfl, rfl⟩
  · dsimp only
    split <;> exact ⟨rfl, rfl⟩

theorem Moves.settings (h : Moves now b a c) : c.settings = b.settings := by
  cases h with
  | enter =>
    unfold Batch.enter
    split
    · rename_i hs
      exact (start_frame hs).2.2.2.2.2
    · rfl
  | push =>
    unfold Batch.push
    split <;> rfl
  | signal => exact notify_settings b
  | start hs => exact (start_frame hs).2.2.2.2.2
  | drain => exact (b.drainQueue_permit _).2
  | _ => rfl

/-- After a drain the loop waits again if it has taken nothing, and then nothing is left; else it
fires what it has taken, and remembers how much is left. -/
theorem drainQueue_loop (b : Batch) (wake : Wake) (positive : 0 < b.settings.batchSize) :
    (b.drainQueue wake).loop = .crashed ∧ maxBuffered < b.settings.batchSize ∨
      (b.drainQueue wake).loop = .ready ∧ (b.drainQueue wake).queue = [] ∨
      ∃ jobs, (b.drainQueue wake).loop = .firing wake jobs (b.drainQueue wake).queue.length := by
  unfold drainQueue
  split
  · exact .inl ⟨rfl, ‹_›⟩
  · right
    dsimp only
    split
    · rename_i hnone
      refine .inl ⟨rfl, ?_⟩
      apply drain_rest_of_short
      rw [List.isEmpty_iff.mp hnone]
      exact positive
    · exact .inr ⟨_, rfl⟩

/-! ### Notifications are kept -/

/-- Whatever leaves the loop and the permit alone, and calls that are about to notify the loop, keeps
the loop alerted. -/
theorem Alerted.frame (h : Alerted b) (hp : c.permit = b.permit) (hl : c.loop = b.loop)
    (hs : c.settings = b.settings)
    (hc : ∀ id call, b.calls.get? id = some call → call.phase = .signalling →
      ∃ next, c.calls.get? id = some next ∧ next.phase = .signalling) : Alerted c := by
  cases h with
  | stored permit => exact .stored (hp.trans permit)
  | woken parked => exact .woken (hl.trans parked)
  | coming at_ signalling =>
    obtain ⟨next, hn, hsig⟩ := hc _ _ at_ signalling
    exact .coming hn hsig
  | draining awake => exact .draining (hl.trans awake)
  | firing awake again => exact .firing (hl.trans awake) (hs ▸ again)

/-- A call that does something else than to notify the loop leaves the other calls alone. -/
theorem signalling_of_insert {calls : Table Nat Call} {i : Nat} {old : Option Call} {next : Call}
    (hold : calls.get? i = old) (hne : ∀ call, old = some call → call.phase ≠ .signalling) {id : Nat}
    {call : Call} (hc : calls.get? id = some call) (hs : call.phase = .signalling) :
    ∃ d, (calls.insert i next).get? id = some d ∧ d.phase = .signalling := by
  have hid : id ≠ i := by
    rintro rfl
    exact hne call (hold.symm.trans hc) hs
  exact ⟨call, by simpa [hid] using hc, hs⟩

/-- A start alerts nobody and keeps whoever is alerted. -/
theorem Alerted.start (hb : Orderly b) (h : Alerted b) (hs : b.start now = .ok c) : Alerted c := by
  obtain ⟨-, -, -, hcalls, -, hsettings⟩ := start_frame hs
  rcases start_loop hs with hl | ⟨idle, -⟩
  · exact h.frame (start_permit hs) hl hsettings fun id call hc hsig => ⟨call, hcalls ▸ hc, hsig⟩
  · -- There was no loop, and so nothing but the permit and the calls can alert it.
    have absent := hb.idle idle
    cases h with
    | stored permit => exact .stored ((start_permit hs).trans permit)
    | coming at_ signalling => exact .coming (hcalls ▸ at_) signalling
    | woken awake | draining awake | firing awake => simp [absent] at awake

theorem announced_start (hb : Orderly b) (ha : Announced b) (hs : b.start now = .ok c) :
    Announced c := by
  intro alive hlen
  obtain ⟨hq, -, -, -, -, hsettings⟩ := start_frame hs
  refine (ha ?_ (hsettings ▸ hq ▸ hlen)).start hb hs
  rcases start_loop hs with hl | ⟨idle, -⟩
  · exact hl ▸ alive
  · simp [hb.idle idle]

/-- A call is rejected, or queues its job and goes on to notify the loop if that filled a batch. -/
theorem push_spec (b : Batch) (id : Nat) (call : Call) :
    b.push id call = b.setCall id call (.returned (.error .queueStopped)) ∨
      ∃ phase, b.push id call =
          ({ b with queue := b.queue ++ [⟨id, call.username⟩] } : Batch).setCall id call phase ∧
        (b.isFull (b.queue.length + 1) = true → phase = .signalling) := by
  unfold Batch.push
  split
  · exact .inl rfl
  · refine .inr ⟨_, rfl, ?_⟩
    intro hfull
    have hlen : (b.queue ++ [(⟨id, call.username⟩ : Job)]).length = b.queue.length + 1 := by simp
    rw [hlen]
    exact if_pos hfull

theorem announced_push (hb : Announced b) {id : Nat} {call : Call}
    (full : b.settings.fireOnFull = true) (hc : b.calls.get? id = some call)
    (entered : call.phase = .entered) : Announced (b.push id call) := by
  have keep : ∀ phase i d, b.calls.get? i = some d → d.phase = .signalling →
      ∃ d', (b.calls.insert id { call with phase }).get? i = some d' ∧ d'.phase = .signalling := by
    intro phase i d hd hsig
    refine signalling_of_insert hc ?_ hd hsig
    simp [entered]
  intro alive hlen
  rcases b.push_spec id call with hpush | ⟨phase, hpush, hsignals⟩
  · rw [hpush] at alive hlen ⊢
    exact (hb alive hlen).frame rfl rfl rfl (keep _)
  · rw [hpush] at alive hlen ⊢
    by_cases hfull : b.isFull (b.queue.length + 1) = true
    · have hself : (b.calls.insert id { call with phase }).get? id = some { call with phase } := by
        simp
      exact .coming hself (hsignals hfull)
    · -- The queue has reached no multiple of the batch, and so it held a batch before.
      have hmod : (b.queue.length + 1) % b.settings.batchSize ≠ 0 := by
        simpa [isFull, full] using hfull
      have hlen' : b.settings.batchSize ≤ b.queue.length + 1 := by
        have h : b.settings.batchSize ≤ (b.queue ++ [(⟨id, call.username⟩ : Job)]).length := hlen
        simpa using h
      have hne : b.settings.batchSize ≠ b.queue.length + 1 := by
        intro heq
        rw [heq, Nat.mod_self] at hmod
        exact hmod rfl
      exact (hb alive (by omega)).frame rfl rfl rfl (keep _)

/-- A loop that begins to wait takes the notification that came before. -/
theorem Alerted.park (h : Alerted b) (full : b.settings.fireOnFull = true)
    (ready : b.loop = .ready) : Alerted (b.park now) := by
  cases h with
  | stored permit =>
    have parked : (b.park now).loop = .parked (now + Time.millis b.settings.delay) true := by
      simp [Batch.park, full, permit]
    exact .woken parked
  | coming at_ signalling => exact .coming at_ signalling
  | woken awake | draining awake | firing awake => simp [ready] at awake

/-- A loop that ends while it waits gives back the notification that it has got. -/
theorem Alerted.exit (h : Alerted b) {deadline : Nat} {notified : Bool}
    (parked : b.loop = .parked deadline notified) :
    Alerted { b with loop := .exited, permit := b.permit || notified } := by
  cases h with
  | stored permit => exact .stored (by simp [permit])
  | woken parked' =>
    cases parked.symm.trans parked'
    exact .stored (by simp)
  | coming at_ signalling => exact .coming at_ signalling
  | draining awake | firing awake => simp [parked] at awake

theorem Alerted.fire (h : Alerted b) (full : b.settings.fireOnFull = true) {wake : Wake}
    {jobs : List Job} {left : Nat} (firing : b.loop = .firing wake jobs left) :
    Alerted (b.fire now wake jobs left) := by
  by_cases again : b.settings.batchSize ≤ left
  · have awake : (b.fire now wake jobs left).loop = .draining wake := by
      simp [Batch.fire, full, again]
    exact .draining awake
  · cases h with
    | stored permit => exact .stored permit
    | coming at_ signalling => exact .coming at_ signalling
    | woken awake | draining awake => simp [firing] at awake
    | firing awake again' =>
      cases firing.symm.trans awake
      exact absurd again' again

/-- A step keeps the loop alerted of a full batch, or alerts it of one that has just come. -/
theorem announced_move (hb : Orderly b) (ha : Announced b) (full : b.settings.fireOnFull = true)
    (positive : 0 < b.settings.batchSize) (h : Moves now b a c) : Announced c := by
  intro alive hlen
  -- What leaves the queue and the loop alone has only calls to look after.
  have frame : c.queue = b.queue → c.permit = b.permit → c.loop = b.loop →
      (∀ id call, b.calls.get? id = some call → call.phase = .signalling →
        ∃ next, c.calls.get? id = some next ∧ next.phase = .signalling) → Alerted c := by
    intro hq hp hl hc
    rw [hl] at alive
    rw [h.settings, hq] at hlen
    exact (ha alive hlen).frame hp hl h.settings hc
  cases h with
  | @enter id username token new =>
    unfold Batch.enter at alive hlen ⊢
    cases hs : b.start now with
    | error error =>
      rw [hs] at alive hlen
      exact (ha alive hlen).frame rfl rfl rfl fun i call hc hsig =>
        signalling_of_insert new (by simp) hc hsig
    | ok s =>
      rw [hs] at alive hlen
      refine (announced_start hb ha hs alive hlen).frame rfl rfl rfl fun i d hd hsig => ?_
      exact signalling_of_insert ((start_frame hs).2.2.2.1 ▸ new) (by simp) hd hsig
  | push hc entered => exact announced_push ha full hc entered alive hlen
  | signal =>
    rcases b.notify_notified with permit | ⟨deadline, parked⟩
    · exact .stored permit
    · exact .woken parked
  | @collect id call result hc waiting ready =>
    exact frame rfl rfl rfl fun i d hd hsig =>
      signalling_of_insert hc (by simp [waiting]) hd hsig
  | @cancel id call hc armed =>
    refine frame rfl rfl rfl fun i d hd hsig => ?_
    by_cases hid : i = id
    · subst hid
      obtain rfl : d = call := Option.some.inj (hd.symm.trans hc)
      exact ⟨{ d with token := some true }, by simp, hsig⟩
    · exact ⟨d, by simpa [hid] using hd, hsig⟩
  | @drop id call hc waiting =>
    exact frame rfl rfl rfl fun i d hd hsig =>
      signalling_of_insert hc (by simp [waiting]) hd hsig
  | start hs => exact announced_start hb ha hs alive hlen
  | haltLoop => exact frame rfl rfl rfl fun i d hd hsig => ⟨d, hd, hsig⟩
  | closeQueue => exact absurd hlen (Nat.not_le.mpr positive)
  | park ready => exact (ha (by simp [ready]) hlen).park full ready
  | wakeDelay | wakeFull => exact .draining rfl
  | exit parked => exact (ha (by simp [parked]) hlen).exit parked
  | @drain wake draining =>
    rcases b.drainQueue_loop wake positive with ⟨crashed, -⟩ | ⟨-, hnil⟩ | ⟨jobs, firing⟩
    · exact absurd crashed alive
    · rw [hnil, (b.drainQueue_permit wake).2] at hlen
      exact absurd hlen (Nat.not_le.mpr positive)
    · exact .firing firing hlen
  | fire firing => exact (ha (by simp [firing]) hlen).fire full firing
  | send => exact frame rfl rfl rfl fun i d hd hsig => ⟨d, hd, hsig⟩
  | deliver => exact frame rfl rfl rfl fun i d hd hsig => ⟨d, hd, hsig⟩

end

/-! ### The loop -/

/-- `Spins now b a loop permit`: the action `a`, taken in `b`, leaves the loop and the permit like
this. -/
inductive Spins (now : Nat) (b : Batch) : Action → Loop → Bool → Prop
  | same {a : Action} (other : a ≠ .drain) : Spins now b a b.loop b.permit
  | begin {a : Action} (other : a ≠ .drain) (absent : b.loop = .absent) :
      Spins now b a .ready b.permit
  | store {id : Nat} (away : ∀ deadline, b.loop ≠ .parked deadline false) :
      Spins now b (.signal id) b.loop true
  | rouse {id deadline : Nat} (parked : b.loop = .parked deadline false) :
      Spins now b (.signal id) (.parked deadline true) b.permit
  | park (ready : b.loop = .ready) :
      Spins now b .park
        (.parked (now + Time.millis b.settings.delay) (b.settings.fireOnFull && b.permit))
        (b.permit && !(b.settings.fireOnFull && b.permit))
  | wake {cause : Wake} {deadline : Nat} {notified permit : Bool}
      (parked : b.loop = .parked deadline notified) :
      Spins now b (.wake cause) (.draining cause) permit
  | exit {deadline : Nat} {notified : Bool} (parked : b.loop = .parked deadline notified) :
      Spins now b .exit .exited (b.permit || notified)
  | crash {cause : Wake} (draining : b.loop = .draining cause)
      (large : maxBuffered < b.settings.batchSize) : Spins now b .drain .crashed b.permit
  | rest {cause : Wake} (draining : b.loop = .draining cause)
      (empty : (b.drainQueue cause).queue = []) : Spins now b .drain .ready b.permit
  | take {cause : Wake} {jobs : List Job} (draining : b.loop = .draining cause) :
      Spins now b .drain (.firing cause jobs (b.drainQueue cause).queue.length) b.permit
  | again {cause : Wake} {jobs : List Job} {left : Nat} (firing : b.loop = .firing cause jobs left)
      (full : b.settings.fireOnFull = true) (more : b.settings.batchSize ≤ left) :
      Spins now b .fire (.draining cause) b.permit
  | finish {cause : Wake} {jobs : List Job} {left : Nat} (firing : b.loop = .firing cause jobs left)
      (less : b.settings.fireOnFull = true → left < b.settings.batchSize) :
      Spins now b .fire .ready b.permit

section

variable {b c : Batch} {now : Nat} {a : Action}

theorem Moves.spins (hb : Orderly b) (positive : 0 < b.settings.batchSize) (h : Moves now b a c) :
    Spins now b a c.loop c.permit := by
  have started : ∀ {a s}, a ≠ .drain → b.start now = .ok s → Spins now b a s.loop s.permit := by
    intro a s ha hs
    rw [start_permit hs]
    rcases start_loop hs with hl | ⟨idle, hl⟩
    · rw [hl]
      exact .same ha
    · rw [hl]
      exact .begin ha (hb.idle idle)
  cases h with
  | enter =>
    unfold Batch.enter
    split
    · rename_i hs
      rw [setCall_loop]
      exact started (by simp) hs
    · exact .same (by simp)
  | @push id call =>
    rcases b.push_spec id call with hpush | ⟨phase, hpush, -⟩
    · rw [hpush]
      exact .same (by simp)
    · rw [hpush]
      exact .same (by simp)
  | signal =>
    simp only [setCall_loop]
    unfold notify
    split
    · exact .rouse ‹_›
    · rename_i hne
      exact .store hne
  | start hs => exact started (by simp) hs
  | park ready => exact .park ready
  | wakeDelay parked => exact .wake parked
  | wakeFull parked => exact .wake parked
  | exit parked => exact .exit parked
  | @drain wake draining =>
    rw [(b.drainQueue_permit wake).1]
    rcases b.drainQueue_loop wake positive with ⟨hl, large⟩ | ⟨hl, empty⟩ | ⟨jobs, hl⟩
    · rw [hl]
      exact .crash draining large
    · rw [hl]
      exact .rest draining empty
    · rw [hl]
      exact .take draining
  | @fire wake jobs left firing =>
    simp only [Batch.fire]
    split
    · rename_i more
      simp only [Bool.and_eq_true, decide_eq_true_eq] at more
      exact .again firing more.1 more.2
    · rename_i less
      refine .finish firing fun full => ?_
      simpa [full] using less
  | _ => exact .same (by simp)

/-- What is true of the loop between two steps, if full batches need not wait for the delay. -/
structure Attentive (b : Batch) : Prop where
  announced : Announced b
  /-- A loop that waits unnotified has missed no notification. -/
  unnotified : ∀ deadline, b.loop = .parked deadline false → b.permit = false
  /-- A loop has crashed only for want of a buffer. -/
  crashed : b.loop = .crashed → maxBuffered < b.settings.batchSize

theorem Attentive.move (hb : Orderly b) (ha : Attentive b) (full : b.settings.fireOnFull = true)
    (positive : 0 < b.settings.batchSize) (h : Moves now b a c) : Attentive c where
  announced := announced_move hb ha.announced full positive h
  unnotified deadline hp := by
    have hs := h.spins hb positive
    rw [hp] at hs
    generalize hl : Loop.parked deadline false = loop at hs
    generalize c.permit = permit at hs ⊢
    cases hs with
    | same => exact ha.unnotified deadline hl.symm
    | store away => exact absurd hl.symm (away deadline)
    | park => simp_all
    | _ => cases hl
  crashed hcrash := by
    have hs := h.spins hb positive
    rw [h.settings]
    rw [hcrash] at hs
    generalize hl : Loop.crashed = loop at hs
    generalize c.permit = permit at hs
    cases hs with
    | same | store => exact ha.crashed hl.symm
    | crash _ large => exact large
    | _ => cases hl

end

theorem attentive_ofSettings (settings : BatchSettings) : Attentive (ofSettings settings) where
  announced _ hlen := by
    have positive : 1 ≤ max settings.batchSize 1 := Nat.le_max_right _ _
    have empty : max settings.batchSize 1 ≤ 0 := hlen
    omega
  unnotified _ h := by cases h
  crashed h := by cases h

/-! ### The last drain -/

def isDrain (e : Entry) : Bool :=
  match e.2.2 with
  | .drain => true
  | _ => false

def lastDrain? (log : List Entry) : Option Entry :=
  (log.filter isDrain).getLast?

/-- The loop has work to do before it waits again. -/
def Loop.isAwake : Loop → Bool
  | .draining _ | .firing .. | .crashed => true
  | _ => false

/-- Where the loop may be after a drain that has left so many jobs. -/
def Loop.Follows (size left : Nat) : Loop → Prop
  | .draining _ | .crashed => True
  | .firing _ _ n => n = left
  | _ => left < size

theorem Loop.Follows.lt_of_asleep {size left : Nat} {loop : Loop} (h : loop.Follows size left)
    (asleep : loop.isAwake = false) : left < size := by
  cases loop with
  | draining | firing | crashed => cases asleep
  | absent | ready | parked | exited => exact h

/-- Where the loop is agrees with what the last drain left. -/
def Continues (log : List Entry) (b : Batch) : Prop :=
  ∀ e, lastDrain? log = some e → ∀ c, Step e.1 e.2 c →
    b.loop.Follows b.settings.batchSize c.queue.length

section

variable {settings : BatchSettings} {log : List Entry} {b c : Batch} {now : Nat} {a : Action}

theorem lastDrain?_concat_drain (log : List Entry) (b : Batch) (now : Nat) :
    lastDrain? (log ++ [(b, (now, .drain))]) = some (b, (now, .drain)) := by
  simp [lastDrain?, isDrain, List.filter_append]

theorem lastDrain?_concat (other : a ≠ .drain) :
    lastDrain? (log ++ [(b, (now, a))]) = lastDrain? log := by
  have h : isDrain (b, (now, a)) = false := by
    cases a <;> first | rfl | exact absurd rfl other
  simp [lastDrain?, List.filter_append, h]

/-- Without a drain in between, the loop goes on where the last drain has put it. -/
theorem Spins.follows {loop : Loop} {permit : Bool} {left : Nat} (h : Spins now b a loop permit)
    (other : a ≠ .drain) (full : b.settings.fireOnFull = true)
    (hb : b.loop.Follows b.settings.batchSize left) : loop.Follows b.settings.batchSize left := by
  cases h with
  | same | store => exact hb
  | begin _ absent =>
    rw [absent] at hb
    exact hb
  | rouse parked | exit parked =>
    rw [parked] at hb
    exact hb
  | park ready =>
    rw [ready] at hb
    exact hb
  | wake | again => trivial
  | crash | rest | take => exact absurd rfl other
  | finish firing less =>
    rw [firing] at hb
    obtain rfl : _ = left := hb
    exact less full

theorem continues_next (hb : Orderly b) (hd : Continues log b) (full : b.settings.fireOnFull = true)
    (positive : 0 < b.settings.batchSize) (h : Step b (now, a) c) :
    Continues (log ++ [(b, (now, a))]) c := by
  have hm := moves_of_step? h
  have hs := hm.spins hb positive
  intro e he d hstep
  by_cases ha : a = .drain
  · subst ha
    rw [lastDrain?_concat_drain] at he
    cases he
    obtain rfl : c = d := Option.some.inj (h.symm.trans hstep)
    cases hm with
    | @drain wake draining =>
      rw [(b.drainQueue_permit wake).2]
      rcases b.drainQueue_loop wake positive with ⟨hl, -⟩ | ⟨hl, empty⟩ | ⟨jobs, hl⟩
      · rw [hl]
        trivial
      · rw [hl, empty]
        exact positive
      · rw [hl]
        rfl
  · rw [lastDrain?_concat ha] at he
    rw [hm.settings]
    exact hs.follows ha full (hd e he d hstep)

/-- What full batches can rely on in a run, if they need not wait for the delay. -/
structure Watchful (log : List Entry) (b : Batch) : Prop where
  /-- A full batch is not overlooked while there is a loop. -/
  announced : b.loop ≠ .crashed → b.settings.batchSize ≤ b.queue.length → Alerted b
  /-- A loop crashes only if no buffer, not even that of the queue, can hold a batch. -/
  crashed : b.loop = .crashed → maxBuffered < b.settings.batchSize
  /-- A loop that waits while there is a full batch can wake up at once, if no call is about to
  notify it. -/
  roused : ∀ deadline notified, b.loop = .parked deadline notified →
    b.settings.batchSize ≤ b.queue.length →
    (∀ id call, b.calls.get? id = some call → call.phase ≠ .signalling) →
    ∀ now, ∃ c, Step b (now, .wake .full) c ∧ c.loop = .draining .full
  /-- Before it waits again, the loop has left less than a batch in the queue. -/
  emptied : b.loop.isAwake = false → ∀ e, lastDrain? log = some e → ∀ c, Step e.1 e.2 c →
    c.queue.length < b.settings.batchSize

/-- What a run keeps, if full batches need not wait for the delay. -/
theorem attentive_of_history (h : History Step (ofSettings settings) log b)
    (full : settings.fireOnFull = true) :
    Attentive b ∧ Continues log b ∧ b.settings = (ofSettings settings).settings := by
  induction h with
  | start =>
    refine ⟨attentive_ofSettings settings, ?_, rfl⟩
    intro e he
    cases he
  | @next log b c a h hs ih =>
    obtain ⟨ha, hd, hsettings⟩ := ih
    have hm := moves_of_step? hs
    have hb := orderly_of_history h
    have full' : b.settings.fireOnFull = true := by rw [hsettings]; exact full
    have positive : 0 < b.settings.batchSize := by
      rw [hsettings]
      exact Nat.le_max_right _ _
    refine ⟨ha.move hb full' positive hm, continues_next hb hd full' positive hs, ?_⟩
    exact hm.settings.trans hsettings

/-- No full batch is overlooked, whatever the callers do and whenever the loop wakes up. -/
theorem full_batches_are_announced (h : History Step (ofSettings settings) log b)
    (full : settings.fireOnFull = true) : Watchful log b := by
  obtain ⟨ha, hd, -⟩ := attentive_of_history h full
  refine ⟨ha.announced, ha.crashed, ?_, ?_⟩
  · intro deadline notified parked hlen quiet now
    suffices hn : notified = true by
      subst hn
      exact ⟨{ b with loop := .draining .full }, by simp [Step, step?, parked], rfl⟩
    cases ha.announced (by simp [parked]) hlen with
    | stored permit =>
      cases notified with
      | true => rfl
      | false => exact absurd permit (by simp [ha.unnotified deadline parked])
    | woken parked' =>
      cases parked.symm.trans parked'
      rfl
    | coming at_ signalling => exact absurd signalling (quiet _ _ at_)
    | draining awake | firing awake => simp [parked] at awake
  · intro asleep e he c hc
    exact (hd e he c hc).lt_of_asleep asleep

/-- Two batches of two names. The second one becomes full while the loop is firing the first one: it
is notified before it waits, and wakes up at once. -/
theorem full_batches_are_announced_while_firing :
    ∃ log, ∃ b : Batch,
      History Step (ofSettings { batchSize := 2, fireOnFull := true }) log b ∧ Watchful log b ∧
      b.queue = [⟨2, "Dinnerbone"⟩, ⟨3, "Grumm"⟩] ∧
      b.loop = .parked (Time.millis 7500) true := by
  have h : History Step (ofSettings { batchSize := 2, fireOnFull := true }) _ _ :=
    History.of_replay [(0, .enter 0 "Notch" none), (0, .push 0), (0, .park),
      (0, .enter 1 "jeb_" none), (0, .push 1), (Time.millis 2500, .wake .delay),
      (Time.millis 2500, .drain), (Time.millis 2600, .signal 1),
      (Time.millis 2700, .enter 2 "Dinnerbone" none), (Time.millis 2700, .push 2),
      (Time.millis 2700, .enter 3 "Grumm" (some false)), (Time.millis 2700, .push 3),
      (Time.millis 2800, .fire), (Time.millis 5000, .park), (Time.millis 5000, .cancel 3),
      (Time.millis 5100, .signal 3)] rfl
  exact ⟨_, _, h, full_batches_are_announced h rfl, rfl, rfl⟩

end

end SkinRelay.Batch
