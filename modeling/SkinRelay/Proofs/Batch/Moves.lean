import SkinRelay.Batch
import SkinRelay.Proofs.History

/-!
What one step of a batching queue can do, as a relation with one case for each action. Whatever
holds of every such move holds of every step (`moves_of_step?`).
-/

namespace SkinRelay.Batch

/-- One step of a queue at the time `now`. -/
inductive Moves (now : Nat) (b : Batch) : Action → Batch → Prop
  | enter {id : Nat} {username : String} {token : Option Bool} (new : b.calls.get? id = none) :
      Moves now b (.enter id username token) (b.enter now id username token)
  | push {id : Nat} {call : Call} (at_ : b.calls.get? id = some call)
      (entered : call.phase = .entered) : Moves now b (.push id) (b.push id call)
  | signal {id : Nat} {call : Call} (at_ : b.calls.get? id = some call)
      (signalling : call.phase = .signalling) :
      Moves now b (.signal id) (b.notify.setCall id call .waiting)
  | collect {id : Nat} {call : Call} {result : AccountResult} (at_ : b.calls.get? id = some call)
      (waiting : call.phase = .waiting) (ready : b.result? id call = some result) :
      Moves now b (.collect id) (b.setCall id call (.returned result))
  | cancel {id : Nat} {call : Call} (at_ : b.calls.get? id = some call)
      (armed : call.token = some false) :
      Moves now b (.cancel id) { b with calls := b.calls.insert id { call with token := some true } }
  | drop {id : Nat} {call : Call} (at_ : b.calls.get? id = some call)
      (waiting : call.phase = .waiting) : Moves now b (.drop id) (b.setCall id call .gone)
  | start {c : Batch} (started : b.start now = .ok c) : Moves now b .start c
  | haltLoop : Moves now b .haltLoop { b with lifecycle := .stopped, halfStops := b.halfStops + 1 }
  | closeQueue (halted : b.halfStops ≠ 0) :
      Moves now b .closeQueue
        { b.setFates b.queue fun _ => .cleared with
          queue := [], closed := true, halfStops := b.halfStops - 1 }
  | park (ready : b.loop = .ready) : Moves now b .park (b.park now)
  | wakeDelay {deadline : Nat} {notified : Bool} (parked : b.loop = .parked deadline notified)
      (due : deadline ≤ now) :
      Moves now b (.wake .delay)
        { b with loop := .draining .delay, permit := b.permit || notified }
  | wakeFull {deadline : Nat} (parked : b.loop = .parked deadline true) :
      Moves now b (.wake .full) { b with loop := .draining .full }
  | exit {deadline : Nat} {notified : Bool} (parked : b.loop = .parked deadline notified)
      (stopped : b.lifecycle = .stopped) :
      Moves now b .exit { b with loop := .exited, permit := b.permit || notified }
  | drain {wake : Wake} (draining : b.loop = .draining wake) :
      Moves now b .drain (b.drainQueue wake)
  | fire {wake : Wake} {jobs : List Job} {left : Nat} (firing : b.loop = .firing wake jobs left) :
      Moves now b .fire (b.fire now wake jobs left)
  | send {number : Nat} {round : Round} (at_ : b.rounds.get? number = some round)
      (ready : round.phase = .ready) :
      Moves now b (.send number)
        { b with rounds := b.rounds.insert number { round with phase := .sent now } }
  | deliver {number time : Nat} {round : Round} {result : Except RemoteError (List Account)}
      (at_ : b.rounds.get? number = some round) (sent : round.phase = .sent time) :
      Moves now b (.deliver number result) (b.deliver now number round time result)

theorem moves_of_step? {now : Nat} {b c : Batch} {a : Action} (h : b.step? now a = some c) :
    Moves now b a c := by
  cases a with
  | enter id username token =>
    simp only [step?] at h
    split at h
    · simp at h
    · rename_i new
      cases h
      exact .enter (by simpa [Table.contains] using new)
  | push id =>
    simp only [step?] at h
    split at h
    · split at h
      · cases h
        exact .push ‹_› ‹_›
      · simp at h
    · simp at h
  | signal id =>
    simp only [step?] at h
    split at h
    · split at h
      · cases h
        exact .signal ‹_› ‹_›
      · simp at h
    · simp at h
  | collect id =>
    simp only [step?] at h
    split at h
    · split at h
      · rename_i hw hr
        cases h
        exact .collect ‹_› hw hr
      · simp at h
    · simp at h
  | cancel id =>
    simp only [step?] at h
    split at h
    · split at h
      · cases h
        exact .cancel ‹_› ‹_›
      · simp at h
    · simp at h
  | drop id =>
    simp only [step?] at h
    split at h
    · split at h
      · cases h
        exact .drop ‹_› ‹_›
      · simp at h
    · simp at h
  | start =>
    simp only [step?] at h
    split at h
    · cases h
      exact .start ‹_›
    · simp at h
  | haltLoop =>
    cases h
    exact .haltLoop
  | closeQueue =>
    simp only [step?] at h
    split at h
    · simp at h
    · cases h
      exact .closeQueue ‹_›
  | park =>
    simp only [step?] at h
    split at h
    · cases h
      exact .park ‹_›
    · simp at h
  | wake cause =>
    cases cause with
    | delay =>
      simp only [step?] at h
      split at h
      · split at h
        · cases h
          exact .wakeDelay ‹_› ‹_›
        · simp at h
      · simp at h
    | full =>
      simp only [step?] at h
      split at h
      · cases h
        exact .wakeFull ‹_›
      · simp at h
  | exit =>
    simp only [step?] at h
    split at h
    · rename_i hp hs
      cases h
      exact .exit hp hs
    · simp at h
  | drain =>
    simp only [step?] at h
    split at h
    · cases h
      exact .drain ‹_›
    · simp at h
  | fire =>
    simp only [step?] at h
    split at h
    · cases h
      exact .fire ‹_›
    · simp at h
  | send number =>
    simp only [step?] at h
    split at h
    · split at h
      · cases h
        exact .send ‹_› ‹_›
      · simp at h
    · simp at h
  | deliver number result =>
    simp only [step?] at h
    split at h
    · split at h
      · cases h
        exact .deliver ‹_› ‹_›
      · simp at h
    · simp at h

/-- A step with its time. -/
def Step (b : Batch) (a : Nat × Action) (c : Batch) : Prop := b.step? a.1 a.2 = some c

/-- An entry of a log: an action with its time, and the state in which it was taken. -/
abbrev Entry := Batch × (Nat × Action)

/-! ### What the operations leave alone -/

variable (b : Batch) (now id : Nat) (call : Call)

@[simp] theorem setCall_queue (phase : CallPhase) : (b.setCall id call phase).queue = b.queue := rfl

@[simp] theorem setCall_loop (phase : CallPhase) : (b.setCall id call phase).loop = b.loop := rfl

@[simp] theorem setCall_rounds (phase : CallPhase) :
    (b.setCall id call phase).rounds = b.rounds := rfl

@[simp] theorem setCall_fates (phase : CallPhase) : (b.setCall id call phase).fates = b.fates := rfl

@[simp] theorem setCall_lifecycle (phase : CallPhase) :
    (b.setCall id call phase).lifecycle = b.lifecycle := rfl

@[simp] theorem setCall_calls (phase : CallPhase) :
    (b.setCall id call phase).calls = b.calls.insert id { call with phase } := rfl

@[simp] theorem setFates_rounds (jobs : List Job) (fate : Job → Fate) :
    (b.setFates jobs fate).rounds = b.rounds := rfl

/-- A notification touches only the loop and the permit. -/
theorem notify_frame : b.notify.queue = b.queue ∧ b.notify.rounds = b.rounds ∧
    b.notify.fates = b.fates ∧ b.notify.calls = b.calls ∧ b.notify.lifecycle = b.lifecycle := by
  unfold notify
  split <;> exact ⟨rfl, rfl, rfl, rfl, rfl⟩

/-- A start touches only the lifecycle and the loop. -/
theorem start_frame {b c : Batch} {now : Nat} (h : b.start now = .ok c) :
    c.queue = b.queue ∧ c.rounds = b.rounds ∧ c.fates = b.fates ∧ c.calls = b.calls ∧
      c.closed = b.closed ∧ c.settings = b.settings := by
  unfold start at h
  split at h <;> cases h <;> exact ⟨rfl, rfl, rfl, rfl, rfl, rfl⟩

/-- Whatever has been started runs. -/
theorem start_running {b c : Batch} {now : Nat} (h : b.start now = .ok c) :
    c.lifecycle = .running := by
  unfold start at h
  split at h
  · cases h
    assumption
  · cases h
  · cases h
    rfl

/-- A call that begins touches the lifecycle, the loop and itself. -/
theorem enter_frame (username : String) (token : Option Bool) :
    (b.enter now id username token).queue = b.queue ∧
      (b.enter now id username token).rounds = b.rounds ∧
      (b.enter now id username token).fates = b.fates := by
  unfold enter
  split
  · rename_i hs
    obtain ⟨hq, hr, hf, -⟩ := start_frame hs
    exact ⟨hq, hr, hf⟩
  · exact ⟨rfl, rfl, rfl⟩

/-- A call begins, or is refused. -/
theorem enter_calls (username : String) (token : Option Bool) :
    ∃ phase, (phase = .entered ∨ phase = .returned (.error .queueStopped)) ∧
      (b.enter now id username token).calls = b.calls.insert id { username, token, phase } := by
  unfold enter
  split
  · rename_i hs
    exact ⟨.entered, .inl rfl, by simp [(start_frame hs).2.2.2.1]⟩
  · rename_i error hs
    obtain rfl : error = .queueStopped := by
      unfold start at hs
      split at hs <;> cases hs
      rfl
    exact ⟨_, .inr rfl, by simp⟩

/-- A call puts its job into the queue, unless the queue is closed. -/
theorem push_frame : (b.push id call).rounds = b.rounds ∧ (b.push id call).fates = b.fates ∧
    (b.push id call).loop = b.loop ∧ (b.push id call).lifecycle = b.lifecycle := by
  unfold push
  split <;> exact ⟨rfl, rfl, rfl, rfl⟩

/-- A call goes on to wait, or is rejected. -/
theorem push_calls : ∃ phase, (phase = .signalling ∨ phase = .waiting ∨
      phase = .returned (.error .queueStopped) ∧ b.closed = true) ∧
    (b.push id call).calls = b.calls.insert id { call with phase } := by
  unfold push
  split
  · rename_i closed
    exact ⟨_, .inr (.inr ⟨rfl, closed⟩), rfl⟩
  · refine ⟨_, ?_, setCall_calls ..⟩
    split <;> simp

/-- A drain touches the queue, the loop and the fates of jobs. -/
theorem drainQueue_frame (wake : Wake) : (b.drainQueue wake).calls = b.calls ∧
    (b.drainQueue wake).rounds = b.rounds ∧ (b.drainQueue wake).lifecycle = b.lifecycle := by
  unfold drainQueue
  split
  · exact ⟨rfl, rfl, rfl⟩
  · dsimp only
    split <;> exact ⟨rfl, rfl, rfl⟩

/-- What becomes of a job when fates are set: one of the new fates if it is among the jobs, and
its old one otherwise. -/
theorem get?_setFates (jobs : List Job) (fate : Job → Fate) (id : Nat) :
    (∃ job ∈ jobs, job.id = id ∧ (b.setFates jobs fate).fates.get? id = some (fate job)) ∨
      (∀ job ∈ jobs, job.id ≠ id) ∧ (b.setFates jobs fate).fates.get? id = b.fates.get? id := by
  unfold setFates
  generalize b.fates = fates
  simp only
  induction jobs generalizing fates with
  | nil => exact .inr ⟨by simp, rfl⟩
  | cons job rest ih =>
    rw [List.foldl_cons]
    rcases ih (fates.insert job.id (fate job)) with ⟨j, hj, hid, hfate⟩ | ⟨hne, hsame⟩
    · exact .inl ⟨j, List.mem_cons_of_mem _ hj, hid, hfate⟩
    · by_cases h : job.id = id
      · exact .inl ⟨job, List.mem_cons_self, h, by rw [hsame]; simp [h]⟩
      · refine .inr ⟨?_, by rw [hsame]; simp [Ne.symm h]⟩
        simpa [h] using hne

end SkinRelay.Batch
