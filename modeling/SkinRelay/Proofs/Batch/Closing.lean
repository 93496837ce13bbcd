import SkinRelay.Proofs.Batch.UnderWay

/-!
A stop is for good, and nobody waits for ever because of it. Once its second half is over the queue
is empty and stays empty, whatever it held has been released, whoever comes later is refused, and
jobs that were drawn before still get their answers. The main result is `stop_releases_everyone`.
-/

namespace SkinRelay.Batch

/-- `Returning b id result`: the call returns this result, now or after steps of its own, at any time
and whatever the others do. -/
def Returning (b : Batch) (id : Nat) (result : AccountResult) : Prop :=
  ∀ now, ∃ log c call, History Step b log c ∧
    (∀ e ∈ log, e.2 = (now, .push id) ∨ e.2 = (now, .signal id) ∨ e.2 = (now, .collect id)) ∧
    c.calls.get? id = some call ∧ call.phase = .returned result

/-- What a call gets for a job with this result, if it was not dropped. -/
inductive Gets (b : Batch) (id : Nat) (result : AccountResult) : Prop
  | result (returning : Returning b id result)
  | cancelled {call : Call} (at_ : b.calls.get? id = some call) (fired : call.token = some true)
      (returning : Returning b id (.error .cancelled))
  | dropped {call : Call} (at_ : b.calls.get? id = some call) (gone : call.phase = .gone)

section

variable {b : Batch} {id : Nat} {call : Call} {result : AccountResult}

theorem returning_of_returned (at_ : b.calls.get? id = some call)
    (returned : call.phase = .returned result) : Returning b id result :=
  fun _ => ⟨[], b, call, .start, by simp, at_, returned⟩

theorem returning_of_waiting (at_ : b.calls.get? id = some call) (waiting : call.phase = .waiting)
    (ready : b.result? id call = some result) : Returning b id result := by
  intro now
  have hs : Step b (now, .collect id) (b.setCall id call (.returned result)) := by
    simp [Step, step?, at_, waiting, ready]
  exact ⟨_, _, { call with phase := .returned result }, History.next .start hs, by simp, by simp, rfl⟩

/-- A call that has to notify the loop first does so, and that changes nothing for its result. -/
theorem returning_of_signalling (at_ : b.calls.get? id = some call)
    (signalling : call.phase = .signalling) (ready : b.result? id call = some result) :
    Returning b id result := by
  intro now
  have hs : Step b (now, .signal id) (b.notify.setCall id call .waiting) := by
    simp [Step, step?, at_, signalling]
  have hat : (b.notify.setCall id call .waiting).calls.get? id =
      some { call with phase := .waiting } := by simp
  have hready : (b.notify.setCall id call .waiting).result? id { call with phase := .waiting } =
      some result := by
    rw [← ready]
    simp only [result?, setCall_fates, (notify_frame b).2.2.1]
  obtain ⟨log, c, d, hlog, hown, hd, hreturned⟩ := returning_of_waiting hat rfl hready now
  refine ⟨_, c, d, (History.next .start hs).trans hlog, ?_, hd, hreturned⟩
  intro e he
  rcases List.mem_append.mp he with hfirst | hlater
  · obtain rfl := List.mem_singleton.mp hfirst
    exact .inr (.inl rfl)
  · exact hown e hlater

/-- A call that finds the queue closed is rejected. -/
theorem returning_of_entered (at_ : b.calls.get? id = some call) (entered : call.phase = .entered)
    (closed : b.closed = true) : Returning b id (.error .queueStopped) := by
  intro now
  have hs : Step b (now, .push id) (b.setCall id call (.returned (.error .queueStopped))) := by
    simp [Step, step?, at_, entered, push, closed]
  exact ⟨_, _, { call with phase := .returned (.error .queueStopped) }, History.next .start hs,
    by simp, by simp, rfl⟩

/-- The fate of its job decides what a call gets. -/
theorem Orderly.gets (hb : Orderly b) {fate : Fate} (hc : b.calls.get? id = some call)
    (hf : b.fates.get? id = some fate) (hresult : fate.result? = some result) :
    Gets b id result := by
  obtain ⟨p, hp, -, -⟩ := hb.decided hf
  -- Whatever the call can return, it returns what its token or the fate says.
  have ready : ∀ r, b.result? id call = some r →
      (Returning b id r) → Gets b id result := by
    intro r hr returning
    by_cases fired : call.token = some true
    · rw [result?_of_fired fired] at hr
      cases hr
      exact .cancelled hc fired returning
    · rw [result?_of_unfired fired, hf, Option.bind_some, hresult] at hr
      cases hr
      exact .result returning
  have some_result : ∃ r, b.result? id call = some r := by
    by_cases fired : call.token = some true
    · exact ⟨_, result?_of_fired fired⟩
    · exact ⟨result, by rw [result?_of_unfired fired, hf, Option.bind_some, hresult]⟩
  obtain ⟨r, hr⟩ := some_result
  cases hphase : call.phase with
  | entered =>
    rw [hb.places_of_entered hc hphase] at hp
    cases hp
  | signalling => exact ready r hr (returning_of_signalling hc hphase hr)
  | waiting => exact ready r hr (returning_of_waiting hc hphase hr)
  | gone => exact .dropped hc hphase
  | returned value =>
    have returning := returning_of_returned hc hphase
    rcases hb.returned id call value hc hphase with ⟨hnone, -⟩ | ⟨fired, rfl⟩ | ⟨fate', hf', hres⟩
    · rw [hnone] at hp
      cases hp
    · exact .cancelled hc fired returning
    · obtain rfl : fate = fate' := Option.some.inj (hf.symm.trans hf')
      obtain rfl : result = value := Option.some.inj (hresult.symm.trans hres)
      exact .result returning

end

/-! ### A closed queue -/

section

variable {b c : Batch} {now : Nat} {a : Action}

theorem enter_stopped (stopped : b.lifecycle = .stopped) (id : Nat) (username : String)
    (token : Option Bool) : b.enter now id username token =
      b.setCall id { username, token } (.returned (.error .queueStopped)) := by
  simp [enter, start_stopped stopped]

/-- A closed queue holds nothing. -/
structure Shut (b : Batch) : Prop where
  closed : b.closed = true
  empty : b.queue = []

theorem Shut.closeQueue (b : Batch) :
    Shut { b.setFates b.queue fun _ => .cleared with
      queue := [], closed := true, halfStops := b.halfStops - 1 } :=
  ⟨rfl, rfl⟩

/-- A drain of an empty queue takes nothing. -/
theorem drainQueue_empty (empty : b.queue = []) (wake : Wake) :
    (b.drainQueue wake).queue = [] ∧ (b.drainQueue wake).loop.jobs = [] := by
  rcases b.drainQueue_spec wake with hcrash | ⟨hq, hl, -⟩
  · rw [hcrash]
    exact ⟨empty, rfl⟩
  · rw [hq, hl, empty]
    exact ⟨rfl, rfl⟩

/-- What a stopped queue keeps: it stays shut, and it starts no loop. -/
theorem Shut.move (hb : Shut b) (stopped : b.lifecycle = .stopped) (h : Moves now b a c) :
    Shut c ∧ c.starts = b.starts := by
  cases h with
  | enter =>
    rw [enter_stopped stopped]
    exact ⟨⟨hb.closed, hb.empty⟩, rfl⟩
  | push =>
    simp only [Batch.push, hb.closed, if_true]
    exact ⟨⟨hb.closed, hb.empty⟩, rfl⟩
  | signal =>
    unfold notify
    split <;> exact ⟨⟨hb.closed, hb.empty⟩, rfl⟩
  | start hs =>
    rw [start_stopped stopped] at hs
    cases hs
  | closeQueue => exact ⟨.closeQueue b, rfl⟩
  | @drain wake _ =>
    refine ⟨⟨(b.drainQueue_stops wake).1.trans hb.closed, (drainQueue_empty hb.empty wake).1⟩, ?_⟩
    unfold drainQueue
    split
    · rfl
    · dsimp only
      split <;> rfl
  | _ => exact ⟨⟨hb.closed, hb.empty⟩, rfl⟩

/-- A call that has queued no job before the queue was shut does not queue one any more. -/
theorem Shut.halfway (hb : Shut b) (h : Moves now b a c) {id : Nat} {call : Call}
    (hc : b.calls.get? id = some call) (entered : call.phase = .entered) :
    ∃ next, c.calls.get? id = some next ∧
      (next.phase = .entered ∨ next.phase = .returned (.error .queueStopped)) := by
  have other : ∀ {i : Nat} {next : Call}, i ≠ id → ∃ next', (b.calls.insert i next).get? id =
      some next' ∧ (next'.phase = .entered ∨ next'.phase = .returned (.error .queueStopped)) :=
    fun hne => ⟨call, by simpa [Ne.symm hne] using hc, .inl entered⟩
  -- A call in any other phase is another call.
  have apart : ∀ {i : Nat} {d : Call}, b.calls.get? i = some d → d.phase ≠ .entered → i ≠ id := by
    rintro i d hd hne rfl
    rw [Option.some.inj (hd.symm.trans hc)] at hne
    exact hne entered
  cases h with
  | enter new =>
    obtain ⟨phase, -, hcalls⟩ := b.enter_calls now _ _ _
    rw [hcalls]
    refine other ?_
    rintro rfl
    simp [new] at hc
  | @push i d hd _ =>
    simp only [Batch.push, hb.closed, if_true, setCall_calls]
    by_cases hid : i = id
    · exact ⟨{ d with phase := .returned (.error .queueStopped) }, by simp [hid], .inr rfl⟩
    · exact other hid
  | signal hd signalling =>
    rw [setCall_calls, (notify_frame b).2.2.2.1]
    exact other (apart hd (by simp [signalling]))
  | collect hd waiting | drop hd waiting => exact other (apart hd (by simp [waiting]))
  | @cancel i d hd _ =>
    by_cases hid : i = id
    · subst hid
      obtain rfl : d = call := Option.some.inj (hd.symm.trans hc)
      exact ⟨{ d with token := some true }, by simp, .inl entered⟩
    · exact other hid
  | start hs => exact ⟨call, by rw [(start_frame hs).2.2.2.1]; exact hc, .inl entered⟩
  | drain => exact ⟨call, by rw [(b.drainQueue_frame _).1]; exact hc, .inl entered⟩
  | _ => exact ⟨call, hc, .inl entered⟩

end

/-! ### A queue that nobody drains -/

/-- Who looks after the queue: a loop runs as long as the queue does, and until it is shut a stop is
under way that will empty it. -/
structure Tended (b : Batch) : Prop where
  /-- Nobody calls a queue without starting it. -/
  idle : b.lifecycle = .idle → ∀ id, b.calls.get? id = none
  running : b.lifecycle = .running → b.loop ≠ .absent ∧ b.loop ≠ .exited
  stopped : b.lifecycle = .stopped → b.halfStops ≠ 0 ∨ Shut b
  /-- A loop has crashed only for want of a buffer. -/
  crashed : b.loop = .crashed → maxBuffered < b.settings.batchSize

section

variable {b c : Batch} {now : Nat} {a : Action}

namespace Tended

theorem idle_move (hb : Tended b) (h : Moves now b a c) (hc : c.lifecycle = .idle) (id : Nat) :
    c.calls.get? id = none := by
  -- Whoever takes a step of a call has begun it, and so the queue has been started.
  have called : ∀ {i call}, b.calls.get? i = some call → b.lifecycle = .idle →
      c.calls.get? id = none := by
    intro i call hcall idle
    rw [hb.idle idle i] at hcall
    cases hcall
  cases h with
  | enter =>
    unfold Batch.enter at hc
    split at hc
    · rename_i hs
      rw [setCall_lifecycle, start_running hs] at hc
      cases hc
    · rename_i hs
      have idle : b.lifecycle = .idle := hc
      simp [Batch.start, idle] at hs
  | push hcall => exact called hcall ((b.push_frame ..).2.2.2 ▸ hc)
  | signal hcall => exact called hcall ((notify_frame b).2.2.2.2 ▸ hc)
  | collect hcall | cancel hcall | drop hcall => exact called hcall hc
  | start hs =>
    rw [start_running hs] at hc
    cases hc
  | haltLoop => cases hc
  | drain =>
    rw [(b.drainQueue_frame _).1]
    exact hb.idle ((b.drainQueue_frame _).2.2 ▸ hc) id
  | _ => exact hb.idle hc id

theorem running_move (hb : Tended b) (positive : 0 < b.settings.batchSize) (h : Moves now b a c)
    (hc : c.lifecycle = .running) : c.loop ≠ .absent ∧ c.loop ≠ .exited := by
  have started : ∀ {s}, b.start now = .ok s → s.loop ≠ .absent ∧ s.loop ≠ .exited := by
    intro s hs
    unfold Batch.start at hs
    split at hs
    · cases hs
      exact hb.running ‹_›
    · cases hs
    · cases hs
      simp
  cases h with
  | enter =>
    unfold Batch.enter at hc ⊢
    split at hc
    · rename_i hs
      have kept := started hs
      exact kept
    · exact hb.running hc
  | push =>
    rw [(b.push_frame ..).2.2.1]
    exact hb.running ((b.push_frame ..).2.2.2 ▸ hc)
  | signal =>
    have alive := hb.running ((notify_frame b).2.2.2.2 ▸ hc)
    rw [setCall_loop]
    unfold notify
    split
    · simp
    · exact alive
  | start hs => exact started hs
  | haltLoop => cases hc
  | exit _ stopped => exact absurd (stopped.symm.trans hc) (by simp)
  | park | wakeDelay | wakeFull => simp [Batch.park]
  | @drain wake _ =>
    rcases b.drainQueue_loop wake positive with ⟨hl, -⟩ | ⟨hl, -⟩ | ⟨jobs, hl⟩ <;> simp [hl]
  | fire =>
    unfold Batch.fire
    dsimp only
    split <;> simp
  | _ => exact hb.running hc

theorem stopped_move (hb : Tended b) (h : Moves now b a c) (hc : c.lifecycle = .stopped) :
    c.halfStops ≠ 0 ∨ Shut c := by
  cases h.halts with
  | neither _ halfStops back =>
    rcases hb.stopped (back hc) with hpending | hshut
    · exact .inl (halfStops ▸ hpending)
    · exact .inr (hshut.move (back hc) h).1
  | first => exact .inl (Nat.succ_ne_zero _)
  | second => exact .inr (.closeQueue b)

theorem crashed_move (hb : Tended b) (ordered : Orderly b) (positive : 0 < b.settings.batchSize)
    (h : Moves now b a c) (hc : c.loop = .crashed) : maxBuffered < c.settings.batchSize := by
  have hs := h.spins ordered positive
  rw [h.settings]
  rw [hc] at hs
  generalize hl : Loop.crashed = loop at hs
  generalize c.permit = permit at hs
  cases hs with
  | same | store => exact hb.crashed hl.symm
  | crash _ large => exact large
  | _ => cases hl

theorem move (hb : Tended b) (ordered : Orderly b) (positive : 0 < b.settings.batchSize)
    (h : Moves now b a c) : Tended c where
  idle := hb.idle_move h
  running := hb.running_move positive h
  stopped := hb.stopped_move h
  crashed := hb.crashed_move ordered positive h

/-- Somebody looks after every job in the queue. -/
theorem attended (hb : Tended b) (ordered : Orderly b) (queued : b.queue ≠ []) :
    b.loop ≠ .absent ∧ b.loop ≠ .exited ∨ b.halfStops ≠ 0 := by
  cases hl : b.lifecycle with
  | idle =>
    obtain ⟨job, hj⟩ := List.exists_mem_of_ne_nil _ queued
    obtain ⟨call, hc, -⟩ := ordered.named job (.inl hj)
    rw [hb.idle hl] at hc
    cases hc
  | running => exact .inl (hb.running hl)
  | stopped =>
    rcases hb.stopped hl with hhalf | hshut
    · exact .inr hhalf
    · exact absurd hshut.empty queued

end Tended

end

theorem tended_ofSettings (settings : BatchSettings) : Tended (ofSettings settings) where
  idle _ _ := rfl
  running h := by cases h
  stopped h := by cases h
  crashed h := by cases h

section

variable {settings : BatchSettings} {log before after : List Entry} {e : Entry} {b : Batch}

theorem tended_of_history (h : History Step (ofSettings settings) log b) : Tended b := by
  induction h with
  | start => exact tended_ofSettings settings
  | next h hs ih =>
    exact ih.move (orderly_of_history h) (positive_of_history h) (moves_of_step? hs)

/-- Nothing is left in a queue that has been closed. -/
theorem shut_of_history (h : History Step (ofSettings settings) log b) (closed : b.closed = true) :
    Shut b := by
  induction h with
  | start => cases closed
  | @next log t c a h hs ih =>
    have hm := moves_of_step? hs
    by_cases ht : t.closed = true
    · exact ((ih ht).move ((stops_of_history h).closed ht) hm).1
    · obtain ⟨now, action⟩ := a
      cases hm.halts with
      | neither same => exact absurd (same ▸ closed) ht
      | first => exact absurd closed ht
      | second => exact .closeQueue t

/-- A call that has returned has still returned the same later. -/
theorem returned_of_history {u : Batch} (h : History Step u log b) {id : Nat} {call : Call}
    {result : AccountResult} (hc : u.calls.get? id = some call)
    (returned : call.phase = .returned result) :
    ∃ next, b.calls.get? id = some next ∧ next.phase = .returned result := by
  obtain ⟨next, hn, hbec⟩ := call_of_history h hc
  exact ⟨next, hn, (hbec.left (by simp [Call.hasLeft, returned])).trans returned⟩

/-- A queue that is shut stays so, and its drains take nothing. -/
theorem Shut.history {u : Batch} (hu : Shut u) (stopped : u.lifecycle = .stopped)
    (h : History Step u log b) : Shut b ∧ b.lifecycle = .stopped ∧ b.starts = u.starts ∧
      ∀ e ∈ log, Shut e.1 ∧ e.1.lifecycle = .stopped := by
  induction h with
  | start => exact ⟨hu, stopped, rfl, by simp⟩
  | @next log t c a h hs ih =>
    obtain ⟨ht, hstopped, hstarts, hlog⟩ := ih
    have hm := moves_of_step? hs
    obtain ⟨hc, hstarts'⟩ := ht.move hstopped hm
    refine ⟨hc, hm.stopped hstopped, hstarts'.trans hstarts, ?_⟩
    intro e he
    rcases List.mem_append.mp he with hold | hnew
    · exact hlog e hold
    · obtain rfl := List.mem_singleton.mp hnew
      exact ⟨ht, hstopped⟩

/-- A job that is nowhere when the queue is shut stays nowhere. -/
theorem Shut.nowhere {u : Batch} (hu : Shut u) (stopped : u.lifecycle = .stopped) (ordered : Orderly u)
    (h : History Step u log b) {id : Nat} (hp : u.places id = []) : b.places id = [] := by
  induction h with
  | start => exact hp
  | @next log t c a h hs ih =>
    have hclosed := (hu.history stopped h).1.closed
    refine (ordered.history h).nowhere_move (moves_of_step? hs) ih ?_
    unfold accepts
    split
    · simp [hclosed]
    · rfl

/-- A call that was halfway when the queue was shut is rejected. -/
theorem Shut.rejects {u : Batch} (hu : Shut u) (stopped : u.lifecycle = .stopped)
    (h : History Step u log b) {id : Nat} {call : Call} (hc : u.calls.get? id = some call)
    (entered : call.phase = .entered) : Returning b id (.error .queueStopped) := by
  have halfway : ∃ next, b.calls.get? id = some next ∧
      (next.phase = .entered ∨ next.phase = .returned (.error .queueStopped)) := by
    induction h with
    | start => exact ⟨call, hc, .inl entered⟩
    | @next log t c a h hs ih =>
      obtain ⟨d, hd, hphase | hphase⟩ := ih
      · exact (hu.history stopped h).1.halfway (moves_of_step? hs) hd hphase
      · obtain ⟨next, hn, hreturned⟩ := returned_of_history (History.next .start hs) hd hphase
        exact ⟨next, hn, .inr hreturned⟩
  obtain ⟨next, hn, hphase | hphase⟩ := halfway
  · exact returning_of_entered hn hphase (hu.history stopped h).1.closed
  · exact returning_of_returned hn hphase

/-- The job of a call that is nowhere is part of no request. -/
theorem unrequested_of_nowhere (h : History Step (ofSettings settings) log b) {id : Nat}
    (nowhere : b.places id = []) : occurrences id (requested log) = 0 := by
  have hle := requested_le h id
  have hlen := length_places b id
  rw [nowhere, List.length_nil] at hlen
  omega

/-- A run with a stop in it: up to its second half, the state that this leaves, and what follows. -/
theorem closed_of_history (h : History Step (ofSettings settings) (before ++ e :: after) b)
    (closes : e.2.2 = .closeQueue) :
    ∃ u, History Step (ofSettings settings) (before ++ [e]) u ∧ Step e.1 e.2 u ∧
      History Step u after b ∧ Shut u ∧ u.lifecycle = .stopped ∧ u.starts = e.1.starts ∧
      ∀ job ∈ e.1.queue, u.fates.get? job.id = some .cleared := by
  obtain ⟨u, hbefore, hs, hafter⟩ := h.split
  have hm := moves_of_step? hs
  refine ⟨u, hbefore.next hs, hs, hafter, ?_⟩
  rw [closes] at hm
  cases hm with
  | closeQueue halted =>
    refine ⟨.closeQueue e.1, (stops_of_history hbefore).halves halted, rfl, ?_⟩
    intro job hj
    rcases e.1.get?_setFates e.1.queue (fun _ => .cleared) job.id with ⟨_, -, -, hf⟩ | ⟨hne, -⟩
    · exact hf
    · exact absurd rfl (hne job hj)

end

/-- What a call gets for a job in the batch `n`: its part of the reply that has come, or of any reply
that still can come. -/
inductive Served (log : List Entry) (b : Batch) (id n : Nat) (call : Call) : Prop
  | answered {x : Entry} {result : Except RemoteError (List Account)} (entry : x ∈ log)
      (delivers : x.2.2 = .deliver n result)
      (gets : Gets b id ((Job.reply result ⟨id, call.username⟩).mapError .remote))
  | underWay (place : .underWay n ∈ b.places id)
      (gets : ∀ now result, ∃ rest c, History Step b rest c ∧
        (∀ x ∈ rest, x.2 = (now, .fire) ∨ x.2 = (now, .send n) ∨ x.2 = (now, .deliver n result)) ∧
        Gets c id ((Job.reply result ⟨id, call.username⟩).mapError .remote))

/-- What a stop does for good, if the entry `e` of a run is the second half of it. -/
structure Released (before : List Entry) (e : Entry) (after : List Entry) (b : Batch) : Prop where
  /-- The queue is stopped and empty, and no loop has been started since. -/
  terminal : b.lifecycle = .stopped ∧ b.queue = [] ∧ b.starts = e.1.starts
  /-- A start is refused, and so is a call. -/
  refused : ∀ now, b.start now = .error .queueStopped ∧ ∀ id username token,
    b.enter now id username token =
      b.setCall id { username, token } (.returned (.error .queueStopped))
  /-- No drain has taken a job since. -/
  drained : ∀ later ∈ after, later.2.2 = .drain → ∀ c, Step later.1 later.2 c → c.loop.jobs = []
  /-- A job that was in the queue has left it, and its call gets told so. -/
  queued : ∀ job ∈ e.1.queue,
    b.places job.id = [.cleared] ∧ Gets b job.id (.error .queueStopped)
  /-- A call that has begun since is told so at once, and is part of no request. -/
  late : ∀ later ∈ after, ∀ id username token, later.2.2 = .enter id username token →
    (∃ call, b.calls.get? id = some call ∧ call.phase = .returned (.error .queueStopped)) ∧
      b.places id = [] ∧ occurrences id (requested (before ++ e :: after)) = 0
  /-- So is a call that found the queue running and has queued no job before the stop. -/
  halfway : ∀ id call, e.1.calls.get? id = some call → call.phase = .entered →
    Returning b id (.error .queueStopped) ∧
      b.places id = [] ∧ occurrences id (requested (before ++ e :: after)) = 0
  /-- A call whose job had been drawn before gets its part of the reply to its own batch, and if
  there is no reply yet, then whatever the reply will be. -/
  drawn : ∀ id n, .underWay n ∈ e.1.places id ∨ .settled n ∈ e.1.places id →
    ∃ call, b.calls.get? id = some call ∧ Served (before ++ e :: after) b id n call
  /-- At no time is there a job in a queue that has no loop, unless a stop is about to clear it. -/
  attended : ∀ x ∈ before ++ e :: after, x.1.queue ≠ [] →
    x.1.loop ≠ .absent ∧ x.1.loop ≠ .exited ∨ x.1.halfStops ≠ 0
  /-- A loop crashes only if no buffer can hold a batch. -/
  crashed : ∀ x ∈ before ++ e :: after, x.1.loop = .crashed → maxBuffered < x.1.settings.batchSize

section

variable {settings : BatchSettings} {log before after : List Entry} {e : Entry} {b : Batch}

/-- A batch that has been answered serves the calls of its jobs. -/
theorem gets_of_delivered (h : History Step (ofSettings settings) log b) {x : Entry} (hx : x ∈ log)
    {n id : Nat} {result : Except RemoteError (List Account)} {round : Round}
    (delivers : x.2.2 = .deliver n result) (at_ : x.1.rounds.get? n = some round)
    (own : 0 < occurrences id round.jobs) :
    ∃ call, b.calls.get? id = some call ∧
      Gets b id ((Job.reply result ⟨id, call.username⟩).mapError .remote) := by
  obtain ⟨job, hj, rfl⟩ := occurrences_pos.mp own
  have hf := fate_of_delivered h hx delivers at_ hj
  obtain ⟨before, after, u, -, hbefore, hs, hafter⟩ := h.cut hx
  obtain ⟨old, hold, hname⟩ := (orderly_of_history hbefore).named job
    (.inr (.inr (List.mem_flatMap.mpr ⟨_, Table.mem_of_get? at_, hj⟩)))
  obtain ⟨call, hc, hbec⟩ := call_of_history ((History.next .start hs).trans hafter) hold
  have hjob : (⟨job.id, call.username⟩ : Job) = job := by rw [hbec.username, hname]
  exact ⟨call, hc, (orderly_of_history h).gets hc hf (by rw [hjob]; rfl)⟩

/-- A call whose job has been drawn is served, now or later. -/
theorem served_of_history (h : History Step (ofSettings settings) (before ++ after) b)
    {t : Batch} (hbefore : History Step (ofSettings settings) before t) (hafter : History Step t after b)
    {id n : Nat} (drawn : .underWay n ∈ t.places id ∨ .settled n ∈ t.places id) :
    ∃ call, b.calls.get? id = some call ∧ Served (before ++ after) b id n call := by
  have delivered : ∀ x ∈ before ++ after, ∀ result round, x.2.2 = .deliver n result →
      x.1.rounds.get? n = some round → 0 < occurrences id round.jobs →
      ∃ call, b.calls.get? id = some call ∧ Served (before ++ after) b id n call := by
    intro x hx result round delivers hat own
    obtain ⟨call, hc, hgets⟩ := gets_of_delivered h hx delivers hat own
    exact ⟨call, hc, .answered hx delivers hgets⟩
  rcases drawn with underWay | settled
  · have carries := (underWay_mem_places (nodup_rounds_of_history hbefore)).mp underWay
    rcases carries.history hbefore hafter with
      hcarries | ⟨x, hx, result, round, delivers, hat, own⟩
    · have hplace := (underWay_mem_places (nodup_rounds_of_history h)).mpr hcarries
      obtain ⟨call, hc, -⟩ := (orderly_of_history h).pushed id (List.ne_nil_of_mem hplace)
      refine ⟨call, hc, .underWay hplace fun now result => ?_⟩
      obtain ⟨rest, c, hrest, steps, x, hx, round, delivers, hat, own⟩ :=
        hcarries.answerable now result
      obtain ⟨next, hn, hgets⟩ :=
        gets_of_delivered (h.trans hrest) (List.mem_append_right _ hx) delivers hat own
      obtain ⟨next', hn', hbec⟩ := call_of_history hrest hc
      obtain rfl : next = next' := Option.some.inj (hn.symm.trans hn')
      exact ⟨rest, c, hrest, steps, hbec.username ▸ hgets⟩
    · exact delivered x (List.mem_append_right _ hx) result round delivers hat own
  · obtain ⟨round, hr, hanswered, own⟩ := settled_mem_places settled
    obtain ⟨x, hx, result, old, delivers, hat, hjobs⟩ := answered_of_history hbefore hr hanswered
    exact delivered x (List.mem_append_left _ hx) result old delivers hat (hjobs ▸ own)

/-- A stop is for good and releases everyone, whoever was where when it came. -/
theorem stop_releases_everyone
    (h : History Step (ofSettings settings) (before ++ e :: after) b)
    (closes : e.2.2 = .closeQueue) : Released before e after b := by
  obtain ⟨u, hbefore, hs, hafter, hu, stopped, hstarts, hcleared⟩ := closed_of_history h closes
  obtain ⟨hb, bstopped, hstarts', hshut⟩ := hu.history stopped hafter
  have hcalls : u.calls = e.1.calls := by
    have hm := moves_of_step? hs
    rw [closes] at hm
    cases hm with
    | closeQueue => rfl
  have ordered := orderly_of_history hbefore
  have unrequested : ∀ id, u.places id = [] → b.places id = [] ∧
      occurrences id (requested (before ++ e :: after)) = 0 := by
    intro id hp
    have hnone := hu.nowhere stopped ordered hafter hp
    exact ⟨hnone, unrequested_of_nowhere h hnone⟩
  refine ⟨⟨bstopped, hb.empty, hstarts'.trans hstarts⟩,
    fun now => ⟨start_stopped bstopped, enter_stopped bstopped⟩,
    ?drained, ?queued, ?late, ?halfway, ?drawn, ?attended, ?crashed⟩
  case drained =>
    intro later hlater drains c hc
    have hm := moves_of_step? hc
    rw [drains] at hm
    cases hm with
    | drain => exact (drainQueue_empty (hshut later hlater).1.empty _).2
  case queued =>
    intro job hj
    have hf := ordered.fate_of_history hafter (hcleared job hj)
    have hb' := orderly_of_history h
    have hplace := hb'.places_eq (cleared_mem_places.mpr hf)
    obtain ⟨call, hc, -⟩ := hb'.pushed job.id (by simp [hplace])
    exact ⟨hplace, hb'.gets hc hf rfl⟩
  case late =>
    intro later hlater id username token enters
    obtain ⟨xs, ys, w, -, hxs, hw, hys⟩ := hafter.cut hlater
    have hm := moves_of_step? hw
    rw [enters] at hm
    cases hm with
    | enter new =>
      have hreturned : (later.1.enter later.2.1 id username token).calls.get? id =
          some { username, token, phase := .returned (.error .queueStopped) } := by
        simp [enter_stopped (hshut later hlater).2]
      refine ⟨returned_of_history hys hreturned rfl, unrequested id ?_⟩
      by_contra hne
      obtain ⟨call, hc, -⟩ := ordered.pushed id hne
      obtain ⟨next, hn, -⟩ := call_of_history hxs hc
      simp [new] at hn
  case halfway =>
    intro id call hc entered
    rw [← hcalls] at hc
    exact ⟨hu.rejects stopped hafter hc entered,
      unrequested id (ordered.places_of_entered hc entered)⟩
  case drawn =>
    intro id n hp
    obtain ⟨t, hbefore', hs', hafter'⟩ := h.split
    exact served_of_history h hbefore' ((History.next .start hs').trans hafter') hp
  case attended =>
    intro x hx queued
    obtain ⟨xs, -, -, -, hxs, -⟩ := h.cut hx
    exact (tended_of_history hxs).attended (orderly_of_history hxs) queued
  case crashed =>
    intro x hx
    obtain ⟨xs, -, -, -, hxs, -⟩ := h.cut hx
    exact (tended_of_history hxs).crashed

/-- Two stops at once. They find a job in the queue, whose call is cancelled, a call that has not
queued its job yet, and a batch under way; a call that comes between their halves is refused. -/
theorem stop_releases_everyone_at_once :
    ∃ before e after, ∃ b : Batch,
      History Step (ofSettings { batchSize := 2 }) (before ++ e :: after) b ∧
      e.2.2 = .closeQueue ∧ Released before e after b ∧
      b.calls.get? 0 = some ⟨"Notch", none,
        .returned (.ok (some { id := "069a79f4", name := "Notch" }))⟩ ∧
      b.calls.get? 2 = some ⟨"Dinnerbone", some true, .returned (.error .cancelled)⟩ ∧
      b.calls.get? 3 = some ⟨"Grumm", none, .returned (.error .queueStopped)⟩ ∧
      b.calls.get? 4 = some ⟨"dadinnerbone", none, .returned (.error .queueStopped)⟩ ∧
      b.loop = .exited := by
  have h : History Step (ofSettings { batchSize := 2 }) _ _ :=
    (History.of_replay [(0, .enter 0 "Notch" none), (0, .push 0), (0, .enter 1 "jeb_" none),
      (0, .push 1), (0, .park), (Time.millis 2500, .wake .delay), (Time.millis 2500, .drain),
      (Time.millis 2500, .fire), (Time.millis 2500, .send 0), (Time.millis 2500, .park),
      (Time.millis 2600, .enter 2 "Dinnerbone" (some false)), (Time.millis 2600, .push 2),
      (Time.millis 2600, .enter 3 "Grumm" none), (Time.millis 2700, .haltLoop),
      (Time.millis 2700, .haltLoop), (Time.millis 2700, .enter 4 "dadinnerbone" none)] rfl).trans
    (History.of_replay [(Time.millis 2700, .closeQueue), (Time.millis 2700, .push 3),
      (Time.millis 2700, .cancel 2), (Time.millis 2700, .closeQueue),
      (Time.millis 2700, .collect 2), (Time.millis 2700, .exit),
      (Time.millis 2800, .deliver 0 (.ok [{ id := "069a79f4", name := "Notch" }])),
      (Time.millis 2800, .collect 0)] rfl)
  exact ⟨_, _, _, _, h, rfl, stop_releases_everyone h rfl, rfl, rfl, rfl, rfl, rfl⟩

end

end SkinRelay.Batch
