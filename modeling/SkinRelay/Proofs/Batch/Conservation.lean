import SkinRelay.Proofs.Batch.Fates
import SkinRelay.Proofs.Batch.Rounds

/-!
Jobs are conserved: a step that accepts a job gives it one place, and every other step leaves the
number of places of every job as it is. The invariant `Orderly` carries this through a run.
-/

namespace SkinRelay.Batch

structure Orderly (b : Batch) : Prop where
  /-- There is no loop before the first start. -/
  idle : b.lifecycle = .idle → b.loop = .absent
  numbered : Numbered b.rounds
  once : ∀ id, (b.places id).length ≤ 1
  /-- A job that is anywhere was queued by its call. -/
  pushed : ∀ id, b.places id ≠ [] → ∃ call, b.calls.get? id = some call ∧ call.phase ≠ .entered
  /-- A job asks for the name of its call. -/
  named : ∀ job, b.Holds job →
    ∃ call, b.calls.get? job.id = some call ∧ call.username = job.username
  /-- A job is thrown away when nobody waits for it any more. -/
  left : ∀ id, b.fates.get? id = some .discarded →
    ∃ call, b.calls.get? id = some call ∧ call.hasLeft = true
  /-- Whatever was answered was answered with the batch that carried it. -/
  answered : ∀ id reply, b.fates.get? id = some (.answered reply) →
    ∃ n round, b.rounds.get? n = some round ∧ round.phase = .answered ∧
      0 < occurrences id round.jobs
  /-- What a call returned is decided by its token, by the fate of its job, or by a stop before it
  had a job. -/
  returned : ∀ id call result, b.calls.get? id = some call → call.phase = .returned result →
    b.places id = [] ∧ result = .error .queueStopped ∨
    call.token = some true ∧ result = .error .cancelled ∨
    ∃ fate, b.fates.get? id = some fate ∧ fate.result? = some result

theorem places_ofSettings (settings : BatchSettings) (id : Nat) :
    (ofSettings settings).places id = [] := rfl

theorem orderly_ofSettings (settings : BatchSettings) : Orderly (ofSettings settings) where
  idle _ := rfl
  numbered n round h := by cases h
  once id := by simp [places_ofSettings]
  pushed id h := absurd (places_ofSettings settings id) h
  named job h := by simp [ofSettings, Holds, Loop.jobs, drawn] at h
  left id h := by cases h
  answered id reply h := by cases h
  returned id call result h := by cases h

namespace Orderly

variable {b c : Batch} {now : Nat} {a : Action}

/-- The job of a call that has not queued it is nowhere. -/
theorem places_of_entered (hb : Orderly b) {id : Nat} {call : Call}
    (hc : b.calls.get? id = some call) (entered : call.phase = .entered) : b.places id = [] := by
  by_contra h
  obtain ⟨d, hd, hne⟩ := hb.pushed id h
  obtain rfl : call = d := Option.some.inj (hc.symm.trans hd)
  exact hne entered

/-- The number of places of a job depends on what holds jobs and on nothing else. -/
theorem length_places_frame (id : Nat) (hq : c.queue = b.queue) (hl : c.loop.jobs = b.loop.jobs)
    (hr : c.rounds = b.rounds) (hf : c.fates = b.fates) :
    (c.places id).length = (b.places id).length := by
  rw [places_congr hq hl hr hf]

theorem length_places_push (id : Nat) {i : Nat} {call : Call} :
    ((b.push i call).places id).length = (b.places id).length +
      if accepts id (b, (now, .push i)) = true then 1 else 0 := by
  simp only [length_places, push, accepts]
  by_cases hclosed : b.closed = true
  · simp [hclosed]
  · have hopen : b.closed = false := by simpa using hclosed
    by_cases hid : i = id
    · simp [hopen, hid, occurrences]; omega
    · simp [hopen, hid, occurrences]

/-- A stop moves the whole queue to another place. -/
theorem length_places_closeQueue (hb : Orderly b) (id : Nat) :
    (({ b.setFates b.queue fun _ => .cleared with
      queue := [], closed := true, halfStops := b.halfStops - 1 } : Batch).places id).length =
      (b.places id).length := by
  have honce := hb.once id
  rw [length_places] at honce
  have hf := length_places_setFates (fun _ => .cleared) (fun _ => rfl)
    (show occurrences id b.queue + (Fate.places (b.fates.get? id)).length ≤ 1 by omega)
  simp only [length_places, hf, setFates_rounds]
  simp [occurrences, setFates]
  omega

/-- A drain moves what it pops to the batch that is about to be fired, or throws it away. -/
theorem length_places_drainQueue (hb : Orderly b) {wake : Wake} (draining : b.loop = .draining wake)
    (id : Nat) : ((b.drainQueue wake).places id).length = (b.places id).length := by
  have hjobs : b.loop.jobs = [] := by rw [draining]; rfl
  obtain ⟨-, hr, -⟩ := b.drainQueue_frame wake
  rcases b.drainQueue_spec wake with hcrash | ⟨hq, hl, hf⟩
  · rw [hcrash]
    exact length_places_frame id rfl hjobs.symm rfl rfl
  · have hcount : occurrences id b.queue =
        occurrences id (drain b.isGone b.settings.batchSize b.queue).taken +
          occurrences id b.discards +
          occurrences id (drain b.isGone b.settings.batchSize b.queue).rest := countP_drain ..
    have hnone : occurrences id ([] : List Job) = 0 := rfl
    have honce := hb.once id
    rw [length_places] at honce
    have hfate := length_places_setFates (fun _ => .discarded) (fun _ => rfl)
      (show occurrences id b.discards + (Fate.places (b.fates.get? id)).length ≤ 1 by omega)
    simp only [length_places, hq, hl, hr, hf, hfate, hjobs, hnone]
    omega

/-- The batch that was about to be fired becomes the next round. -/
theorem length_places_fire (hb : Orderly b) {wake : Wake} {jobs : List Job} {left : Nat}
    (firing : b.loop = .firing wake jobs left) (id : Nat) :
    ((b.fire now wake jobs left).places id).length = (b.places id).length := by
  have hjobs : b.loop.jobs = jobs := by rw [firing]; rfl
  have hnone : (b.fire now wake jobs left).loop.jobs = [] := by
    simp only [fire]
    split <;> rfl
  simp only [length_places, hnone, hjobs]
  simp only [fire, drawn_insert_new _ hb.numbered.next, occurrences_append]
  simp [occurrences]
  omega

/-- An answer moves the jobs of a round to another place of the same round. -/
theorem length_places_deliver (hb : Orderly b) {number time : Nat} {round : Round}
    {result : Except RemoteError (List Account)} (at_ : b.rounds.get? number = some round)
    (id : Nat) :
    ((b.deliver now number round time result).places id).length = (b.places id).length := by
  have hdrawn : drawn (b.rounds.insert number { round with phase := .answered }) =
      drawn b.rounds := drawn_insert_old _ at_ rfl
  have hfate : (Fate.places
      ((b.setFates round.jobs fun job => .answered (job.reply result)).fates.get? id)).length =
      (Fate.places (b.fates.get? id)).length := by
    rcases b.get?_setFates round.jobs (fun job => .answered (job.reply result)) id with
      ⟨job, hj, hid, hnew⟩ | ⟨-, hsame⟩
    · -- Such a job is in the round, and so it is in no other place.
      have honce := hb.once id
      rw [length_places] at honce
      have hpos : 0 < occurrences id (drawn b.rounds) :=
        occurrences_pos.mpr ⟨job, List.mem_flatMap.mpr ⟨_, Table.mem_of_get? at_, hj⟩, hid⟩
      rw [hnew]
      show 0 = _
      omega
    · rw [hsame]
  simp only [length_places, deliver, hdrawn, hfate]
  simp [setFates]

/-- The conservation law. -/
theorem length_places_move (hb : Orderly b) (h : Moves now b a c) (id : Nat) :
    (c.places id).length =
      (b.places id).length + if accepts id (b, (now, a)) = true then 1 else 0 := by
  cases h with
  | @enter i username token new =>
    obtain ⟨hq, hr, hf⟩ := b.enter_frame now i username token
    exact length_places_frame id hq (enter_jobs now i username token hb.idle) hr hf
  | push => exact length_places_push id
  | signal =>
    obtain ⟨hq, hr, hf, -⟩ := notify_frame b
    exact length_places_frame id hq (notify_jobs b) hr hf
  | start hs =>
    obtain ⟨hq, hr, hf, -⟩ := start_frame hs
    exact length_places_frame id hq (start_jobs hb.idle hs) hr hf
  | closeQueue => exact hb.length_places_closeQueue id
  | drain draining => exact hb.length_places_drainQueue draining id
  | fire firing => exact hb.length_places_fire firing id
  | @send number round hat _ =>
    have hd : drawn (b.rounds.insert number { round with phase := .sent now }) = drawn b.rounds :=
      drawn_insert_old _ hat rfl
    simp only [length_places, hd]
    rfl
  | deliver hat _ => exact hb.length_places_deliver hat id
  | park ready => exact length_places_frame id rfl (by rw [ready]; rfl) rfl rfl
  | wakeDelay parked | wakeFull parked | exit parked =>
    exact length_places_frame id rfl (by rw [parked]; rfl) rfl rfl
  | _ => exact length_places_frame id rfl rfl rfl rfl

/-! ### Fates are final -/

theorem places_eq (hb : Orderly b) {id : Nat} {p : Place} (hp : p ∈ b.places id) :
    b.places id = [p] := by
  have hpos := List.length_pos_of_mem hp
  have honce := hb.once id
  obtain ⟨q, hq⟩ := List.length_eq_one_iff.mp (show (b.places id).length = 1 by omega)
  rw [hq] at hp ⊢
  rw [List.mem_singleton.mp hp]

theorem place_unique (hb : Orderly b) {id : Nat} {p q : Place} (hp : p ∈ b.places id)
    (hq : q ∈ b.places id) : p = q := by
  rw [hb.places_eq hp] at hq
  exact (List.mem_singleton.mp hq).symm

/-- A job whose fate is decided is neither queued nor under way. -/
theorem decided (hb : Orderly b) {id : Nat} {fate : Fate} (hf : b.fates.get? id = some fate) :
    ∃ p ∈ b.places id, p ≠ .queued ∧ ∀ n, p ≠ .underWay n := by
  cases fate with
  | discarded => exact ⟨.discarded, fate_mem_places (by simp [hf, Fate.places]), by simp, by simp⟩
  | cleared => exact ⟨.cleared, fate_mem_places (by simp [hf, Fate.places]), by simp, by simp⟩
  | answered reply =>
    obtain ⟨n, round, hr, hph, hjobs⟩ := hb.answered id reply hf
    refine ⟨round.place n, round_mem_places hr hjobs, ?_, ?_⟩ <;> simp [Round.place, hph]

/-- A job gets its fate in the queue or in a batch under way. -/
theorem undecided {id : Nat} {fate : Fate} (h : Decides b a id fate) :
    ∃ p ∈ b.places id, p = .queued ∨ ∃ n, p = .underWay n := by
  cases h with
  | discard hj => exact ⟨_, queued_mem_places (mem_discards hj).1, .inl rfl⟩
  | clear hj => exact ⟨_, queued_mem_places hj, .inl rfl⟩
  | @answer n _ round job _ hr hsent hj =>
    refine ⟨_, round_mem_places hr (occurrences_pos.mpr ⟨job, hj, rfl⟩), .inr ⟨n, ?_⟩⟩
    simp [Round.place, hsent]

theorem fate_kept (hb : Orderly b) (h : Moves now b a c) {id : Nat} {fate : Fate}
    (hf : b.fates.get? id = some fate) : c.fates.get? id = some fate := by
  rcases h.fate id with hsame | ⟨next, -, hd⟩
  · rw [hsame, hf]
  · obtain ⟨p, hp, hq, hu⟩ := hb.decided hf
    obtain ⟨q, hq', hor⟩ := undecided hd
    obtain rfl := hb.place_unique hp hq'
    rcases hor with rfl | ⟨n, rfl⟩
    · exact absurd rfl hq
    · exact absurd rfl (hu n)

/-! ### Every step -/

theorem idle_move (hb : Orderly b) (h : Moves now b a c) (hc : c.lifecycle = .idle) :
    c.loop = .absent := by
  -- While the queue is idle there is no loop, and so nothing of what a loop does can happen.
  have absurd_of : b.lifecycle = c.lifecycle → b.loop ≠ .absent → c.loop = .absent :=
    fun heq hne => absurd (hb.idle (heq.trans hc)) hne
  cases h with
  | enter =>
    unfold Batch.enter at hc ⊢
    split at hc
    · rename_i hs
      rw [setCall_lifecycle, start_running hs] at hc
      cases hc
    · exact hb.idle hc
  | push =>
    obtain ⟨-, -, hloop, hlife⟩ := b.push_frame _ _
    rw [hloop]
    exact hb.idle (hlife ▸ hc)
  | signal =>
    have hl := hb.idle (by simpa [(notify_frame b).2.2.2.2] using hc)
    simp [notify, hl]
  | start hs =>
    rw [start_running hs] at hc
    cases hc
  | haltLoop => cases hc
  | park ready => exact absurd_of rfl (by simp [ready])
  | wakeDelay parked | wakeFull parked | exit parked => exact absurd_of rfl (by simp [parked])
  | drain draining => exact absurd_of (b.drainQueue_frame _).2.2.symm (by simp [draining])
  | fire firing => exact absurd_of rfl (by simp [firing])
  | _ => exact hb.idle hc

theorem once_move (hb : Orderly b) (h : Moves now b a c) (id : Nat) :
    (c.places id).length ≤ 1 := by
  rw [hb.length_places_move h id]
  have honce := hb.once id
  split
  · rename_i hacc
    obtain ⟨call, -, -, hc, entered⟩ := h.accepts hacc
    simp [hb.places_of_entered hc entered]
  · exact honce

theorem pushed_move (hb : Orderly b) (h : Moves now b a c) (id : Nat) (hp : c.places id ≠ []) :
    ∃ call, c.calls.get? id = some call ∧ call.phase ≠ .entered := by
  by_cases hbp : b.places id = []
  · have hlen := hb.length_places_move h id
    have hpos := List.length_pos_iff.mpr hp
    rw [hbp] at hlen
    have hacc : accepts id (b, (now, a)) = true := by
      by_contra hacc
      rw [if_neg hacc, List.length_nil] at hlen
      omega
    obtain ⟨call, rfl, rfl, -, -⟩ := h.accepts hacc
    obtain ⟨phase, hphase, hcalls⟩ := b.push_calls id call
    refine ⟨{ call with phase }, by simp [hcalls], ?_⟩
    rcases hphase with rfl | rfl | ⟨rfl, -⟩ <;> simp
  · obtain ⟨call, hc, hne⟩ := hb.pushed id hbp
    obtain ⟨d, hd, hbec⟩ := h.calls.call hc
    exact ⟨d, hd, hbec.pushed hne⟩

/-- A step holds the jobs that were held before it, and the one that it accepts. -/
theorem holds_move (hb : Orderly b) (h : Moves now b a c) {job : Job} (hj : c.Holds job) :
    b.Holds job ∨ ∃ call, b.calls.get? job.id = some call ∧ call.username = job.username := by
  have frame : c.queue = b.queue → c.loop.jobs = b.loop.jobs → c.rounds = b.rounds →
      b.Holds job := by
    intro hq hl hr
    simpa only [Holds, hq, hl, hr] using hj
  cases h with
  | enter =>
    exact .inl (frame (b.enter_frame ..).1 (enter_jobs _ _ _ _ hb.idle) (b.enter_frame ..).2.1)
  | @push i call hc _ =>
    unfold Batch.push at hj
    split at hj
    · exact .inl hj
    · simp only [Holds, setCall_queue, setCall_loop, setCall_rounds, List.mem_append,
        List.mem_singleton] at hj
      rcases hj with (hq | rfl) | hl | hr
      · exact .inl (.inl hq)
      · exact .inr ⟨call, hc, rfl⟩
      · exact .inl (.inr (.inl hl))
      · exact .inl (.inr (.inr hr))
  | signal => exact .inl (frame (notify_frame b).1 (notify_jobs b) (notify_frame b).2.1)
  | start hs =>
    exact .inl (frame (start_frame hs).1 (start_jobs hb.idle hs) (start_frame hs).2.1)
  | closeQueue =>
    rcases hj with hq | hl | hr
    · cases hq
    · exact .inl (.inr (.inl hl))
    · exact .inl (.inr (.inr hr))
  | park ready => exact .inl (frame rfl (by rw [ready]; rfl) rfl)
  | wakeDelay parked | wakeFull parked | exit parked =>
    exact .inl (frame rfl (by rw [parked]; rfl) rfl)
  | drain draining =>
    obtain ⟨-, hr, -⟩ := b.drainQueue_frame _
    rcases b.drainQueue_spec _ with hcrash | ⟨hq, hl, -⟩
    · exact .inl (frame (by rw [hcrash]) (by rw [hcrash, draining]; rfl) hr)
    · obtain ⟨popped, hqueue, ht, -⟩ := drain_pops b.isGone b.settings.batchSize b.queue
      rw [Holds, hq, hl, hr, ht] at hj
      rcases hj with hq | hl | hr
      · exact .inl (.inl (hqueue ▸ List.mem_append_right _ hq))
      · exact .inl (.inl (hqueue ▸ List.mem_append_left _ (List.mem_filter.mp hl).1))
      · exact .inl (.inr (.inr hr))
  | @fire wake jobs left firing =>
    simp only [Holds, Batch.fire, drawn_insert_new _ hb.numbered.next, List.mem_append] at hj
    rcases hj with hq | hl | hr | hnew
    · exact .inl (.inl hq)
    · split at hl <;> cases hl
    · exact .inl (.inr (.inr hr))
    · exact .inl (.inr (.inl (by rw [firing]; exact hnew)))
  | @send number round hat _ =>
    have hd : drawn (b.rounds.insert number { round with phase := .sent now }) = drawn b.rounds :=
      drawn_insert_old _ hat rfl
    exact .inl (by simpa only [Holds, hd] using hj)
  | @deliver number time round result hat _ =>
    have hd : drawn (b.rounds.insert number { round with phase := .answered }) = drawn b.rounds :=
      drawn_insert_old _ hat rfl
    exact .inl (by simpa only [Holds, Batch.deliver, hd, setFates] using hj)
  | _ => exact .inl (frame rfl rfl rfl)

theorem named_move (hb : Orderly b) (h : Moves now b a c) (job : Job) (hj : c.Holds job) :
    ∃ call, c.calls.get? job.id = some call ∧ call.username = job.username := by
  have before : ∃ call, b.calls.get? job.id = some call ∧ call.username = job.username := by
    rcases hb.holds_move h hj with hold | hnew
    · exact hb.named job hold
    · exact hnew
  obtain ⟨call, hc, hu⟩ := before
  obtain ⟨d, hd, hbec⟩ := h.calls.call hc
  exact ⟨d, hd, hbec.username.trans hu⟩

theorem left_move (hb : Orderly b) (h : Moves now b a c) (id : Nat)
    (hf : c.fates.get? id = some .discarded) :
    ∃ call, c.calls.get? id = some call ∧ call.hasLeft = true := by
  have gone : ∃ call, b.calls.get? id = some call ∧ call.hasLeft = true := by
    rcases h.fate id with hsame | ⟨fate, hfate, hd⟩
    · exact hb.left id (hsame ▸ hf)
    · obtain rfl : Fate.discarded = fate := Option.some.inj (hf.symm.trans hfate)
      cases hd with
      | discard hj => exact isGone_iff.mp (mem_discards hj).2
  obtain ⟨call, hc, hl⟩ := gone
  obtain ⟨d, hd, hbec⟩ := h.calls.call hc
  exact ⟨d, hd, hbec.hasLeft hl⟩

theorem answered_move (hb : Orderly b) (h : Moves now b a c) (id : Nat)
    (reply : Except RemoteError (Option Account))
    (hf : c.fates.get? id = some (.answered reply)) :
    ∃ n round, c.rounds.get? n = some round ∧ round.phase = .answered ∧
      0 < occurrences id round.jobs := by
  rcases h.fate id with hsame | ⟨fate, hfate, hd⟩
  · obtain ⟨n, round, hr, hph, hjobs⟩ := hb.answered id reply (hsame ▸ hf)
    obtain ⟨next, hn, hnj, hnp⟩ := h.rounds.round hb.numbered hr
    exact ⟨n, next, hn, hnp hph, hnj ▸ hjobs⟩
  · obtain rfl : Fate.answered reply = fate := Option.some.inj (hf.symm.trans hfate)
    cases hd with
    | @answer number time round job result hat hsent hj =>
      cases h with
      | deliver hat' _ =>
        obtain rfl := Option.some.inj (hat.symm.trans hat')
        exact ⟨number, { round with phase := .answered }, by simp [Batch.deliver], rfl,
          occurrences_pos.mpr ⟨job, hj, rfl⟩⟩

/-- A job that is nowhere stays nowhere unless it is accepted. -/
theorem nowhere_move (hb : Orderly b) (h : Moves now b a c) {id : Nat} (hp : b.places id = [])
    (hacc : accepts id (b, (now, a)) = false) : c.places id = [] := by
  have hlen := hb.length_places_move h id
  rw [hp, hacc] at hlen
  exact List.length_eq_zero_iff.mp (by simpa using hlen)

theorem returned_move (hb : Orderly b) (h : Moves now b a c) (id : Nat) (d : Call)
    (result : AccountResult) (hd : c.calls.get? id = some d) (hp : d.phase = .returned result) :
    c.places id = [] ∧ result = .error .queueStopped ∨
    d.token = some true ∧ result = .error .cancelled ∨
    ∃ fate, c.fates.get? id = some fate ∧ fate.result? = some result := by
  have token : ∀ {call : Call}, b.calls.get? id = some call → call.token = some true →
      d.token = some true := by
    intro call hc ht
    obtain ⟨d', hd', hbec⟩ := h.calls.call hc
    obtain rfl : d' = d := Option.some.inj (hd'.symm.trans hd)
    exact hbec.token ht
  rcases h.calls.returned hd hp with hr | ⟨call, hc, hp'⟩
  · cases hr with
    | refuse new =>
      have hnone : b.places id = [] := by
        by_contra hne
        obtain ⟨call, hc, -⟩ := hb.pushed id hne
        simp [new] at hc
      exact .inl ⟨hb.nowhere_move h hnone rfl, rfl⟩
    | reject hc entered closed =>
      refine .inl ⟨hb.nowhere_move h (hb.places_of_entered hc entered) ?_, rfl⟩
      simp [accepts, closed]
    | @collect id call result hc waiting ready =>
      by_cases hfired : call.token = some true
      · rw [result?_of_fired hfired] at ready
        exact .inr (.inl ⟨token hc hfired, (Option.some.inj ready).symm⟩)
      · rw [result?_of_unfired hfired] at ready
        obtain ⟨fate, hf, hres⟩ := Option.bind_eq_some_iff.mp ready
        exact .inr (.inr ⟨fate, hb.fate_kept h hf, hres⟩)
  · rcases hb.returned id call result hc hp' with ⟨hnone, hres⟩ | ⟨hfired, hres⟩ | ⟨fate, hf, hres⟩
    · refine .inl ⟨hb.nowhere_move h hnone ?_, hres⟩
      by_contra hacc
      obtain ⟨x, -, -, hx, entered⟩ := h.accepts (by simpa using hacc)
      obtain rfl : x = call := Option.some.inj (hx.symm.trans hc)
      simp [entered] at hp'
    · exact .inr (.inl ⟨token hc hfired, hres⟩)
    · exact .inr (.inr ⟨fate, hb.fate_kept h hf, hres⟩)

theorem move (hb : Orderly b) (h : Moves now b a c) : Orderly c where
  idle := hb.idle_move h
  numbered := h.rounds.numbered hb.numbered
  once := hb.once_move h
  pushed := hb.pushed_move h
  named := hb.named_move h
  left := hb.left_move h
  answered := hb.answered_move h
  returned := hb.returned_move h

end Orderly

theorem orderly_of_history {settings : BatchSettings} {log : List Entry} {b : Batch}
    (h : History Step (ofSettings settings) log b) : Orderly b :=
  h.invariant (orderly_ofSettings settings) fun _ _ _ hb hs => hb.move (moves_of_step? hs)

end SkinRelay.Batch
