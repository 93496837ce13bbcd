import SkinRelay.Proofs.Batch.Chunks
import SkinRelay.Proofs.Batch.Closing
import SkinRelay.Proofs.Batch.Throttle
import SkinRelay.Proofs.Settings

/-!
Buffers for batches. The settings take any batch size but zero, and a drain reserves room for a
whole batch before it looks at the queue. As long as this room can be had, no drain fails, and a loop
whose queue runs can always empty it. A larger batch size is accepted as well, and then the first
drain is the end of the loop. The main result is `admitted_batches_are_drained`.
-/

namespace SkinRelay.Batch

/-- Whether there is room for a batch: a job takes 32 bytes, and a buffer fewer than `2 ^ 63`. -/
def Fits (settings : BatchSettings) : Prop := 32 * settings.batchSize ≤ Nat.pow 2 63 - 1

instance (settings : BatchSettings) : Decidable (Fits settings) :=
  inferInstanceAs (Decidable (_ ≤ _))

theorem fits_iff {settings : BatchSettings} : Fits settings ↔ settings.batchSize ≤ maxBuffered := by
  unfold Fits maxBuffered
  rw [Nat.le_div_iff_mul_le (by decide), Nat.mul_comm]

/-! ### The loop on its own -/

/-- A loop that goes on. -/
inductive Loop.IsAlive : Loop → Prop
  | ready : IsAlive .ready
  | parked {deadline : Nat} {notified : Bool} : IsAlive (.parked deadline notified)
  | draining {wake : Wake} : IsAlive (.draining wake)
  | firing {wake : Wake} {jobs : List Job} {left : Nat} : IsAlive (.firing wake jobs left)

/-- What the loop does while it goes on. -/
inductive Action.IsOfLoop : Action → Prop
  | park : IsOfLoop .park
  | wake {cause : Wake} : IsOfLoop (.wake cause)
  | drain : IsOfLoop .drain
  | fire : IsOfLoop .fire

/-- `Turns now b later c`: from `now` on the loop alone takes steps, the last of them at the time
`later`, and leads from `b` to `c`. -/
inductive Turns : Nat → Batch → Nat → Batch → Prop
  | rest {now : Nat} {b : Batch} : Turns now b now b
  | step {now next later : Nat} {b u c : Batch} {a : Action} (own : a.IsOfLoop) (order : now ≤ next)
      (step : Step b (next, a) u) (further : Turns next u later c) : Turns now b later c

variable {b c : Batch} {now later last : Nat} {wake : Wake}

theorem Turns.trans {d : Batch} (h : Turns now b later c) (k : Turns later c last d) :
    Turns now b last d := by
  induction h with
  | rest => exact k
  | step own order step _ ih => exact .step own order step (ih k)

theorem step_drain (draining : b.loop = .draining wake) (now : Nat) :
    Step b (now, .drain) (b.drainQueue wake) := by
  simp [Step, step?, draining]

/-- From `now` on the loop comes to a drain, and the queue is as it was. -/
def ComesToDrain (now : Nat) (b : Batch) : Prop :=
  ∃ later wake c, Turns now b later c ∧ c.loop = .draining wake ∧ c.queue = b.queue ∧
    c.settings = b.settings

theorem ComesToDrain.step (h : ComesToDrain now c) {a : Action} (own : a.IsOfLoop)
    (step : Step b (now, a) c) (queue : c.queue = b.queue) (settings : c.settings = b.settings) :
    ComesToDrain now b := by
  obtain ⟨later, wake, d, hturns, hdrains, hqueue, hsettings⟩ := h
  exact ⟨later, wake, d, .step own (Nat.le_refl now) step hturns, hdrains, hqueue.trans queue,
    hsettings.trans settings⟩

/-- The delay ends, even if nobody notifies the loop. -/
theorem comesToDrain_of_parked {deadline : Nat} {notified : Bool}
    (parked : b.loop = .parked deadline notified) (now : Nat) : ComesToDrain now b := by
  have hs : Step b (max now deadline, .wake .delay)
      { b with loop := .draining .delay, permit := b.permit || notified } := by
    simp only [Step, step?, parked, Nat.le_max_right, if_true]
  exact ⟨_, .delay, _, .step .wake (Nat.le_max_left ..) hs .rest, rfl, rfl, rfl⟩

theorem comesToDrain_of_ready (ready : b.loop = .ready) (now : Nat) : ComesToDrain now b := by
  have hs : Step b (now, .park) (b.park now) := by simp [Step, step?, ready]
  have hparked : (b.park now).loop = .parked (now + Time.millis b.settings.delay)
      (b.settings.fireOnFull && b.permit) := rfl
  exact (comesToDrain_of_parked hparked now).step .park hs rfl rfl

/-- A loop that goes on comes to its next drain. -/
theorem Loop.IsAlive.comesToDrain (alive : b.loop.IsAlive) (now : Nat) : ComesToDrain now b := by
  generalize hl : b.loop = loop at alive
  cases alive with
  | ready => exact comesToDrain_of_ready hl now
  | parked => exact comesToDrain_of_parked hl now
  | draining => exact ⟨now, _, b, .rest, hl, rfl, rfl⟩
  | @firing wake jobs left =>
    have hs : Step b (now, .fire) (b.fire now wake jobs left) := by simp [Step, step?, hl]
    by_cases again : (b.settings.fireOnFull && b.settings.batchSize ≤ left) = true
    · exact ⟨now, wake, _, .step .fire (Nat.le_refl now) hs .rest, if_pos again, rfl, rfl⟩
    · have hready : (b.fire now wake jobs left).loop = .ready := if_neg again
      exact (comesToDrain_of_ready hready now).step .fire hs rfl rfl

/-- The loop empties the queue: every drain that takes something leaves a shorter one. -/
theorem turns_to_empty (positive : 0 < b.settings.batchSize) (fits : Fits b.settings)
    (draining : b.loop = .draining wake) (now : Nat) :
    ∃ later c, Turns now b later c ∧ c.queue = [] ∧ c.loop = .ready := by
  induction hn : b.queue.length using Nat.strongRecOn generalizing b wake now with
  | _ n ih =>
    have hs := step_drain draining now
    obtain ⟨hqueue, hsettings, hloop⟩ := b.drainQueue_of_buffered wake (fits_iff.mp fits)
    by_cases hnil : (drain b.isGone b.settings.batchSize b.queue).taken = []
    · rw [if_pos hnil] at hloop
      have hempty : (b.drainQueue wake).queue = [] := by
        rw [hqueue, drain_rest_of_short]
        rw [hnil]
        exact positive
      exact ⟨now, _, .step .drain (Nat.le_refl now) hs .rest, hempty, hloop⟩
    · rw [if_neg hnil] at hloop
      have halive : (b.drainQueue wake).loop.IsAlive := by
        rw [hloop]
        exact .firing
      obtain ⟨later, wake', u, hturns, hdrains, hsame, hkept⟩ := halive.comesToDrain now
      have hshorter : u.queue.length < n := by
        rw [hsame, hqueue, ← hn]
        exact length_rest_lt hnil
      have hsize : u.settings = b.settings := hkept.trans hsettings
      obtain ⟨last, c, hfurther, hempty⟩ :=
        ih _ hshorter (by rwa [hsize]) (by rwa [hsize]) hdrains later rfl
      exact ⟨last, c, .step .drain (Nat.le_refl now) hs (hturns.trans hfurther), hempty⟩

/-! ### Batches without room -/

theorem drainQueue_of_unbuffered (large : ¬Fits b.settings) :
    b.drainQueue wake = { b with loop := .crashed } :=
  if_pos (Nat.lt_of_not_le (mt fits_iff.mpr large))

/-- A drain fails exactly if there is no room for its batch. -/
theorem crashes_iff (positive : 0 < b.settings.batchSize) :
    (b.drainQueue wake).loop = .crashed ↔ ¬Fits b.settings := by
  constructor
  · intro crashed fits
    rcases b.drainQueue_loop wake positive with ⟨-, large⟩ | ⟨ready, -⟩ | ⟨jobs, firing⟩
    · exact absurd (fits_iff.mp fits) (Nat.not_le_of_lt large)
    · rw [crashed] at ready
      cases ready
    · rw [crashed] at firing
      cases firing
  · intro large
    rw [drainQueue_of_unbuffered large]

theorem dispatch?_of_unbuffered {e : Entry} (large : ¬Fits e.1.settings) : dispatch? e = none := by
  unfold dispatch?
  split
  · rw [drainQueue_of_unbuffered large]
    rfl
  · rfl

/-- A loop that has crashed does nothing more. -/
theorem Moves.crashed {a : Action} (h : Moves now b a c) (ordered : Orderly b)
    (positive : 0 < b.settings.batchSize) (crashed : b.loop = .crashed) : c.loop = .crashed := by
  have hs := h.spins ordered positive
  generalize c.loop = loop at hs ⊢
  generalize c.permit = permit at hs
  cases hs with
  | same | store => exact crashed
  | begin _ absent => cases crashed.symm.trans absent
  | rouse parked | wake parked | exit parked => cases crashed.symm.trans parked
  | park ready => cases crashed.symm.trans ready
  | crash draining | rest draining | take draining => cases crashed.symm.trans draining
  | again firing | finish firing => cases crashed.symm.trans firing

/-! ### Every run -/

section

variable {settings : BatchSettings} {log : List Entry}

theorem alive_of_history (h : History Step (ofSettings settings) log b) (fits : Fits b.settings)
    (running : b.lifecycle = .running) : b.loop.IsAlive := by
  have tended := tended_of_history h
  obtain ⟨present, stays⟩ := tended.running running
  cases hl : b.loop with
  | ready => exact .ready
  | parked => exact .parked
  | draining => exact .draining
  | firing => exact .firing
  | absent => exact absurd hl present
  | exited => exact absurd hl stays
  | crashed => exact absurd (fits_iff.mp fits) (Nat.not_le_of_lt (tended.crashed hl))

theorem empties_of_history (h : History Step (ofSettings settings) log b) (fits : Fits b.settings)
    (running : b.lifecycle = .running) (now : Nat) :
    ∃ later c, Turns now b later c ∧ c.queue = [] ∧ c.loop = .ready := by
  have alive := alive_of_history h fits running
  obtain ⟨later, wake, u, hturns, hdrains, -, hsettings⟩ := alive.comesToDrain now
  have positive : 0 < u.settings.batchSize := by
    rw [hsettings]
    exact positive_of_history h
  obtain ⟨last, c, hfurther, hempty⟩ :=
    turns_to_empty positive (by rwa [hsettings]) hdrains later
  exact ⟨last, c, hturns.trans hfurther, hempty⟩

/-- Without room for a batch nothing is ever dispatched. -/
theorem dispatches_of_unbuffered (h : History Step (ofSettings settings) log b)
    (large : ¬Fits (ofSettings settings).settings) : dispatches log = [] := by
  rw [dispatches, List.filterMap_eq_nil_iff]
  intro e he
  obtain ⟨before, after, u, -, hbefore, -⟩ := h.cut he
  refine dispatch?_of_unbuffered ?_
  rwa [settings_of_history hbefore]

/-- Without room for a batch the first drain is the last one. -/
theorem crashed_of_unbuffered (h : History Step (ofSettings settings) log b)
    (large : ¬Fits (ofSettings settings).settings) (drains : ∃ e ∈ log, e.2.2 = .drain) :
    b.loop = .crashed := by
  induction h with
  | start =>
    obtain ⟨e, he, -⟩ := drains
    cases he
  | @next log t c a h hs ih =>
    have hm := moves_of_step? hs
    have hsettings := settings_of_history h
    obtain ⟨e, he, hdrain⟩ := drains
    rcases List.mem_append.mp he with hold | hnew
    · exact hm.crashed (orderly_of_history h) (positive_of_history h) (ih ⟨e, hold, hdrain⟩)
    · obtain rfl := List.mem_singleton.mp hnew
      obtain ⟨now, a⟩ := a
      obtain rfl : a = .drain := hdrain
      cases hm with
      | drain => rw [drainQueue_of_unbuffered (by rwa [hsettings])]

/-- What comes of the batches of a queue with these settings. -/
structure Buffered (settings : BatchSettings) (log : List Entry) (b : Batch) : Prop where
  kept : b.settings = settings
  /-- A drain fails exactly if there is no room for a batch. -/
  drains : ∀ now wake, b.loop = .draining wake →
    ∃ c, Step b (now, .drain) c ∧ (c.loop = .crashed ↔ ¬Fits settings)
  /-- With room the loop of a running queue goes on. -/
  alive : Fits settings → b.lifecycle = .running → b.loop.IsAlive
  /-- And it can empty the queue by itself. -/
  empties : Fits settings → b.lifecycle = .running →
    ∀ now, ∃ later c, Turns now b later c ∧ c.queue = [] ∧ c.loop = .ready
  /-- Without room no batch ever goes out, and the loop does not survive a drain. -/
  dies : ¬Fits settings →
    dispatches log = [] ∧ ((∃ e ∈ log, e.2.2 = .drain) → b.loop = .crashed)

/-- Every batch size that the settings admit and that there is room for can be drained; and with one
that there is no room for nothing can. -/
theorem admitted_batches_are_drained {env : Settings.Environment} {s : Settings}
    (admitted : Settings.ofEnvironment env = .ok s)
    (h : History Step (ofSettings s.batch) log b) : Buffered s.batch log b := by
  have positive := (Settings.wellFormed_of_eq_ok admitted).batchSize_pos
  have hkept : (ofSettings s.batch).settings = s.batch := by
    simp only [ofSettings, Nat.max_eq_left positive]
  have hsettings : b.settings = s.batch := (settings_of_history h).trans hkept
  constructor
  case kept => exact hsettings
  case drains =>
    intro now wake draining
    rw [← hsettings]
    exact ⟨_, step_drain draining now, crashes_iff (positive_of_history h)⟩
  case alive =>
    intro fits
    exact alive_of_history h (by rwa [hsettings])
  case empties =>
    intro fits
    exact empties_of_history h (by rwa [hsettings])
  case dies =>
    intro large
    rw [← hkept] at large
    exact ⟨dispatches_of_unbuffered h large, crashed_of_unbuffered h large⟩

/-- The environment in which only the batch size is set. -/
def sized (text : String) : Settings.Environment :=
  fun name => if name = .batchSize then some text else none

/-- The largest batch that there is room for. -/
theorem admitted_batches_are_drained_at_the_limit :
    ∃ s log, ∃ b : Batch, Settings.ofEnvironment (sized "288230376151711743") = .ok s ∧
      History Step (ofSettings s.batch) log b ∧ Fits s.batch ∧
      ¬Fits { s.batch with batchSize := s.batch.batchSize + 1 } ∧ b.loop = .draining .delay ∧
      b.queue = [⟨0, "a1"⟩, ⟨1, "b2"⟩] ∧ Buffered s.batch log b ∧
      ∃ later c, Turns (Time.millis 3000) b later c ∧ c.queue = [] ∧ c.loop = .ready := by
  have admitted : Settings.ofEnvironment (sized "288230376151711743") =
      .ok { batch := { batchSize := 288230376151711743 } } := rfl
  have h : History Step (ofSettings { batchSize := 288230376151711743 }) _ _ := History.of_replay
    [(0, .enter 0 "a1" none), (0, .push 0), (0, .enter 1 "b2" none), (0, .push 1), (0, .park),
      (Time.millis 3000, .wake .delay)] rfl
  have buffered := admitted_batches_are_drained admitted h
  exact ⟨_, _, _, admitted, h, by decide, by decide, rfl, rfl, buffered,
    buffered.empties (by decide) rfl (Time.millis 3000)⟩

/-- One more name is accepted as well, but there is no room for such a batch. The loop is gone after
the first drain while the queue counts as running, and its caller waits with nothing to come. -/
theorem admitted_batch_kills_the_loop :
    ∃ s log, ∃ b : Batch, Settings.ofEnvironment (sized "288230376151711744") = .ok s ∧
      History Step (ofSettings s.batch) log b ∧ ¬Fits s.batch ∧ b.loop = .crashed ∧
      b.lifecycle = .running ∧ b.queue = [⟨0, "a1"⟩] ∧
      ∃ call, b.calls.get? 0 = some call ∧ call.phase = .waiting ∧ b.result? 0 call = none := by
  have admitted : Settings.ofEnvironment (sized "288230376151711744") =
      .ok { batch := { batchSize := 288230376151711744 } } := rfl
  have h : History Step (ofSettings { batchSize := 288230376151711744 }) _ _ := History.of_replay
    [(0, .enter 0 "a1" none), (0, .push 0), (0, .park), (Time.millis 3000, .wake .delay),
      (Time.millis 3000, .drain)] rfl
  exact ⟨_, _, _, admitted, h, by decide, rfl, rfl, rfl, _, rfl, rfl, rfl⟩

end

end SkinRelay.Batch
