import Mathlib.Tactic.Common
import SkinRelay.Proofs.Batch.Calls
import SkinRelay.Proofs.Batch.Drain
import SkinRelay.Proofs.Table

/-!
Where a job is. It waits in the queue, is carried by a batch, or has left the queue some other way.
Places are read off the state alone, each as often as it occurs there: a lost job has none, and a
doubled one has two.
-/

namespace SkinRelay.Batch

/-- Where a job can be. -/
inductive Place
  | queued
  /-- In a batch that was taken out and has not been answered. -/
  | underWay (round : Nat)
  /-- Thrown away by a drain. -/
  | discarded
  /-- Taken out by a stop. -/
  | cleared
  /-- In a batch that was answered. -/
  | settled (round : Nat)
  deriving DecidableEq, Repr

/-- The jobs of a batch that is about to be fired. -/
def Loop.jobs : Loop → List Job
  | .firing _ jobs _ => jobs
  | _ => []

/-- Where the jobs of a round are. -/
def Round.place (number : Nat) (round : Round) : Place :=
  match round.phase with
  | .answered => .settled number
  | _ => .underWay number

/-- Where a job is that has left the queue without a batch. -/
def Fate.places : Option Fate → List Place
  | some .discarded => [.discarded]
  | some .cleared => [.cleared]
  | _ => []

/-- How often the job of a call is among these jobs. -/
def occurrences (id : Nat) (jobs : List Job) : Nat := jobs.countP (·.id == id)

/-- All places of the job of a call, each as often as the job is there. -/
def places (b : Batch) (id : Nat) : List Place :=
  List.replicate (occurrences id b.queue) .queued ++
    List.replicate (occurrences id b.loop.jobs) (.underWay b.rounds.size) ++
    b.rounds.entries.flatMap (fun e => List.replicate (occurrences id e.2.jobs) (e.2.place e.1)) ++
    Fate.places (b.fates.get? id)

/-- The jobs of all rounds. -/
def drawn (rounds : Table Nat Round) : List Job := rounds.entries.flatMap (·.2.jobs)

/-- Whether a job is in the queue or in a batch, under way or not. -/
def Holds (b : Batch) (job : Job) : Prop :=
  job ∈ b.queue ∨ job ∈ b.loop.jobs ∨ job ∈ drawn b.rounds

/-- Whether a step accepts the job of a call. -/
def accepts (id : Nat) (e : Entry) : Bool :=
  match e.2.2 with
  | .push i => i == id && !e.1.closed
  | _ => false

@[simp] theorem occurrences_append (id : Nat) (xs ys : List Job) :
    occurrences id (xs ++ ys) = occurrences id xs + occurrences id ys := List.countP_append

theorem occurrences_pos {id : Nat} {jobs : List Job} :
    0 < occurrences id jobs ↔ ∃ job ∈ jobs, job.id = id := by
  simp [occurrences, List.countP_pos_iff]

theorem occurrences_eq_zero {id : Nat} {jobs : List Job} (h : ∀ job ∈ jobs, job.id ≠ id) :
    occurrences id jobs = 0 := by
  simpa [occurrences, List.countP_eq_zero] using h

theorem length_places (b : Batch) (id : Nat) :
    (b.places id).length = occurrences id b.queue + occurrences id b.loop.jobs +
      occurrences id (drawn b.rounds) + (Fate.places (b.fates.get? id)).length := by
  have hr : occurrences id (drawn b.rounds) =
      (b.rounds.entries.map fun e => occurrences id e.2.jobs).sum := by
    simp only [occurrences, drawn, List.countP_flatMap]
    rfl
  simp [places, hr, List.length_flatMap, Nat.add_assoc]

theorem mem_places {b : Batch} {id : Nat} {p : Place} :
    p ∈ b.places id ↔
      (p = .queued ∧ 0 < occurrences id b.queue) ∨
      (p = .underWay b.rounds.size ∧ 0 < occurrences id b.loop.jobs) ∨
      (∃ e ∈ b.rounds.entries, p = e.2.place e.1 ∧ 0 < occurrences id e.2.jobs) ∨
      p ∈ Fate.places (b.fates.get? id) := by
  simp only [places, List.mem_append, List.mem_replicate, List.mem_flatMap, Nat.pos_iff_ne_zero,
    or_assoc, and_comm]

theorem queued_mem_places {b : Batch} {job : Job} (h : job ∈ b.queue) :
    .queued ∈ b.places job.id :=
  mem_places.mpr (.inl ⟨rfl, occurrences_pos.mpr ⟨job, h, rfl⟩⟩)

theorem round_mem_places {b : Batch} {n id : Nat} {round : Round}
    (hr : b.rounds.get? n = some round) (h : 0 < occurrences id round.jobs) :
    round.place n ∈ b.places id :=
  mem_places.mpr (.inr (.inr (.inl ⟨_, Table.mem_of_get? hr, rfl, h⟩)))

theorem fate_mem_places {b : Batch} {id : Nat} {p : Place}
    (h : p ∈ Fate.places (b.fates.get? id)) : p ∈ b.places id :=
  mem_places.mpr (.inr (.inr (.inr h)))

theorem places_congr {b c : Batch} (hq : c.queue = b.queue) (hl : c.loop.jobs = b.loop.jobs)
    (hr : c.rounds = b.rounds) (hf : c.fates = b.fates) (id : Nat) : c.places id = b.places id := by
  unfold places
  rw [hq, hl, hr, hf]

/-! ### Operations -/

/-- The jobs that a drain would throw away now. -/
def discards (b : Batch) : List Job := (drain b.isGone b.settings.batchSize b.queue).discarded

/-- What is thrown away was in the queue, and nobody waited for it. -/
theorem mem_discards {b : Batch} {job : Job} (h : job ∈ b.discards) :
    job ∈ b.queue ∧ b.isGone job = true := by
  obtain ⟨popped, hq, -, hd, -⟩ := drain_pops b.isGone b.settings.batchSize b.queue
  have hj : job ∈ popped.filter b.isGone := hd ▸ h
  obtain ⟨hp, hg⟩ := List.mem_filter.mp hj
  exact ⟨hq ▸ List.mem_append_left _ hp, hg⟩

theorem notify_jobs (b : Batch) : b.notify.loop.jobs = b.loop.jobs := by
  unfold notify
  split
  · rename_i h; simp [h, Loop.jobs]
  · rfl

theorem start_jobs {b c : Batch} {now : Nat} (idle : b.lifecycle = .idle → b.loop = .absent)
    (h : b.start now = .ok c) : c.loop.jobs = b.loop.jobs := by
  unfold start at h
  split at h
  · cases h; rfl
  · cases h
  · rename_i hl
    cases h
    simp [idle hl, Loop.jobs]

theorem enter_jobs {b : Batch} (now id : Nat) (username : String) (token : Option Bool)
    (idle : b.lifecycle = .idle → b.loop = .absent) :
    (b.enter now id username token).loop.jobs = b.loop.jobs := by
  unfold enter
  split
  · rename_i hs
    simpa using start_jobs idle hs
  · rfl

/-- A drain leaves what it has not popped, and hands over what it takes; without a buffer it does
nothing. -/
theorem drainQueue_spec (b : Batch) (wake : Wake) :
    b.drainQueue wake = { b with loop := .crashed } ∨
      (b.drainQueue wake).queue = (drain b.isGone b.settings.batchSize b.queue).rest ∧
      (b.drainQueue wake).loop.jobs = (drain b.isGone b.settings.batchSize b.queue).taken ∧
      (b.drainQueue wake).fates = (b.setFates b.discards fun _ => .discarded).fates := by
  unfold drainQueue
  split
  · exact .inl rfl
  · right
    simp only
    split
    · rename_i h
      have ht : (drain b.isGone b.settings.batchSize b.queue).taken = [] := by simpa using h
      simp [ht, Loop.jobs, setFates, discards]
    · simp [Loop.jobs, setFates, discards]

/-- Fates outside a batch are as many more places as there are jobs that get them. -/
theorem length_places_setFates {b : Batch} {jobs : List Job} {id : Nat} (fate : Job → Fate)
    (hfate : ∀ job, (Fate.places (some (fate job))).length = 1)
    (once : occurrences id jobs + (Fate.places (b.fates.get? id)).length ≤ 1) :
    (Fate.places ((b.setFates jobs fate).fates.get? id)).length =
      occurrences id jobs + (Fate.places (b.fates.get? id)).length := by
  rcases b.get?_setFates jobs fate id with ⟨job, hj, hid, hnew⟩ | ⟨hne, hsame⟩
  · have hpos := occurrences_pos.mpr ⟨job, hj, hid⟩
    rw [hnew, hfate]
    omega
  · rw [hsame, occurrences_eq_zero hne, Nat.zero_add]

theorem drawn_insert_new {rounds : Table Nat Round} {n : Nat} (round : Round)
    (h : rounds.get? n = none) : drawn (rounds.insert n round) = drawn rounds ++ round.jobs := by
  rw [drawn, Table.entries_insert_of_none round h]
  simp [drawn]

theorem drawn_insert_old {rounds : Table Nat Round} {n : Nat} {round : Round} (next : Round)
    (h : rounds.get? n = some round) (hjobs : next.jobs = round.jobs) :
    drawn (rounds.insert n next) = drawn rounds := by
  obtain ⟨before, after, h₁, h₂⟩ := Table.entries_insert_of_some next h
  rw [drawn, h₂, drawn, h₁]
  simp [hjobs]

/-- Only a call that has queued nothing yet can have its job accepted. -/
theorem Moves.accepts {now : Nat} {b c : Batch} {a : Action} (h : Moves now b a c) {id : Nat}
    (hacc : accepts id (b, (now, a)) = true) :
    ∃ call, a = .push id ∧ c = b.push id call ∧ b.calls.get? id = some call ∧
      call.phase = .entered := by
  cases h with
  | @push i call hc entered =>
    obtain ⟨hid, -⟩ : i = id ∧ b.closed = false := by simpa [Batch.accepts] using hacc
    subst hid
    exact ⟨call, rfl, rfl, hc, entered⟩
  | _ => cases hacc

end SkinRelay.Batch
