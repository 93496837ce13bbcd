import Mathlib.Data.List.Basic
import SkinRelay.Proofs.Batch.Conservation

/-!
A queue that is drained until nothing comes out of it. As long as the callers stay as they are, it
goes out in batches that are the consecutive chunks of the jobs that somebody waits for. The main
result is `draining_is_chunking`.
-/

namespace SkinRelay.Batch

/-- `Drains wake b batches c`: the queue of `b`, drained until nothing comes out of it, gives these
batches, each with the number of jobs that were left behind it, and leaves `c`. -/
inductive Drains (wake : Wake) : Batch → List (List Job × Nat) → Batch → Prop
  | dry {b : Batch} (dry : (b.drainQueue wake).loop = .ready) : Drains wake b [] (b.drainQueue wake)
  | batch {b c : Batch} {jobs : List Job} {left : Nat} {batches : List (List Job × Nat)}
      (drawn : (b.drainQueue wake).loop = .firing wake jobs left)
      (rest : Drains wake (b.drainQueue wake) batches c) :
      Drains wake b ((jobs, left) :: batches) c

/-- The jobs of several batches. -/
def jobsOf (batches : List (List Job × Nat)) : List Job := (batches.map Prod.fst).flatten

@[simp]
theorem jobsOf_cons (batch : List Job × Nat) (batches : List (List Job × Nat)) :
    jobsOf (batch :: batches) = batch.1 ++ jobsOf batches := rfl

/-- Whether a queue has so many jobs left behind the last one popped for a batch, where these jobs
have gone out with it and these others go out later. A full batch ends the popping; for a short one
it goes on to the end of the queue. -/
def EndsAt (isGone : Job → Bool) (size : Nat) (queue out later jobs : List Job) (left : Nat) : Prop :=
  ∃ popped behind, queue = popped ++ behind ∧ left = behind.length ∧
    live isGone popped = out ∧ live isGone behind = later ∧
    (jobs.length = size → popped.getLast? = jobs.getLast?) ∧ (jobs.length < size → behind = [])

/-- The batches in which a queue goes out. -/
structure Chunked (isGone : Job → Bool) (size : Nat) (queue : List Job)
    (batches : List (List Job × Nat)) : Prop where
  /-- There are as many batches as the jobs that somebody waits for fill, the last perhaps in part. -/
  count : batches.length = ((live isGone queue).length + size - 1) / size
  /-- The batches are the consecutive chunks of these jobs. -/
  chunks : batches.map Prod.fst = (List.range batches.length).map fun i =>
    ((live isGone queue).drop (i * size)).take size
  /-- Every such job goes out once, in its turn, and no other job does. -/
  jobs : jobsOf batches = live isGone queue
  /-- No batch is empty, and none is larger than it may be. -/
  sizes : ∀ batch ∈ batches, batch.1 ≠ [] ∧ batch.1.length ≤ size
  /-- Only the last batch may be short. -/
  full : ∀ before batch after, batches = before ++ batch :: after → after ≠ [] →
    batch.1.length = size
  /-- A batch comes with the number of jobs, wanted or not, behind the last one popped. -/
  depths : ∀ before jobs left after, batches = before ++ (jobs, left) :: after →
    EndsAt isGone size queue (jobsOf before ++ jobs) (jobsOf after) jobs left

section

variable {isGone : Job → Bool} {size : Nat} {queue : List Job}

theorem Chunked.dry (h : live isGone queue = []) (positive : 1 ≤ size) :
    Chunked isGone size queue [] where
  count := by
    rw [h, List.length_nil, List.length_nil, Nat.div_eq_of_lt]
    omega
  chunks := rfl
  jobs := h.symm
  sizes := by simp
  full before batch after h := by simp at h
  depths before jobs left after h := by simp at h

theorem count_step {n : Nat} (positive : 1 ≤ size) (some : 1 ≤ n) :
    (n + size - 1) / size = (n - size + size - 1) / size + 1 := by
  rcases Nat.lt_or_ge n size with hlt | hge
  · have hone : (n + size - 1) / size = 1 := by
      rw [Nat.div_eq_iff positive]
      omega
    have hnone : (n - size + size - 1) / size = 0 := Nat.div_eq_of_lt (by omega)
    omega
  · have heq : n + size - 1 = (n - size + size - 1) + size := by omega
    rw [heq, Nat.add_div_right _ positive]

theorem Chunked.batch {batches : List (List Job × Nat)} (positive : 1 ≤ size)
    (some : (drain isGone size queue).taken ≠ [])
    (h : Chunked isGone size (drain isGone size queue).rest batches) :
    Chunked isGone size queue
      (((drain isGone size queue).taken, (drain isGone size queue).rest.length) :: batches) := by
  obtain ⟨htaken, hrest⟩ := live_drain isGone size queue
  have hlive : 1 ≤ (live isGone queue).length := by
    rw [htaken] at some
    have hne : live isGone queue ≠ [] := by
      rintro hnil
      simp [hnil] at some
    exact List.length_pos_iff.mpr hne
  obtain ⟨popped, hq, hpopped, -, hlast⟩ := drain_pops isGone size queue
  constructor
  case count => rw [List.length_cons, h.count, hrest, List.length_drop, ← count_step positive hlive]
  case chunks =>
    rw [List.map_cons, h.chunks, hrest, List.length_cons, List.range_succ_eq_map, List.map_cons,
      List.map_map, htaken]
    congr 1
    · simp
    · apply List.map_congr_left
      intro i hi
      simp [List.drop_drop, Nat.succ_mul, Nat.add_comm]
  case jobs => rw [jobsOf_cons, h.jobs, hrest, htaken, List.take_append_drop]
  case sizes =>
    intro batch hbatch
    rcases List.mem_cons.mp hbatch with rfl | hmem
    · exact ⟨some, length_taken_le isGone size queue⟩
    · exact h.sizes batch hmem
  case full =>
    intro before batch after heq hafter
    rcases List.cons_eq_append_iff.mp heq with ⟨rfl, hcons⟩ | ⟨before', rfl, htail⟩
    · obtain ⟨rfl, rfl⟩ := List.cons.inj hcons
      -- A short batch leaves nothing that a later one could hold.
      by_contra hshort
      have hle := length_taken_le isGone size queue
      have hnil : (drain isGone size queue).rest = [] :=
        drain_rest_of_short (Nat.lt_of_le_of_ne hle hshort)
      have hjobs := h.jobs
      rw [hnil, live_nil] at hjobs
      obtain ⟨next, after, rfl⟩ := List.exists_cons_of_ne_nil hafter
      have hempty : next.1 = [] := by simp at hjobs; exact hjobs.1
      exact (h.sizes next (by simp)).1 hempty
    · exact h.full before' batch after htail hafter
  case depths =>
    intro before jobs left after heq
    rcases List.cons_eq_append_iff.mp heq with ⟨rfl, hcons⟩ | ⟨before', rfl, htail⟩
    · obtain ⟨hhead, rfl⟩ := List.cons.inj hcons
      obtain ⟨rfl, rfl⟩ := Prod.mk.inj hhead
      exact ⟨popped, _, hq, rfl, hpopped.symm, h.jobs.symm, hlast, drain_rest_of_short⟩
    · obtain ⟨further, behind, hsplit, hleft, hgone, hlater, hfull, hshort⟩ :=
        h.depths before' jobs left after htail
      refine ⟨popped ++ further, behind, ?_, hleft, ?_, hlater, ?_, hshort⟩
      · rw [List.append_assoc, ← hsplit, ← hq]
      · rw [live_append, ← hpopped, hgone, jobsOf_cons, List.append_assoc]
      · intro hsize
        have hne : jobs ≠ [] := (h.sizes (jobs, left) (by simp [htail])).1
        rw [List.getLast?_append, hfull hsize, List.getLast?_eq_some_getLast hne, Option.some_or]

end

variable {b c : Batch} {wake : Wake}

/-- A drain with a buffer for its batch. -/
theorem drainQueue_of_buffered (b : Batch) (wake : Wake)
    (buffered : b.settings.batchSize ≤ maxBuffered) :
    (b.drainQueue wake).queue = (drain b.isGone b.settings.batchSize b.queue).rest ∧
      (b.drainQueue wake).settings = b.settings ∧
      (b.drainQueue wake).loop =
        if (drain b.isGone b.settings.batchSize b.queue).taken = [] then .ready
        else .firing wake (drain b.isGone b.settings.batchSize b.queue).taken
          (drain b.isGone b.settings.batchSize b.queue).rest.length := by
  unfold drainQueue
  rw [if_neg (by omega)]
  dsimp only
  split
  · rename_i h
    have hnil := List.isEmpty_iff.mp h
    exact ⟨rfl, rfl, by rw [if_pos hnil]⟩
  · rename_i h
    have hne : (drain b.isGone b.settings.batchSize b.queue).taken ≠ [] := by
      simpa [List.isEmpty_iff] using h
    exact ⟨rfl, rfl, by rw [if_neg hne]⟩

theorem isGone_drainQueue (b : Batch) (wake : Wake) : (b.drainQueue wake).isGone = b.isGone := by
  funext job
  simp only [isGone, (b.drainQueue_frame wake).1]

/-- What is left of a queue that is drained until nothing comes out of it. -/
theorem Drains.spec {batches : List (List Job × Nat)} (h : Drains wake b batches c)
    (positive : 1 ≤ b.settings.batchSize) (buffered : b.settings.batchSize ≤ maxBuffered) :
    c.queue = [] ∧ c.calls = b.calls ∧
      Chunked b.isGone b.settings.batchSize b.queue batches := by
  induction h with
  | @dry b dry =>
    obtain ⟨hqueue, -, hloop⟩ := b.drainQueue_of_buffered wake buffered
    have hnil : (drain b.isGone b.settings.batchSize b.queue).taken = [] := by
      by_contra hne
      rw [dry, if_neg hne] at hloop
      cases hloop
    refine ⟨?_, (b.drainQueue_frame wake).1, .dry ?_ positive⟩
    · rw [hqueue, drain_rest_of_short]
      rw [hnil]
      exact positive
    · rw [(live_drain ..).1] at hnil
      exact (List.take_eq_nil_iff.mp hnil).resolve_left (by omega)
  | @batch b c jobs left batches drawn _ ih =>
    obtain ⟨hqueue, hsettings, hloop⟩ := b.drainQueue_of_buffered wake buffered
    rw [hsettings, hqueue, isGone_drainQueue] at ih
    obtain ⟨hempty, hcalls, hchunked⟩ := ih positive buffered
    by_cases hnil : (drain b.isGone b.settings.batchSize b.queue).taken = []
    · rw [drawn, if_pos hnil] at hloop
      cases hloop
    · rw [drawn, if_neg hnil] at hloop
      obtain ⟨-, rfl, rfl⟩ := Loop.firing.inj hloop
      exact ⟨hempty, hcalls.trans (b.drainQueue_frame wake).1, .batch positive hnil hchunked⟩

/-- Draining comes to an end: every batch is taken out of the queue, which gets shorter. -/
theorem exists_drains (wake : Wake) (b : Batch) (positive : 1 ≤ b.settings.batchSize)
    (buffered : b.settings.batchSize ≤ maxBuffered) : ∃ batches c, Drains wake b batches c := by
  induction hn : b.queue.length using Nat.strongRecOn generalizing b with
  | _ n ih =>
    obtain ⟨hqueue, hsettings, hloop⟩ := b.drainQueue_of_buffered wake buffered
    by_cases hnil : (drain b.isGone b.settings.batchSize b.queue).taken = []
    · rw [if_pos hnil] at hloop
      exact ⟨[], _, .dry hloop⟩
    · rw [if_neg hnil] at hloop
      have hshorter : (b.drainQueue wake).queue.length < n := by
        rw [hqueue, ← hn]
        exact length_rest_lt hnil
      obtain ⟨batches, c, hrest⟩ :=
        ih _ hshorter (b.drainQueue wake) (by rwa [hsettings]) (by rwa [hsettings]) rfl
      exact ⟨_, c, .batch hloop hrest⟩

/-- Draining a queue until nothing comes out of it ends, leaves the queue empty and cuts the jobs that
somebody waits for into chunks. The buffer for a batch must be one that can be had. -/
theorem draining_is_chunking (wake : Wake) (b : Batch) (positive : 1 ≤ b.settings.batchSize)
    (buffered : b.settings.batchSize ≤ maxBuffered) :
    (∃ batches c, Drains wake b batches c) ∧
      ∀ batches c, Drains wake b batches c →
        c.queue = [] ∧ c.calls = b.calls ∧
          Chunked b.isGone b.settings.batchSize b.queue batches :=
  ⟨exists_drains wake b positive buffered, fun _ _ h => h.spec positive buffered⟩

/-- Batches of two names, with callers that are gone before, between and after them. -/
theorem draining_is_chunking_among_dropped :
    ∃ log, ∃ b c : Batch, History Step (ofSettings { batchSize := 2 }) log b ∧
      b.loop = .draining .delay ∧
      b.queue = [⟨0, "a0"⟩, ⟨1, "b1"⟩, ⟨2, "c2"⟩, ⟨3, "d3"⟩, ⟨4, "e4"⟩, ⟨5, "f5"⟩] ∧
      live b.isGone b.queue = [⟨1, "b1"⟩, ⟨2, "c2"⟩, ⟨4, "e4"⟩] ∧
      Drains .delay b [([⟨1, "b1"⟩, ⟨2, "c2"⟩], 3), ([⟨4, "e4"⟩], 0)] c ∧ c.queue = [] ∧
      Chunked b.isGone 2 b.queue [([⟨1, "b1"⟩, ⟨2, "c2"⟩], 3), ([⟨4, "e4"⟩], 0)] := by
  have h : History Step (ofSettings { batchSize := 2 }) _ _ := History.of_replay
    [(0, .enter 0 "a0" none), (0, .push 0), (0, .enter 1 "b1" none), (0, .push 1),
      (0, .enter 2 "c2" none), (0, .push 2), (0, .enter 3 "d3" none), (0, .push 3),
      (0, .enter 4 "e4" none), (0, .push 4), (0, .enter 5 "f5" none), (0, .push 5), (1, .drop 0),
      (1, .drop 3), (1, .drop 5), (2, .park), (Time.millis 3000, .wake .delay)] rfl
  refine ⟨_, _, _, h, rfl, rfl, rfl, .batch rfl (.batch rfl (.dry rfl)), rfl, ?_⟩
  exact ((draining_is_chunking .delay _ (by decide) (by decide)).2 _ _
    (.batch rfl (.batch rfl (.dry rfl)))).2.2

/-- A batch size for which no buffer can be had: a job takes 32 bytes, so this many take `2 ^ 63`. The
loop dies of the first drain, and whoever waits for the name that is in the queue is never told. -/
theorem oversized_batches_are_not_drained :
    ∃ log, ∃ b : Batch, History Step (ofSettings { batchSize := 288230376151711744 }) log b ∧
      1 ≤ b.settings.batchSize ∧ b.loop = .draining .delay ∧ b.queue = [⟨0, "a1"⟩] ∧
      b.isGone ⟨0, "a1"⟩ = false ∧ (b.drainQueue .delay).loop = .crashed ∧
      ¬∃ batches c, Drains .delay b batches c := by
  have h : History Step (ofSettings { batchSize := 288230376151711744 }) _ _ := History.of_replay
    [(0, .enter 0 "a1" none), (0, .push 0), (0, .park), (Time.millis 3000, .wake .delay)] rfl
  refine ⟨_, _, h, by decide, rfl, rfl, rfl, rfl, ?_⟩
  rintro ⟨batches, c, drains⟩
  cases drains with
  | dry dry => cases dry
  | batch drawn => cases drawn

end SkinRelay.Batch
