import Mathlib.Data.List.Basic
import SkinRelay.Batch.Queue

/-!
What a drain takes out of a queue: jobs from its front, of which those that nobody waits for are
thrown away.
-/

namespace SkinRelay.Batch

/-- The jobs of a queue that somebody waits for. -/
def live (isGone : Job → Bool) (queue : List Job) : List Job :=
  queue.filter fun job => !isGone job

@[simp]
theorem live_nil (isGone : Job → Bool) : live isGone [] = [] := rfl

@[simp]
theorem live_append (isGone : Job → Bool) (xs ys : List Job) :
    live isGone (xs ++ ys) = live isGone xs ++ live isGone ys := List.filter_append ..

/-- A drain pops the front of the queue: what it takes are the jobs there that somebody waits for,
in order, and what it throws away the others. If it takes all it may, it stops right behind the last
job that it takes. -/
theorem drain_pops (isGone : Job → Bool) (size : Nat) (queue : List Job) :
    ∃ popped, queue = popped ++ (drain isGone size queue).rest ∧
      (drain isGone size queue).taken = live isGone popped ∧
      (drain isGone size queue).discarded = popped.filter isGone ∧
      ((drain isGone size queue).taken.length = size →
        popped.getLast? = (drain isGone size queue).taken.getLast?) := by
  induction queue generalizing size with
  | nil => exact ⟨[], rfl, rfl, rfl, fun _ => rfl⟩
  | cons job queue ih =>
    cases size with
    | zero => exact ⟨[], by simp [drain], by simp [drain], by simp [drain], by simp [drain]⟩
    | succ size =>
      by_cases hg : isGone job = true
      · obtain ⟨popped, hq, ht, hd, hlast⟩ := ih (size + 1)
        refine ⟨job :: popped, by simp [drain, hg, ← hq], by simp [drain, hg, live, ht],
          by simp [drain, hg, hd], ?_⟩
        simp only [drain, hg, if_true, Nat.succ_ne_zero, if_false]
        intro hfull
        have hne : (drain isGone (size + 1) queue).taken ≠ [] := by
          rintro hnil
          simp [hnil] at hfull
        rw [List.getLast?_cons, hlast hfull, List.getLast?_eq_some_getLast hne]
        rfl
      · obtain ⟨popped, hq, ht, hd, hlast⟩ := ih size
        refine ⟨job :: popped, by simp [drain, hg, ← hq], by simp [drain, hg, live, ht],
          by simp [drain, hg, hd], ?_⟩
        simp only [drain, hg, if_false, Bool.false_eq_true, Nat.succ_ne_zero, List.length_cons,
          Nat.add_right_cancel_iff, Nat.add_sub_cancel]
        intro hfull
        rw [List.getLast?_cons, List.getLast?_cons, hlast hfull]

example : drain (fun job => job.id == 1) 2 [⟨0, "a"⟩, ⟨1, "b"⟩, ⟨2, "c"⟩, ⟨3, "d"⟩] =
    ⟨[⟨0, "a"⟩, ⟨2, "c"⟩], [⟨1, "b"⟩], [⟨3, "d"⟩]⟩ := by
  decide

/-- A drain takes the front of a queue in which somebody waits for every job. -/
theorem drain_of_kept {isGone : Job → Bool} (size : Nat) {queue : List Job}
    (kept : ∀ job ∈ queue, isGone job = false) :
    drain isGone size queue = ⟨queue.take size, [], queue.drop size⟩ := by
  induction queue generalizing size with
  | nil => simp [drain]
  | cons job queue ih =>
    obtain ⟨hjob, hrest⟩ := List.forall_mem_cons.mp kept
    cases size with
    | zero => simp [drain]
    | succ size => simp [drain, hjob, ih size hrest]

/-- A drain takes no more than it may. -/
theorem length_taken_le (isGone : Job → Bool) (size : Nat) (queue : List Job) :
    (drain isGone size queue).taken.length ≤ size := by
  induction queue generalizing size with
  | nil => exact Nat.zero_le _
  | cons job queue ih =>
    unfold drain
    by_cases hs : size = 0
    · simp [hs]
    · by_cases hg : isGone job = true
      · simpa [hs, hg] using ih size
      · have hrest := ih (size - 1)
        simp only [hs, hg, if_false, Bool.false_eq_true, List.length_cons]
        omega

/-- A drain that takes a job leaves a shorter queue. -/
theorem length_rest_lt {isGone : Job → Bool} {size : Nat} {queue : List Job}
    (h : (drain isGone size queue).taken ≠ []) :
    (drain isGone size queue).rest.length < queue.length := by
  obtain ⟨popped, hq, ht, -⟩ := drain_pops isGone size queue
  have hpopped : popped ≠ [] := by
    rintro rfl
    exact h ht
  have hlength := congrArg List.length hq
  have hpos := List.length_pos_iff.mpr hpopped
  rw [List.length_append] at hlength
  omega

/-- Every job of the queue is in exactly one part of what is drained. -/
theorem countP_drain (isGone : Job → Bool) (size : Nat) (queue : List Job) (p : Job → Bool) :
    queue.countP p = (drain isGone size queue).taken.countP p +
      (drain isGone size queue).discarded.countP p + (drain isGone size queue).rest.countP p := by
  obtain ⟨popped, hq, ht, hd, -⟩ := drain_pops isGone size queue
  conv_lhs => rw [hq]
  rw [List.countP_append, List.countP_eq_countP_filter_add popped p isGone, ht, hd, live]
  omega

/-- A drain that takes less than it may has come to the end of the queue. -/
theorem drain_rest_of_short {isGone : Job → Bool} {size : Nat} {queue : List Job}
    (h : (drain isGone size queue).taken.length < size) : (drain isGone size queue).rest = [] := by
  induction queue generalizing size with
  | nil => rfl
  | cons job queue ih =>
    have hs : size ≠ 0 := by omega
    unfold drain at h ⊢
    by_cases hg : isGone job = true
    · simp only [hs, hg, if_false, if_true] at h ⊢
      exact ih h
    · simp only [hs, hg, if_false, Bool.false_eq_true, List.length_cons] at h ⊢
      exact ih (by omega)

/-- A drain takes the first jobs that somebody waits for, and leaves the others of them. -/
theorem live_drain (isGone : Job → Bool) (size : Nat) (queue : List Job) :
    (drain isGone size queue).taken = (live isGone queue).take size ∧
      live isGone (drain isGone size queue).rest = (live isGone queue).drop size := by
  induction queue generalizing size with
  | nil => simp [drain]
  | cons job queue ih =>
    cases size with
    | zero => simp [drain]
    | succ size =>
      by_cases hg : isGone job = true
      · have hlive : live isGone (job :: queue) = live isGone queue := by simp [live, hg]
        simpa [drain, hg, hlive] using ih (size + 1)
      · have hlive : live isGone (job :: queue) = job :: live isGone queue := by simp [live, hg]
        simpa [drain, hg, hlive] using ih size

end SkinRelay.Batch
