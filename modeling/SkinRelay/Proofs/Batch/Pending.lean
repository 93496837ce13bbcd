import Mathlib.Data.List.Nodup
import SkinRelay.Proofs.Batch.Conservation

/-!
Jobs without an answer: those in the queue and those that were taken out of it and have not been
answered. They are jobs of different calls, and a call that is neither cancelled nor dropped waits
for its job as long as it is pending.
-/

namespace SkinRelay.Batch

/-- The jobs in the queue, and those of batches that have not been answered. -/
def pending (b : Batch) : List Job :=
  b.queue ++ b.loop.jobs ++ drawnIn (fun phase => !phase.isAnswered) b.rounds

variable {b : Batch} {job : Job}

/-- The jobs of a round that has not been answered are pending, in their order. -/
theorem round_sublist_pending {n : Nat} {round : Round} (at_ : b.rounds.get? n = some round)
    (unanswered : round.phase ≠ .answered) : round.jobs.Sublist b.pending := by
  have hopen : (!round.phase.isAnswered) = true := by
    cases hp : round.phase with
    | answered => exact absurd hp unanswered
    | ready | sent => rfl
  have hpart : round.jobs ∈
      b.rounds.entries.map fun e => if !e.2.phase.isAnswered then e.2.jobs else [] :=
    List.mem_map.mpr ⟨_, Table.mem_of_get? at_, if_pos hopen⟩
  refine List.Sublist.trans ?_ (List.sublist_append_right _ _)
  rw [drawnIn, List.flatMap_def]
  exact List.sublist_flatten_of_mem hpart

theorem holds_of_pending (h : job ∈ b.pending) : b.Holds job := by
  simp only [pending, List.mem_append] at h
  rcases h with (hq | hl) | hr
  · exact .inl hq
  · exact .inr (.inl hl)
  · obtain ⟨e, he, -, hj⟩ := mem_drawnIn.mp hr
    exact .inr (.inr (List.mem_flatMap.mpr ⟨e, he, hj⟩))

/-- A pending job is in the queue or under way. -/
theorem place_of_pending (h : job ∈ b.pending) :
    ∃ p ∈ b.places job.id, p = .queued ∨ ∃ n, p = .underWay n := by
  simp only [pending, List.mem_append] at h
  rcases h with (hq | hl) | hr
  · exact ⟨_, queued_mem_places hq, .inl rfl⟩
  · have hpos : 0 < occurrences job.id b.loop.jobs := occurrences_pos.mpr ⟨job, hl, rfl⟩
    exact ⟨_, mem_places.mpr (.inr (.inl ⟨rfl, hpos⟩)), .inr ⟨_, rfl⟩⟩
  · obtain ⟨⟨n, round⟩, he, hp, hj⟩ := mem_drawnIn.mp hr
    have hpos : 0 < occurrences job.id round.jobs := occurrences_pos.mpr ⟨job, hj, rfl⟩
    refine ⟨round.place n, mem_places.mpr (.inr (.inr (.inl ⟨_, he, rfl, hpos⟩))), .inr ⟨n, ?_⟩⟩
    unfold Round.place
    split
    · rename_i hanswered
      simp [hanswered, RoundPhase.isAnswered] at hp
    · rfl

namespace Orderly

/-- The fate of a pending job is open. -/
theorem fate_of_pending (hb : Orderly b) (h : job ∈ b.pending) : b.fates.get? job.id = none := by
  cases hf : b.fates.get? job.id with
  | none => rfl
  | some fate =>
    obtain ⟨p, hp, hq, hu⟩ := hb.decided hf
    obtain ⟨q, hq', hor⟩ := place_of_pending h
    obtain rfl := hb.place_unique hp hq'
    rcases hor with rfl | ⟨n, rfl⟩
    · exact absurd rfl hq
    · exact absurd rfl (hu n)

/-- Nobody but a call that was cancelled or dropped has left a pending job. -/
theorem waits_of_pending (hb : Orderly b) (h : job ∈ b.pending) {call : Call}
    (hc : b.calls.get? job.id = some call) (unfired : call.token ≠ some true)
    (kept : call.phase ≠ .gone) : call.hasLeft = false := by
  obtain ⟨username, token, phase⟩ := call
  cases phase with
  | entered | signalling | waiting => rfl
  | gone => exact absurd rfl kept
  | returned result =>
    rcases hb.returned job.id _ result hc rfl with ⟨hnone, -⟩ | ⟨fired, -⟩ | ⟨fate, hf, -⟩
    · obtain ⟨p, hp, -⟩ := place_of_pending h
      rw [hnone] at hp
      cases hp
    · exact absurd fired unfired
    · rw [hb.fate_of_pending h] at hf
      cases hf

/-- No call has two pending jobs. -/
theorem nodup_pending (hb : Orderly b) : (b.pending.map Job.id).Nodup := by
  rw [List.nodup_iff_count_le_one]
  intro id
  have hcount : (b.pending.map Job.id).count id = occurrences id b.pending := by
    rw [List.count, List.countP_map]
    rfl
  have honce := hb.once id
  have hle := occurrences_drawnIn_le (fun phase => !phase.isAnswered) id b.rounds
  rw [length_places] at honce
  rw [hcount, pending, occurrences_append, occurrences_append]
  omega

end Orderly

end SkinRelay.Batch
