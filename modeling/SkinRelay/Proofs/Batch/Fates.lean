import SkinRelay.Proofs.Batch.Places

/-!
How a job gets its fate: a drain throws it away, a stop clears it, or the reply to its request
answers it. No other step decides anything, and what a waiting call returns is decided by the fate
of its job alone, unless its token has fired.
-/

namespace SkinRelay.Batch

/-- `Decides b a id fate`: the action `a`, taken in `b`, gives the job of the call `id` its fate. -/
inductive Decides (b : Batch) : Action → Nat → Fate → Prop
  | discard {job : Job} (popped : job ∈ b.discards) : Decides b .drain job.id .discarded
  | clear {job : Job} (queued : job ∈ b.queue) : Decides b .closeQueue job.id .cleared
  | answer {number time : Nat} {round : Round} {job : Job}
      {result : Except RemoteError (List Account)} (at_ : b.rounds.get? number = some round)
      (sent : round.phase = .sent time) (carried : job ∈ round.jobs) :
      Decides b (.deliver number result) job.id (.answered (job.reply result))

theorem Moves.fate {now : Nat} {b c : Batch} {a : Action} (h : Moves now b a c) (id : Nat) :
    c.fates.get? id = b.fates.get? id ∨
      ∃ fate, c.fates.get? id = some fate ∧ Decides b a id fate := by
  cases h with
  | enter =>
    left
    rw [(b.enter_frame ..).2.2]
  | push =>
    left
    rw [(b.push_frame ..).2.1]
  | signal =>
    left
    simp [(notify_frame b).2.2.1]
  | start hs =>
    left
    rw [(start_frame hs).2.2.1]
  | closeQueue =>
    rcases b.get?_setFates b.queue (fun _ => .cleared) id with ⟨job, hj, rfl, hf⟩ | ⟨-, hf⟩
    · exact .inr ⟨_, hf, .clear hj⟩
    · exact .inl hf
  | @drain wake _ =>
    rcases b.drainQueue_spec wake with hcrash | ⟨-, -, hfates⟩
    · rw [hcrash]
      exact .inl rfl
    · rw [hfates]
      rcases b.get?_setFates b.discards (fun _ => .discarded) id with ⟨job, hj, rfl, hf⟩ | ⟨-, hf⟩
      · exact .inr ⟨_, hf, .discard hj⟩
      · exact .inl hf
  | @deliver number time round result hat hsent =>
    rcases b.get?_setFates round.jobs (fun job => .answered (job.reply result)) id with
      ⟨job, hj, rfl, hf⟩ | ⟨-, hf⟩
    · exact .inr ⟨_, hf, .answer hat hsent hj⟩
    · exact .inl hf
  | _ => exact .inl rfl

/-- What a fate has a waiting call return. -/
def Fate.result? : Fate → Option AccountResult
  | .discarded => none
  | .cleared => some (.error .queueStopped)
  | .answered reply => some (reply.mapError .remote)

theorem result?_of_fired {b : Batch} {id : Nat} {call : Call} (h : call.token = some true) :
    b.result? id call = some (.error .cancelled) := by
  simp [result?, h]

theorem result?_of_unfired {b : Batch} {id : Nat} {call : Call} (h : call.token ≠ some true) :
    b.result? id call = (b.fates.get? id).bind Fate.result? := by
  simp only [result?, h, if_false]
  split <;> simp_all [Fate.result?, Except.mapError]

end SkinRelay.Batch
