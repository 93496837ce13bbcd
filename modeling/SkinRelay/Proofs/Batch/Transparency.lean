import SkinRelay.Proofs.Batch.Honesty
import SkinRelay.Proofs.Batch.Stops

/-!
Batching is transparent. Whatever the batches are and whoever else calls, a call that gets an answer
gets what a lookup of its own name alone would give, and a call that gets none knows why. The main
result is `batching_is_transparent`.
-/

namespace SkinRelay.Batch

/-- What a call can return: the truth about its name, or the reason why there is no answer. -/
inductive Outcome (d : Directory) (log : List Entry) (b : Batch) (call : Call) :
    AccountResult → Prop
  | answer : Outcome d log b call (.ok (d.account (Username.key call.username)))
  | failed {e : Entry} {n : Nat} {error : RemoteError} (entry : e ∈ log)
      (fails : e.2.2 = .deliver n (.error error)) : Outcome d log b call (.error (.remote error))
  | stopped (stopped : b.lifecycle = .stopped) : Outcome d log b call (.error .queueStopped)
  | cancelled (fired : call.token = some true) : Outcome d log b call (.error .cancelled)

/-- What the callers of a queue can rely on, if every reply says the truth about its own batch. -/
structure Transparent (d : Directory) (log : List Entry) (b : Batch) : Prop where
  /-- Every call that was made returns the truth about the name that it was made with, or fails for
  a reason. -/
  outcome : ∀ e ∈ log, ∀ id username token, e.2.2 = .enter id username token →
    ∃ call, b.calls.get? id = some call ∧ call.username = username ∧
      ∀ result, call.phase = .returned result → Outcome d log b call result
  /-- Once its batch is answered, a call that still waits returns the truth. -/
  answered : ∀ e ∈ log, ∀ n accounts round, e.2.2 = .deliver n (.ok accounts) →
    e.1.rounds.get? n = some round → ∀ job ∈ round.jobs,
      ∃ call, b.calls.get? job.id = some call ∧ call.username = job.username ∧
        (call.phase = .waiting → call.token ≠ some true →
          b.result? job.id call = some (.ok (d.account (Username.key job.username))))
  /-- No other queue gives another answer to a call for the same name, with whatever settings,
  batches and callers. -/
  same : ∀ settings log' b', History Step (ofSettings settings) log' b' →
    (∀ e ∈ log', Honest d e.1 e.2.2) → ∀ id call found, b.calls.get? id = some call →
      call.phase = .returned (.ok found) → ∀ id' call' found', b'.calls.get? id' = some call' →
      call'.phase = .returned (.ok found') →
      Username.key call.username = Username.key call'.username → found = found'
  /-- A batch of no names is a batch of one. -/
  zero : ∀ settings : BatchSettings,
    ofSettings { settings with batchSize := 0 } = ofSettings { settings with batchSize := 1 }

section

variable {d : Directory} {settings : BatchSettings} {log : List Entry} {b : Batch}

/-- A call that was made is there, with the name that it was made with. -/
theorem entered_of_history (h : History Step (ofSettings settings) log b) {e : Entry} (he : e ∈ log)
    {id : Nat} {username : String} {token : Option Bool} (enters : e.2.2 = .enter id username token) :
    ∃ call, b.calls.get? id = some call ∧ call.username = username := by
  obtain ⟨before, after, c, -, -, hs, hafter⟩ := h.cut he
  have hm := moves_of_step? hs
  rw [enters] at hm
  cases hm with
  | enter new =>
    obtain ⟨phase, -, hcalls⟩ := e.1.enter_calls e.2.1 id username token
    have hnew : (e.1.enter e.2.1 id username token).calls.get? id =
        some { username, token, phase } := by simp [hcalls]
    obtain ⟨call, hc, hbec⟩ := call_of_history hafter hnew
    exact ⟨call, hc, hbec.username⟩

/-- The jobs of a batch that was answered have their part of the reply. -/
theorem fate_of_delivered (h : History Step (ofSettings settings) log b) {e : Entry} (he : e ∈ log)
    {n : Nat} {result : Except RemoteError (List Account)} {round : Round} {job : Job}
    (delivers : e.2.2 = .deliver n result) (at_ : e.1.rounds.get? n = some round)
    (carried : job ∈ round.jobs) :
    b.fates.get? job.id = some (.answered (job.reply result)) := by
  obtain ⟨before, after, c, -, hbefore, hs, hafter⟩ := h.cut he
  have ht := orderly_of_history hbefore
  have hm := moves_of_step? hs
  refine (ht.move hm).fate_of_history hafter ?_
  rw [delivers] at hm
  cases hm with
  | @deliver _ time round' _ hat _ =>
    obtain rfl : round = round' := Option.some.inj (at_.symm.trans hat)
    rcases e.1.get?_setFates round.jobs (fun job => .answered (job.reply result)) job.id with
      ⟨other, hother, hid, hnew⟩ | ⟨hne, -⟩
    · -- Two jobs of one call are one job, for they ask for the same name.
      have holds : ∀ j ∈ round.jobs, e.1.Holds j := fun j hj =>
        .inr (.inr (List.mem_flatMap.mpr ⟨_, Table.mem_of_get? at_, hj⟩))
      obtain ⟨call, hc, hname⟩ := ht.named job (holds job carried)
      obtain ⟨call', hc', hname'⟩ := ht.named other (holds other hother)
      rw [hid] at hc'
      obtain rfl : call = call' := Option.some.inj (hc.symm.trans hc')
      have hreply : other.reply result = job.reply result := by
        simp only [Job.reply, ← hname, ← hname']
      rw [← hreply]
      exact hnew
    · exact absurd rfl (hne job carried)

theorem outcome_of_returned (h : History Step (ofSettings settings) log b)
    (honest : ∀ e ∈ log, Honest d e.1 e.2.2) {id : Nat} {call : Call} {result : AccountResult}
    (hc : b.calls.get? id = some call) (hp : call.phase = .returned result) :
    Outcome d log b call result := by
  rcases (orderly_of_history h).returned id call result hc hp with
    ⟨-, rfl⟩ | ⟨fired, rfl⟩ | ⟨fate, hf, hres⟩
  · exact .stopped ((stops_of_history h).rejected id call hc hp)
  · exact .cancelled fired
  · cases fate with
    | discarded => cases hres
    | cleared =>
      cases hres
      exact .stopped ((stops_of_history h).cleared id hf)
    | answered reply =>
      obtain ⟨e, he, n, delivered, round, ha, -, -, rfl, -⟩ := answer_of_history h hc hf
      cases delivered with
      | error error =>
        cases hres
        exact .failed he ha
      | ok accounts =>
        cases hres
        have htrue := returned_of_honest h honest hc hp
        show Outcome d log b call (.ok (answerFor accounts call.username))
        rw [htrue]
        exact .answer

/-- Batching does not show in the answers. -/
theorem batching_is_transparent (h : History Step (ofSettings settings) log b)
    (honest : ∀ e ∈ log, Honest d e.1 e.2.2) : Transparent d log b where
  outcome e he id username token enters := by
    obtain ⟨call, hc, hname⟩ := entered_of_history h he enters
    exact ⟨call, hc, hname, fun result hp => outcome_of_returned h honest hc hp⟩
  answered e he n accounts round delivers hat job hj := by
    have hf := fate_of_delivered h he delivers hat hj
    have htrue : answerFor accounts job.username = d.account (Username.key job.username) := by
      have hhonest := honest e he
      rw [delivers] at hhonest
      exact (hhonest round hat job hj).answerFor_eq
    obtain ⟨next, hn, hjobs, -⟩ : ∃ next, b.rounds.get? n = some next ∧ next.jobs = round.jobs ∧
        (round.phase = .answered → next.phase = .answered) := by
      obtain ⟨before, after, c, -, hbefore, hs, hafter⟩ := h.cut he
      exact (orderly_of_history hbefore).round_of_history (History.next .start hs |>.trans hafter) hat
    obtain ⟨call, hc, hname⟩ := (orderly_of_history h).named job
      (.inr (.inr (List.mem_flatMap.mpr ⟨_, Table.mem_of_get? hn, hjobs ▸ hj⟩)))
    refine ⟨call, hc, hname, fun _ unfired => ?_⟩
    rw [result?_of_unfired unfired, hf, ← htrue]
    rfl
  same settings' log' b' h' honest' id call found hc hp id' call' found' hc' hp' hkey := by
    rw [returned_of_honest h honest hc hp, returned_of_honest h' honest' hc' hp', hkey]
  zero settings' := rfl

/-- Batches of two names. One name is asked for in three casings, by a call that is cancelled, by one
that is answered and by one that is dropped; the other name has no account. -/
theorem batching_is_transparent_to_other_calls :
    ∃ d log, ∃ b : Batch,
      History Step (ofSettings { batchSize := 2, fireOnFull := true }) log b ∧
      (∀ e ∈ log, Honest d e.1 e.2.2) ∧ Transparent d log b ∧
      b.calls.get? 0 = some ⟨"notch", some true, .returned (.error .cancelled)⟩ ∧
      b.calls.get? 1 =
        some ⟨"NOTCH", none, .returned (.ok (some { id := "069a79f4", name := "Notch" }))⟩ ∧
      b.calls.get? 2 = some ⟨"jeb_", some false, .returned (.ok none)⟩ := by
  have h := History.of_replay_all (fun (b : Batch) a => b.step? a.1 a.2)
    (ofSettings { batchSize := 2, fireOnFull := true })
    (fun e => Honest
      (.single { id := "069a79f4", name := "Notch" } { id := "069a79f4", name := "Notch" })
      e.1 e.2.2)
    [(0, .enter 0 "notch" (some false)), (0, .push 0), (0, .enter 1 "NOTCH" none), (0, .push 1),
      (0, .signal 1), (1, .enter 2 "jeb_" (some false)), (1, .push 2), (1, .cancel 0),
      (1, .collect 0), (2, .park), (2, .wake .full), (2, .drain), (2, .fire),
      (3, .enter 3 "Notch" none), (3, .push 3), (3, .drop 3), (4, .send 0),
      (5, .deliver 0 (.ok [{ id := "069a79f4", name := "Notch" }])), (6, .haltLoop),
      (6, .collect 1), (6, .collect 2)]
    (by simp [Honest, Directory.answers_single]) rfl
  exact ⟨_, _, _, h.1, h.2, batching_is_transparent h.1 h.2, rfl, rfl, rfl⟩

end

end SkinRelay.Batch
