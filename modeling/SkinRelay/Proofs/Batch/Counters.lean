import SkinRelay.Proofs.Batch.Throttle

/-!
What the queue counts: the batches that were answered, and the jobs in them. When no job is pending,
these are all jobs that were ever dispatched (`usernamesSent_of_settled`).
-/

namespace SkinRelay.Batch

section

variable {b c : Batch} {now : Nat} {a : Action} {rounds : Table Nat Round}

/-! ### Steps -/

/-- Only an answer counts batches and their jobs. -/
theorem Moves.stats (h : Moves now b a c) (other : a.answers? = none) :
    c.stats.rounds = b.stats.rounds ∧ c.stats.usernamesSent = b.stats.usernamesSent := by
  have started : ∀ {s : Batch}, b.start now = .ok s → s.stats = b.stats := by
    intro s hs
    unfold Batch.start at hs
    split at hs <;> cases hs <;> rfl
  cases h with
  | enter =>
    unfold Batch.enter
    split
    · rename_i hs
      simp [setCall, started hs]
    · exact ⟨rfl, rfl⟩
  | push =>
    unfold Batch.push
    split <;> exact ⟨rfl, rfl⟩
  | signal =>
    unfold notify setCall
    split <;> exact ⟨rfl, rfl⟩
  | start hs => simp [started hs]
  | drain =>
    unfold drainQueue
    split
    · exact ⟨rfl, rfl⟩
    · dsimp only
      split <;> exact ⟨rfl, rfl⟩
  | deliver => cases other
  | _ => exact ⟨rfl, rfl⟩

/-- How many rounds have been answered. -/
def answeredRounds (rounds : Table Nat Round) : Nat :=
  rounds.entries.countP fun e => e.2.phase.isAnswered

/-- What is counted is what has been answered. -/
structure Counted (b : Batch) : Prop where
  rounds : b.stats.rounds = answeredRounds b.rounds
  sent : b.stats.usernamesSent = (drawnIn RoundPhase.isAnswered b.rounds).length

/-- Nothing is answered when a round is drawn or sent. -/
theorem Redraws.answered (h : Redraws now b a rounds) (numbered : Numbered b.rounds)
    (other : a.answers? = none) : answeredRounds rounds = answeredRounds b.rounds ∧
      drawnIn RoundPhase.isAnswered rounds = drawnIn RoundPhase.isAnswered b.rounds := by
  cases h with
  | same => exact ⟨rfl, rfl⟩
  | draw =>
    simp [answeredRounds, drawnIn, Table.entries_insert_of_none _ numbered.next,
      RoundPhase.isAnswered]
  | @send n round hat ready =>
    obtain ⟨before, after, h₁, h₂⟩ :=
      Table.entries_insert_of_some { round with phase := .sent now } hat
    simp [answeredRounds, drawnIn, h₁, h₂, RoundPhase.isAnswered, ready]
  | answer => cases other

theorem Counted.move (hb : Counted b) (numbered : Numbered b.rounds) (h : Moves now b a c) :
    Counted c := by
  by_cases other : a.answers? = none
  · obtain ⟨hrounds, hsent⟩ := h.stats other
    obtain ⟨hanswered, hjobs⟩ := h.rounds.answered numbered other
    exact ⟨by rw [hrounds, hanswered, hb.rounds], by rw [hsent, hjobs, hb.sent]⟩
  · cases h with
    | @deliver n time round result hat sent =>
      obtain ⟨before, after, h₁, h₂⟩ :=
        Table.entries_insert_of_some { round with phase := .answered } hat
      have hrounds := hb.rounds
      have hjobs := hb.sent
      simp only [answeredRounds, drawnIn, h₁] at hrounds hjobs
      constructor
      · simp [answeredRounds, Batch.deliver, h₂, hrounds, RoundPhase.isAnswered, sent]
        omega
      · simp [drawnIn, Batch.deliver, h₂, hjobs, RoundPhase.isAnswered, sent]
        omega
    | _ => exact absurd rfl other

end

/-! ### Runs -/

variable {settings : BatchSettings} {log : List Entry} {b : Batch}

theorem counted_of_history (h : History Step (ofSettings settings) log b) : Counted b := by
  induction h with
  | start => exact ⟨rfl, rfl⟩
  | next h hs ih => exact ih.move (orderly_of_history h).numbered (moves_of_step? hs)

/-- A round is a batch that was dispatched, and so it holds a name, and no more than it may. -/
theorem size_of_round (h : History Step (ofSettings settings) log b) {n : Nat} {round : Round}
    (hr : (n, round) ∈ b.rounds.entries) :
    1 ≤ round.jobs.length ∧ round.jobs.length ≤ b.settings.batchSize := by
  have hjobs : round.jobs ∈ b.batches.map Prod.snd := by
    refine List.mem_map.mpr ⟨(round.wake, round.jobs), List.mem_append_left _ ?_, rfl⟩
    exact List.mem_map.mpr ⟨round, List.mem_map.mpr ⟨_, hr, rfl⟩, rfl⟩
  rw [batches_of_history h] at hjobs
  obtain ⟨d, hd, hround⟩ := List.mem_map.mp hjobs
  obtain ⟨e, he, hdispatch⟩ := List.mem_filterMap.mp hd
  obtain ⟨before, after, u, -, hbefore, -, -⟩ := h.cut he
  have hsize := size_of_dispatch? hdispatch
  rw [settings_of_history hbefore, hround] at hsize
  rwa [settings_of_history h]

/-- Jobs of rounds that hold at least one and at most `size` of them. -/
theorem length_drawnIn {p : RoundPhase → Bool} {rounds : Table Nat Round} {size : Nat}
    (sizes : ∀ e ∈ rounds.entries, 1 ≤ e.2.jobs.length ∧ e.2.jobs.length ≤ size) :
    rounds.entries.countP (fun e => p e.2.phase) ≤ (drawnIn p rounds).length ∧
      (drawnIn p rounds).length ≤ size * rounds.entries.countP fun e => p e.2.phase := by
  obtain ⟨entries⟩ := rounds
  simp only [drawnIn] at sizes ⊢
  induction entries with
  | nil => simp
  | cons e rest ih =>
    obtain ⟨hfirst, hrest⟩ := List.forall_mem_cons.mp sizes
    obtain ⟨hlow, hhigh⟩ := ih hrest
    simp only [List.flatMap_cons, List.length_append, List.countP_cons, Nat.mul_add]
    by_cases hp : p e.2.phase = true
    · simp only [hp, if_true, Nat.mul_one]
      omega
    · simp only [hp, Bool.false_eq_true, if_false, List.length_nil, Nat.mul_zero]
      omega

/-- A request is counted with at least one name, and with at most as many as a batch may hold. -/
theorem rounds_le_usernamesSent (h : History Step (ofSettings settings) log b) :
    b.stats.rounds ≤ b.stats.usernamesSent ∧
      b.stats.usernamesSent ≤ b.settings.batchSize * b.stats.rounds := by
  have counted := counted_of_history h
  rw [counted.rounds, counted.sent]
  exact length_drawnIn fun e he => size_of_round h he

theorem length_drawnIn_add (rounds : Table Nat Round) :
    (drawnIn RoundPhase.isAnswered rounds).length +
      (drawnIn (fun phase => !phase.isAnswered) rounds).length = (drawn rounds).length := by
  obtain ⟨entries⟩ := rounds
  simp only [drawnIn, drawn]
  induction entries with
  | nil => rfl
  | cons e rest ih =>
    simp only [List.flatMap_cons, List.length_append]
    by_cases hp : e.2.phase.isAnswered = true
    · simp only [hp, if_true, Bool.not_true, Bool.false_eq_true, if_false, List.length_nil]
      omega
    · simp only [hp, Bool.not_false, Bool.false_eq_true, if_true, if_false, List.length_nil]
      omega

/-- The jobs that were dispatched are those of the rounds, and of a round that is about to begin. -/
theorem jobs_of_dispatches (h : History Step (ofSettings settings) log b) :
    (dispatches log).flatMap Dispatch.jobs = drawn b.rounds ++ b.loop.jobs := by
  have hdraft : (b.loop.draft?.toList.map Prod.snd).flatten = b.loop.jobs := by
    cases b.loop with
    | firing wake jobs left => exact List.append_nil jobs
    | _ => rfl
  have hrounds : ((b.rounds.values.map fun round => (round.wake, round.jobs)).map
      Prod.snd).flatten = drawn b.rounds := by
    rw [drawn, List.flatMap_def, Table.values, List.map_map, List.map_map]
    rfl
  rw [List.flatMap_def, ← batches_of_history h, batches, List.map_append, List.flatten_append,
    hrounds, hdraft]

/-- When no job is pending, all jobs that were dispatched have been counted. -/
theorem usernamesSent_of_settled (h : History Step (ofSettings settings) log b)
    (settled : b.pending = []) :
    b.stats.usernamesSent = ((dispatches log).flatMap Dispatch.jobs).length := by
  obtain ⟨hinner, hopen⟩ := List.append_eq_nil_iff.mp settled
  obtain ⟨-, hloop⟩ := List.append_eq_nil_iff.mp hinner
  have hall := length_drawnIn_add b.rounds
  rw [hopen, List.length_nil] at hall
  rw [(counted_of_history h).sent, jobs_of_dispatches h, hloop, List.append_nil]
  omega

/-- No call has two jobs that were dispatched. -/
theorem nodup_dispatches (h : History Step (ofSettings settings) log b) :
    (((dispatches log).flatMap Dispatch.jobs).map Job.id).Nodup := by
  rw [jobs_of_dispatches h, List.nodup_iff_count_le_one]
  intro id
  have hcount : ((drawn b.rounds ++ b.loop.jobs).map Job.id).count id =
      occurrences id (drawn b.rounds ++ b.loop.jobs) := by
    rw [List.count, List.countP_map]
    rfl
  have honce := (orderly_of_history h).once id
  rw [length_places] at honce
  rw [hcount, occurrences_append]
  omega

end SkinRelay.Batch
