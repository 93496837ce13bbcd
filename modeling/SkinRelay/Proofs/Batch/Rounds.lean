import SkinRelay.Proofs.Batch.Places

/-!
The life of a round: the loop draws it, its request is sent, and the request is answered. Its jobs
stay the same all the time.
-/

namespace SkinRelay.Batch

/-- The round whose request an action sends. -/
def Action.sends? : Action → Option Nat
  | .send number => some number
  | _ => none

/-- The round whose request an action answers. -/
def Action.answers? : Action → Option Nat
  | .deliver number _ => some number
  | _ => none

/-- `Redraws now b a rounds`: the action `a`, taken in `b`, leaves these rounds. -/
inductive Redraws (now : Nat) (b : Batch) : Action → Table Nat Round → Prop
  | same {a : Action} (sends : a.sends? = none) (answers : a.answers? = none) :
      Redraws now b a b.rounds
  | draw {wake : Wake} {jobs : List Job} {left : Nat} (firing : b.loop = .firing wake jobs left) :
      Redraws now b .fire (b.rounds.insert b.rounds.size { jobs, wake, drainedAt := now })
  | send {n : Nat} {round : Round} (at_ : b.rounds.get? n = some round)
      (ready : round.phase = .ready) :
      Redraws now b (.send n) (b.rounds.insert n { round with phase := .sent now })
  | answer {n time : Nat} {round : Round} {result : Except RemoteError (List Account)}
      (at_ : b.rounds.get? n = some round) (sent : round.phase = .sent time) :
      Redraws now b (.deliver n result) (b.rounds.insert n { round with phase := .answered })

theorem Moves.rounds {now : Nat} {b c : Batch} {a : Action} (h : Moves now b a c) :
    Redraws now b a c.rounds := by
  have same : c.rounds = b.rounds → a.sends? = none → a.answers? = none →
      Redraws now b a c.rounds := by
    intro heq hs ha
    rw [heq]
    exact .same hs ha
  cases h with
  | enter => exact same (b.enter_frame ..).2.1 rfl rfl
  | push => exact same (b.push_frame ..).1 rfl rfl
  | signal => exact same (by simp [(notify_frame b).2.1]) rfl rfl
  | start hs => exact same (start_frame hs).2.1 rfl rfl
  | drain => exact same (b.drainQueue_frame _).2.1 rfl rfl
  | fire firing => exact .draw firing
  | send hat ready => exact .send hat ready
  | deliver hat sent => exact .answer hat sent
  | _ => exact same rfl rfl rfl

/-- Rounds have the numbers below their own number. -/
def Numbered (rounds : Table Nat Round) : Prop :=
  ∀ n round, rounds.get? n = some round → n < rounds.size

section

variable {now : Nat} {b : Batch} {a : Action} {rounds : Table Nat Round}

theorem Numbered.next {rounds : Table Nat Round} (h : Numbered rounds) :
    rounds.get? rounds.size = none := by
  cases hr : rounds.get? rounds.size with
  | none => rfl
  | some round => exact absurd (h _ round hr) (Nat.lt_irrefl _)

theorem Numbered.update {rounds : Table Nat Round} (h : Numbered rounds) {number : Nat}
    {old : Round} (next : Round) (hold : rounds.get? number = some old) :
    Numbered (rounds.insert number next) := by
  intro n round hr
  rw [Table.size_insert_of_some next hold]
  by_cases hne : n = number
  · exact hne ▸ h number old hold
  · exact h n round (by simpa [hne] using hr)

theorem Redraws.numbered (h : Redraws now b a rounds) (hb : Numbered b.rounds) :
    Numbered rounds := by
  cases h with
  | same => exact hb
  | draw =>
    intro n round hr
    rw [Table.size_insert_of_none _ hb.next]
    by_cases hne : n = b.rounds.size
    · omega
    · have := hb n round (by simpa [hne] using hr)
      omega
  | send hold => exact hb.update _ hold
  | answer hold => exact hb.update _ hold

/-- Rounds are in the order of their numbers. -/
theorem Redraws.keys (h : Redraws now b a rounds)
    (hb : b.rounds.keys = List.range b.rounds.size) (numbered : Numbered b.rounds) :
    rounds.keys = List.range rounds.size := by
  cases h with
  | same => exact hb
  | draw =>
    rw [Table.keys_insert_of_none _ numbered.next, Table.size_insert_of_none _ numbered.next, hb,
      List.range_succ]
  | send hold | answer hold =>
    rw [Table.keys_insert_of_some _ hold, Table.size_insert_of_some _ hold, hb]

/-- A round keeps its jobs, and stays answered. -/
theorem Redraws.round (h : Redraws now b a rounds) (hb : Numbered b.rounds) {n : Nat}
    {round : Round} (hr : b.rounds.get? n = some round) :
    ∃ next, rounds.get? n = some next ∧ next.jobs = round.jobs ∧
      (round.phase = .answered → next.phase = .answered) := by
  cases h with
  | same => exact ⟨round, hr, rfl, fun h => h⟩
  | draw =>
    have hne : n ≠ b.rounds.size := Nat.ne_of_lt (hb n round hr)
    exact ⟨round, by simpa [hne] using hr, rfl, fun h => h⟩
  | @send number old hold ready =>
    by_cases hne : n = number
    · subst hne
      obtain rfl : round = old := Option.some.inj (hr.symm.trans hold)
      exact ⟨{ round with phase := .sent now }, by simp, rfl, by simp [ready]⟩
    · exact ⟨round, by simpa [hne] using hr, rfl, fun h => h⟩
  | @answer number time old result hold sent =>
    by_cases hne : n = number
    · subst hne
      obtain rfl : round = old := Option.some.inj (hr.symm.trans hold)
      exact ⟨{ round with phase := .answered }, by simp, rfl, fun _ => rfl⟩
    · exact ⟨round, by simpa [hne] using hr, rfl, fun h => h⟩

end

/-! ### The jobs of the rounds in some phase -/

def RoundPhase.isSent : RoundPhase → Bool
  | .ready => false
  | _ => true

def RoundPhase.isAnswered : RoundPhase → Bool
  | .answered => true
  | _ => false

/-- The jobs of the rounds of these phases. -/
def drawnIn (p : RoundPhase → Bool) (rounds : Table Nat Round) : List Job :=
  rounds.entries.flatMap fun e => if p e.2.phase then e.2.jobs else []

theorem mem_drawnIn {p : RoundPhase → Bool} {rounds : Table Nat Round} {job : Job} :
    job ∈ drawnIn p rounds ↔ ∃ e ∈ rounds.entries, p e.2.phase = true ∧ job ∈ e.2.jobs := by
  unfold drawnIn
  rw [List.mem_flatMap]
  constructor
  · rintro ⟨e, he, hj⟩
    by_cases hp : p e.2.phase = true
    · rw [if_pos hp] at hj
      exact ⟨e, he, hp, hj⟩
    · rw [if_neg hp] at hj
      cases hj
  · rintro ⟨e, he, hp, hj⟩
    exact ⟨e, he, by rwa [if_pos hp]⟩

theorem occurrences_drawnIn_new {rounds : Table Nat Round} {n : Nat} (round : Round)
    (p : RoundPhase → Bool) (id : Nat) (h : rounds.get? n = none) :
    occurrences id (drawnIn p (rounds.insert n round)) =
      occurrences id (drawnIn p rounds) + if p round.phase then occurrences id round.jobs else 0 := by
  rw [drawnIn, Table.entries_insert_of_none round h, List.flatMap_append, occurrences_append,
    ← drawnIn]
  by_cases hp : p round.phase = true
  · simp [hp]
  · simp [hp, occurrences]

theorem occurrences_drawnIn_old {rounds : Table Nat Round} {n : Nat} {old : Round} (next : Round)
    (p : RoundPhase → Bool) (id : Nat) (h : rounds.get? n = some old) :
    occurrences id (drawnIn p (rounds.insert n next)) +
        (if p old.phase then occurrences id old.jobs else 0) =
      occurrences id (drawnIn p rounds) + if p next.phase then occurrences id next.jobs else 0 := by
  obtain ⟨before, after, h₁, h₂⟩ := Table.entries_insert_of_some next h
  have part : ∀ round : Round, occurrences id (if p round.phase then round.jobs else []) =
      if p round.phase then occurrences id round.jobs else 0 := by
    intro round
    split <;> rfl
  simp only [drawnIn, h₁, h₂, List.flatMap_append, List.flatMap_cons, occurrences_append, part]
  omega

theorem occurrences_drawnIn_le (p : RoundPhase → Bool) (id : Nat) (rounds : Table Nat Round) :
    occurrences id (drawnIn p rounds) ≤ occurrences id (drawn rounds) := by
  obtain ⟨entries⟩ := rounds
  simp only [drawnIn, drawn]
  induction entries with
  | nil => simp
  | cons e rest ih =>
    simp only [List.flatMap_cons, occurrences_append]
    split
    · omega
    · simp only [occurrences, List.countP_nil] at ih ⊢
      omega

end SkinRelay.Batch
