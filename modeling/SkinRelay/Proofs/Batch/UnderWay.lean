import SkinRelay.Proofs.Batch.Notification
import SkinRelay.Proofs.Batch.Transparency

/-!
Jobs under way. A job that a batch carries stays in this batch until the batch is answered, and
nothing but its own loop and its own request can keep it there (`Carries.history`,
`Carries.answerable`).
-/

namespace SkinRelay.Batch

section

variable {b c : Batch} {now : Nat} {a : Action} {rounds : Table Nat Round}

theorem Redraws.nodup (h : Redraws now b a rounds) (hb : b.rounds.keys.Nodup) :
    rounds.keys.Nodup := by
  cases h with
  | same => exact hb
  | draw | send | answer => exact Table.nodup_keys_insert hb _ _

theorem Redraws.size (h : Redraws now b a rounds) (other : a ≠ .fire) :
    rounds.size = b.rounds.size := by
  cases h with
  | same => rfl
  | draw => exact absurd rfl other
  | send hold => exact Table.size_insert_of_some _ hold
  | answer hold => exact Table.size_insert_of_some _ hold

/-- A round that is not answered stays so until its request is answered. -/
theorem Redraws.unanswered (h : Redraws now b a rounds) (hb : Numbered b.rounds) {n : Nat}
    {round : Round} (hr : b.rounds.get? n = some round) (unanswered : round.phase ≠ .answered) :
    (∃ next, rounds.get? n = some next ∧ next.jobs = round.jobs ∧ next.phase ≠ .answered) ∨
      ∃ result, a = .deliver n result := by
  cases h with
  | same => exact .inl ⟨round, hr, rfl, unanswered⟩
  | draw =>
    have hne : n ≠ b.rounds.size := Nat.ne_of_lt (hb n round hr)
    exact .inl ⟨round, by simpa [hne] using hr, rfl, unanswered⟩
  | @send number old hold _ =>
    by_cases hne : n = number
    · subst hne
      obtain rfl : round = old := Option.some.inj (hr.symm.trans hold)
      exact .inl ⟨{ round with phase := .sent now }, by simp, rfl, by simp⟩
    · exact .inl ⟨round, by simpa [hne] using hr, rfl, unanswered⟩
  | @answer number time old result hold _ =>
    by_cases hne : n = number
    · subst hne
      exact .inr ⟨result, rfl⟩
    · exact .inl ⟨round, by simpa [hne] using hr, rfl, unanswered⟩

/-- A loop that is about to fire stays so until it fires. -/
theorem Moves.firing (hb : Orderly b) (positive : 0 < b.settings.batchSize) (h : Moves now b a c)
    {wake : Wake} {jobs : List Job} {left : Nat} (firing : b.loop = .firing wake jobs left) :
    c.loop = b.loop ∧ a ≠ .fire ∨ a = .fire ∧ c = b.fire now wake jobs left := by
  by_cases fires : a = .fire
  · subst fires
    cases h with
    | fire firing' =>
      obtain ⟨rfl, rfl, rfl⟩ := Loop.firing.inj (firing.symm.trans firing')
      exact .inr ⟨rfl, rfl⟩
  · have hs := h.spins hb positive
    generalize c.loop = loop at hs ⊢
    generalize c.permit = permit at hs
    cases hs with
    | same | store => exact .inl ⟨rfl, fires⟩
    | begin _ absent => simp [firing] at absent
    | rouse parked | wake parked | exit parked => simp [firing] at parked
    | park ready => simp [firing] at ready
    | crash draining | rest draining | take draining => simp [firing] at draining
    | again | finish => exact absurd rfl fires

end

/-- Where a job is that is under way: with a loop that is about to fire its batch, or in a round
that has not been answered. -/
inductive Carries (b : Batch) (id n : Nat) : Prop
  | firing {wake : Wake} {jobs : List Job} {left : Nat} (loop : b.loop = .firing wake jobs left)
      (own : 0 < occurrences id jobs) (next : n = b.rounds.size)
  | round {round : Round} (at_ : b.rounds.get? n = some round)
      (own : 0 < occurrences id round.jobs) (unanswered : round.phase ≠ .answered)

section

variable {b c : Batch} {now : Nat} {a : Action} {id n : Nat}

theorem underWay_mem_places (unique : b.rounds.keys.Nodup) :
    .underWay n ∈ b.places id ↔ Carries b id n := by
  rw [mem_places]
  constructor
  · rintro (⟨h, -⟩ | ⟨h, own⟩ | ⟨⟨m, round⟩, he, h, own⟩ | h)
    · cases h
    · cases h
      cases hl : b.loop with
      | firing wake jobs left => exact .firing hl (by simpa [hl, Loop.jobs] using own) rfl
      | absent | ready | parked | draining | exited | crashed =>
        simp [hl, Loop.jobs, occurrences] at own
    · unfold Round.place at h
      split at h
      · cases h
      · rename_i unanswered
        cases h
        exact .round (Table.get?_of_mem unique he) own unanswered
    · unfold Fate.places at h
      split at h <;> simp at h
  · rintro (⟨loop, own, rfl⟩ | ⟨at_, own, unanswered⟩)
    · exact .inr (.inl ⟨rfl, by simpa [loop, Loop.jobs] using own⟩)
    · refine .inr (.inr (.inl ⟨_, Table.mem_of_get? at_, ?_, own⟩))
      simp only [Round.place]

/-- A job stays in its batch until the batch is answered. -/
theorem Carries.move (hb : Orderly b) (positive : 0 < b.settings.batchSize)
    (carries : Carries b id n) (h : Moves now b a c) :
    Carries c id n ∨ ∃ result round, a = .deliver n result ∧ b.rounds.get? n = some round ∧
      0 < occurrences id round.jobs := by
  cases carries with
  | @firing wake jobs left loop own next =>
    left
    rcases h.firing hb positive loop with ⟨same, other⟩ | ⟨-, rfl⟩
    · exact .firing (same.trans loop) own (by rw [h.rounds.size other, next])
    · subst next
      have hat : (b.fire now wake jobs left).rounds.get? b.rounds.size =
          some { jobs, wake, drainedAt := now } := by simp [fire]
      exact .round hat own (by simp)
  | @round round at_ own unanswered =>
    rcases h.rounds.unanswered hb.numbered at_ unanswered with ⟨next, hn, hjobs, hp⟩ | ⟨result, rfl⟩
    · exact .inl (.round hn (hjobs ▸ own) hp)
    · exact .inr ⟨result, round, rfl, at_, own⟩

end

section

variable {settings : BatchSettings} {log rest : List Entry} {b c : Batch} {id n : Nat}

theorem settings_of_history (h : History Step (ofSettings settings) log b) :
    b.settings = (ofSettings settings).settings := by
  induction h with
  | start => rfl
  | next _ hs ih => exact (moves_of_step? hs).settings.trans ih

theorem positive_of_history (h : History Step (ofSettings settings) log b) :
    0 < b.settings.batchSize := by
  rw [settings_of_history h]
  exact Nat.le_max_right _ _

theorem nodup_rounds_of_history (h : History Step (ofSettings settings) log b) :
    b.rounds.keys.Nodup :=
  h.invariant List.nodup_nil fun _ _ _ hb hs => (moves_of_step? hs).rounds.nodup hb

/-- From some point of a run on, a job that was under way there is under way, or its batch has been
answered. -/
theorem Carries.history (h : History Step (ofSettings settings) log b) (carries : Carries b id n)
    (hrest : History Step b rest c) :
    Carries c id n ∨ ∃ e ∈ rest, ∃ result round, e.2.2 = .deliver n result ∧
      e.1.rounds.get? n = some round ∧ 0 < occurrences id round.jobs := by
  induction hrest with
  | start => exact .inl carries
  | @next rest t u a hrest hs ih =>
    rcases ih with hnow | ⟨e, he, hdelivers⟩
    · have ht := h.trans hrest
      rcases hnow.move (orderly_of_history ht) (positive_of_history ht) (moves_of_step? hs) with
        hnext | ⟨result, round, ha, hat, hown⟩
      · exact .inl hnext
      · exact .inr ⟨(t, a), by simp, result, round, ha, hat, hown⟩
    · exact .inr ⟨e, List.mem_append_left _ he, hdelivers⟩

/-- The batch of a job under way can go out and be answered, whatever the reply is. -/
theorem Carries.answerable (carries : Carries b id n) (now : Nat)
    (result : Except RemoteError (List Account)) :
    ∃ rest c, History Step b rest c ∧
      (∀ e ∈ rest, e.2 = (now, .fire) ∨ e.2 = (now, .send n) ∨ e.2 = (now, .deliver n result)) ∧
      ∃ e ∈ rest, ∃ round, e.2.2 = .deliver n result ∧ e.1.rounds.get? n = some round ∧
        0 < occurrences id round.jobs := by
  -- A request that was sent is answered at once.
  have sent : ∀ {t : Batch} {round : Round} {time : Nat}, t.rounds.get? n = some round →
      round.phase = .sent time → Step t (now, .deliver n result) (t.deliver now n round time result) := by
    intro t round time at_ hp
    simp [Step, step?, at_, hp]
  -- One that is ready is sent first.
  have ready : ∀ {t : Batch} {round : Round}, t.rounds.get? n = some round → round.phase = .ready →
      0 < occurrences id round.jobs → ∃ rest c, History Step t rest c ∧
        (∀ e ∈ rest, e.2 = (now, .fire) ∨ e.2 = (now, .send n) ∨ e.2 = (now, .deliver n result)) ∧
        ∃ e ∈ rest, ∃ round, e.2.2 = .deliver n result ∧ e.1.rounds.get? n = some round ∧
          0 < occurrences id round.jobs := by
    intro t round at_ hp own
    have hsend : Step t (now, .send n)
        { t with rounds := t.rounds.insert n { round with phase := .sent now } } := by
      simp [Step, step?, at_, hp]
    have hsent : ({ t with rounds := t.rounds.insert n { round with phase := .sent now } } :
        Batch).rounds.get? n = some { round with phase := .sent now } := by simp
    refine ⟨_, _, (History.next .start hsend).next (sent hsent rfl), by simp, ?_⟩
    exact ⟨_, List.mem_append_right _ (List.mem_singleton_self _), _, rfl, hsent, own⟩
  cases carries with
  | @firing wake jobs left loop own next =>
    subst next
    have hfire : Step b (now, .fire) (b.fire now wake jobs left) := by simp [Step, step?, loop]
    have hat : (b.fire now wake jobs left).rounds.get? b.rounds.size =
        some { jobs, wake, drainedAt := now } := by simp [fire]
    obtain ⟨rest, c, hrest, hown, e, he, hdelivers⟩ := ready hat rfl own
    refine ⟨_, c, (History.next .start hfire).trans hrest, ?_, e, by simp [he], hdelivers⟩
    intro e he
    rcases List.mem_append.mp he with hfirst | hlater
    · obtain rfl := List.mem_singleton.mp hfirst
      exact .inl rfl
    · exact hown e hlater
  | @round round at_ own unanswered =>
    cases hp : round.phase with
    | answered => exact absurd hp unanswered
    | ready => exact ready at_ hp own
    | sent time =>
      exact ⟨_, _, History.next .start (sent at_ hp), by simp, _, List.mem_singleton_self _, round,
        rfl, at_, own⟩

end

end SkinRelay.Batch
