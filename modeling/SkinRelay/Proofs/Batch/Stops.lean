import SkinRelay.Proofs.Batch.Fates

/-!
A queue that has been stopped stays stopped, and whatever it rejects or clears comes of a stop
(`Stops`).
-/

namespace SkinRelay.Batch

variable {b c : Batch} {now : Nat} {a : Action}

theorem start_stopped (stopped : b.lifecycle = .stopped) :
    b.start now = .error .queueStopped := by
  simp [start, stopped]

theorem drainQueue_stops (b : Batch) (wake : Wake) :
    (b.drainQueue wake).closed = b.closed ∧ (b.drainQueue wake).halfStops = b.halfStops := by
  unfold drainQueue
  split
  · exact ⟨rfl, rfl⟩
  · dsimp only
    split <;> exact ⟨rfl, rfl⟩

/-- A stop is for good. -/
theorem Moves.stopped (h : Moves now b a c) (stopped : b.lifecycle = .stopped) :
    c.lifecycle = .stopped := by
  cases h with
  | enter =>
    unfold Batch.enter
    rw [start_stopped stopped]
    exact stopped
  | push => exact (b.push_frame ..).2.2.2.trans stopped
  | signal => exact (notify_frame b).2.2.2.2.trans stopped
  | start hs =>
    rw [start_stopped stopped] at hs
    cases hs
  | haltLoop => rfl
  | drain => exact (b.drainQueue_frame _).2.2.trans stopped
  | _ => exact stopped

/-- A call that is refused at once finds the queue stopped. -/
theorem lifecycle_of_refused {id : Nat} {username : String} {token : Option Bool} {call : Call}
    {result : AccountResult} (hc : (b.enter now id username token).calls.get? id = some call)
    (refused : call.phase = .returned result) : b.lifecycle = .stopped := by
  unfold enter start at hc
  cases hl : b.lifecycle with
  | stopped => rfl
  | idle | running =>
    obtain rfl : { username, token } = call := by simpa [hl] using hc
    cases refused

/-- `Halts b a c`: what a step does about stops. It is no half of one, or the first, or the second. -/
inductive Halts (b : Batch) : Action → Batch → Prop
  | neither {a : Action} {c : Batch} (closed : c.closed = b.closed)
      (halfStops : c.halfStops = b.halfStops)
      (back : c.lifecycle = .stopped → b.lifecycle = .stopped) : Halts b a c
  | first : Halts b .haltLoop { b with lifecycle := .stopped, halfStops := b.halfStops + 1 }
  | second (halted : b.halfStops ≠ 0) :
      Halts b .closeQueue
        { b.setFates b.queue fun _ => .cleared with
          queue := [], closed := true, halfStops := b.halfStops - 1 }

theorem Moves.halts (h : Moves now b a c) : Halts b a c := by
  have started : ∀ {a : Action} {s t : Batch}, b.start now = .ok s → t.closed = s.closed →
      t.halfStops = s.halfStops → t.lifecycle = s.lifecycle → Halts b a t := by
    intro a s t hs hclosed hhalf hlife
    refine .neither (hclosed.trans (start_frame hs).2.2.2.2.1) (hhalf.trans ?_) fun stopped => ?_
    · unfold Batch.start at hs
      split at hs <;> cases hs <;> rfl
    · rw [hlife, start_running hs] at stopped
      cases stopped
  cases h with
  | enter =>
    unfold Batch.enter
    split
    · rename_i hs
      exact started hs rfl rfl rfl
    · exact .neither rfl rfl id
  | push =>
    unfold Batch.push
    split <;> exact .neither rfl rfl id
  | signal =>
    unfold notify
    split <;> exact .neither rfl rfl id
  | start hs => exact started hs rfl rfl rfl
  | haltLoop => exact .first
  | closeQueue halted => exact .second halted
  | drain =>
    obtain ⟨hclosed, hhalf⟩ := b.drainQueue_stops _
    exact .neither hclosed hhalf fun stopped => (b.drainQueue_frame _).2.2.symm.trans stopped
  | _ => exact .neither rfl rfl id

/-- Whatever shows that the queue has been stopped comes of a stop. -/
structure Stops (b : Batch) : Prop where
  halves : b.halfStops ≠ 0 → b.lifecycle = .stopped
  closed : b.closed = true → b.lifecycle = .stopped
  cleared : ∀ id, b.fates.get? id = some .cleared → b.lifecycle = .stopped
  rejected : ∀ id call, b.calls.get? id = some call →
    call.phase = .returned (.error .queueStopped) → b.lifecycle = .stopped

namespace Stops

theorem ofSettings (settings : BatchSettings) : Stops (ofSettings settings) where
  halves h := absurd rfl h
  closed h := by cases h
  cleared id h := by cases h
  rejected id call h := by cases h

theorem halves_move (hb : Stops b) (h : Moves now b a c) (hc : c.halfStops ≠ 0) :
    c.lifecycle = .stopped := by
  cases h.halts with
  | neither _ halfStops => exact h.stopped (hb.halves (halfStops ▸ hc))
  | first => rfl
  | second halted => exact hb.halves halted

theorem closed_move (hb : Stops b) (h : Moves now b a c) (hc : c.closed = true) :
    c.lifecycle = .stopped := by
  cases h.halts with
  | neither closed => exact h.stopped (hb.closed (closed ▸ hc))
  | first => rfl
  | second halted => exact hb.halves halted

theorem cleared_move (hb : Stops b) (h : Moves now b a c) (id : Nat)
    (hc : c.fates.get? id = some .cleared) : c.lifecycle = .stopped := by
  rcases h.fate id with hsame | ⟨fate, hfate, hd⟩
  · exact h.stopped (hb.cleared id (hsame ▸ hc))
  · obtain rfl : Fate.cleared = fate := Option.some.inj (hc.symm.trans hfate)
    cases hd with
    | clear =>
      cases h with
      | closeQueue halted => exact hb.halves halted

theorem rejected_move (hb : Stops b) (h : Moves now b a c) (id : Nat) (call : Call)
    (hc : c.calls.get? id = some call) (hp : call.phase = .returned (.error .queueStopped)) :
    c.lifecycle = .stopped := by
  refine h.stopped ?_
  rcases h.calls.returned hc hp with hr | ⟨old, hold, hp'⟩
  · cases hr with
    | refuse =>
      cases h with
      | enter => exact lifecycle_of_refused hc hp
    | reject _ _ closed => exact hb.closed closed
    | @collect i old _ _ _ ready =>
      by_cases fired : old.token = some true
      · rw [result?_of_fired fired] at ready
        cases ready
      · rw [result?_of_unfired fired] at ready
        obtain ⟨fate, hf, hres⟩ := Option.bind_eq_some_iff.mp ready
        cases fate with
        | discarded => cases hres
        | cleared => exact hb.cleared _ hf
        | answered reply => cases reply <;> cases hres
  · exact hb.rejected id old hold hp'

theorem move (hb : Stops b) (h : Moves now b a c) : Stops c where
  halves := hb.halves_move h
  closed := hb.closed_move h
  cleared := hb.cleared_move h
  rejected := hb.rejected_move h

end Stops

theorem stops_of_history {settings : BatchSettings} {log : List Entry}
    (h : History Step (ofSettings settings) log b) : Stops b :=
  h.invariant (.ofSettings settings) fun _ _ _ hb hs => hb.move (moves_of_step? hs)

end SkinRelay.Batch
