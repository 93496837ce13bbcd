import Mathlib.Tactic.Common
import SkinRelay.Proofs.Batch.Moves

/-!
What becomes of calls. A step lets one call begin, changes one call or changes none
(`Moves.calls`), and a call that has left stays as it is.
-/

namespace SkinRelay.Batch

/-- Whether nobody waits for the outcome of a call any more. -/
def Call.hasLeft (call : Call) : Bool :=
  match call.phase with
  | .returned _ | .gone => true
  | _ => false

theorem isGone_iff {b : Batch} {job : Job} :
    b.isGone job = true ↔ ∃ call, b.calls.get? job.id = some call ∧ call.hasLeft = true := by
  unfold isGone
  cases h : b.calls.get? job.id with
  | none => simp
  | some call =>
    obtain ⟨username, token, phase⟩ := call
    cases phase <;> simp [Call.hasLeft]

/-- What stays of a call: its name, that it has queued its job, that it has left, and that its token
has fired. -/
structure Call.Becomes (c d : Call) : Prop where
  username : d.username = c.username
  pushed : c.phase ≠ .entered → d.phase ≠ .entered
  left : c.hasLeft = true → d.phase = c.phase
  token : c.token = some true → d.token = some true

theorem Call.Becomes.refl (c : Call) : c.Becomes c := ⟨rfl, id, fun _ => rfl, id⟩

theorem Call.Becomes.hasLeft {c d : Call} (h : c.Becomes d) (hc : c.hasLeft = true) :
    d.hasLeft = true := by
  have hd := h.left hc
  simpa [Call.hasLeft, hd] using hc

theorem Call.Becomes.trans {c d e : Call} (h : c.Becomes d) (k : d.Becomes e) : c.Becomes e where
  username := k.username.trans h.username
  pushed hc := k.pushed (h.pushed hc)
  left hc := by rw [k.left (h.hasLeft hc), h.left hc]
  token hc := k.token (h.token hc)

theorem Call.Becomes.phase {c : Call} {p : CallPhase} (left : c.hasLeft = false)
    (pushed : c.phase ≠ .entered → p ≠ .entered) : c.Becomes { c with phase := p } :=
  ⟨rfl, pushed, by simp [left], id⟩

/-- `Returns b a id result`: with the action `a`, taken in `b`, the call `id` returns. -/
inductive Returns (b : Batch) : Action → Nat → AccountResult → Prop
  | refuse {id : Nat} {username : String} {token : Option Bool} (new : b.calls.get? id = none) :
      Returns b (.enter id username token) id (.error .queueStopped)
  | reject {id : Nat} {call : Call} (at_ : b.calls.get? id = some call)
      (entered : call.phase = .entered) (closed : b.closed = true) :
      Returns b (.push id) id (.error .queueStopped)
  | collect {id : Nat} {call : Call} {result : AccountResult} (at_ : b.calls.get? id = some call)
      (waiting : call.phase = .waiting) (ready : b.result? id call = some result) :
      Returns b (.collect id) id result

/-- `Recalls b a calls`: the action `a`, taken in `b`, leaves these calls. -/
inductive Recalls (b : Batch) (a : Action) : Table Nat Call → Prop
  | same : Recalls b a b.calls
  | begin {id : Nat} {call : Call} (new : b.calls.get? id = none)
      (enters : a = .enter id call.username call.token)
      (returns : ∀ result, call.phase = .returned result → Returns b a id result) :
      Recalls b a (b.calls.insert id call)
  | change {id : Nat} {call next : Call} (at_ : b.calls.get? id = some call)
      (becomes : call.Becomes next)
      (returns : ∀ result, next.phase = .returned result →
        call.phase = .returned result ∨ Returns b a id result) :
      Recalls b a (b.calls.insert id next)

theorem Moves.calls {now : Nat} {b c : Batch} {a : Action} (h : Moves now b a c) :
    Recalls b a c.calls := by
  have same : c.calls = b.calls → Recalls b a c.calls := by
    intro heq
    rw [heq]
    exact .same
  cases h with
  | @enter id username token new =>
    obtain ⟨phase, hphase, hcalls⟩ := b.enter_calls now id username token
    rw [hcalls]
    refine .begin new rfl ?_
    rintro result rfl
    rcases hphase with hphase | hphase <;> cases hphase
    exact .refuse new
  | @push id call hc entered =>
    obtain ⟨phase, hphase, hcalls⟩ := b.push_calls id call
    rw [hcalls]
    refine .change hc (.phase (by simp [Call.hasLeft, entered]) (absurd entered)) ?_
    rintro result rfl
    rcases hphase with hphase | hphase | ⟨hphase, closed⟩ <;> cases hphase
    exact .inr (.reject hc entered closed)
  | signal hc signalling =>
    rw [setCall_calls, (notify_frame b).2.2.2.1]
    exact .change hc (.phase (by simp [Call.hasLeft, signalling]) (by simp)) (by simp)
  | collect hc waiting ready =>
    refine .change hc (.phase (by simp [Call.hasLeft, waiting]) (by simp)) ?_
    intro result hresult
    cases hresult
    exact .inr (.collect hc waiting ready)
  | cancel hc _ =>
    exact .change hc ⟨rfl, fun h => h, fun _ => rfl, fun _ => rfl⟩ fun _ hresult => .inl hresult
  | drop hc waiting =>
    exact .change hc (.phase (by simp [Call.hasLeft, waiting]) (by simp)) (by simp)
  | start hs => exact same (start_frame hs).2.2.2.1
  | drain => exact same (b.drainQueue_frame _).1
  | _ => exact same rfl

section

variable {b : Batch} {a : Action} {calls : Table Nat Call} {id : Nat}

theorem Recalls.call (h : Recalls b a calls) {call : Call} (hc : b.calls.get? id = some call) :
    ∃ d, calls.get? id = some d ∧ call.Becomes d := by
  cases h with
  | same => exact ⟨call, hc, .refl call⟩
  | @begin i _ new =>
    have hne : id ≠ i := by rintro rfl; simp [new] at hc
    exact ⟨call, by simpa [hne] using hc, .refl call⟩
  | @change i old next hold becomes =>
    by_cases hne : id = i
    · subst hne
      obtain rfl : call = old := Option.some.inj (hc.symm.trans hold)
      exact ⟨next, by simp, becomes⟩
    · exact ⟨call, by simpa [hne] using hc, .refl call⟩

/-- A call that is new has just begun. -/
theorem Recalls.new (h : Recalls b a calls) {d : Call} (hnew : b.calls.get? id = none)
    (hd : calls.get? id = some d) : a = .enter id d.username d.token := by
  cases h with
  | same =>
    rw [hnew] at hd
    cases hd
  | @begin i call _ enters =>
    by_cases hne : id = i
    · obtain rfl : call = d := by simpa [hne] using hd
      rw [hne]
      exact enters
    · simp [hne, hnew] at hd
  | @change i old next hold =>
    have hne : id ≠ i := by rintro rfl; simp [hnew] at hold
    simp [hne, hnew] at hd

/-- A call that has returned returns now, or had returned before. -/
theorem Recalls.returned (h : Recalls b a calls) {d : Call} {result : AccountResult}
    (hd : calls.get? id = some d) (hp : d.phase = .returned result) :
    Returns b a id result ∨
      ∃ call, b.calls.get? id = some call ∧ call.phase = .returned result := by
  cases h with
  | same => exact .inr ⟨d, hd, hp⟩
  | @begin i call _ _ returns =>
    by_cases hne : id = i
    · obtain rfl : call = d := by simpa [hne] using hd
      exact .inl (hne ▸ returns result hp)
    · exact .inr ⟨d, by simpa [hne] using hd, hp⟩
  | @change i old next hold _ returns =>
    by_cases hne : id = i
    · subst hne
      obtain rfl : next = d := by simpa using hd
      rcases returns result hp with hold' | hnow
      · exact .inr ⟨old, hold, hold'⟩
      · exact .inl hnow
    · exact .inr ⟨d, by simpa [hne] using hd, hp⟩

end

end SkinRelay.Batch
