import SkinRelay.Proofs.Pipeline.Parts

/-!
The calls of the service and what they have returned: a call is let in only with a name that an
account can have, each call that was let in is in the group once (`callers_of_history`), and what
the resolver counts is what these calls have returned (`settled_of_history`).
-/

namespace SkinRelay

namespace FetchResult

def isFound : FetchResult → Bool
  | .ok (some _) => true
  | _ => false

def isMissed : FetchResult → Bool
  | .ok none => true
  | _ => false

def isFailed : FetchResult → Bool
  | .error _ => true
  | _ => false

/-- Every output is of one of the three kinds. -/
theorem countP_kinds {α : Type} (calls : List α) (output? : α → Option FetchResult) :
    calls.countP (fun c => (output? c).any isFound) +
        calls.countP (fun c => (output? c).any isMissed) +
        calls.countP (fun c => (output? c).any isFailed) =
      calls.countP fun c => (output? c).isSome := by
  induction calls with
  | nil => rfl
  | cons call rest ih =>
    have kind : ((if (output? call).any isFound then 1 else 0) +
        (if (output? call).any isMissed then 1 else 0) +
        if (output? call).any isFailed then 1 else 0) =
          if (output? call).isSome then 1 else 0 := by
      rcases output? call with _ | _ | _ | _ <;> rfl
    simp only [List.countP_cons]
    omega

end FetchResult

/-- The output with which a call has returned. -/
def Flight.Call.output? {τ : Type} (call : Flight.Call τ) : Option τ :=
  match call.phase with
  | .returned output => some output
  | _ => none

/-! ### The calls of a group -/

namespace Flight

variable {κ ω τ : Type} [DecidableEq κ] {f g : Flight κ ω τ} {a : Action κ ω τ}

/-- The calls of a group in their order, each with whether it joined a run. -/
def callers (f : Flight κ ω τ) : List (Nat × Bool) := f.calls.entries.map fun e => (e.1, e.2.joined)

/-- What an action adds to the calls. -/
def Action.caller? (f : Flight κ ω τ) : Action κ ω τ → Option (Nat × Bool)
  | .call id key _ => some (id, (f.keys.get? key).isSome)
  | _ => none

theorem Moves.callers (h : Moves f a g) : g.callers = f.callers ++ (a.caller? f).toList := by
  cases h with
  | join new taken =>
    simp [Flight.callers, Table.entries_insert_of_none _ new, Action.caller?, taken]
  | begin new free =>
    simp [Flight.callers, Table.entries_insert_of_none _ new, Action.caller?, free]
  | turn _ turn =>
    cases turn <;> exact (List.append_nil _).symm
  | @ending _ id call phase hc _ ends =>
    obtain ⟨before, after, h₁, h₂⟩ := Table.entries_insert_of_some { call with phase } hc
    cases ends <;> simp [Flight.callers, setCall, h₁, h₂, Action.caller?]

theorem Moves.nodup_calls (h : Moves f a g) (hf : f.calls.keys.Nodup) : g.calls.keys.Nodup := by
  cases h with
  | join | begin | ending => exact Table.nodup_keys_insert hf _ _
  | turn => exact hf

/-- A call that has ended stays as it is. -/
theorem Moves.ended (h : Moves f a g) {id : Nat} {call : Call τ} (hc : f.calls.get? id = some call)
    (ended : call.phase ≠ .waiting) : g.calls.get? id = some call := by
  cases h with
  | @join i _ _ _ new | @begin i _ _ new =>
    have hne : id ≠ i := by rintro rfl; simp [new] at hc
    simpa [hne] using hc
  | turn => exact hc
  | @ending _ i other _ hi waiting =>
    have hne : id ≠ i := by
      rintro rfl
      obtain rfl : call = other := Option.some.inj (hc.symm.trans hi)
      exact ended waiting
    simpa [setCall, hne] using hc

theorem Step.drop {id : Nat} (h : Step f (.drop id) g) :
    ∃ call, g.calls.get? id = some call ∧ call.phase = .gone := by
  cases moves_of_step? h with
  | turn _ turn => cases turn
  | @ending _ _ call _ _ _ ends =>
    cases ends with
    | drop => exact ⟨{ call with phase := .gone }, by simp [setCall], rfl⟩

theorem nodup_calls_of_history {log : List (Flight κ ω τ × Action κ ω τ)}
    (h : History Step {} log f) : f.calls.keys.Nodup :=
  h.invariant List.nodup_nil fun _ _ _ hf hs => (moves_of_step? hs).nodup_calls hf

end Flight

/-! ### What they have returned -/

namespace Resolver

variable {ω : Type} {r s : Resolver ω} {action : Flight.Action String ω FetchResult}

/-- Whether the outputs of the calls are what has been counted. -/
structure Settled (r : Resolver ω) : Prop where
  found : r.stats.found =
    r.group.calls.entries.countP fun e => e.2.output?.any FetchResult.isFound
  missed : r.stats.missed =
    r.group.calls.entries.countP fun e => e.2.output?.any FetchResult.isMissed
  failed : r.stats.failed =
    r.group.calls.entries.countP fun e => e.2.output?.any FetchResult.isFailed
  joined : r.stats.joined = r.group.calls.entries.countP fun e => e.2.joined && e.2.output?.isSome

/-- What a step counts. -/
def counted (stats : ResolverStats) (group : Flight String ω FetchResult) :
    Flight.Action String ω FetchResult → ResolverStats
  | .collect id =>
    match group.calls.get? id with
    | some { joined, phase := .returned output, .. } => count stats joined output
    | _ => stats
  | _ => stats

theorem stats_of_step? (h : r.step? action = some s) : s.stats = counted r.stats s.group action := by
  unfold step? at h
  split at h
  · cases h
  · split at h
    · split at h
      · rename_i hc
        cases h
        simp only [counted, hc]
      · rename_i hc
        cases h
        simp only [counted]
    · cases h
      unfold counted
      split
      · rename_i other
        exact absurd rfl (other _)
      · rfl

theorem count_eq (stats : ResolverStats) (joined : Bool) (output : FetchResult) :
    count stats joined output =
      { found := stats.found + if output.isFound then 1 else 0
        missed := stats.missed + if output.isMissed then 1 else 0
        failed := stats.failed + if output.isFailed then 1 else 0
        joined := stats.joined + if joined then 1 else 0 } := by
  cases joined <;> cases output with
  | error => rfl
  | ok found => cases found <;> rfl

/-- A call that returns is counted with its output. -/
theorem Settled.collect (hr : Settled r) {id : Nat} {call : Flight.Call FetchResult}
    {output : FetchResult} (hc : r.group.calls.get? id = some call)
    (waiting : call.phase = .waiting) :
    Settled { r with
      group := r.group.setCall id call (.returned output)
      stats := count r.stats call.joined output } := by
  obtain ⟨before, after, h₁, h₂⟩ :=
    Table.entries_insert_of_some { call with phase := .returned output } hc
  obtain ⟨found, missed, failed, joined⟩ := hr
  have none_ : call.output? = none := by simp [Flight.Call.output?, waiting]
  have some_ : ({ call with phase := .returned output } : Flight.Call FetchResult).output? =
    some output := rfl
  simp only [h₁, List.countP_append, List.countP_cons, none_, Option.any_none, Option.isSome_none,
    Bool.and_false, Bool.false_eq_true, if_false] at found missed failed joined
  constructor
  all_goals
    simp only [count_eq, Flight.setCall, h₂, List.countP_append, List.countP_cons, some_,
      Option.any_some, Option.isSome_some, Bool.and_true]
    omega

/-- A call that ends in another way is not counted. -/
theorem Settled.leave (hr : Settled r) {id : Nat} {call : Flight.Call FetchResult}
    {phase : Flight.CallPhase FetchResult} (hc : r.group.calls.get? id = some call)
    (waiting : call.phase = .waiting) (unreturned : ∀ output, phase ≠ .returned output) :
    Settled { r with group := r.group.setCall id call phase } := by
  obtain ⟨before, after, h₁, h₂⟩ := Table.entries_insert_of_some { call with phase } hc
  have none_ : call.output? = none := by simp [Flight.Call.output?, waiting]
  have none' : ({ call with phase } : Flight.Call FetchResult).output? = none := by
    cases phase with
    | returned output => exact absurd rfl (unreturned output)
    | _ => rfl
  obtain ⟨found, missed, failed, joined⟩ := hr
  simp only [h₁, List.countP_append, List.countP_cons, none_] at found missed failed joined
  constructor
  all_goals simpa only [Flight.setCall, h₂, List.countP_append, List.countP_cons, none']

/-- A new call is not counted. -/
theorem Settled.enter (hr : Settled r) {id : Nat} {call : Flight.Call FetchResult}
    {group : Flight String ω FetchResult} (waiting : call.phase = .waiting)
    (hcalls : group.calls.entries = r.group.calls.entries ++ [(id, call)]) :
    Settled { r with group } := by
  have none_ : call.output? = none := by simp [Flight.Call.output?, waiting]
  constructor
  all_goals simp only [hcalls, List.countP_append, List.countP_singleton, none_]
  case found => exact hr.found
  case missed => exact hr.missed
  case failed => exact hr.failed
  case joined => simpa using hr.joined

theorem Settled.moves (hr : Settled r) {group : Flight String ω FetchResult}
    (h : Flight.Moves r.group action group) :
    Settled { group, stats := counted r.stats group action } := by
  cases h with
  | join new | begin new => exact hr.enter rfl (Table.entries_insert_of_none _ new)
  | turn _ turn => cases turn <;> exact ⟨hr.found, hr.missed, hr.failed, hr.joined⟩
  | @ending _ id call phase hc waiting ends =>
    have hnew : (r.group.setCall id call phase).calls.get? id = some { call with phase } := by
      simp [Flight.setCall]
    cases ends with
    | collect =>
      simp only [counted, hnew]
      exact hr.collect hc waiting
    | fail =>
      simp only [counted, hnew]
      exact hr.leave hc waiting (by simp)
    | drop => exact hr.leave hc waiting (by simp)

theorem Settled.step (hr : Settled r) (h : r.step? action = some s) : Settled s := by
  have hs := hr.moves (Flight.moves_of_step? (group_of_step? h))
  rwa [← stats_of_step? h] at hs

end Resolver

namespace Pipeline

variable {σ : Type} {p q : Pipeline σ}

/-- The output with which a call has returned. -/
def output? (p : Pipeline σ) (id : Nat) : Option FetchResult :=
  (p.resolver.group.calls.get? id).bind Flight.Call.output?

/-- The calls that were let in, each with whether it joined a run that was under way. -/
def callers (log : List (Entry σ)) : List (Nat × Bool) :=
  log.filterMap fun e =>
    match e.2.2 with
    | .call id username =>
      some (id, (e.1.resolver.group.keys.get? (Username.key username)).isSome)
    | _ => none

section

variable {now id : Nat} {name : String}

theorem call_of_not_isValid (h : ¬Username.isValid name = true) :
    p.call id name = .error (.invalidUsername name) := by
  unfold call Resolver.call
  rw [if_neg h]

variable [NameStore σ]

theorem step?_call_eq_none (h : ¬Username.isValid name = true) :
    p.step? now (.call id name) = none := by
  simp only [step?, call_of_not_isValid h]
  split <;> rfl

theorem isValid_of_call (h : Moves now p (.call id name) q) : Username.isValid name = true := by
  cases h with
  | call _ valid => exact valid
  | turn own => cases own
  | proceed _ proceeds => cases proceeds

end

section

variable [NameStore σ] {now : Nat} {a : Action} {store : σ} {settings : BatchSettings}
  {log : List (Entry σ)}

theorem Moves.settled (h : Moves now p a q) (hp : p.resolver.Settled) : q.resolver.Settled := by
  cases h with
  | call new _ => exact hp.moves (Flight.moves_of_call new)
  | turn _ stepped | proceed _ _ stepped | finish _ _ stepped => exact hp.step stepped
  | _ => exact hp

/-- Only a call adds to the calls. -/
theorem Moves.callers (h : Moves now p a q) :
    q.resolver.group.callers = p.resolver.group.callers ++ callers [(p, (now, a))] := by
  have stepped : ∀ {resolver : Resolver Work} {action : Flight.Action String Work FetchResult},
      p.resolver.step? action = some resolver → (∀ id key work, action ≠ .call id key work) →
      resolver.group.callers = p.resolver.group.callers := by
    intro resolver action hs other
    rw [(Flight.moves_of_step? (Resolver.group_of_step? hs)).callers]
    cases action with
    | call id key work => exact absurd rfl (other id key work)
    | _ => exact List.append_nil _
  cases h with
  | call new _ => exact (Flight.moves_of_call new).callers
  | @turn a _ _ own hs =>
    cases a <;> cases own <;> exact (stepped hs (by simp)).trans (List.append_nil _).symm
  | proceed _ proceeds hs =>
    cases proceeds <;> exact (stepped hs (by simp)).trans (List.append_nil _).symm
  | finish _ _ hs => exact (stepped hs (by simp)).trans (List.append_nil _).symm
  | _ => exact (List.append_nil _).symm

theorem settled_of_history (h : History Step (ofStore store settings) log p) :
    p.resolver.Settled := by
  induction h with
  | start => exact ⟨rfl, rfl, rfl, rfl⟩
  | next _ hs ih => exact (moves_of_step? hs).settled ih

/-- The calls in the group are those that were let in. -/
theorem callers_of_history (h : History Step (ofStore store settings) log p) :
    p.resolver.group.callers = callers log := by
  induction h with
  | start => rfl
  | next _ hs ih =>
    rw [(moves_of_step? hs).callers, ih, callers, callers, callers, List.filterMap_append]

/-- A call that was let in was not there before. -/
theorem nodup_callers_of_history (h : History Step (ofStore store settings) log p) :
    ((callers log).map Prod.fst).Nodup := by
  obtain ⟨groupLog, hgroup, -⟩ := group_of_history h
  rw [← callers_of_history h, Flight.callers, List.map_map]
  exact Flight.nodup_calls_of_history hgroup

/-- What is said of the calls in the group can be said of those that were let in. -/
theorem countP_calls (h : History Step (ofStore store settings) log p)
    (P : Bool → Option FetchResult → Bool) :
    p.resolver.group.calls.entries.countP (fun e => P e.2.joined e.2.output?) =
      (callers log).countP fun c => P c.2 (p.output? c.1) := by
  obtain ⟨groupLog, hgroup, -⟩ := group_of_history h
  have unique := Flight.nodup_calls_of_history hgroup
  rw [← callers_of_history h, Flight.callers, List.countP_map]
  apply List.countP_congr
  rintro ⟨id, call⟩ he
  simp [output?, Table.get?_of_mem unique he]

/-- A call that was dropped does not return. -/
theorem output?_of_drop (h : History Step (ofStore store settings) log p) {e : Entry σ}
    (he : e ∈ log) {id : Nat} (ha : e.2.2 = .drop id) : p.output? id = none := by
  obtain ⟨before, after, u, -, -, hs, hafter⟩ := h.cut he
  have hgone : ∃ call, u.resolver.group.calls.get? id = some call ∧ call.phase = .gone := by
    have hmove := moves_of_step? hs
    rw [ha] at hmove
    cases hmove with
    | turn own stepped =>
      cases own
      exact (Resolver.group_of_step? stepped).drop
    | proceed _ proceeds => cases proceeds
  have hend := hafter.invariant
    (I := fun t => ∃ call, t.resolver.group.calls.get? id = some call ∧ call.phase = .gone) hgone (by
      rintro t a v ⟨call, hc, gone⟩ hs
      refine ⟨call, ?_, gone⟩
      rcases (moves_of_step? hs).ofGroup with ⟨_, _, -, hstep⟩ | ⟨-, hsame | ⟨_, hstep, -⟩⟩
      · exact (Flight.moves_of_step? hstep).ended hc (by simp [gone])
      · exact hsame ▸ hc
      · exact (Flight.moves_of_step? hstep).ended hc (by simp [gone]))
  obtain ⟨call, hc, gone⟩ := hend
  simp [output?, hc, Flight.Call.output?, gone]

end

end Pipeline

end SkinRelay
