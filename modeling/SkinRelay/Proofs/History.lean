import Mathlib.Data.List.Basic

/-!
Histories: the runs of a system that moves in atomic steps, each with a log of what was done and
in which state. An interleaving of participants is one history of their common state.
-/

namespace SkinRelay

variable {σ α : Type}

/-- `History step s log t`: a run leads from `s` to `t`, and `log` holds its actions in order,
each with the state in which it was taken. -/
inductive History (step : σ → α → σ → Prop) (s : σ) : List (σ × α) → σ → Prop
  | start : History step s [] s
  | next {log : List (σ × α)} {t u : σ} {a : α} :
      History step s log t → step t a u → History step s (log ++ [(t, a)]) u

namespace History

variable {step : σ → α → σ → Prop} {s t u : σ} {a : α} {log rest : List (σ × α)}

theorem trans (h : History step s log t) (k : History step t rest u) :
    History step s (log ++ rest) u := by
  induction k with
  | start => simpa using h
  | next _ hs ih => simpa using ih.next hs

/-- The log and the end of the run with these actions, if every one of them can be taken. -/
def replay (step? : σ → α → Option σ) (s : σ) : List α → Option (List (σ × α) × σ)
  | [] => some ([], s)
  | a :: rest => do
    let t ← step? s a
    let (log, u) ← replay step? t rest
    return ((s, a) :: log, u)

theorem of_replay {step? : σ → α → Option σ} (actions : List α)
    (h : replay step? s actions = some (log, t)) :
    History (fun s a t => step? s a = some t) s log t := by
  induction actions generalizing s log with
  | nil =>
    cases h
    exact .start
  | cons a rest ih =>
    simp only [replay, Option.bind_eq_bind, Option.bind_eq_some_iff] at h
    obtain ⟨u, hu, ⟨log', t'⟩, hrest, hlog⟩ := h
    cases hlog
    have first : History (fun s a t => step? s a = some t) s [(s, a)] u :=
      History.next .start hu
    exact first.trans (ih hrest)

theorem actions_of_replay {step? : σ → α → Option σ} (actions : List α)
    (h : replay step? s actions = some (log, t)) : log.map Prod.snd = actions := by
  induction actions generalizing s log with
  | nil =>
    cases h
    rfl
  | cons a rest ih =>
    simp only [replay, Option.bind_eq_bind, Option.bind_eq_some_iff] at h
    obtain ⟨u, -, ⟨log', t'⟩, hrest, hlog⟩ := h
    cases hlog
    rw [List.map_cons, ih hrest]

/-- The same run, if what is asked of its entries holds of these actions in every state. -/
theorem of_replay_all (step? : σ → α → Option σ) (s : σ) (P : σ × α → Prop) (actions : List α)
    (hP : ∀ a ∈ actions, ∀ t, P (t, a)) (h : replay step? s actions = some (log, t)) :
    History (fun s a t => step? s a = some t) s log t ∧ ∀ e ∈ log, P e := by
  refine ⟨of_replay actions h, ?_⟩
  induction actions generalizing s log with
  | nil =>
    cases h
    simp
  | cons a rest ih =>
    simp only [replay, Option.bind_eq_bind, Option.bind_eq_some_iff] at h
    obtain ⟨u, hu, ⟨log', t'⟩, hrest, hlog⟩ := h
    cases hlog
    refine List.forall_mem_cons.mpr ⟨hP a List.mem_cons_self s, ?_⟩
    exact ih u (fun b hb => hP b (List.mem_cons_of_mem _ hb)) hrest

/-- A property that every step keeps holds at the end of a run. -/
theorem invariant {I : σ → Prop} (h : History step s log t) (hs : I s)
    (hstep : ∀ t a u, I t → step t a u → I u) : I t := by
  induction h with
  | start => exact hs
  | next _ hu ih => exact hstep _ _ _ ih hu

/-- A run can be cut at each entry of its log. -/
theorem cut (h : History step s log t) {e : σ × α} (he : e ∈ log) :
    ∃ before after u, log = before ++ e :: after ∧ History step s before e.1 ∧
      step e.1 e.2 u ∧ History step u after t := by
  induction h with
  | start => simp at he
  | @next log t u a h hs ih =>
    rcases List.mem_append.mp he with hm | hm
    · obtain ⟨before, after, w, hl, hb, hw, ha⟩ := ih hm
      exact ⟨before, after ++ [(t, a)], w, by simp [hl], hb, hw, ha.next hs⟩
    · obtain rfl := List.mem_singleton.mp hm
      exact ⟨log, [], u, rfl, h, hs, .start⟩

/-- A run can be cut at this entry of its log. -/
theorem split {before after : List (σ × α)} {e : σ × α}
    (h : History step s (before ++ e :: after) t) :
    ∃ u, History step s before e.1 ∧ step e.1 e.2 u ∧ History step u after t := by
  generalize hl : before ++ e :: after = log at h
  induction h generalizing after with
  | start => simp at hl
  | @next log t u a h hs ih =>
    rcases after.eq_nil_or_concat with rfl | ⟨rest, last, rfl⟩
    · obtain ⟨rfl, heq⟩ := List.append_inj' hl rfl
      cases heq
      exact ⟨u, h, hs, .start⟩
    · have hl' : (before ++ e :: rest) ++ [last] = log ++ [(t, a)] := by simpa using hl
      obtain ⟨hlog, heq⟩ := List.append_inj' hl' rfl
      cases heq
      obtain ⟨w, hbefore, hw, hafter⟩ := ih hlog
      refine ⟨w, hbefore, hw, ?_⟩
      rw [List.concat_eq_append]
      exact hafter.next hs

/-- Whether no entry of a log is later than this. -/
def Until (log : List (σ × (Nat × α))) (later : Nat) : Prop := ∀ e ∈ log, e.2.1 ≤ later

theorem until_concat {log : List (σ × (Nat × α))} {e : σ × (Nat × α)} {later : Nat} :
    Until (log ++ [e]) later ↔ Until log later ∧ e.2.1 ≤ later := by
  simp [Until, or_imp, forall_and]

/-- Time goes on along a log up to its last entry. -/
theorem chronological_concat {log : List (σ × (Nat × α))} {e : σ × (Nat × α)} :
    ((log ++ [e]).Pairwise fun d e => d.2.1 ≤ e.2.1) ↔
      (log.Pairwise fun d e => d.2.1 ≤ e.2.1) ∧ Until log e.2.1 := by
  simp [List.pairwise_append, Until]

/-- Time goes on along the log of a run whose actions are in the order of their times. -/
theorem chronological_of_replay {step? : σ → Nat × α → Option σ} {log : List (σ × (Nat × α))}
    (actions : List (Nat × α)) (h : replay step? s actions = some (log, t))
    (ordered : actions.Pairwise fun a b => a.1 ≤ b.1) :
    log.Pairwise fun d e => d.2.1 ≤ e.2.1 := by
  rw [← actions_of_replay actions h, List.pairwise_map] at ordered
  exact ordered

/-- A run of a whole is a run of each of its parts: if each step leaves a part alone or is a step of
it, then the part has a history of its own. `R` relates an entry of the whole to what it does in the
part. -/
theorem project {ρ β : Type} (part : σ → ρ) (stepOf : ρ → β → ρ → Prop)
    (R : σ × α → Option β → Prop) (h : History step s log t)
    (hstep : ∀ e ∈ log, ∀ u, step e.1 e.2 u → ∃ b, R e b ∧
      match b with
      | none => part u = part e.1
      | some b => stepOf (part e.1) b (part u)) :
    ∃ logOf, History stepOf (part s) logOf (part t) ∧
      (∀ e' ∈ logOf, ∃ e ∈ log, e'.1 = part e.1 ∧ R e (some e'.2)) ∧
      ∀ e ∈ log, ∃ b, R e b ∧ ∀ b', b = some b' → (part e.1, b') ∈ logOf := by
  induction h with
  | start => exact ⟨[], .start, by simp, by simp⟩
  | @next log t u a h hs ih =>
    obtain ⟨logOf, hpart, hfrom, hto⟩ := ih fun e he => hstep e (List.mem_append_left _ he)
    obtain ⟨b, hR, hb⟩ := hstep (t, a) (by simp) u hs
    cases b with
    | none =>
      refine ⟨logOf, by rw [hb]; exact hpart, ?_, ?_⟩
      · intro e' he'
        obtain ⟨e, he, hrest⟩ := hfrom e' he'
        exact ⟨e, List.mem_append_left _ he, hrest⟩
      · intro e he
        rcases List.mem_append.mp he with hold | hnew
        · exact hto e hold
        · obtain rfl := List.mem_singleton.mp hnew
          exact ⟨none, hR, by simp⟩
    | some b =>
      refine ⟨logOf ++ [(part t, b)], hpart.next hb, ?_, ?_⟩
      · intro e' he'
        rcases List.mem_append.mp he' with hold | hnew
        · obtain ⟨e, he, hrest⟩ := hfrom e' hold
          exact ⟨e, List.mem_append_left _ he, hrest⟩
        · obtain rfl := List.mem_singleton.mp hnew
          exact ⟨(t, a), by simp, rfl, hR⟩
      · intro e he
        rcases List.mem_append.mp he with hold | hnew
        · obtain ⟨c, hRc, hc⟩ := hto e hold
          exact ⟨c, hRc, fun b' hb' => List.mem_append_left _ (hc b' hb')⟩
        · obtain rfl := List.mem_singleton.mp hnew
          refine ⟨some b, hR, ?_⟩
          intro b' hb'
          cases hb'
          simp

end History

end SkinRelay
