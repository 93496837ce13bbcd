import SkinRelay.Proofs.History
import SkinRelay.Table

/-!
Parts of a state that go forward. Each has its own actions, and each of these takes it to a higher
rank, so that it never comes back to where it has been, and stays where it is once it is at the
highest. The parts that are entries of a table go forward if each step changes the table in one of
few ways (`Table.Goes`).
-/

namespace SkinRelay

namespace History

variable {σ α β : Type} {step : σ → α → σ → Prop} {part : σ → Option β} {rank : β → Nat}
  {own : α → Prop} {s t u : σ} {a : α} {x y : β} {e : σ × α} {log : List (σ × α)}

/-- Whether a part of the state goes forward: an action of its own finds it there and takes it to a
higher rank, and every other action leaves it as it is. -/
structure Forward (step : σ → α → σ → Prop) (part : σ → Option β) (rank : β → Nat)
    (own : α → Prop) : Prop where
  present {s t : σ} {a : α} : step s a t → own a → ∃ x, part s = some x
  moves {s t : σ} {a : α} {x : β} : step s a t → part s = some x →
    ∃ y, part t = some y ∧ (own a → rank x < rank y) ∧ (¬own a → y = x)

/-- Such a part never goes back. -/
theorem Forward.rank_le (forward : Forward step part rank own) (h : History step s log t)
    (hx : part s = some x) :
    ∃ y, part t = some y ∧ rank x ≤ rank y ∧ ((∀ e ∈ log, ¬own e.2) → y = x) := by
  induction h with
  | start => exact ⟨x, hx, Nat.le_refl _, fun _ => rfl⟩
  | @next log t u a h hs ih =>
    obtain ⟨y, hy, hle, hrest⟩ := ih
    obtain ⟨z, hz, hmoved, hkept⟩ := forward.moves hs hy
    refine ⟨z, hz, ?_, ?_⟩
    · by_cases hown : own a
      · exact Nat.le_trans hle (Nat.le_of_lt (hmoved hown))
      · rwa [hkept hown]
    · intro hother
      obtain ⟨hlog, hlast⟩ := List.forall_mem_append.mp hother
      rw [hkept (hlast (t, a) (List.mem_singleton_self _)), hrest hlog]

/-- It stays at the highest rank, where nothing moves it on. -/
theorem Forward.stays (forward : Forward step part rank own) (h : History step s log t)
    (hx : part s = some x) (highest : ∀ y, rank y ≤ rank x) :
    part t = some x ∧ ∀ e ∈ log, ¬own e.2 := by
  have unmoved : ∀ e ∈ log, ¬own e.2 := by
    intro e he hown
    obtain ⟨before, after, u, -, hbefore, hs, -⟩ := h.cut he
    obtain ⟨y, hy, hle, -⟩ := forward.rank_le hbefore hx
    obtain ⟨z, -, hmoved, -⟩ := forward.moves hs hy
    have hlt := hmoved hown
    have hhighest := highest z
    omega
  obtain ⟨y, hy, -, hkept⟩ := forward.rank_le h hx
  rw [hkept unmoved] at hy
  exact ⟨hy, unmoved⟩

/-- What is at the highest rank after a step is so in the end, and its other steps have not taken it
beyond where this one found it. -/
theorem Forward.ends (forward : Forward step part rank own) (h : History step s log t) (he : e ∈ log)
    (hown : own e.2) (hx : part e.1 = some x) (hy : ∀ u, step e.1 e.2 u → part u = some y)
    (highest : ∀ z, rank z ≤ rank y) :
    part t = some y ∧ ∀ d ∈ log, own d.2 → d = e ∨
      ∃ u z, step d.1 d.2 u ∧ part u = some z ∧ rank z ≤ rank x := by
  obtain ⟨before, after, u, rfl, hbefore, hs, hafter⟩ := h.cut he
  obtain ⟨hend, unmoved⟩ := forward.stays hafter (hy u hs) highest
  refine ⟨hend, ?_⟩
  intro d hd hdown
  rcases List.mem_append.mp hd with hd | hd
  · right
    obtain ⟨_, _, v, _, _, hv, hrest⟩ := hbefore.cut hd
    obtain ⟨w, hw⟩ := forward.present hv hdown
    obtain ⟨z, hz, -⟩ := forward.moves hv hw
    obtain ⟨last, hlast, hle, -⟩ := forward.rank_le hrest hz
    obtain rfl := Option.some.inj (hx.symm.trans hlast)
    exact ⟨v, z, hv, hz, hle⟩
  · rcases List.mem_cons.mp hd with rfl | hd
    · exact .inl rfl
    · exact absurd hdown (unmoved d hd)

end History

namespace Table

variable {κ β : Type} [DecidableEq κ] {rank : β → Nat} {t u : Table κ β} {k : κ} {x : β}
  {mover : Option κ}

/-- What a step does to a table of such parts: it changes nothing, puts in a new part, or takes the
part that its action is for to a higher rank. -/
inductive Goes (rank : β → Nat) (t : Table κ β) : Table κ β → Option κ → Prop
  | rest : Goes rank t t none
  | enter {k : κ} {x : β} (new : t.get? k = none) : Goes rank t (t.insert k x) none
  | move {k : κ} {x y : β} (at_ : t.get? k = some x) (higher : rank x < rank y) :
      Goes rank t (t.insert k y) (some k)

theorem Goes.present (h : Goes rank t u (some k)) : ∃ x, t.get? k = some x := by
  cases h with
  | move at_ => exact ⟨_, at_⟩

theorem Goes.moves (h : Goes rank t u mover) (hx : t.get? k = some x) :
    ∃ y, u.get? k = some y ∧ (mover = some k → rank x < rank y) ∧ (¬mover = some k → y = x) := by
  cases h with
  | rest => exact ⟨x, hx, by simp, fun _ => rfl⟩
  | @enter j y new =>
    have hk : k ≠ j := by
      rintro rfl
      rw [new] at hx
      cases hx
    exact ⟨x, by simpa [hk] using hx, by simp, fun _ => rfl⟩
  | @move j y z at_ higher =>
    by_cases hk : k = j
    · subst hk
      obtain rfl := Option.some.inj (hx.symm.trans at_)
      exact ⟨z, by simp, fun _ => higher, fun hne => absurd rfl hne⟩
    · exact ⟨x, by simpa [hk] using hx, fun heq => absurd (Option.some.inj heq).symm hk,
        fun _ => rfl⟩

end Table

/-- The entries of a table go forward, each at its own pace. -/
theorem History.Forward.of_goes {σ α κ β : Type} [DecidableEq κ] {step : σ → α → σ → Prop}
    {table : σ → Table κ β} {rank : β → Nat} {mover? : α → Option κ}
    (goes : ∀ s a t, step s a t → Table.Goes rank (table s) (table t) (mover? a)) (k : κ) :
    Forward step (fun s => (table s).get? k) rank fun a => mover? a = some k where
  present hs own := (own ▸ goes _ _ _ hs).present
  moves hs hx := (goes _ _ _ hs).moves hx

end SkinRelay
