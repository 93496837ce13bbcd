import SkinRelay.Proofs.Gateway.Visits
import SkinRelay.Proofs.Pipeline.Requests
import SkinRelay.Proofs.Pipeline.Returns
import SkinRelay.Proofs.Username

/-!
The gate for names. A name of three to sixteen Latin letters, digits and underscores is looked up in
lower case, and for any other one nothing at all is done, unless it has a long s or a Kelvin sign for
an `s` or a `k`. These are let in too, and the long s goes upstream as it is: `names_are_gated`.
-/

namespace SkinRelay.Pipeline

open Username (Consists IsPlain IsPlainLower IsStray lowered)

variable {σ : Type} {now id : Nat} {name : String} {p q : Pipeline σ}

/-! ### A call -/

theorem call_of_isValid (h : Username.isValid name = true) :
    p.call id name = .ok { p with
      resolver.group := p.resolver.group.call id (lowered name) (.begin (lowered name)) } := by
  unfold call Resolver.call
  rw [if_pos h, Username.spelling_of_isValid h]

variable [NameStore σ]

/-! ### Runs -/

variable {store : σ} {settings : BatchSettings} {log : List (Entry σ)}

/-- Whether this is the spelling of a name with which a call was let in. -/
def Called (log : List (Entry σ)) (key : String) : Prop :=
  ∃ e ∈ log, ∃ id name, e.2.2 = .call id name ∧ Username.isValid name = true ∧
    key = Username.key name

/-- Every run is for the name of a call that was let in. -/
theorem called_of_run (h : History Step (ofStore store settings) log p) {run : Nat} {key : String}
    {phase : Flight.Phase Work FetchResult}
    (hr : p.resolver.group.runs.get? run = some ⟨key, phase⟩) : Called log key := by
  have later : ∀ {log rest : List (Entry σ)} {key}, Called log key → Called (log ++ rest) key := by
    rintro log rest key ⟨e, he, hcalled⟩
    exact ⟨e, List.mem_append_left rest he, hcalled⟩
  induction h generalizing phase with
  | start => cases hr
  | @next log p q a h hs ih =>
    have hmove := moves_of_step? hs
    rcases hmove.passes (coherent_of_history h) hr with
      hsame | ⟨-, -, id, name, ha, rfl⟩ | ⟨old, _, _, hold, -⟩
    · exact later (ih hsame)
    · rw [ha] at hmove
      exact ⟨(p, a), List.mem_append_right _ (List.mem_singleton_self _), id, name, ha,
        isValid_of_call hmove, rfl⟩
    · exact later (ih hold)

end SkinRelay.Pipeline

namespace SkinRelay.Gateway

open Username (Consists IsPlain IsPlainLower IsStray lowered)

variable {σ : Type} [NameStore σ] {store : σ} {settings : BatchSettings}

theorem lookup_of_not_isValid {name : String} (h : ¬Username.isValid name = true) (g : Gateway σ)
    (now id : Nat) (form : Router.Form) :
    g.lookup now id form name =
      some (g.setVisit id (.answered (Router.answer form (.error (.invalidUsername name))))) := by
  unfold lookup
  rw [Pipeline.call_of_not_isValid h]

/-- What becomes of names, in any state of the pipeline and of the service, and in a run. -/
structure Gated (log : List (Pipeline.Entry σ)) : Prop where
  admits : ∀ (p : Pipeline σ) id name, Consists (fun c => IsPlain c ∨ IsStray c) name →
    p.call id name = .ok { p with
      resolver.group := p.resolver.group.call id (lowered name) (.begin (lowered name)) }
  /-- No pipeline comes out of any other call. -/
  rejects : ∀ (p : Pipeline σ) id name, ¬Consists (fun c => IsPlain c ∨ IsStray c) name →
    p.call id name = .error (.invalidUsername name) ∧ ∀ now, p.step? now (.call id name) = none
  /-- The service answers such a request at once, with the pipeline as it was. -/
  answers : ∀ (g : Gateway σ) now id form name,
    ¬Consists (fun c => IsPlain c ∨ IsStray c) name → g.lookup now id form name =
      some (g.setVisit id (.answered (Router.answer form (.error (.invalidUsername name)))))
  /-- Only the capital letters of a plain name are changed. -/
  spelling : ∀ name, Consists IsPlain name →
    lowered name = String.ofList (name.toList.map Char.toLower)
  /-- What goes upstream is the spelling of a name with which a call was let in. -/
  called : ∀ e ∈ log, ∀ n round, e.2.2 = .batch (.send n) → e.1.batch.rounds.get? n = some round →
    ∀ job ∈ round.jobs, ∃ d ∈ log, ∃ id name, d.2.2 = .call id name ∧
      Consists (fun c => IsPlain c ∨ IsStray c) name ∧ job.username = lowered name
  sent : ∀ e ∈ log, ∀ n round, e.2.2 = .batch (.send n) → e.1.batch.rounds.get? n = some round →
    ∀ job ∈ round.jobs, Consists (fun c => IsPlainLower c ∨ c = 'ſ') job.username

/-- Whatever is asked for, only names of the right length and of the right characters are looked up,
in lower case, and nobody else gets further than the gate. -/
theorem names_are_gated {log : List (Pipeline.Entry σ)} {p : Pipeline σ}
    (h : History Pipeline.Step (.ofStore store settings) log p) : Gated log := by
  have named : ∀ e ∈ log, ∀ n round, e.2.2 = .batch (.send n) →
      e.1.batch.rounds.get? n = some round → ∀ job ∈ round.jobs,
      Pipeline.Called log job.username := by
    intro e he n round sends hat job hj
    obtain ⟨before, after, u, rfl, hbefore, -, -⟩ := h.cut he
    obtain ⟨-, hr⟩ := Pipeline.asks_of_send h he sends hat hj
    obtain ⟨d, hd, hcalled⟩ := Pipeline.called_of_run hbefore hr
    exact ⟨d, List.mem_append_left _ hd, hcalled⟩
  constructor
  case admits =>
    intro p id name hname
    exact Pipeline.call_of_isValid (Username.isValid_iff.mpr hname)
  case rejects =>
    intro p id name hname
    have invalid := mt Username.isValid_iff.mp hname
    exact ⟨Pipeline.call_of_not_isValid invalid, fun _ => Pipeline.step?_call_eq_none invalid⟩
  case answers =>
    intro g now id form name hname
    exact lookup_of_not_isValid (mt Username.isValid_iff.mp hname) g now id form
  case spelling =>
    intro name hname
    exact Username.lowered_of_plain hname
  case called =>
    intro e he n round sends hat job hj
    obtain ⟨d, hd, id, name, hcall, valid, hkey⟩ := named e he n round sends hat job hj
    refine ⟨d, hd, id, name, hcall, Username.isValid_iff.mp valid, ?_⟩
    rw [hkey, Username.spelling_of_isValid valid]
  case sent =>
    intro e he n round sends hat job hj
    obtain ⟨d, hd, id, name, hcall, valid, hkey⟩ := named e he n round sends hat job hj
    rw [hkey]
    exact Username.consists_key valid

/-- A name in two casings and another one that is too short: only the first is looked up. -/
theorem names_are_gated_in_any_casing :
    ∃ (log : List (Pipeline.Entry MemoryStore)) (p : Pipeline MemoryStore),
      History Pipeline.Step (.ofStore {} {}) log p ∧ Gated log ∧
      p.batch.pending = [⟨0, "notch"⟩] ∧ (p.call 2 "jn").toOption.isNone := by
  have h : History Pipeline.Step (.ofStore ({} : MemoryStore) {}) _ _ :=
    History.of_replay [(0, .call 0 "Notch"), (0, .spawn 0), (0, .call 1 "NOTCH"),
      (1, .work 0 none), (1, .work 0 none), (1, .work 0 none), (2, .batch .park),
      (Time.seconds 3, .batch (.wake .delay)), (Time.seconds 3, .batch .drain),
      (Time.seconds 3, .batch .fire), (Time.seconds 3, .batch (.send 0))] rfl
  exact ⟨_, _, h, names_are_gated h, rfl, rfl⟩

/-- A name with a long s goes upstream although it is not plain, and one with a Kelvin sign is looked
up as the name with a `k`. -/
theorem stray_letters_are_let_in :
    (¬Consists IsPlain "ſam" ∧ ¬Consists IsPlainLower "ſam" ∧
      ∃ (log : List (Pipeline.Entry MemoryStore)) (p : Pipeline MemoryStore)
        (e : Pipeline.Entry MemoryStore) (round : Batch.Round),
        History Pipeline.Step (.ofStore {} {}) log p ∧ e ∈ log ∧ e.2.2 = .batch (.send 0) ∧
          e.1.batch.rounds.get? 0 = some round ∧ round.jobs = [⟨0, "ſam"⟩]) ∧
    ¬Consists IsPlain "\u212Aim" ∧
      ∃ p, (Pipeline.ofStore ({} : MemoryStore) {}).call 0 "\u212Aim" = .ok p ∧
        p.resolver.group.runs.get? 0 = some ⟨"kim", .entered (.begin "kim")⟩ := by
  have hrun : ∃ (log : List (Pipeline.Entry MemoryStore)) (p : Pipeline MemoryStore)
      (e : Pipeline.Entry MemoryStore) (round : Batch.Round),
      History.replay (fun (p : Pipeline MemoryStore) a => p.step? a.1 a.2) (.ofStore {} {})
        [(0, .call 0 "ſam"), (0, .spawn 0), (1, .work 0 none), (1, .work 0 none),
          (1, .work 0 none), (2, .batch .park), (Time.seconds 3, .batch (.wake .delay)),
          (Time.seconds 3, .batch .drain), (Time.seconds 3, .batch .fire),
          (Time.seconds 3, .batch (.send 0))] = some (log, p) ∧
        log.getLast? = some e ∧ e.2.2 = .batch (.send 0) ∧
        e.1.batch.rounds.get? 0 = some round ∧ round.jobs = [⟨0, "ſam"⟩] :=
    ⟨_, _, _, _, rfl, rfl, rfl, rfl, rfl⟩
  obtain ⟨log, p, e, round, hreplay, hlast, hsend⟩ := hrun
  have h : History Pipeline.Step (.ofStore {} {}) log p := History.of_replay _ hreplay
  refine ⟨⟨by decide, by decide, log, p, e, round, h,
    List.mem_of_getLast? hlast, hsend⟩, ?_⟩
  exact ⟨by decide, _, rfl, rfl⟩

end SkinRelay.Gateway
