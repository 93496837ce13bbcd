import SkinRelay.Proofs.Gateway.Visits
import SkinRelay.Proofs.Pipeline.Provenance

/-!
Profiles on their way through the service. Whatever profile a request is answered with was in the
body of a reply of the session server (`delivered_of_returned`), one and the same for all who are
given the outcome of one request to it (`delivers_unique`), and it is answered in the form that was
asked for (`answer_of_get`).
-/

namespace SkinRelay

theorem Client.profileOf_eq_ok_some {reply : Reply} {profile : Profile} :
    profileOf reply = .ok (some profile) ↔
      ∃ body, reply = .received 200 body ∧ Profile.format.read body = .ok profile := by
  cases reply with
  | lost => simp [profileOf]
  | received status body =>
    unfold profileOf
    by_cases absent : status = 204
    · subst absent
      simp
    · by_cases ok : status = 200
      · subst ok
        cases hread : Profile.format.read body <;> simp [hread]
      · simp [absent, ok]

namespace Gateway

/-- The session server replies 200 to a request of a run, and the body reads as this profile. -/
structure Delivers {σ : Type} (e : Entry σ) (run : Nat) (body : Bytes) (found : Fetched) : Prop where
  replied : e.2.2 = .profile run (.received 200 body)
  reads : Profile.format.read body = .ok found.profile
  awaited : Pipeline.Awaits e.1.pipeline run found.request

variable {σ : Type} [NameStore σ] {store : σ} {settings : BatchSettings} {log : List (Entry σ)}
  {g u : Gateway σ} {now run id : Nat} {body : Bytes} {found : Fetched}

/-! ### Bodies -/

omit [NameStore σ] in
theorem Delivers.replies {e : Entry σ} (h : Delivers e run body found) :
    ∃ action, e.2.2.inner? = some action ∧
      Pipeline.Replies (e.1.pipeline, (e.2.1, action)) run found.request
        (.ok (some found.profile)) := by
  have hprofile := Client.profileOf_eq_ok_some.mpr ⟨body, rfl, h.reads⟩
  exact ⟨_, by rw [h.replied]; rfl, by rw [hprofile], h.awaited⟩

theorem delivers_of_replies {a : Action} {action : Pipeline.Action} (hs : g.step? now a = some u)
    (own : a.inner? = some action)
    (h : Pipeline.Replies (g.pipeline, (now, action)) run found.request
      (.ok (some found.profile))) : ∃ body, Delivers (g, (now, a)) run body found := by
  obtain ⟨ha, hawaits⟩ := h
  obtain rfl : action = .fetched run (.ok (some found.profile)) := ha
  obtain ⟨reply, rfl, hreply⟩ := profile_of_inner? hs own
  obtain ⟨body, rfl, hread⟩ := Client.profileOf_eq_ok_some.mp hreply.symm
  exact ⟨body, rfl, hread, hawaits⟩

/-- A profile that a lookup has returned was in the body of a reply. -/
theorem delivered_of_returned (h : History Step (ofStore store settings) log g)
    {call : Flight.Call FetchResult} (hc : g.pipeline.resolver.group.calls.get? id = some call)
    (returned : call.phase = .returned (.ok (some found))) :
    ∃ e ∈ log, ∃ run body, Delivers e run body found := by
  obtain ⟨inner, hinner, hfrom, -⟩ := pipeline_of_history h
  obtain ⟨d, hd, run, hreplies⟩ := Pipeline.brought_of_returned hinner hc returned
  obtain ⟨e, he, action, own, rfl⟩ := hfrom d hd
  obtain ⟨before, after, u, -, -, hs, -⟩ := h.cut he
  obtain ⟨body, delivers⟩ := delivers_of_replies hs own hreplies
  exact ⟨e, he, run, body, delivers⟩

omit [NameStore σ] in
theorem Delivers.brought {inner : List (Pipeline.Entry σ)}
    (hto : ∀ e ∈ log, ∀ action, e.2.2.inner? = some action →
      (e.1.pipeline, (e.2.1, action)) ∈ inner) {e : Entry σ} (he : e ∈ log)
    (delivers : Delivers e run body found) : Pipeline.Brought inner found := by
  obtain ⟨action, own, hreplies⟩ := delivers.replies
  exact ⟨_, hto e he action own, run, hreplies⟩

/-- No request to the session server brings two profiles. -/
theorem delivers_unique (h : History Step (ofStore store settings) log g) {e d : Entry σ}
    (he : e ∈ log) (hd : d ∈ log) {run' : Nat} {body' : Bytes} {other : Fetched}
    (delivers : Delivers e run body found) (delivers' : Delivers d run' body' other)
    (same : found.request = other.request) : found = other := by
  obtain ⟨inner, hinner, -, hto⟩ := pipeline_of_history h
  exact Pipeline.brought_unique hinner (delivers.brought hto he) (delivers'.brought hto hd) same

/-! ### Those who are served -/

/-- Whoever waits for the run to which a profile is delivered gets it. -/
theorem returned_of_delivers (h : History Step (ofStore store settings) log g) {e : Entry σ}
    (he : e ∈ log) (delivers : Delivers e run body found) {call : Flight.Call FetchResult}
    {result : FetchResult} (hc : g.pipeline.resolver.group.calls.get? id = some call)
    (own : call.run = run) (returned : call.phase = .returned result) :
    result = .ok (some found) := by
  obtain ⟨before, after, u, -, hbefore, hs, hafter⟩ := h.cut he
  obtain ⟨s, now, a⟩ := e
  obtain rfl : a = .profile run (.received 200 body) := delivers.replied
  have hstep : Pipeline.Step s.pipeline _ u.pipeline := hs.pipeline rfl
  obtain ⟨innerBefore, hinnerBefore, -⟩ := pipeline_of_history hbefore
  obtain ⟨innerAfter, hinnerAfter, -⟩ := pipeline_of_history hafter
  obtain ⟨account, hwork⟩ := delivers.awaited
  obtain ⟨key, hr⟩ := Flight.work?_eq_some.mp hwork
  have hmove := Pipeline.moves_of_step? hstep
  obtain ⟨phase, hnext⟩ := hmove.run (Pipeline.coherent_of_history hinnerBefore) hr
  have hphase : Pipeline.found? phase = some found := by
    rw [Client.profileOf_eq_ok_some.mpr ⟨body, rfl, delivers.reads⟩] at hmove
    obtain ⟨account', request, ⟨account'', hwork'⟩, rfl⟩ := hmove.fetched hnext
    cases hwork.symm.trans hwork'
    rfl
  exact Pipeline.returned_of_found (hinnerBefore.next hstep) hinnerAfter hnext hphase hc own returned

/-- Whoever waits for a run that finds a profile in the cache gets it. -/
theorem returned_of_hit (h : History Step (ofStore store settings) log g) {e : Entry σ}
    (he : e ∈ log) {fault : Option StoreError} {account : Account}
    (works : e.2.2 = .inner (.work run fault))
    (hwork : e.1.pipeline.resolver.group.work? run = some (.dressing account .looking))
    (alive : e.1.pipeline.textures.entries.get? e.2.1 account.id = some (some found))
    {call : Flight.Call FetchResult} {result : FetchResult}
    (hc : g.pipeline.resolver.group.calls.get? id = some call) (own : call.run = run)
    (returned : call.phase = .returned result) : result = .ok (some found) := by
  obtain ⟨before, after, u, -, hbefore, hs, hafter⟩ := h.cut he
  obtain ⟨s, now, a⟩ := e
  obtain rfl : a = .inner (.work run fault) := works
  have hstep : Pipeline.Step s.pipeline _ u.pipeline := hs.pipeline rfl
  obtain ⟨innerBefore, hinnerBefore, -⟩ := pipeline_of_history hbefore
  obtain ⟨innerAfter, hinnerAfter, -⟩ := pipeline_of_history hafter
  obtain ⟨key, phase, hnext, hphase⟩ := (Pipeline.moves_of_step? hstep).hit hwork alive
  exact Pipeline.returned_of_found (hinnerBefore.next hstep) hinnerAfter hnext hphase hc own returned

/-! ### The form of an answer -/

/-- `Owes g id form`: the request of this number waits for an answer in this form, or was answered in
it with what its lookup has returned, or whoever made it has gone away. -/
inductive Owes (g : Gateway σ) (id : Nat) (form : Router.Form) : Prop
  | waiting (at_ : g.visits.get? id = some (.waiting form)) : Owes g id form
  | gone (at_ : g.visits.get? id = some .gone) : Owes g id form
  | answered {call : Flight.Call FetchResult} {result : FetchResult}
      (at_ : g.visits.get? id = some (.answered (Router.answer form (present result))))
      (hc : g.pipeline.resolver.group.calls.get? id = some call)
      (returned : call.phase = .returned result) : Owes g id form

/-- A request that does not wait any more is left as it is, and so is its call. -/
theorem Moves.settled {a : Action} (h : Moves now g a u) {visit : Visit}
    (hv : g.visits.get? id = some visit) (settled : ∀ form, visit ≠ .waiting form) :
    u.visits.get? id = some visit ∧ u.pipeline.resolver.group.calls.get? id =
      g.pipeline.resolver.group.calls.get? id := by
  have other {i : Nat} {calls next : Table Nat (Flight.Call FetchResult)}
      {action : Pipeline.Action} (hne : id ≠ i) (hrecalls : Pipeline.Recalls calls action next)
      (ofCall : action = .collect i ∨ action = .drop i ∨ ∃ name, action = .call i name) :
      next.get? id = calls.get? id := by
    rcases ofCall with rfl | rfl | ⟨name, rfl⟩ <;> cases hrecalls <;> simp [hne]
  cases h with
  | @refuse i _ _ new =>
    have hne : id ≠ i := by rintro rfl; simp [new] at hv
    exact ⟨by simpa [setVisit, hne] using hv, rfl⟩
  | @seek i _ name _ _ new _ stepped =>
    have hne : id ≠ i := by rintro rfl; simp [new] at hv
    exact ⟨by simpa [hne] using hv,
      other hne (Pipeline.moves_of_step? stepped).recalls (.inr (.inr ⟨name, rfl⟩))⟩
  | @answer i form _ _ _ at_ stepped =>
    have hne : id ≠ i := by rintro rfl; exact settled form (Option.some.inj (hv.symm.trans at_))
    exact ⟨by simpa [hne] using hv,
      other hne (Pipeline.moves_of_step? stepped).recalls (.inl rfl)⟩
  | @leave i form _ at_ stepped =>
    have hne : id ≠ i := by rintro rfl; exact settled form (Option.some.inj (hv.symm.trans at_))
    exact ⟨by simpa [hne] using hv,
      other hne (Pipeline.moves_of_step? stepped).recalls (.inr (.inl rfl))⟩
  | @inner _ action pipeline _ ofNone stepped =>
    have hrecalls := (Pipeline.moves_of_step? stepped).recalls
    generalize pipeline.resolver.group.calls = calls at hrecalls ⊢
    cases hrecalls with
    | same => exact ⟨hv, rfl⟩
    | _ => cases ofNone

theorem Owes.move {form : Router.Form} {a : Action} (hg : Owes g id form) (h : Moves now g a u) :
    Owes u id form := by
  cases hg with
  | gone at_ => exact .gone (h.settled at_ (by simp)).1
  | answered at_ hc returned =>
    obtain ⟨hv, hcalls⟩ := h.settled at_ (by simp)
    exact .answered hv (hcalls.trans hc) returned
  | waiting at_ =>
    cases h with
    | @refuse i _ _ new =>
      have hne : id ≠ i := by rintro rfl; simp [new] at at_
      exact .waiting (by simpa [setVisit, hne] using at_)
    | @seek i _ _ _ _ new =>
      have hne : id ≠ i := by rintro rfl; simp [new] at at_
      exact .waiting (by simpa [hne] using at_)
    | @answer i form' pipeline _ _ at_' _ hc returned =>
      by_cases hid : id = i
      · subst hid
        cases at_.symm.trans at_'
        exact .answered (by simp) hc returned
      · exact .waiting (by simpa [hid] using at_)
    | @leave i =>
      by_cases hid : id = i
      · exact .gone (by simp [hid])
      · exact .waiting (by simpa [hid] using at_)
    | inner => exact .waiting at_

omit [NameStore σ] in
/-- Only a name that no account can have is turned away. -/
theorem error_of_call {p : Pipeline σ} {name : String} {error : LookupError}
    (h : p.call id name = .error error) : error = .invalidUsername name := by
  unfold Pipeline.call Resolver.call at h
  by_cases valid : Username.isValid name = true <;> simp [valid] at h
  exact h.symm

/-- A request for a name is answered in the form that was asked for, with what its lookup has
returned, unless the name has been turned away. -/
theorem answer_of_get (h : History Step (ofStore store settings) log g) {e : Entry σ} (he : e ∈ log)
    {path name : String} {form : Router.Form} (gets : e.2.2 = .get id path)
    (asked : Router.task "GET" (Router.route? path) = .lookup form name)
    {reply : Router.Reply} (hv : g.visits.get? id = some (.answered reply)) :
    (g.pipeline.resolver.group.calls.get? id = none ∧
      reply = Router.answer form (.error (.invalidUsername name))) ∨
    ∃ call result, g.pipeline.resolver.group.calls.get? id = some call ∧
      call.phase = .returned result ∧ reply = Router.answer form (present result) := by
  obtain ⟨before, after, u, -, hbefore, hs, hafter⟩ := h.cut he
  obtain ⟨s, now, a⟩ := e
  obtain rfl : a = .get id path := gets
  have hstep : s.step? now (.get id path) = some u := hs
  simp only [step?, asked] at hstep
  split at hstep
  · cases hstep
  · rename_i hnew
    unfold lookup at hstep
    split at hstep
    · obtain ⟨next, -, rfl⟩ := Option.map_eq_some_iff.mp hstep
      have hend := hafter.invariant (I := fun t => Owes t id form)
        (.waiting (by simp [setVisit])) fun _ _ _ howes hs => howes.move (moves_of_step? hs)
      right
      cases hend with
      | waiting at_ => cases hv.symm.trans at_
      | gone at_ => cases hv.symm.trans at_
      | answered at_ hc returned =>
        cases hv.symm.trans at_
        exact ⟨_, _, hc, returned, rfl⟩
    · rename_i error herror
      cases hstep
      left
      have hcalls := (agrees_of_history hbefore).called id (by simpa [Table.contains] using hnew)
      have hend := hafter.invariant
        (I := fun t => t.visits.get? id = some (.answered (Router.answer form (.error error))) ∧
          t.pipeline.resolver.group.calls.get? id = none)
        ⟨by simp [setVisit], hcalls⟩ (by
          rintro t a u ⟨hat, hnone⟩ hs
          obtain ⟨hvisit, hcall⟩ := (moves_of_step? hs).settled hat (by simp)
          exact ⟨hvisit, hcall.trans hnone⟩)
      cases hv.symm.trans hend.1
      exact ⟨hend.2, by rw [error_of_call herror]⟩

end Gateway

end SkinRelay
