import SkinRelay.Proofs.Batch.Accounting
import SkinRelay.Proofs.Directory

/-!
Batches cannot be seen in answers: as long as every reply says the truth about the names of its own
batch, every call that gets an answer gets the truth about its own name.
-/

namespace SkinRelay.Batch

/-- Whether an action that brings a reply brings the truth about all names of its batch. -/
def Honest (d : Directory) (b : Batch) : Action → Prop
  | .deliver number (.ok accounts) => ∀ round, b.rounds.get? number = some round →
      ∀ job ∈ round.jobs, d.Answers accounts job.username
  | _ => True

variable {settings : BatchSettings} {log : List Entry} {b : Batch}

/-- What a call returns without an error comes out of the reply to its own batch. -/
theorem answer_of_returned (h : History Step (ofSettings settings) log b) {id : Nat} {call : Call}
    {found : Option Account} (hc : b.calls.get? id = some call)
    (hp : call.phase = .returned (.ok found)) :
    ∃ e ∈ log, ∃ n accounts round, e.2.2 = .deliver n (.ok accounts) ∧
      e.1.rounds.get? n = some round ∧ ⟨id, call.username⟩ ∈ round.jobs ∧
      found = answerFor accounts call.username := by
  rcases (orderly_of_history h).returned id call _ hc hp with
    ⟨-, hres⟩ | ⟨-, hres⟩ | ⟨fate, hf, hres⟩
  · cases hres
  · cases hres
  · cases fate with
    | discarded => cases hres
    | cleared => cases hres
    | answered reply =>
      obtain ⟨e, he, n, result, round, ha, hat, hown, rfl, -⟩ := answer_of_history h hc hf
      cases result with
      | error => cases hres
      | ok accounts =>
        cases hres
        exact ⟨e, he, n, accounts, round, ha, hat, hown, rfl⟩

theorem returned_of_honest {d : Directory} (h : History Step (ofSettings settings) log b)
    (honest : ∀ e ∈ log, Honest d e.1 e.2.2) {id : Nat} {call : Call} {found : Option Account}
    (hc : b.calls.get? id = some call) (hp : call.phase = .returned (.ok found)) :
    found = d.account (Username.key call.username) := by
  obtain ⟨e, he, n, accounts, round, ha, hat, hown, rfl⟩ := answer_of_returned h hc hp
  have htrue := honest e he
  rw [ha] at htrue
  exact (htrue round hat _ hown).answerFor_eq

end SkinRelay.Batch
