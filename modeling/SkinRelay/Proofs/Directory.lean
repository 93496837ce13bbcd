import SkinRelay.Batch.Queue
import SkinRelay.Profile
import SkinRelay.Proofs.Text.Lowercase

/-!
What is true of accounts and profiles, against which answers are measured.
-/

namespace SkinRelay

/-- A table of accounts, at most one for every name, and a table of profiles. -/
structure Directory where
  /-- The account of a name, which is given in lower case. -/
  account : String → Option Account
  name_eq : ∀ key a, account key = some a → Username.key a.name = key
  /-- The profile of an account id, if it has one. -/
  profile : String → Option Profile

namespace Directory

/-- The answer about a name without queue, store or cache. -/
def answer (d : Directory) (username : String) : Option Profile :=
  (d.account (Username.key username)).bind fun a => d.profile a.id

/-- Whether a reply holds the truth about a name that was asked for. Its order does not matter, and
it may hold anything about other names. -/
structure Answers (d : Directory) (accounts : List Account) (username : String) : Prop where
  sound : ∀ a ∈ accounts, Username.key a.name = Username.key username →
    d.account (Username.key username) = some a
  complete : ∀ a, d.account (Username.key username) = some a → a ∈ accounts

variable {d : Directory} {username : String}

theorem Answers.answerFor_eq {accounts : List Account} (h : d.Answers accounts username) :
    Batch.answerFor accounts username = d.account (Username.key username) := by
  cases hfound : Batch.answerFor accounts username with
  | some a =>
    have hname : Username.key a.name = Username.key username := by
      simpa [Batch.answerFor] using List.find?_some hfound
    exact (h.sound a (List.mem_of_find?_eq_some hfound) hname).symm
  | none =>
    cases hknown : d.account (Username.key username) with
    | none => rfl
    | some a =>
      have hne := List.find?_eq_none.mp hfound a (h.complete a hknown)
      simp [d.name_eq _ a hknown] at hne

/-- The directory that knows one account, and one profile for whoever asks. -/
def single (a : Account) (profile : Profile) : Directory where
  account key := if key = Username.key a.name then some a else none
  name_eq key b h := by
    split at h
    · cases h
      exact Eq.symm ‹_›
    · cases h
  profile _ := some profile

@[simp] theorem profile_single (a : Account) (profile : Profile) (id : String) :
    (single a profile).profile id = some profile := rfl

theorem answers_single (a : Account) (profile : Profile) (username : String) :
    (single a profile).Answers [a] username where
  sound b hb hname := by
    obtain rfl := List.mem_singleton.mp hb
    exact if_pos hname.symm
  complete b hb := by
    simp only [single] at hb
    split at hb
    · cases hb
      simp
    · cases hb

end Directory

end SkinRelay
