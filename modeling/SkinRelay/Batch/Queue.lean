import SkinRelay.Account
import SkinRelay.RemoteError
import SkinRelay.Username

/-!
The queue of names that wait for the next request, and what is taken out of it for one request.
-/

namespace SkinRelay.Batch

/-- A name that waits, with the number of the call that asked for it. -/
structure Job where
  id : Nat
  username : String
  deriving DecidableEq, Repr

/-- What one drain takes out of a queue. -/
structure Drained where
  /-- The jobs of the next request. -/
  taken : List Job
  /-- Jobs that nobody waits for any more. -/
  discarded : List Job
  rest : List Job
  deriving DecidableEq, Repr

/-- Takes the first jobs of a queue, at most `size`, and throws away those among them that nobody
waits for. -/
def drain (isGone : Job → Bool) (size : Nat) : List Job → Drained
  | [] => ⟨[], [], []⟩
  | job :: queue =>
    if size = 0 then ⟨[], [], job :: queue⟩
    else if isGone job then
      let d := drain isGone size queue
      { d with discarded := job :: d.discarded }
    else
      let d := drain isGone (size - 1) queue
      { d with taken := job :: d.taken }

/-- The account of a name in a reply, whose order and extent say nothing. -/
def answerFor (accounts : List Account) (username : String) : Option Account :=
  accounts.find? fun account => Username.key account.name = Username.key username

/-- What a job gets out of the reply to its request. -/
def Job.reply (result : Except RemoteError (List Account)) (job : Job) :
    Except RemoteError (Option Account) :=
  match result with
  | .error error => .error error
  | .ok accounts => .ok (answerFor accounts job.username)

end SkinRelay.Batch
