import SkinRelay.Client
import SkinRelay.Simulation.Script

/-!
Servers at the other end of a wire: every request is written out and sent by the client, and gets
the next reply of a list.
-/

namespace SkinRelay.Simulation

structure Wire where
  client : Client
  replies : List Client.Reply
  requests : List Client.Request := []

namespace Wire

/-- Sends a request, if there is one to send. -/
def exchange (w : Wire) (request : Option Client.Request)
    (read : Client.Reply → Except RemoteError α) : Timed α × Wire :=
  match request with
  | none => (⟨0, .error .transport⟩, w)
  | some request =>
    (⟨0, read (w.replies.head?.getD .lost)⟩,
      { w with replies := w.replies.tail, requests := w.requests ++ [request] })

instance : Servers Wire where
  accounts w _ names := w.exchange (w.client.accountsRequest? names) Client.accountsOf
  profile w _ uuid := w.exchange (w.client.profileRequest? uuid true) Client.profileOf

end Wire

end SkinRelay.Simulation
