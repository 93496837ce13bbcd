import SkinRelay.Client
import SkinRelay.Proofs.Json.RoundTrip

/-!
The bodies that go to the account service and come from it. The names that are asked for are posted
as one list of texts, and a list of accounts is one of objects in which a flag stands only if it is
set; whatever texts they hold, both are read back as they were (`bodies_are_faithful`).
-/

namespace SkinRelay

namespace Account

/-- A flag that is set. -/
def flagMember (key : String) (flag : Bool) : List (String × Json.Value) :=
  if flag then [(key, .flag true)] else []

/-- The object of an account. -/
def toObject (a : Account) : Json.Value :=
  .object <| [("id", .text a.id), ("name", .text a.name)] ++ flagMember "legacy" a.legacy ++
    flagMember "demo" a.demo

theorem toValue_eq_toObject (a : Account) : format.toValue a = a.toObject := by
  obtain ⟨id, name, legacy, demo⟩ := a
  cases legacy <;> cases demo <;> rfl

/-- A list of accounts is the list of their objects. -/
theorem toValue_list (accounts : List Account) :
    (Json.Format.list format).toValue accounts = .list (accounts.map toObject) := by
  have hobjects : (Json.Format.list format).toValue accounts =
      .list ((accounts.map format.toCarrier).map format.schema.toValue) := by
    simp only [Json.Format.toValue, Json.Format.list, Json.Schema.toValue]
  rw [hobjects, List.map_map]
  congr 1
  exact List.map_congr_left fun a _ => toValue_eq_toObject a

theorem readAll_write (accounts : List Account) :
    readAll (Utf8.ofString ((Json.Format.list format).write accounts)) = .ok accounts :=
  Json.Format.read_write rfl accounts

end Account

namespace Client

theorem toValue_names (names : List String) :
    namesFormat.toValue names = .list (names.map .text) := by
  simp only [Json.Format.toValue, namesFormat, Json.Format.list, Json.Format.text,
    Json.Schema.toValue, List.map_id]

/-- What is posted for these names, if it is posted at all. -/
structure Posts (request : Request) (names : List String) : Prop where
  method : request.method = .post
  contentType : request.contentType = some "application/json"
  body : request.body = (Json.Value.list (names.map .text)).render
  reads : namesFormat.read (Utf8.ofString request.body) = .ok names

theorem posts_of_accountsRequest? {client : Client} {names : List String} {request : Request}
    (h : client.accountsRequest? names = some request) : Posts request names := by
  obtain ⟨url, -, rfl⟩ := Option.map_eq_some_iff.mp h
  exact ⟨rfl, rfl, congrArg Json.Value.render (toValue_names names),
    Json.Format.read_write rfl names⟩

/-- What is written of names and of accounts is read back as it was, every text with every character
and every list with its order and length. -/
structure Faithful : Prop where
  /-- Whether there is a request depends on the address alone. -/
  sends : ∀ (client : Client) names,
    (client.accountsRequest? names).isSome = (reach? client.accountsUrl).isSome
  names : ∀ (client : Client) names request, client.accountsRequest? names = some request →
    Posts request names
  /-- A flag that is left out is one that is not set. -/
  written : ∀ accounts, (Json.Format.list Account.format).write accounts =
    (Json.Value.list (accounts.map Account.toObject)).render
  accounts : ∀ accounts,
    Account.readAll (Utf8.ofString ((Json.Format.list Account.format).write accounts)) = .ok accounts

theorem bodies_are_faithful : Faithful where
  sends client names := by rw [accountsRequest?, Option.isSome_map]
  names _ _ _ h := posts_of_accountsRequest? h
  written accounts := congrArg Json.Value.render (Account.toValue_list accounts)
  accounts := Account.readAll_write

example : namesFormat.write ["Notch", "Notch", "\"\n😀"] = "[\"Notch\",\"Notch\",\"\\\"\\n😀\"]" := by
  decide +kernel

end Client

end SkinRelay
