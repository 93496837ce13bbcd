import SkinRelay.Proofs.Client.Endpoint
import SkinRelay.Proofs.Json.Objects
import SkinRelay.Simulation.Wire

/-!
What is made of the replies of the two servers (`replies_are_classified`). An operation is one request,
and its result is what is read from the status and the body of the one reply: by each operation for the
statuses of its successes, and by both in the same way for all others (`Fails`).
-/

namespace SkinRelay

namespace RemoteError

open Json

variable {ms : List (Option String × Node)} {nodes : List Node} {node : Node} {body : Bytes}
  {status : Nat}

/-! ### Refusals -/

/-- `GivesText key ms t`: the only member with this key is the text `t`, or it is empty and there is no
member with the key. -/
inductive GivesText (key : String) (ms : List (Option String × Node)) : String → Prop
  | absent (h : membersOf key ms = []) : GivesText key ms ""
  | present {t : String} (h : membersOf key ms = [(some key, .text (some t))]) : GivesText key ms t

/-- The reason that a value gives: an object or a list of two texts, each of which may be missing. -/
inductive Gives : Node → Refusal → Prop
  | object {ms : List (Option String × Node)} {error errorMessage : String}
      (keys : ∀ m ∈ ms, m.1 ≠ none) (h : GivesText "error" ms error)
      (h' : GivesText "errorMessage" ms errorMessage) : Gives (.object ms) ⟨error, errorMessage⟩
  | neither : Gives (.list []) ⟨"", ""⟩
  | error {error : String} : Gives (.list [.text (some error)]) ⟨error, ""⟩
  | both {error errorMessage : String} :
      Gives (.list [.text (some error), .text (some errorMessage)]) ⟨error, errorMessage⟩

theorem text?_eq_some_iff {t : String} : node.text? = some t ↔ node = .text (some t) := by
  cases node <;> simp [Node.text?]

theorem isField_text_iff {key t : String} :
    IsField .defaulted .text key ms t ↔ GivesText key ms t := by
  rw [isField_iff]
  constructor
  · rintro (⟨h, -, rfl⟩ | ⟨node, h, hnode⟩)
    · exact .absent h
    · cases text?_eq_some_iff.mp hnode
      exact .present h
  · rintro (⟨h⟩ | ⟨h⟩)
    · exact .inl ⟨h, nofun, rfl⟩
    · exact .inr ⟨_, h, rfl⟩

theorem denote_object_iff {r : Refusal} :
    Refusal.format.denote (.object ms) = some r ↔ Gives (.object ms) r := by
  obtain ⟨error, errorMessage⟩ := r
  have hcarrier : Refusal.format.denote (.object ms) = some ⟨error, errorMessage⟩ ↔
      Refusal.format.schema.denote (.object ms) = some (error, errorMessage, ()) := by
    rw [Format.denote, Option.map_eq_some_iff]
    constructor
    · rintro ⟨⟨e, m, ⟨⟩⟩, hdenote, heq⟩
      cases heq
      exact hdenote
    · exact fun hdenote => ⟨_, hdenote, rfl⟩
  rw [hcarrier]
  refine (Schema.denote_object_iff (by decide)).trans ?_
  simp only [Fields.Describe, isField_text_iff, and_true]
  constructor
  · rintro ⟨keys, h, h'⟩
    exact .object keys h h'
  · rintro ⟨keys, h, h'⟩
    exact ⟨keys, h, h'⟩

/-- The parts of a reason in their order. -/
def parts : List Node → Option (Option String × Option String × Unit) :=
  Node.arrangeCons Node.text? (Node.arrangeCons Node.text? Node.arrangeNil)

theorem denote_list (nodes : List Node) : Refusal.format.denote (.list nodes) =
    (parts nodes).map fun p => ⟨p.1.getD "", p.2.1.getD ""⟩ := by
  have hparts : Refusal.format.denote (.list nodes) =
      ((parts nodes).bind (Fields.complete? (.cons "error" .defaulted .text <|
        .cons "errorMessage" .defaulted .text .nil))).map Refusal.format.ofCarrier := rfl
  rw [hparts]
  cases parts nodes with
  | none => rfl
  | some p =>
    obtain ⟨error, errorMessage, ⟨⟩⟩ := p
    cases error <;> cases errorMessage <;> rfl

theorem denote_list_iff {r : Refusal} :
    Refusal.format.denote (.list nodes) = some r ↔ Gives (.list nodes) r := by
  rw [denote_list]
  constructor
  · intro h
    obtain ⟨p, hp, rfl⟩ := Option.map_eq_some_iff.mp h
    match nodes, hp with
    | [], hp =>
      cases hp
      exact .neither
    | [a], hp =>
      obtain ⟨error, ha, hrest⟩ := Option.bind_eq_some_iff.mp hp
      cases text?_eq_some_iff.mp ha
      cases hrest
      exact .error
    | [a, b], hp =>
      obtain ⟨error, ha, hrest⟩ := Option.bind_eq_some_iff.mp hp
      obtain ⟨q, hq, rfl⟩ := Option.map_eq_some_iff.mp hrest
      obtain ⟨errorMessage, hb, hrest⟩ := Option.bind_eq_some_iff.mp hq
      cases text?_eq_some_iff.mp ha
      cases text?_eq_some_iff.mp hb
      cases hrest
      exact .both
    | a :: b :: c :: nodes, hp =>
      obtain ⟨error, -, hrest⟩ := Option.bind_eq_some_iff.mp hp
      obtain ⟨q, hq, -⟩ := Option.map_eq_some_iff.mp hrest
      obtain ⟨errorMessage, -, hrest⟩ := Option.bind_eq_some_iff.mp hq
      cases hrest
  · rintro (_ | _ | _ | _) <;> rfl

theorem denote_refusal_iff {r : Refusal} : Refusal.format.denote node = some r ↔ Gives node r := by
  cases node with
  | object ms => exact denote_object_iff
  | list nodes => exact denote_list_iff
  | null | flag | number | text => constructor <;> rintro ⟨⟩

/-- `IsReason body r`: `r` is the reason in this body, and empty if there is none in it. -/
inductive IsReason (body : Bytes) : Refusal → Prop
  | given {node : Node} {r : Refusal} (h : SpellsWhole node body) (hr : Gives node r) :
      IsReason body r
  | none (h : ∀ node r, SpellsWhole node body → ¬Gives node r) : IsReason body ⟨"", ""⟩

/-- `Fails body status e`: a reply with this status and this body is the failure `e`. -/
inductive Fails (body : Bytes) : Nat → RemoteError → Prop
  | badRequest {r : Refusal} (h : IsReason body r) :
      Fails body 400 (.badRequest r.error r.errorMessage)
  | forbidden : Fails body 403 .forbidden
  | tooManyRequests : Fails body 429 .tooManyRequests
  | serverError {status : Nat} (h : 500 ≤ status) : Fails body status (.serverError status)
  | unexpected {status : Nat} (known : status ≠ 400 ∧ status ≠ 403 ∧ status ≠ 429)
      (h : status < 500) : Fails body status (.unexpectedStatus status)

/-- What can be read as a refusal gives a reason, and nothing else does. -/
theorem isReason_read :
    IsReason body (match Refusal.format.read body with | .ok r => r | .error _ => {}) := by
  cases hread : Refusal.format.read body with
  | ok r =>
    obtain ⟨node, hnode, hr⟩ := Format.read_eq_ok_iff.mp hread
    exact .given hnode (denote_refusal_iff.mp hr)
  | error fault =>
    refine .none fun node r hnode hr => ?_
    have hok := Format.read_eq_ok_iff.mpr ⟨node, hnode, denote_refusal_iff.mpr hr⟩
    cases hread.symm.trans hok

theorem IsReason.unique {r r' : Refusal} (h : IsReason body r) (h' : IsReason body r') : r = r' := by
  cases h with
  | given hnode hr =>
    cases h' with
    | given hnode' hr' =>
      have hread := Format.read_eq_ok_iff.mpr ⟨_, hnode, denote_refusal_iff.mpr hr⟩
      have hread' := Format.read_eq_ok_iff.mpr ⟨_, hnode', denote_refusal_iff.mpr hr'⟩
      exact Except.ok.inj (hread.symm.trans hread')
    | none hnone => exact (hnone _ _ hnode hr).elim
  | none hnone =>
    cases h' with
    | given hnode' hr' => exact (hnone _ _ hnode' hr').elim
    | none => rfl

theorem fails_ofStatus (status : Nat) (body : Bytes) : Fails body status (ofStatus status body) := by
  unfold ofStatus
  split
  · subst status
    exact .badRequest isReason_read
  split
  · subst status
    exact .forbidden
  split
  · subst status
    exact .tooManyRequests
  split
  · exact .serverError ‹_›
  · exact .unexpected ⟨‹_›, ‹_›, ‹_›⟩ (Nat.lt_of_not_le ‹_›)

theorem Fails.unique {e e' : RemoteError} (h : Fails body status e) (h' : Fails body status e') :
    e = e' := by
  cases h with
  | badRequest hr =>
    cases h' with
    | badRequest hr' => rw [hr.unique hr']
    | serverError h => omega
    | unexpected known => exact absurd rfl known.1
  | forbidden =>
    cases h' with
    | forbidden => rfl
    | serverError h => omega
    | unexpected known => exact absurd rfl known.2.1
  | tooManyRequests =>
    cases h' with
    | tooManyRequests => rfl
    | serverError h => omega
    | unexpected known => exact absurd rfl known.2.2
  | serverError h =>
    cases h' with
    | serverError => rfl
    | unexpected known h => omega
    | badRequest | forbidden | tooManyRequests => omega
  | unexpected known h =>
    cases h' with
    | unexpected => rfl
    | serverError h' => omega
    | badRequest | forbidden | tooManyRequests => omega

/-- Every status and body is the failure that it stands for and no other. -/
theorem ofStatus_eq_iff {e : RemoteError} : ofStatus status body = e ↔ Fails body status e := by
  constructor
  · rintro rfl
    exact fails_ofStatus status body
  · exact (fails_ofStatus status body).unique

theorem ofStatus_ne_unreadable (fault : Fault) : ofStatus status body ≠ .unreadable fault := by
  intro h
  cases ofStatus_eq_iff.mp h

end RemoteError

namespace Client

open Json

variable {α : Type} {status : Nat} {body : Bytes}

/-! ### One request -/

/-- `LeadsTo address url`: the address is that of a web server that can be named in a request. -/
structure LeadsTo (address : String) (url : Url) : Prop where
  parses : Url.parse address = .ok url
  web : url.isWeb = true
  sendable : IsSendable url

theorem reach?_eq_some_iff {address : String} {url : Url} :
    reach? address = some url ↔ LeadsTo address url := by
  have hany : ∀ url : Url, url.hostText.any isUnsendable = false ↔ IsSendable url := by
    simp [IsSendable]
  unfold reach?
  constructor
  · intro h
    split at h
    · cases h
    · rename_i hparse
      split at h
      · rename_i usable
        cases h
        simp only [Bool.and_eq_true, Bool.not_eq_true', hany] at usable
        exact ⟨hparse, usable.1, usable.2⟩
      · cases h
  · intro h
    simp only [h.parses, h.web, (hany url).mpr h.sendable]
    rfl

/-- `Exchanges address request run read`: an operation on `address` is one request, which goes where the
address leads to, and its result is what is read from the reply. Nothing is sent if the address leads
nowhere. -/
structure Exchanges (address : String) (request : Option Request)
    (run : (Request → Reply) → Except RemoteError α) (read : Reply → Except RemoteError α) : Prop where
  usable : request.isSome = true ↔ ∃ url, LeadsTo address url
  addressed : ∀ r, request = some r → ∃ url, LeadsTo address url ∧
    r.host = String.ofList url.hostText ∧ r.target = String.ofList url.target
  result : ∀ r, request = some r → ∀ network, run network = read (network r)
  unsent : request = none → ∀ network, run network = .error .transport
  /-- On a wire, the request is the next one, and the reply is used up. -/
  onWire : ∀ r, request = some r → ∀ (w : Simulation.Wire) reply replies,
    w.replies = reply :: replies → w.exchange request read =
      (⟨0, read reply⟩, { w with replies, requests := w.requests ++ [r] })
  unsentOnWire : request = none → ∀ w : Simulation.Wire,
    w.exchange request read = (⟨0, .error .transport⟩, w)

theorem exchanges_of_reach {address : String} {make : Url → Request}
    {read : Reply → Except RemoteError α}
    (addressed : ∀ url, (make url).host = String.ofList url.hostText ∧
      (make url).target = String.ofList url.target) :
    Exchanges address ((reach? address).map make)
      (fun network => call network ((reach? address).map make) read) read where
  usable := by simp only [Option.isSome_map, Option.isSome_iff_exists, reach?_eq_some_iff]
  addressed r h := by
    obtain ⟨url, hurl, rfl⟩ := Option.map_eq_some_iff.mp h
    exact ⟨url, reach?_eq_some_iff.mp hurl, addressed url⟩
  result r h network := by rw [h, call]
  unsent h network := by rw [h, call]
  onWire r h w reply replies hreplies := by
    rw [h, Simulation.Wire.exchange, hreplies]
    rfl
  unsentOnWire h w := by rw [h, Simulation.Wire.exchange]

/-! ### One reply -/

/-- `Lists body accounts`: the body is a list of these accounts in their order. -/
def Lists (body : Bytes) (accounts : List Account) : Prop :=
  ∃ nodes, SpellsWhole (.list nodes) body ∧
    List.Forall₂ (fun node a => Account.format.denote node = some a) nodes accounts

theorem readAll_eq_ok_iff {accounts : List Account} :
    Account.readAll body = .ok accounts ↔ Lists body accounts := by
  rw [Account.readAll, Format.read_eq_ok_iff]
  constructor
  · rintro ⟨node, hnode, h⟩
    obtain ⟨nodes, rfl, hvalues⟩ := Format.denote_list_iff.mp h
    exact ⟨nodes, hnode, hvalues⟩
  · rintro ⟨nodes, hnodes, h⟩
    exact ⟨.list nodes, hnodes, Format.denote_list_iff.mpr ⟨nodes, rfl, h⟩⟩

/-- What each operation makes of a reply that is received whole. -/
structure Classified (status : Nat) (body : Bytes) : Prop where
  accounts : ∀ accounts,
    accountsOf (.received status body) = .ok accounts ↔ status = 200 ∧ Lists body accounts
  profile : ∀ profile, profileOf (.received status body) = .ok (some profile) ↔
    status = 200 ∧ Profile.format.Means body profile
  noProfile : profileOf (.received status body) = .ok none ↔ status = 204
  unreadableAccounts : (∃ fault, accountsOf (.received status body) = .error (.unreadable fault)) ↔
    status = 200 ∧ ∀ accounts, ¬Lists body accounts
  unreadableProfile : (∃ fault, profileOf (.received status body) = .error (.unreadable fault)) ↔
    status = 200 ∧ ∀ profile, ¬Profile.format.Means body profile
  accountsFailure : status ≠ 200 → ∀ e,
    accountsOf (.received status body) = .error e ↔ RemoteError.Fails body status e
  profileFailure : status ≠ 200 → status ≠ 204 → ∀ e,
    profileOf (.received status body) = .error e ↔ RemoteError.Fails body status e

theorem accountsOf_success (body : Bytes) : accountsOf (.received 200 body) =
    match Account.readAll body with
    | .ok accounts => .ok accounts
    | .error fault => .error (.unreadable fault) := rfl

theorem accountsOf_failure (h : status ≠ 200) :
    accountsOf (.received status body) = .error (RemoteError.ofStatus status body) := if_neg h

theorem profileOf_success (body : Bytes) : profileOf (.received 200 body) =
    match Profile.format.read body with
    | .ok profile => .ok (some profile)
    | .error fault => .error (.unreadable fault) := rfl

theorem profileOf_failure (h : status ≠ 200) (h' : status ≠ 204) :
    profileOf (.received status body) = .error (RemoteError.ofStatus status body) :=
  (if_neg h').trans (if_neg h)

theorem classified (status : Nat) (body : Bytes) : Classified status body where
  accounts as := by
    by_cases h : status = 200
    · subst h
      rw [accountsOf_success, ← readAll_eq_ok_iff]
      cases Account.readAll body <;> simp
    · rw [accountsOf_failure h]
      simp [h]
  profile p := by
    by_cases h : status = 200
    · subst h
      rw [profileOf_success, ← Format.read_eq_ok_iff]
      cases Profile.format.read body <;> simp
    · by_cases h' : status = 204
      · simp [profileOf, h']
      · rw [profileOf_failure h h']
        simp [h]
  noProfile := by
    by_cases h : status = 200
    · subst h
      rw [profileOf_success]
      cases Profile.format.read body <;> simp
    · by_cases h' : status = 204
      · simp [profileOf, h']
      · rw [profileOf_failure h h']
        simp [h']
  unreadableAccounts := by
    by_cases h : status = 200
    · subst h
      rw [accountsOf_success]
      simp only [← readAll_eq_ok_iff]
      cases Account.readAll body <;> simp
    · rw [accountsOf_failure h]
      simp [h, RemoteError.ofStatus_ne_unreadable]
  unreadableProfile := by
    by_cases h : status = 200
    · subst h
      rw [profileOf_success]
      simp only [← Format.read_eq_ok_iff]
      cases Profile.format.read body <;> simp
    · by_cases h' : status = 204
      · simp [profileOf, h']
      · rw [profileOf_failure h h']
        simp [h, RemoteError.ofStatus_ne_unreadable]
  accountsFailure h e := by
    rw [accountsOf_failure h, ← RemoteError.ofStatus_eq_iff, Except.error.injEq]
  profileFailure h h' e := by
    rw [profileOf_failure h h', ← RemoteError.ofStatus_eq_iff, Except.error.injEq]

/-- The accounts with some names, and the profile of an account, are asked for with one request, and the
status and the body of the reply say what comes of it. -/
theorem replies_are_classified :
    (∀ (client : Client) names, Exchanges client.accountsUrl (client.accountsRequest? names)
      (client.accounts · names) accountsOf) ∧
    (∀ (client : Client) id signed, Exchanges (client.profileAddress id signed)
      (client.profileRequest? id signed) (client.profile · id signed) profileOf) ∧
    ∀ status body, Classified status body :=
  ⟨fun _ _ => exchanges_of_reach fun _ => ⟨rfl, rfl⟩,
    fun _ _ _ => exchanges_of_reach fun _ => ⟨rfl, rfl⟩, classified⟩

end Client

end SkinRelay
