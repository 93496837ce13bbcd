import SkinRelay.Proofs.Batch.Pending
import SkinRelay.Proofs.Batch.Transparency

/-!
What becomes of a batch once it is taken out of the queue. One request asks about its names, in
their order, and the reply to it gives every job one answer, which the rest of the batch, the order
of the reply and callers that are gone have no part in. The main result is `batches_are_delivered`.
-/

namespace SkinRelay.Batch

/-! ### What a reply holds for a name -/

/-- `FirstNamed accounts username found`: the first account of this name, in whatever casing, is
`found`. -/
inductive FirstNamed (accounts : List Account) (username : String) : Option Account → Prop
  | absent (others : ∀ a ∈ accounts, Username.key a.name ≠ Username.key username) :
      FirstNamed accounts username none
  | present {before after : List Account} {a : Account} (split : accounts = before ++ a :: after)
      (own : Username.key a.name = Username.key username)
      (first : ∀ a ∈ before, Username.key a.name ≠ Username.key username) :
      FirstNamed accounts username (some a)

/-- Two results of a request that differ at most in how the accounts of different names are
mixed. -/
inductive Alike : Except RemoteError (List Account) → Except RemoteError (List Account) → Prop
  | error (error : RemoteError) : Alike (.error error) (.error error)
  | ok {xs ys : List Account}
      (mixed : ∀ key, xs.filter (Username.key ·.name = key) = ys.filter (Username.key ·.name = key)) :
      Alike (.ok xs) (.ok ys)

section

variable {accounts xs ys : List Account} {username : String}

theorem firstNamed_answerFor (accounts : List Account) (username : String) :
    FirstNamed accounts username (answerFor accounts username) := by
  cases hfound : answerFor accounts username with
  | none =>
    refine .absent fun a ha => ?_
    simpa using List.find?_eq_none.mp hfound a ha
  | some a =>
    obtain ⟨own, before, after, split, first⟩ := List.find?_eq_some_iff_append.mp hfound
    exact .present split (by simpa using own) fun x hx => by simpa using first x hx

theorem answerFor_congr {other : String} (accounts : List Account)
    (same : Username.key username = Username.key other) :
    answerFor accounts username = answerFor accounts other := by
  rw [answerFor, answerFor, same]

/-- The accounts of other names do not matter. -/
theorem answerFor_filter (accounts : List Account) (username : String) :
    answerFor accounts username =
      (accounts.filter (Username.key ·.name = Username.key username)).head? := by
  rw [answerFor, List.head?_filter]

theorem Job.reply_alike {result result' : Except RemoteError (List Account)} {job job' : Job}
    (alike : Alike result result') (same : Username.key job.username = Username.key job'.username) :
    job.reply result = job'.reply result' := by
  cases alike with
  | error error => rfl
  | ok mixed =>
    rw [Job.reply, Job.reply, answerFor_congr _ same, answerFor_filter, answerFor_filter, mixed]

end

/-! ### The request for a batch and the reply to it -/

/-- What the requests for a batch ask about. -/
def asked (n : Nat) (log : List Entry) : List (List String) :=
  (log.filter fun e => e.2.2.sends? = some n).map fun e =>
    (carriedBy Action.sends? e).map Job.username

/-- The reply that an action gives to the request for a batch. -/
def Action.replyTo? (n : Nat) : Action → Option (Except RemoteError (List Account))
  | .deliver m result => if m = n then some result else none
  | _ => none

/-- The replies to the requests for a batch. -/
def replies (n : Nat) (log : List Entry) : List (Except RemoteError (List Account)) :=
  log.filterMap fun e => e.2.2.replyTo? n

section

variable {n : Nat} {log : List Entry}

theorem mem_replies {result : Except RemoteError (List Account)} :
    result ∈ replies n log ↔ ∃ e ∈ log, e.2.2 = .deliver n result := by
  unfold replies
  rw [List.mem_filterMap]
  refine exists_congr fun e => and_congr_right fun _ => ?_
  cases e.2.2 <;> simp [Action.replyTo?]

theorem asked_concat (e : Entry) : asked n (log ++ [e]) = asked n log ++
    if e.2.2.sends? = some n then [(carriedBy Action.sends? e).map Job.username] else [] := by
  unfold asked
  rw [List.filter_append, List.map_append]
  by_cases h : e.2.2.sends? = some n <;> simp [h]

theorem replies_concat (e : Entry) :
    replies n (log ++ [e]) = replies n log ++ (e.2.2.replyTo? n).toList := by
  unfold replies
  rw [List.filterMap_append]
  cases h : e.2.2.replyTo? n <;> simp [h]

/-- How far a batch is: nothing is asked before its request is sent, and there is no reply before it
is answered. -/
def Handled (n : Nat) (log : List Entry) : Option Round → Prop
  | none => asked n log = [] ∧ replies n log = []
  | some round =>
    asked n log = (if round.phase = .ready then [] else [round.jobs.map Job.username]) ∧
      (replies n log).length = if round.phase = .answered then 1 else 0

/-- One step takes one batch at most one stage further. -/
theorem Redraws.handled {now : Nat} {b : Batch} {a : Action} {rounds : Table Nat Round}
    (h : Redraws now b a rounds) (numbered : Numbered b.rounds)
    (handled : Handled n log (b.rounds.get? n)) :
    Handled n (log ++ [(b, (now, a))]) (rounds.get? n) := by
  -- A step that is about no request for the batch leaves it as it is.
  have frame : a.sends? ≠ some n → a.replyTo? n = none → ∀ round?,
      Handled n (log ++ [(b, (now, a))]) round? ↔ Handled n log round? := by
    intro hsends hreply round?
    cases round? <;> simp [Handled, asked_concat, replies_concat, hsends, hreply]
  cases h with
  | same sends answers =>
    have hreply : a.replyTo? n = none := by
      cases a with
      | deliver => simp [Action.answers?] at answers
      | _ => rfl
    exact (frame (by simp [sends]) hreply _).mpr handled
  | @draw wake jobs left firing =>
    rw [frame (by simp [Action.sends?]) rfl]
    by_cases hn : n = b.rounds.size
    · subst hn
      rw [numbered.next] at handled
      simpa [Handled] using handled
    · simpa [hn] using handled
  | @send m round at_ ready =>
    by_cases hn : n = m
    · subst hn
      rw [at_] at handled
      have hcarried : carriedBy Action.sends? (b, (now, .send n)) = round.jobs := by
        simp [carriedBy, Action.sends?, at_]
      simpa [Handled, asked_concat, replies_concat, hcarried, ready, Action.sends?,
        Action.replyTo?] using handled
    · rw [frame (by simp [Action.sends?, Ne.symm hn]) rfl]
      simpa [hn] using handled
  | @answer m time round result at_ sent =>
    by_cases hn : n = m
    · subst hn
      rw [at_] at handled
      simpa [Handled, asked_concat, replies_concat, sent, Action.sends?, Action.replyTo?]
        using handled
    · rw [frame (by simp [Action.sends?]) (by simp [Action.replyTo?, Ne.symm hn])]
      simpa [hn] using handled

end

section

variable {settings : BatchSettings} {log : List Entry} {b : Batch} {n : Nat} {round : Round}

theorem handled_of_history (h : History Step (ofSettings settings) log b) (n : Nat) :
    Handled n log (b.rounds.get? n) := by
  induction h with
  | start => exact ⟨rfl, rfl⟩
  | next h hs ih => exact (moves_of_step? hs).rounds.handled (orderly_of_history h).numbered ih

/-- The batch that a reply answers is the batch that is there in the end. -/
theorem round_of_delivered (h : History Step (ofSettings settings) log b)
    (at_ : b.rounds.get? n = some round) {e : Entry} (he : e ∈ log)
    {result : Except RemoteError (List Account)} (delivers : e.2.2 = .deliver n result) :
    ∃ old, e.1.rounds.get? n = some old ∧ old.jobs = round.jobs ∧ round.phase = .answered := by
  obtain ⟨before, after, c, -, hbefore, hs, hafter⟩ := h.cut he
  have ht := orderly_of_history hbefore
  have hmove := moves_of_step? hs
  have hc := ht.move hmove
  rw [delivers] at hmove
  cases hmove with
  | @deliver _ time old _ hat sent =>
    have hround : (e.1.deliver e.2.1 n old time result).rounds.get? n =
        some { old with phase := .answered } := by simp [Batch.deliver]
    obtain ⟨next, hn, hjobs, hanswered⟩ := hc.round_of_history hafter hround
    obtain rfl : round = next := Option.some.inj (at_.symm.trans hn)
    exact ⟨old, hat, hjobs.symm, hanswered rfl⟩

/-- Every job of an answered batch has its part of the reply. -/
theorem fate_of_replied (h : History Step (ofSettings settings) log b)
    (at_ : b.rounds.get? n = some round) {result : Except RemoteError (List Account)}
    (replied : replies n log = [result]) {job : Job} (hj : job ∈ round.jobs) :
    b.fates.get? job.id = some (.answered (job.reply result)) := by
  obtain ⟨e, he, delivers⟩ := mem_replies.mp (replied ▸ List.mem_singleton_self result)
  obtain ⟨old, hat, hjobs, -⟩ := round_of_delivered h at_ he delivers
  exact fate_of_delivered h he delivers hat (hjobs ▸ hj)

/-- The fate of a job is open until its batch is answered. -/
theorem fate_of_unanswered (h : History Step (ofSettings settings) log b)
    (at_ : b.rounds.get? n = some round) (unanswered : round.phase ≠ .answered) {job : Job}
    (hj : job ∈ round.jobs) : b.fates.get? job.id = none :=
  (orderly_of_history h).fate_of_pending ((round_sublist_pending at_ unanswered).subset hj)

theorem unanswered_of_replies (h : History Step (ofSettings settings) log b)
    (at_ : b.rounds.get? n = some round) (none : replies n log = []) :
    round.phase ≠ .answered := by
  intro answered
  have handled := handled_of_history h n
  rw [at_] at handled
  have hlength := handled.2
  rw [none, if_pos answered] at hlength
  cases hlength

/-- A job is answered as often as its batch. -/
theorem occurrences_delivered (h : History Step (ofSettings settings) log b)
    (at_ : b.rounds.get? n = some round) {job : Job} (hj : job ∈ round.jobs) :
    occurrences job.id (delivered log) = (replies n log).length := by
  have handled := handled_of_history h n
  rw [at_] at handled
  rw [handled.2]
  by_cases answered : round.phase = .answered
  · rw [if_pos answered]
    have hle := delivered_le h job.id
    have honce := (orderly_of_history h).once job.id
    rw [length_places] at honce
    have hpos : 0 < occurrences job.id (delivered log) := by
      rw [delivered_of_history h]
      refine occurrences_pos.mpr ⟨job, mem_drawnIn.mpr ?_, rfl⟩
      exact ⟨_, Table.mem_of_get? at_, by rw [answered]; rfl, hj⟩
    omega
  · rw [if_neg answered]
    by_contra hne
    obtain ⟨other, hother, hid⟩ := occurrences_pos.mp (Nat.pos_of_ne_zero hne)
    obtain ⟨e, he, hcarried⟩ := List.mem_flatMap.mp hother
    obtain ⟨m, round', hm, hat', hj'⟩ := mem_carriedBy.mp hcarried
    obtain ⟨result, delivers⟩ : ∃ result, e.2.2 = .deliver m result := by
      cases ha : e.2.2 with
      | deliver k result =>
        rw [ha] at hm
        cases hm
        exact ⟨result, rfl⟩
      | _ => simp [ha, Action.answers?] at hm
    have hfate := fate_of_delivered h he delivers hat' hj'
    rw [hid, fate_of_unanswered h at_ answered hj] at hfate
    cases hfate

/-- A reply comes to a request that was sent, and that has had none. -/
theorem asked_of_delivered (h : History Step (ofSettings settings) log b)
    (at_ : b.rounds.get? n = some round) {before after : List Entry} {e : Entry}
    {result : Except RemoteError (List Account)} (split : log = before ++ e :: after)
    (delivers : e.2.2 = .deliver n result) :
    asked n before = [round.jobs.map Job.username] ∧ replies n before = [] := by
  obtain ⟨old, hat, hjobs, -⟩ := round_of_delivered h at_ (by simp [split]) delivers
  rw [split] at h
  obtain ⟨c, hbefore, hs, -⟩ := h.split
  have hmove := moves_of_step? hs
  rw [delivers] at hmove
  have handled := handled_of_history hbefore n
  rw [hat] at handled
  cases hmove with
  | @deliver _ time _ _ hat' sent =>
    obtain rfl := Option.some.inj (hat.symm.trans hat')
    simpa [Handled, sent, hjobs] using handled

/-! ### The delivery of a batch -/

/-- How a batch that was taken out of the queue is dealt with. -/
structure Delivery (log : List Entry) (b : Batch) (n : Nat) (round : Round) : Prop where
  /-- One request is sent, about the names of the batch in their order. -/
  request : asked n log = if round.phase = .ready then [] else [round.jobs.map Job.username]
  /-- One reply comes to it. -/
  reply : (replies n log).length = if round.phase = .answered then 1 else 0
  order : ∀ before e after result, log = before ++ e :: after → e.2.2 = .deliver n result →
    asked n before = [round.jobs.map Job.username] ∧ replies n before = []
  /-- Nothing holds up the request, and whatever the reply is, nothing holds up its delivery. -/
  proceeds : ∀ now, (round.phase = .ready → ∃ c, Step b (now, .send n) c) ∧
    ∀ time, round.phase = .sent time → ∀ result, ∃ c, Step b (now, .deliver n result) c
  /-- With the one reply, every job is answered once. -/
  once : ∀ job ∈ round.jobs, occurrences job.id (delivered log) = (replies n log).length
  unanswered : replies n log = [] → ∀ job ∈ round.jobs, b.fates.get? job.id = none
  /-- A failure is the answer to every job. -/
  failed : ∀ error, replies n log = [.error error] → ∀ job ∈ round.jobs,
    b.fates.get? job.id = some (.answered (.error error))
  /-- A success answers a job with the first account of its name. -/
  found : ∀ accounts, replies n log = [.ok accounts] → ∀ job ∈ round.jobs,
    ∃ found, FirstNamed accounts job.username found ∧
      b.fates.get? job.id = some (.answered (.ok found))
  /-- What a call that still waits returns is the answer to its job. -/
  received : ∀ job ∈ round.jobs, ∀ reply, b.fates.get? job.id = some (.answered reply) →
    ∃ call, b.calls.get? job.id = some call ∧ call.username = job.username ∧
      (call.phase = .waiting → call.token ≠ some true → ∀ now, Step b (now, .collect job.id)
        (b.setCall job.id call (.returned (reply.mapError .remote))))
  /-- Jobs of one name have the same answer, in whatever batches and queues they are and however the
  accounts of different names are mixed in the replies. -/
  alike : ∀ settings' log' b' n' round', History Step (ofSettings settings') log' b' →
    b'.rounds.get? n' = some round' → ∀ result result', replies n log = [result] →
    replies n' log' = [result'] → Alike result result' → ∀ job ∈ round.jobs, ∀ job' ∈ round'.jobs,
    Username.key job.username = Username.key job'.username →
    b.fates.get? job.id = b'.fates.get? job'.id
  /-- A delivery does not touch the callers, and it is the same whoever of them is gone. -/
  blind : ∀ now result c, Step b (now, .deliver n result) c →
    c.calls = b.calls ∧ ∀ calls, Step { b with calls } (now, .deliver n result) { c with calls }

/-- Every batch that is taken out of the queue is delivered. -/
theorem batches_are_delivered (h : History Step (ofSettings settings) log b)
    (at_ : b.rounds.get? n = some round) : Delivery log b n round := by
  have handled := handled_of_history h n
  rw [at_] at handled
  constructor
  case request => exact handled.1
  case reply => exact handled.2
  case order =>
    intro before e after result split delivers
    exact asked_of_delivered h at_ split delivers
  case proceeds =>
    intro now
    refine ⟨fun ready => ?_, fun time sent result => ?_⟩
    · simp [Step, step?, at_, ready]
    · simp [Step, step?, at_, sent]
  case once => exact fun job hj => occurrences_delivered h at_ hj
  case unanswered =>
    intro none job hj
    exact fate_of_unanswered h at_ (unanswered_of_replies h at_ none) hj
  case failed =>
    intro error replied job hj
    exact fate_of_replied h at_ replied hj
  case found =>
    intro accounts replied job hj
    exact ⟨_, firstNamed_answerFor accounts job.username, fate_of_replied h at_ replied hj⟩
  case received =>
    intro job hj reply hf
    obtain ⟨call, hc, hname⟩ := (orderly_of_history h).named job
      (.inr (.inr (List.mem_flatMap.mpr ⟨_, Table.mem_of_get? at_, hj⟩)))
    refine ⟨call, hc, hname, fun waiting unfired now => ?_⟩
    have hresult : b.result? job.id call = some (reply.mapError .remote) := by
      rw [result?_of_unfired unfired, hf]
      rfl
    simp [Step, step?, hc, waiting, hresult]
  case alike =>
    intro settings' log' b' n' round' h' at' result result' replied replied' alike job hj job' hj' same
    rw [fate_of_replied h at_ replied hj, fate_of_replied h' at' replied' hj',
      Job.reply_alike alike same]
  case blind =>
    intro now result c hs
    cases moves_of_step? hs with
    | @deliver _ time round' _ hat sent =>
      refine ⟨rfl, fun calls => ?_⟩
      simp [Step, step?, hat, sent, Batch.deliver, setFates]

/-- Two of three names are one in other casings, and one of their callers is dropped while the request
is under way. The reply holds a name that nobody asked for, and two accounts of one name. -/
theorem batches_are_delivered_to_every_casing :
    ∃ log, ∃ b : Batch, ∃ round, History Step (ofSettings { batchSize := 3 }) log b ∧
      b.rounds.get? 0 = some round ∧ Delivery log b 0 round ∧
      asked 0 log = [["Notch", "jeb_", "NOTCH"]] ∧
      replies 0 log = [.ok [{ id := "61699b2e", name := "Dinnerbone" },
        { id := "069a79f4", name := "notch" }, { id := "853c80ef", name := "Notch" }]] ∧
      b.fates.get? 0 = some (.answered (.ok (some { id := "069a79f4", name := "notch" }))) ∧
      b.fates.get? 1 = some (.answered (.ok none)) ∧ b.fates.get? 2 = b.fates.get? 0 ∧
      (b.calls.get? 0).map Call.phase = some .gone ∧
      (b.calls.get? 2).map Call.phase =
        some (.returned (.ok (some { id := "069a79f4", name := "notch" }))) := by
  have h : History Step (ofSettings { batchSize := 3 }) _ _ := History.of_replay
    [(0, .enter 0 "Notch" none), (0, .push 0), (0, .enter 1 "jeb_" none), (0, .push 1),
      (0, .enter 2 "NOTCH" none), (0, .push 2), (0, .park), (Time.millis 2500, .wake .delay),
      (Time.millis 2500, .drain), (Time.millis 2500, .fire), (Time.millis 2500, .send 0),
      (Time.millis 2600, .drop 0),
      (Time.millis 2700, .deliver 0 (.ok [{ id := "61699b2e", name := "Dinnerbone" },
        { id := "069a79f4", name := "notch" }, { id := "853c80ef", name := "Notch" }])),
      (Time.millis 2700, .collect 2)] rfl
  exact ⟨_, _, _, h, rfl, batches_are_delivered h rfl, rfl, rfl, rfl, rfl, rfl, rfl, rfl⟩

end

end SkinRelay.Batch
