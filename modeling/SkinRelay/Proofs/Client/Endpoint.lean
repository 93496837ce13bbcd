import Mathlib.Data.Bool.AllAny
import SkinRelay.Proofs.Settings
import SkinRelay.Proofs.Url.Parts

/-!
Where profiles are asked for. The id of an account is put behind the address of the session server as
text, and so it becomes the last segment of the address's path only if the text ends where its path
does (`endpoint_is_requested`). A blank behind it, which is not read, is enough to miss the server's
path (`endpoint_is_missed`).
-/

namespace SkinRelay

namespace Url

/-- Whether a segment that is put behind the text of a URL comes to stand behind its path. -/
structure IsExtensible (text : String) : Prop where
  /-- A slash that is put behind the text stands right behind what is read of it. -/
  tight : clean (Settings.withSlash text) = slashed (clean text)
  /-- There is neither a query nor a fragment. -/
  marks : ∀ c ∈ clean text, c ≠ '?' ∧ c ≠ '#'
  /-- A backslash at the end would get another slash. -/
  backslash : (clean text).getLast? ≠ some '\\'

/-! ### What follows the authority -/

variable {t x : List Char}

theorem hostPath_separator {c : Char} (hc : IsSeparator true c) (s : List Char) :
    hostPath true (c :: s) = walkPath true ['/'] s := if_pos hc

/-- What begins behind an authority without a mark begins a path. -/
theorem isSeparator_of_ends {c : Char} (ht : EndsAuthority (c :: t))
    (marks : c ≠ '?' ∧ c ≠ '#') : IsSeparator true c := by
  have hc := ht c rfl
  simp only [endsAuthority, Bool.true_and, Bool.or_eq_true, beq_iff_eq] at hc
  rcases hc with ((rfl | rfl) | rfl) | rfl
  · exact .inl rfl
  · exact absurd rfl marks.1
  · exact absurd rfl marks.2
  · exact .inr ⟨rfl, rfl⟩

/-- A segment behind a path, and the path with a slash at its end, come to the same. -/
theorem hostPath_slashed (ht : EndsAuthority t) (marks : ∀ c ∈ t, c ≠ '?' ∧ c ≠ '#')
    (backslash : t.getLast? ≠ some '\\') (hx : ∀ c ∈ x, c ∈ hexDigits) :
    hostPath true (slashed t ++ x) = slashed (hostPath true t) ++ x := by
  have root : ['/'].getLast? = some '/' := rfl
  cases t with
  | nil =>
    have hroot : hostPath true [] = ['/'] := rfl
    rw [slashed_of_ne (by simp), hroot, slashed_of_getLast? root, List.nil_append,
      List.singleton_append, hostPath_separator (.inl rfl), walkPath_segment _ hx]
    rfl
  | cons c p =>
    have hc := isSeparator_of_ends ht (marks c List.mem_cons_self)
    rw [hostPath_separator hc]
    by_cases hlast : (c :: p).getLast? = some '/'
    · have hp : AtSegment p := AtSegment.after (.inr hlast) (List.nil_append _).symm
      rw [slashed_of_getLast? hlast, slashed_of_getLast? (getLast?_walkPath root hp),
        List.cons_append, hostPath_separator hc, walkPath_append hp, walkPath_segment _ hx]
    · have hp : ∃ d, p.getLast? = some d ∧ ¬IsSeparator true d := by
        cases p with
        | nil =>
          rcases hc with rfl | ⟨-, rfl⟩
          · exact absurd rfl hlast
          · exact absurd rfl backslash
        | cons e p =>
          rw [List.getLast?_cons_cons] at hlast backslash
          refine ⟨_, List.getLast?_cons, ?_⟩
          rw [List.getLast?_cons, Ne, Option.some.injEq] at backslash
          rw [List.getLast?_cons, Option.some.injEq] at hlast
          rintro (h | ⟨-, h⟩)
          · exact hlast h
          · exact backslash h
      rw [slashed_of_ne hlast, List.append_assoc, List.cons_append, hostPath_separator hc,
        List.singleton_append, walkPath_slash, walkPath_slashed root hp, walkPath_segment _ hx]

theorem pathAndQuery_path (marks : ∀ c ∈ t, c ≠ '?' ∧ c ≠ '#') :
    pathAndQuery true t = (hostPath true t, none) := by
  have hhash : t.takeWhile (· != '#') = t :=
    List.takeWhile_eq_self_iff.mpr fun c hc => by simpa using (marks c hc).2
  have hquestion : ∀ c ∈ t, (c != '?') = true := fun c hc => by simpa using (marks c hc).1
  unfold pathAndQuery
  simp only [hhash, List.takeWhile_eq_self_iff.mpr hquestion,
    List.dropWhile_eq_nil_iff.mpr hquestion]

theorem pathAndQuery_query (marks : ∀ c ∈ t, c ≠ '?' ∧ c ≠ '#') {query : List Char}
    (hquery : '#' ∉ query) : pathAndQuery true (t ++ '?' :: query) =
      (hostPath true t, some (encodeText (escapeInQuery true) query)) := by
  have hhash : (t ++ '?' :: query).takeWhile (· != '#') = t ++ '?' :: query := by
    refine List.takeWhile_eq_self_iff.mpr fun c hc => ?_
    rw [bne_iff_ne]
    rcases List.mem_append.mp hc with hc | hc
    · exact (marks c hc).2
    · rcases List.mem_cons.mp hc with rfl | hc
      · decide
      · rintro rfl
        exact hquery hc
  have hquestion : ∀ c ∈ t, (c != '?') = true := fun c hc => by simpa using (marks c hc).1
  unfold pathAndQuery
  simp only [hhash]
  rw [List.takeWhile_append_of_pos hquestion, List.dropWhile_append_of_pos hquestion]
  simp

end Url

namespace Client

/-- Whether a text is an id: hexadecimal digits, perhaps with dashes. -/
def IsId (id : String) : Prop := ∀ c ∈ id.toList, c = '-' ∨ c ∈ Url.hexDigits

/-- An id without its dashes. -/
def undashed (id : String) : List Char := id.toList.filter (· != '-')

/-- The query of a request for a signed profile, or for an unsigned one. -/
def profileQuery (signed : Bool) : Option (List Char) :=
  if signed then some "unsigned=false".toList else none

/-- The URL of the profile of an account on a server: the id is the last segment of the path. -/
def profileUrl (base : Url) (id : String) (signed : Bool) : Url :=
  { base with path := Url.slashed base.path ++ undashed id, query := profileQuery signed }

theorem mem_hexDigits_of_undashed {id : String} (h : IsId id) : ∀ c ∈ undashed id, c ∈ Url.hexDigits := by
  intro c hc
  obtain ⟨hmem, hdash⟩ := List.mem_filter.mp hc
  exact (h c hmem).resolve_left (by simpa using hdash)

/-- What is put behind the address. -/
def addition (id : String) (signed : Bool) : List Char :=
  undashed id ++ if signed then '?' :: "unsigned=false".toList else []

theorem profileAddress_eq (client : Client) (id : String) (signed : Bool) :
    client.profileAddress id signed = client.profilesUrl ++ String.ofList (addition id signed) := by
  refine String.toList_inj.mp ?_
  cases signed <;> simp [profileAddress, addition, undashed]

theorem shown_of_mem_addition {id : String} (h : IsId id) {signed : Bool} :
    ∀ c ∈ addition id signed, Url.isTrimmed c = false ∧ Url.isDropped c = false := by
  have all : ('?' :: "unsigned=false".toList).all fun c =>
      Url.isTrimmed c = false ∧ Url.isDropped c = false := by
    decide
  intro c hc
  rcases List.mem_append.mp hc with hc | hc
  · exact (Url.isInert_of_mem (mem_hexDigits_of_undashed h c hc)).shown
  · cases signed with
    | false => cases hc
    | true => exact of_decide_eq_true (List.all_eq_true.mp all c hc)

/-- What is put behind a path without marks is a segment of it, and the query. -/
theorem pathAndQuery_addition {t : List Char} (ht : Url.EndsAuthority t)
    (marks : ∀ c ∈ t, c ≠ '?' ∧ c ≠ '#') (backslash : t.getLast? ≠ some '\\') {id : String}
    (h : IsId id) (signed : Bool) :
    Url.pathAndQuery true (Url.slashed t ++ addition id signed) =
      (Url.slashed (Url.hostPath true t) ++ undashed id, profileQuery signed) := by
  have hdigits := mem_hexDigits_of_undashed h
  have hmarks : ∀ c ∈ Url.slashed t ++ undashed id, c ≠ '?' ∧ c ≠ '#' := by
    intro c hc
    rcases List.mem_append.mp hc with hc | hc
    · unfold Url.slashed at hc
      split at hc
      · exact marks c hc
      · rcases List.mem_append.mp hc with hc | hc
        · exact marks c hc
        · rw [List.mem_singleton.mp hc]
          decide
    · exact (Url.isInert_of_mem (hdigits c hc)).mark
  have hpath := Url.hostPath_slashed ht marks backslash hdigits
  cases signed with
  | false =>
    have hend : addition id false = undashed id := List.append_nil _
    rw [hend, Url.pathAndQuery_path hmarks, hpath]
    rfl
  | true =>
    have hend : Url.slashed t ++ addition id true =
        Url.slashed t ++ undashed id ++ '?' :: "unsigned=false".toList :=
      (List.append_assoc _ _ _).symm
    rw [hend, Url.pathAndQuery_query hmarks (by decide), hpath]
    rfl

theorem parse_profileAddress {client : Client} {text : String} {base : Url}
    (hbase : Url.parse text = .ok base) (web : base.isWeb = true)
    (extensible : Url.IsExtensible text)
    (haddress : client.profilesUrl = Settings.withSlash text) {id : String} (hid : IsId id)
    (signed : Bool) :
    Url.parse (client.profileAddress id signed) = .ok (profileUrl base id signed) := by
  obtain ⟨front, a, t, parts⟩ := Url.exists_parts hbase web
  obtain ⟨tight, marks, backslash⟩ := extensible
  rw [parts.clean] at marks backslash
  have hmarks : ∀ c ∈ t, c ≠ '?' ∧ c ≠ '#' :=
    fun c hc => marks c (List.mem_append_right _ hc)
  have hbackslash : t.getLast? ≠ some '\\' := by
    intro hlast
    rw [List.getLast?_append, hlast] at backslash
    exact backslash rfl
  have hslashed : Url.slashed (front ++ a ++ t) = front ++ a ++ Url.slashed t := by
    refine Url.slashed_append (.inr fun hlast => ?_)
    rw [List.getLast?_append_of_ne_nil _ parts.nonempty] at hlast
    have hslash := parts.inAuthority '/' (List.mem_of_getLast? hlast)
    cases hslash
  have hclean : Url.clean (client.profileAddress id signed) =
      front ++ a ++ (Url.slashed t ++ addition id signed) := by
    rw [profileAddress_eq, haddress,
      Url.clean_append (Settings.getLast?_withSlash text) (shown_of_mem_addition hid), tight,
      parts.clean, hslashed, List.append_assoc]
  rw [parts.parse hclean (parts.ends.slashed _),
    pathAndQuery_addition parts.ends hmarks hbackslash hid, profileUrl, parts.path,
    Url.pathAndQuery_path hmarks]

/-- Whether the server of a URL can be named in a request. -/
def IsSendable (url : Url) : Prop := ∀ c ∈ url.hostText, isUnsendable c = false

/-- `Requests client base id signed`: the profile of an account is asked for on the server of `base`,
below its path. There is no request if the server cannot be named in one. -/
structure Requests (client : Client) (base : Url) (id : String) (signed : Bool) : Prop where
  url : Url.parse (client.profileAddress id signed) = .ok (profileUrl base id signed)
  sent : IsSendable base → client.profileRequest? id signed = some
    { method := .get
      host := String.ofList base.hostText
      target := String.ofList (profileUrl base id signed).target
      contentType := none
      body := "" }
  unsent : ¬IsSendable base → client.profileRequest? id signed = none

theorem requests_of_parse {client : Client} {base : Url} {id : String} {signed : Bool}
    (web : base.isWeb = true)
    (h : Url.parse (client.profileAddress id signed) = .ok (profileUrl base id signed)) :
    Requests client base id signed := by
  have hweb : (profileUrl base id signed).isWeb = true := web
  have hany : base.hostText.any isUnsendable = false ↔ IsSendable base := by
    simp [IsSendable]
  have hreach : reach? (client.profileAddress id signed) =
      if base.hostText.any isUnsendable = false then some (profileUrl base id signed) else none := by
    have hhost : (profileUrl base id signed).hostText = base.hostText := rfl
    simp only [reach?, h, hweb, hhost, Bool.true_and, Bool.not_eq_true']
  refine ⟨h, fun sendable => ?_, fun unsendable => ?_⟩
  · rw [profileRequest?, hreach, if_pos (hany.mpr sendable)]
    rfl
  · rw [profileRequest?, hreach, if_neg (mt hany.mp unsendable)]
    rfl

/-- Dashes in an id make no difference. -/
theorem profileRequest?_congr {id id' : String} (h : undashed id = undashed id') (client : Client)
    (signed : Bool) : client.profileRequest? id signed = client.profileRequest? id' signed := by
  have haddress : client.profileAddress id signed = client.profileAddress id' signed := by
    rw [profileAddress_eq, profileAddress_eq, addition, addition, h]
  rw [profileRequest?, profileRequest?, haddress]

end Client

namespace Settings

open Client

variable {env : Environment} {s : Settings} {text : String}

/-- The address of the session server that is configured can be read, and has a slash at its end. -/
theorem profilesUrl_of_given (accepted : ofEnvironment env = .ok s)
    (given : env .profilesUrl = some text) (nonempty : text ≠ "") :
    IsWebAddress text ∧ s.profilesUrl = withSlash text := by
  have outcome := outcome_ofEnvironment env
  rw [accepted] at outcome
  cases outcome with
  | settings accounts profiles strategy =>
    have hset : (env .profilesUrl).bind nonEmpty = some text :=
      bind_nonEmpty_eq_some.mpr ⟨given, nonempty⟩
    refine ⟨?_, ?_⟩
    · by_contra hweb
      exact not_misaddressed_of_webUrl profiles ⟨text, given, nonempty, hweb⟩
    · have htext := webUrl_eq_of_ok hset profiles
      rw [htext]
      rfl

/-- Profiles are asked for below the path of the address that is configured, if the text of the
address ends where its path does. -/
theorem endpoint_is_requested (accepted : ofEnvironment env = .ok s)
    (given : env .profilesUrl = some text) (nonempty : text ≠ "")
    (extensible : Url.IsExtensible text) :
    ∃ base, Url.parse text = .ok base ∧ base.isWeb = true ∧
      (∀ id signed, IsId id → Requests (ofAddresses s.accountsUrl s.profilesUrl) base id signed) ∧
      ∀ id id' signed, undashed id = undashed id' →
        (ofAddresses s.accountsUrl s.profilesUrl).profileRequest? id signed =
          (ofAddresses s.accountsUrl s.profilesUrl).profileRequest? id' signed := by
  obtain ⟨⟨base, hbase, hscheme⟩, htext⟩ := profilesUrl_of_given accepted given nonempty
  have web := isWeb_iff.mpr hscheme
  have haddress : (ofAddresses s.accountsUrl s.profilesUrl).profilesUrl = withSlash text := by
    rw [(wellFormed_of_eq_ok accepted).client]
    exact htext
  refine ⟨base, hbase, web, fun id signed hid => ?_, fun _ _ signed h => ?_⟩
  · exact requests_of_parse web (parse_profileAddress hbase web extensible haddress hid signed)
  · exact profileRequest?_congr h _ signed

/-- Only the address of the session server is set. -/
def profilesAt (text : String) : Environment := fun name =>
  if name = .profilesUrl then some text else none

theorem ofEnvironment_of_toOption {text : String}
    (h : (ofEnvironment (profilesAt text)).toOption = some s) :
    ofEnvironment (profilesAt text) = .ok s := by
  cases hs : ofEnvironment (profilesAt text) with
  | error fault => rw [hs] at h; cases h
  | ok s' =>
    rw [hs] at h
    exact congrArg _ (Option.some.inj h)

theorem endpoint_is_requested_below_profile :
    ∃ s base, ofEnvironment (profilesAt "http://[::1]:9000/profile") = .ok s ∧
      Url.parse "http://[::1]:9000/profile" = .ok base ∧
      ∀ id signed, IsId id → Requests (ofAddresses s.accountsUrl s.profilesUrl) base id signed := by
  have accepted : ofEnvironment (profilesAt "http://[::1]:9000/profile") =
      .ok { profilesUrl := "http://[::1]:9000/profile/" } :=
    ofEnvironment_of_toOption (by decide +kernel)
  have extensible : Url.IsExtensible "http://[::1]:9000/profile" :=
    { tight := by decide +kernel
      marks := List.all_iff_forall_prop.mp (by decide +kernel)
      backslash := by decide +kernel }
  obtain ⟨base, hbase, -, requests, -⟩ :=
    endpoint_is_requested accepted rfl (by decide) extensible
  exact ⟨_, base, accepted, hbase, requests⟩

/-- A blank behind the address is not part of the URL, but it becomes part of what is requested. -/
theorem endpoint_is_missed :
    ∃ s base, ofEnvironment (profilesAt "http://[::1]:9000/profile ") = .ok s ∧
      Url.parse "http://[::1]:9000/profile " = .ok base ∧
      base.path = "/profile".toList ∧ IsSendable base ∧
      (ofAddresses s.accountsUrl s.profilesUrl).profileRequest? "4566-e69f" false = some
        { method := .get
          host := "[::1]:9000"
          target := "/profile%20/4566e69f"
          contentType := none
          body := "" } ∧
      ¬Requests (ofAddresses s.accountsUrl s.profilesUrl) base "4566-e69f" false := by
  have accepted : ofEnvironment (profilesAt "http://[::1]:9000/profile ") =
      .ok { profilesUrl := "http://[::1]:9000/profile /" } :=
    ofEnvironment_of_toOption (by decide +kernel)
  obtain ⟨⟨base, hbase, -⟩, -⟩ := profilesUrl_of_given accepted rfl (by decide)
  have hpath : (Url.parse "http://[::1]:9000/profile ").toOption.map (·.path) =
      some "/profile".toList := by
    decide +kernel
  have hhost : (Url.parse "http://[::1]:9000/profile ").toOption.map (·.hostText) =
      some "[::1]:9000".toList := by
    decide +kernel
  rw [hbase] at hpath hhost
  have path : base.path = "/profile".toList := Option.some.inj hpath
  have sendable : IsSendable base := by
    rw [IsSendable, show base.hostText = _ from Option.some.inj hhost]
    exact List.all_iff_forall_prop.mp (by decide)
  have request : (ofAddresses accountsAddress "http://[::1]:9000/profile /").profileRequest?
      "4566-e69f" false = some
        { method := .get
          host := "[::1]:9000"
          target := "/profile%20/4566e69f"
          contentType := none
          body := "" } := by
    decide +kernel
  refine ⟨_, base, accepted, hbase, path, sendable, request, fun requests => ?_⟩
  have target := congrArg (Option.map Request.target) (request.symm.trans (requests.sent sendable))
  simp only [Option.map_some, Url.target, profileUrl, path, profileQuery] at target
  revert target
  decide +kernel

end Settings

end SkinRelay
