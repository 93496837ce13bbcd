import Mathlib.Data.List.TakeWhile
import SkinRelay.Proofs.Gateway.Passthrough
import SkinRelay.Proofs.Gateway.RateLimits
import SkinRelay.Proofs.Text.Percent

/-!
The HTTP interface seen from outside. A request for a name looks up this name and no other, however
the name is spelt, and the response says what the lookup has given, of a failure no more than its
kind. The main result is `names_are_served`.
-/

namespace SkinRelay

/-! ### Segments of a path -/

namespace Text

variable {α : Type} [DecidableEq α] {sep : α} {xs : List α}

theorem splitOn_of_notMem (h : sep ∉ xs) : splitOn sep xs = [xs] := by
  induction xs with
  | nil => rfl
  | cons a xs ih =>
    have hne : a ≠ sep := by
      rintro rfl
      exact h List.mem_cons_self
    rw [splitOn, if_neg hne, ih fun hmem => h (List.mem_cons_of_mem _ hmem)]

theorem splitOn_append (h : sep ∉ xs) (ys : List α) :
    splitOn sep (xs ++ sep :: ys) = xs :: splitOn sep ys := by
  induction xs with
  | nil => simp [splitOn]
  | cons a xs ih =>
    have hne : a ≠ sep := by
      rintro rfl
      exact h List.mem_cons_self
    rw [List.cons_append, splitOn, if_neg hne, ih fun hmem => h (List.mem_cons_of_mem _ hmem)]

end Text

namespace Router

/-- What stands before the name in the path of a form. -/
def root : Form → String
  | .summary => "/textures/"
  | .signed => "/textures/signed/"

/-- The path of a name, spelt by a segment, in a form. -/
def path (form : Form) (segment : List Char) : String := root form ++ String.ofList segment

section

variable {segment : List Char}

/-- A path is not cut short by what a name is spelt with. -/
theorem takeWhile_path (form : Form) (inSegment : ∀ c ∈ segment, c ≠ '/' ∧ c ≠ '?' ∧ c ≠ '#') :
    (path form segment).toList.takeWhile (!endsPath ·) = (root form).toList ++ segment := by
  rw [path, String.toList_append, String.toList_ofList, List.takeWhile_eq_self_iff]
  intro c hc
  rcases List.mem_append.mp hc with hroot | hsegment
  · have hall : (root form).toList.all (!endsPath ·) = true := by cases form <;> decide
    exact List.all_eq_true.mp hall c hroot
  · obtain ⟨-, hquery, hfragment⟩ := inSegment c hsegment
    simp [endsPath, hquery, hfragment]

theorem splitOn_path (form : Form) (whole : '/' ∉ segment) :
    Text.splitOn '/' ((root form).toList ++ segment) =
      match form with
      | .summary => [[], "textures".toList, segment]
      | .signed => [[], "textures".toList, "signed".toList, segment] := by
  cases form with
  | summary =>
    have hroot : (root .summary).toList ++ segment =
        [] ++ '/' :: ("textures".toList ++ '/' :: segment) := by
      simp [root]
    rw [hroot, Text.splitOn_append (by decide), Text.splitOn_append (by decide),
      Text.splitOn_of_notMem whole]
  | signed =>
    have hroot : (root .signed).toList ++ segment =
        [] ++ '/' :: ("textures".toList ++ '/' :: ("signed".toList ++ '/' :: segment)) := by
      simp [root]
    rw [hroot, Text.splitOn_append (by decide), Text.splitOn_append (by decide),
      Text.splitOn_append (by decide), Text.splitOn_of_notMem whole]

/-- The path of a name leads to its route. -/
theorem route?_path (form : Form) (inSegment : ∀ c ∈ segment, c ≠ '/' ∧ c ≠ '?' ∧ c ≠ '#')
    (nonempty : segment ≠ []) : route? (path form segment) = some (.textures form segment) := by
  have whole : '/' ∉ segment := fun h => (inSegment '/' h).1 rfl
  rw [route?, takeWhile_path form inSegment, splitOn_path form whole]
  cases form <;> simp [nonempty]

end

/-! ### Requests and what comes of them -/

section

variable {find : String → LookupResult} {health : Reply} {name : String} {segment : List Char}

theorem route?_of_spells (nonempty : name ≠ "")
    (spelt : Percent.Spells segment (Utf8.ofString name)) (form : Form) :
    route? (path form segment) = some (.textures form segment) := by
  refine route?_path form spelt.inSegment (spelt.ne_nil fun hnil => ?_)
  have hname := Utf8.toString?_ofString name
  rw [hnil] at hname
  exact nonempty (Option.some.inj hname).symm

theorem get_path (nonempty : name ≠ "") (spelt : Percent.Spells segment (Utf8.ofString name))
    (form : Form) : get find health (path form segment) =
      ⟨[name], respond "GET" (some (.textures form segment)) (answer form (find name))⟩ := by
  have hroute := route?_of_spells nonempty spelt form
  have hname : username? segment = some name := by
    rw [username?, spelt.decode, Utf8.toString?_ofString]
  unfold get exchange
  dsimp only
  rw [Gateway.task_of_route segment hroute hname, hroute]

end

/-! ### Failures -/

/-- What a lookup without a profile shows of itself. -/
inductive Failing where
  | unknown
  | limited
  | upstream
  | internal
  deriving DecidableEq, Repr

def failing : LookupError → Failing
  | .invalidUsername _ => .unknown
  | .remote .tooManyRequests => .limited
  | .remote _ => .upstream
  | .storage _ | .cancelled | .queueStopped => .internal

def failing? : LookupResult → Option Failing
  | .error error => some (failing error)
  | .ok none => some .unknown
  | .ok (some _) => none

def Failing.status : Failing → Nat
  | .unknown => 404
  | .limited => 429
  | .upstream => 502
  | .internal => 500

def Failing.reply : Failing → Reply
  | .unknown => errorReply 404 "Profile not found"
  | .limited => errorReply 429 "Too many requests"
  | .upstream => errorReply 502 "Upstream error"
  | .internal => errorReply 500 "Internal server error"

section

variable {result : LookupResult} {kind : Failing}

theorem failure_eq (error : LookupError) : failure error = (failing error).reply := by
  cases error with
  | remote cause => cases cause <;> rfl
  | invalidUsername | storage | cancelled | queueStopped => rfl

theorem exists_profile_of_failing (h : failing? result = none) :
    ∃ profile, result = .ok (some profile) := by
  cases result with
  | error error => cases h
  | ok found =>
    cases found with
    | none => cases h
    | some profile => exact ⟨profile, rfl⟩

/-- Nothing but its kind shows of a failure. -/
theorem answer_of_failing (h : failing? result = some kind) (form : Form) :
    answer form result = kind.reply := by
  match result with
  | .error error =>
    cases h
    exact failure_eq error
  | .ok none =>
    cases h
    rfl
  | .ok (some _) => cases h

end

theorem failing?_eq_unknown : failing? result = some .unknown ↔
    result = .ok none ∨ ∃ other, result = .error (.invalidUsername other) := by
  match result with
  | .error (.remote cause) => cases cause <;> simp [failing?, failing]
  | .error (.invalidUsername _) | .error (.storage _) | .error .cancelled | .error .queueStopped =>
    simp [failing?, failing]
  | .ok none | .ok (some _) => simp [failing?]

theorem failing?_eq_internal : failing? result = some .internal ↔
    (∃ error, result = .error (.storage error)) ∨ result = .error .cancelled ∨
      result = .error .queueStopped := by
  match result with
  | .error (.remote cause) => cases cause <;> simp [failing?, failing]
  | .error (.invalidUsername _) | .error (.storage _) | .error .cancelled | .error .queueStopped =>
    simp [failing?, failing]
  | .ok none | .ok (some _) => simp [failing?]

theorem failing_remote {cause : RemoteError} (other : cause ≠ .tooManyRequests) :
    failing (.remote cause) = .upstream := by
  cases cause with
  | tooManyRequests => exact absurd rfl other
  | _ => rfl

/-! ### Profiles -/

/-- Whether a property is the first one that is named textures. -/
def FirstTextures (properties : List Property) (p : Property) : Prop :=
  ∃ before after, properties = before ++ p :: after ∧ p.name = "textures" ∧
    ∀ q ∈ before, q.name ≠ "textures"

/-- `Shows properties shown`: this is to be seen in some properties, the textures or why there are
none. -/
inductive Shows (properties : List Property) : Except TexturesRecord.Fault Textures → Prop
  | absent (other : ∀ p ∈ properties, p.name ≠ "textures") : Shows properties (.ok {})
  | empty {p : Property} (first : FirstTextures properties p) (empty : p.value = "") :
      Shows properties (.ok {})
  | decoded {p : Property} {record : TexturesRecord} (first : FirstTextures properties p)
      (value : p.value ≠ "") (decodes : TexturesRecord.decode p.value = .ok record) :
      Shows properties (.ok record.textures)
  | fault {p : Property} {fault : TexturesRecord.Fault} (first : FirstTextures properties p)
      (value : p.value ≠ "") (decodes : TexturesRecord.decode p.value = .error fault) :
      Shows properties (.error fault)

/-- The answer with a profile in brief of which this is to be seen. -/
def page (profile : Profile) : Except TexturesRecord.Fault Textures → Reply
  | .error _ => Failing.upstream.reply
  | .ok textures =>
    if textures.skin = none ∧ textures.cape = none then ⟨204, .empty⟩
    else ⟨200, .json
      (Summary.toValue ⟨profile.id, profile.name, textures.skin, textures.cape⟩)⟩

section

variable {profile : Profile} {p : Property} {shown : Except TexturesRecord.Fault Textures}

theorem texturesProperty?_eq_none :
    profile.texturesProperty? = none ↔ ∀ p ∈ profile.properties, p.name ≠ "textures" := by
  simp [Profile.texturesProperty?, Profile.texturesKey]

theorem texturesProperty?_eq_some :
    profile.texturesProperty? = some p ↔ FirstTextures profile.properties p := by
  rw [Profile.texturesProperty?, List.find?_eq_some_iff_append]
  simp only [Profile.texturesKey, beq_iff_eq, Bool.not_eq_eq_eq_not, Bool.not_true,
    beq_eq_false_iff_ne, FirstTextures]
  tauto

theorem status_page (profile : Profile) (shown : Except TexturesRecord.Fault Textures) :
    (page profile shown).status = 200 ∨ (page profile shown).status = 204 ∧ shown = .ok {} ∨
      (page profile shown).status = 502 ∧ ∃ fault, shown = .error fault := by
  cases shown with
  | error fault => exact .inr (.inr ⟨rfl, fault, rfl⟩)
  | ok textures =>
    obtain ⟨skin, cape⟩ := textures
    cases skin with
    | some skin => exact .inl rfl
    | none =>
      cases cape with
      | some cape => exact .inl rfl
      | none => exact .inr (.inl ⟨rfl, rfl⟩)

/-- Something is to be seen in all properties. -/
theorem exists_shows (profile : Profile) : ∃ shown, Shows profile.properties shown := by
  cases hp : profile.texturesProperty? with
  | none => exact ⟨_, .absent (texturesProperty?_eq_none.mp hp)⟩
  | some p =>
    have first := texturesProperty?_eq_some.mp hp
    by_cases hempty : p.value = ""
    · exact ⟨_, .empty first hempty⟩
    · cases hdecodes : TexturesRecord.decode p.value with
      | ok record => exact ⟨_, .decoded first hempty hdecodes⟩
      | error fault => exact ⟨_, .fault first hempty hdecodes⟩

theorem answer_of_shows (h : Shows profile.properties shown) :
    answer .summary (.ok (some profile)) = page profile shown := by
  show brief profile profile.textures = page profile shown
  cases h with
  | absent other =>
    have htextures : profile.textures = .ok none := by
      rw [Profile.textures, texturesProperty?_eq_none.mpr other]
    rw [htextures]
    rfl
  | empty first empty =>
    have htextures : profile.textures = .ok none := by
      simp [Profile.textures, texturesProperty?_eq_some.mpr first, empty]
    rw [htextures]
    rfl
  | @decoded p record first value decodes =>
    have htextures : profile.textures = .ok (some record) := by
      simp [Profile.textures, texturesProperty?_eq_some.mpr first, value, decodes]
    obtain ⟨timestamp, profileId, profileName, skin, cape⟩ := record
    simp only [brief, htextures, page]
    cases skin <;> cases cape <;> rfl
  | @fault p fault first value decodes =>
    have htextures : profile.textures = .error fault := by
      simp [Profile.textures, texturesProperty?_eq_some.mpr first, value, decodes]
    rw [htextures]
    rfl

/-- The status of a profile in brief tells what is to be seen of it. -/
theorem status_summary (profile : Profile) :
    (answer .summary (.ok (some profile))).status = 200 ∨
      (answer .summary (.ok (some profile))).status = 204 ∧ Shows profile.properties (.ok {}) ∨
      (answer .summary (.ok (some profile))).status = 502 ∧
        ∃ fault, Shows profile.properties (.error fault) := by
  obtain ⟨shown, hshown⟩ := exists_shows profile
  rw [answer_of_shows hshown]
  rcases status_page profile shown with h | ⟨h, rfl⟩ | ⟨h, fault, rfl⟩
  · exact .inl h
  · exact .inr (.inl ⟨h, hshown⟩)
  · exact .inr (.inr ⟨h, fault, hshown⟩)

/-- A profile is answered with a status that no failing lookup has, unless that is of an upstream
server. -/
theorem status_answer_iff {form : Form} {result : LookupResult} {kind : Failing}
    (other : kind ≠ .upstream) :
    (answer form result).status = kind.status ↔ failing? result = some kind := by
  cases hresult : failing? result with
  | some shown =>
    rw [answer_of_failing hresult]
    cases shown <;> cases kind <;> simp [Failing.reply, Failing.status, errorReply]
  | none =>
    -- Only 502 stands both for a failure and for a profile, and this is the one left out.
    obtain ⟨profile, rfl⟩ := exists_profile_of_failing hresult
    refine iff_of_false ?_ (by simp)
    have hstatus : (answer form (.ok (some profile))).status = 200 ∨
        (answer form (.ok (some profile))).status = 204 ∨
        (answer form (.ok (some profile))).status = 502 := by
      cases form with
      | signed => exact .inl rfl
      | summary => exact (status_summary profile).imp_right (.imp And.left And.left)
    cases kind with
    | upstream => exact absurd rfl other
    | unknown | limited | internal =>
      simp only [Failing.status]
      omega

end

/-! ### The routes of a name -/

/-- What comes of the requests for a name, spelt by a segment of their paths. -/
structure Served (find : String → LookupResult) (health : Reply) (name : String)
    (segment : List Char) : Prop where
  /-- This name is looked up, and once. -/
  asked : ∀ form, (get find health (path form segment)).asked = [name]
  unknown : ∀ form, (get find health (path form segment)).response.status = 404 ↔
    find name = .ok none ∨ ∃ other, find name = .error (.invalidUsername other)
  limited : ∀ form, (get find health (path form segment)).response.status = 429 ↔
    find name = .error (.remote .tooManyRequests)
  upstream : ∀ form error, find name = .error (.remote error) → error ≠ .tooManyRequests →
    (get find health (path form segment)).response.status = 502
  internal : ∀ form, (get find health (path form segment)).response.status = 500 ↔
    (∃ error, find name = .error (.storage error)) ∨ find name = .error .cancelled ∨
      find name = .error .queueStopped
  /-- Nothing but its kind shows of a failure, whichever name was asked for, in whichever form. -/
  discreet : ∀ form form' find' health' name' segment' kind, name' ≠ "" →
    Percent.Spells segment' (Utf8.ofString name') → failing? (find name) = some kind →
    failing? (find' name') = some kind →
    (get find health (path form segment)).response =
      (get find' health' (path form' segment')).response
  /-- A signed profile is served as it is, whatever its textures are. -/
  signed : ∀ profile, find name = .ok (some profile) →
    (get find health (path .signed segment)).response.status = 200 ∧
      (get find health (path .signed segment)).response.body = Profile.format.write profile ∧
      Profile.format.read
        (Utf8.ofString (get find health (path .signed segment)).response.body) = .ok profile
  undecodable : ∀ profile, find name = .ok (some profile) →
    ((get find health (path .summary segment)).response.status = 502 ↔
      ∃ fault, Shows profile.properties (.error fault))
  bare : ∀ profile, find name = .ok (some profile) →
    ((get find health (path .summary segment)).response.status = 204 ↔
      Shows profile.properties (.ok {})) ∧
    ((get find health (path .summary segment)).response.status = 204 →
      (get find health (path .summary segment)).response.body = "")
  /-- A skin or a cape is served in brief. -/
  brief : ∀ profile textures, find name = .ok (some profile) →
    Shows profile.properties (.ok textures) → textures.skin ≠ none ∨ textures.cape ≠ none →
    (get find health (path .summary segment)).response.status = 200 ∧
      (get find health (path .summary segment)).response.body =
        Summary.write ⟨profile.id, profile.name, textures.skin, textures.cape⟩
  /-- It is the same with a profile that others hold as well and may have decoded before. -/
  shared : ∀ form (shared : SharedProfile), shared.IsSound → find name = .ok (some shared.profile) →
    respond "GET" (route? (path form segment)) (serve form shared).1 =
      (get find health (path form segment)).response

section

variable {find : String → LookupResult} {health : Reply} {name : String}

/-- Every name can be spelt, and however it is spelt, it is served with what the lookup of this name
gives. -/
theorem names_are_served (nonempty : name ≠ "") :
    (∃ segment, Percent.Spells segment (Utf8.ofString name)) ∧
      ∀ segment, Percent.Spells segment (Utf8.ofString name) →
        Served find health name segment := by
  refine ⟨Percent.exists_spells _, fun segment spelt => ?_⟩
  have hget : ∀ form, get find health (path form segment) =
      ⟨[name], respond "GET" (some (.textures form segment)) (answer form (find name))⟩ :=
    get_path nonempty spelt
  -- Of a failure the kind is enough, and of a profile in brief what is to be seen of it.
  have hfailing : ∀ form kind, failing? (find name) = some kind →
      (get find health (path form segment)).response =
        respond "GET" (some (.textures form segment)) kind.reply := by
    intro form kind hkind
    rw [hget, answer_of_failing hkind]
  have hshows : ∀ profile shown, find name = .ok (some profile) → Shows profile.properties shown →
      (get find health (path .summary segment)).response =
        respond "GET" (some (.textures .summary segment)) (page profile shown) := by
    intro profile shown hfound hshown
    rw [hget, hfound, answer_of_shows hshown]
  constructor
  case asked =>
    intro form
    rw [hget]
  case unknown =>
    intro form
    rw [hget]
    exact (status_answer_iff (show Failing.unknown ≠ .upstream by decide)).trans failing?_eq_unknown
  case limited =>
    intro form
    rw [hget]
    exact status_answer
  case upstream =>
    intro form error hfound other
    rw [hfailing form .upstream (by rw [hfound, failing?, failing_remote other])]
    rfl
  case internal =>
    intro form
    rw [hget]
    exact (status_answer_iff (show Failing.internal ≠ .upstream by decide)).trans failing?_eq_internal
  case discreet =>
    intro form form' find' health' name' segment' kind nonempty' spelt' hkind hkind'
    rw [hfailing form kind hkind, get_path nonempty' spelt' form', answer_of_failing hkind']
    rfl
  case signed =>
    intro profile hfound
    rw [hget, hfound]
    exact ⟨rfl, rfl, read_answer_signed _ profile⟩
  case undecodable =>
    intro profile hfound
    constructor
    · intro hstatus
      rw [hget, hfound] at hstatus
      rcases status_summary profile with h | ⟨h, -⟩ | ⟨-, hfault⟩
      · cases h.symm.trans hstatus
      · cases h.symm.trans hstatus
      · exact hfault
    · rintro ⟨fault, hshown⟩
      rw [hshows profile _ hfound hshown]
      rfl
  case bare =>
    intro profile hfound
    have hbare : (get find health (path .summary segment)).response.status = 204 →
        Shows profile.properties (.ok {}) := by
      intro hstatus
      rw [hget, hfound] at hstatus
      rcases status_summary profile with h | ⟨-, hshown⟩ | ⟨h, -⟩
      · cases h.symm.trans hstatus
      · exact hshown
      · cases h.symm.trans hstatus
    refine ⟨⟨hbare, fun hshown => ?_⟩, fun hstatus => ?_⟩
    · rw [hshows profile _ hfound hshown]
      rfl
    · rw [hshows profile _ hfound (hbare hstatus)]
      rfl
  case brief =>
    intro profile textures hfound hshown some
    rw [hshows profile _ hfound hshown]
    have hpage : page profile (.ok textures) =
        ⟨200, .json (Summary.toValue ⟨profile.id, profile.name, textures.skin, textures.cape⟩)⟩ := by
      simp only [page]
      rw [if_neg (by tauto)]
    rw [hpage]
    exact ⟨rfl, rfl⟩
  case shared =>
    intro form shared sound hfound
    rw [serve_eq_answer sound, ← hfound, hget, route?_of_spells nonempty spelt]

/-- A name with a slash and a letter beyond ASCII, and a profile whose textures cannot be decoded. -/
theorem names_are_served_with_slash :
    ∃ find health, "a/ж" ≠ "" ∧
      Percent.Spells "a%2F%d0%B6".toList (Utf8.ofString "a/ж") ∧
      Served find health "a/ж" "a%2F%d0%B6".toList ∧
      (get find health "/textures/a%2F%d0%B6").asked = ["a/ж"] ∧
      (get find health "/textures/a%2F%d0%B6").response.status = 502 ∧
      (get find health "/textures/signed/a%2F%d0%B6").response.status = 200 := by
  have spelt : Percent.Spells "a%2F%d0%B6".toList (Utf8.ofString "a/ж") :=
    .literal (by decide) <| .escape (m := 2) (n := 15) (.inl rfl) (.inr rfl) <|
      .escape (m := 13) (n := 0) (.inl rfl) (.inl rfl) <|
        .escape (m := 11) (n := 6) (.inr rfl) (.inl rfl) .nil
  exact ⟨fun _ => .ok (some ⟨"069a", "Notch", [⟨"textures", none, "%"⟩]⟩), health 0 none, by decide,
    spelt, (names_are_served (by decide)).2 _ spelt, by decide +kernel, by decide +kernel,
    by decide +kernel⟩

end

end Router

end SkinRelay
