import Mathlib.Data.List.Induction
import Mathlib.Tactic.Common
import SkinRelay.Client

/-!
When the settings of an environment can be used, and what they are. Only the two addresses and the
strategy can be at fault, and of several faults the first in this order is told; every other variable
falls back to its default. Whatever settings there are, a client takes their addresses as they stand
(`settings_are_checked`).
-/

namespace SkinRelay.Settings

/-! ### Numbers -/

/-- `Numeral ds n`: the decimal digits `ds` spell the number `n`. -/
inductive Numeral : List Char → Nat → Prop where
  | digit {d : Nat} (h : d < 10) : Numeral [Nat.digitChar d] d
  | snoc {ds : List Char} {n d : Nat} (front : Numeral ds n) (h : d < 10) :
    Numeral (ds ++ [Nat.digitChar d]) (n * 10 + d)

/-- A number as it may be given: decimal digits, perhaps behind a plus sign. -/
def Spells (text : String) (n : Nat) : Prop :=
  ∃ ds, Numeral ds n ∧ (text.toList = ds ∨ text.toList = '+' :: ds)

/-- The number that digits stand for. -/
def digitsValue (ds : List Char) : Nat := ds.foldl (fun n c => n * 10 + (c.toNat - 0x30)) 0

theorem digitsValue_snoc (ds : List Char) (c : Char) :
    digitsValue (ds ++ [c]) = digitsValue ds * 10 + (c.toNat - 0x30) := by
  simp [digitsValue]

theorem digitChar_spec {d : Nat} (h : d < 10) :
    (Nat.digitChar d).isDigit = true ∧ (Nat.digitChar d).toNat = 0x30 + d := by
  have all : ∀ d : Fin 10,
      (Nat.digitChar d).isDigit = true ∧ (Nat.digitChar d).toNat = 0x30 + d.val := by
    decide
  exact all ⟨d, h⟩

theorem exists_digitChar {c : Char} (h : c.isDigit = true) : ∃ d < 10, c = Nat.digitChar d := by
  have hrange : 0x30 ≤ c.toNat ∧ c.toNat ≤ 0x39 := by
    simpa [Char.isDigit, UInt32.le_iff_toNat_le] using h
  have hd : c.toNat - 0x30 < 10 := by omega
  refine ⟨c.toNat - 0x30, hd, Char.ext (UInt32.ext ?_)⟩
  have hvalue := (digitChar_spec hd).2
  show c.toNat = (Nat.digitChar (c.toNat - 0x30)).toNat
  omega

/-- Digits spell the number that they stand for, and no other. -/
theorem numeral_iff {ds : List Char} {n : Nat} :
    Numeral ds n ↔ ds ≠ [] ∧ (∀ c ∈ ds, c.isDigit = true) ∧ digitsValue ds = n := by
  constructor
  · intro h
    induction h with
    | digit h =>
      obtain ⟨hdigit, hvalue⟩ := digitChar_spec h
      refine ⟨by simp, by simpa using hdigit, ?_⟩
      simp only [digitsValue, List.foldl_cons, List.foldl_nil, hvalue]
      omega
    | snoc front h ih =>
      obtain ⟨hdigit, hvalue⟩ := digitChar_spec h
      obtain ⟨-, hdigits, hn⟩ := ih
      refine ⟨by simp, ?_, ?_⟩
      · intro c hc
        rcases List.mem_append.mp hc with hc | hc
        · exact hdigits c hc
        · rwa [List.mem_singleton.mp hc]
      · rw [digitsValue_snoc, hn, hvalue]
        omega
  · rintro ⟨hne, hdigits, rfl⟩
    induction ds using List.reverseRecOn with
    | nil => exact absurd rfl hne
    | append_singleton ds c ih =>
      obtain ⟨d, hd, rfl⟩ := exists_digitChar (hdigits c (by simp))
      have hvalue : (Nat.digitChar d).toNat - 0x30 = d := by
        rw [(digitChar_spec hd).2]
        omega
      rw [digitsValue_snoc, hvalue]
      by_cases hds : ds = []
      · subst hds
        simpa [digitsValue] using Numeral.digit hd
      · exact .snoc (ih hds fun c hc => hdigits c (List.mem_append_left _ hc)) hd

/-- A number is read exactly if it is spelled, and below the limit. -/
theorem number?_eq_some_iff {limit n : Nat} {text : String} :
    number? limit text = some n ↔ Spells text n ∧ n < limit := by
  have read : ∀ ds : List Char,
      (if !ds.isEmpty ∧ ds.all Char.isDigit then
        (if digitsValue ds < limit then some (digitsValue ds) else none) else none) = some n ↔
      Numeral ds n ∧ n < limit := by
    intro ds
    rw [numeral_iff]
    constructor
    · intro h
      split at h
      · rename_i hds
        split at h
        · rename_i hlimit
          cases h
          exact ⟨⟨by simpa using hds.1, by simpa using hds.2, rfl⟩, hlimit⟩
        · cases h
      · cases h
    · rintro ⟨⟨hne, hdigits, rfl⟩, hlimit⟩
      rw [if_pos ⟨by simpa using hne, by simpa using hdigits⟩, if_pos hlimit]
  have unsigned : ∀ ds : List Char, Numeral ('+' :: ds) n → False := by
    intro ds h
    exact absurd ((numeral_iff.mp h).2.1 '+' (by simp)) (by decide)
  unfold number?
  dsimp only
  split
  · rename_i ds htext
    refine (read ds).trans (and_congr_left fun _ => ?_)
    constructor
    · exact fun h => ⟨ds, h, .inr htext⟩
    · rintro ⟨ds', h, hds⟩
      rw [htext] at hds
      rcases hds with rfl | hds
      · exact (unsigned ds h).elim
      · cases hds
        exact h
  · rename_i hplus
    refine (read text.toList).trans (and_congr_left fun _ => ?_)
    constructor
    · exact fun h => ⟨_, h, .inl rfl⟩
    · rintro ⟨ds, h, rfl | hds⟩
      · exact h
      · exact (hplus ds hds).elim

/-- `Takes range given default n`: a number that is given and in range is taken, and the default in
every other case. -/
structure Takes (range : Nat → Prop) (given : Option String) (default n : Nat) : Prop where
  number : ∀ text m, given = some text → Spells text m → range m → n = m
  other : (∀ text m, given = some text → Spells text m → ¬range m) → n = default

/-- A reader of numbers in range takes these numbers. -/
theorem takes_getD {range : Nat → Prop} {read : String → Option Nat}
    (reads : ∀ text m, read text = some m ↔ Spells text m ∧ range m) (given : Option String)
    (default : Nat) : Takes range given default ((given.bind read).getD default) where
  number := by
    rintro text m rfl hm hrange
    simp [(reads text m).mpr ⟨hm, hrange⟩]
  other := by
    intro h
    cases given with
    | none => rfl
    | some text =>
      have hnone : read text = none := by
        rw [Option.eq_none_iff_forall_ne_some]
        intro m hm
        obtain ⟨hspells, hrange⟩ := (reads text m).mp hm
        exact h text m rfl hspells hrange
      simp [hnone]

theorem takes_number (limit : Nat) (given : Option String) (default : Nat) :
    Takes (· < limit) given default ((given.bind (number? limit)).getD default) :=
  takes_getD (fun _ _ => number?_eq_some_iff) given default

/-- A number that must not be zero is taken if it is neither that nor too large. -/
theorem takes_positive (limit : Nat) (given : Option String) (default : Nat) :
    Takes (fun n => 0 < n ∧ n < limit) given default
      (((given.bind (number? limit)).filter (0 < ·)).getD default) := by
  have reads : ∀ text m, (number? limit text).filter (0 < ·) = some m ↔
      Spells text m ∧ 0 < m ∧ m < limit := by
    intro text m
    rw [Option.filter_eq_some_iff, number?_eq_some_iff, decide_eq_true_eq]
    tauto
  have hbind : (given.bind (number? limit)).filter (0 < ·) =
      given.bind fun text => (number? limit text).filter (0 < ·) := by
    cases given <;> rfl
  rw [hbind]
  exact takes_getD reads given default

theorem getD_filter_pos {number : Option Nat} {default : Nat} (h : 0 < default) :
    0 < (number.filter (0 < ·)).getD default := by
  cases hn : number.filter (0 < ·) with
  | none => exact h
  | some n => simpa using (Option.filter_eq_some_iff.mp hn).2

/-! ### Addresses -/

/-- Whether a text is the address of a web server. -/
def IsWebAddress (text : String) : Prop :=
  ∃ url, Url.parse text = .ok url ∧ (url.scheme = "http".toList ∨ url.scheme = "https".toList)

/-- Why a text is no such address. -/
inductive AddressFault (name : Variable) (text : String) : Fault → Prop where
  | invalidUrl {fault : UrlFault} (h : Url.parse text = .error fault) :
    AddressFault name text (.invalidUrl name fault)
  | notWeb {url : Url} (h : Url.parse text = .ok url) (http : url.scheme ≠ "http".toList)
    (https : url.scheme ≠ "https".toList) : AddressFault name text (.notWeb name)

variable {env : Environment} {name : Variable} {default text : String} {fault : Fault}

theorem exists_addressFault_iff : (∃ fault, AddressFault name text fault) ↔ ¬IsWebAddress text := by
  constructor
  · rintro ⟨_, ⟨h⟩ | ⟨h, http, https⟩⟩ ⟨url, hurl, hscheme⟩
    · rw [h] at hurl
      cases hurl
    · rw [h] at hurl
      cases hurl
      exact hscheme.elim http https
  · intro h
    cases hparse : Url.parse text with
    | error fault => exact ⟨_, .invalidUrl hparse⟩
    | ok url => exact ⟨_, .notWeb hparse (fun hs => h ⟨url, hparse, .inl hs⟩)
        fun hs => h ⟨url, hparse, .inr hs⟩⟩

theorem isWeb_iff {url : Url} :
    url.isWeb = true ↔ url.scheme = "http".toList ∨ url.scheme = "https".toList := by
  simp [Url.isWeb]

/-- Whether a variable is set to a text that is neither empty nor the address of a web server. -/
def Misaddressed (env : Environment) (name : Variable) : Prop :=
  ∃ text, env name = some text ∧ text ≠ "" ∧ ¬IsWebAddress text

theorem nonEmpty_of_ne (h : text ≠ "") : nonEmpty text = some text := by
  simp [nonEmpty, String.isEmpty_iff, h]

theorem bind_nonEmpty_eq_some {given : Option String} :
    given.bind nonEmpty = some text ↔ given = some text ∧ text ≠ "" := by
  cases given with
  | none => simp
  | some t =>
    by_cases h : t = ""
    · subst h
      simp only [Option.bind_some, Option.some.injEq]
      constructor
      · intro h
        cases h
      · rintro ⟨rfl, h⟩
        exact absurd rfl h
    · simp only [Option.bind_some, nonEmpty_of_ne h, Option.some.injEq]
      exact ⟨fun heq => ⟨heq, heq ▸ h⟩, fun heq => heq.1⟩

theorem webUrl_eq_error_iff : webUrl env name default = .error fault ↔
    ∃ text, env name = some text ∧ text ≠ "" ∧ AddressFault name text fault := by
  cases hset : (env name).bind nonEmpty with
  | none =>
    have unset : ∀ text, env name = some text → ¬text ≠ "" := by
      intro text henv hne
      rw [bind_nonEmpty_eq_some.mpr ⟨henv, hne⟩] at hset
      cases hset
    simp only [webUrl, hset]
    constructor
    · intro h
      cases h
    · rintro ⟨text, henv, hne, -⟩
      exact absurd hne (unset text henv)
  | some text =>
    obtain ⟨henv, hne⟩ := bind_nonEmpty_eq_some.mp hset
    have only : (∃ text, env name = some text ∧ text ≠ "" ∧ AddressFault name text fault) ↔
        AddressFault name text fault := by
      simp [henv, hne]
    rw [only]
    cases hparse : Url.parse text with
    | error f =>
      simp only [webUrl, hset, hparse, Except.error.injEq]
      constructor
      · rintro rfl
        exact .invalidUrl hparse
      · rintro (h | ⟨h, -, -⟩)
        · rw [hparse] at h
          cases h
          rfl
        · rw [hparse] at h
          cases h
    | ok url =>
      simp only [webUrl, hset, hparse]
      by_cases hweb : url.isWeb = true
      · simp only [hweb, if_true]
        constructor
        · intro h
          cases h
        · intro h
          exact absurd ⟨url, hparse, isWeb_iff.mp hweb⟩ (exists_addressFault_iff.mp ⟨_, h⟩)
      · have hscheme := not_or.mp (mt isWeb_iff.mpr hweb)
        simp only [hweb, if_false, Except.error.injEq, Bool.false_eq_true]
        constructor
        · rintro rfl
          exact .notWeb hparse hscheme.1 hscheme.2
        · rintro (h | ⟨h, -, -⟩)
          · rw [hparse] at h
            cases h
          · rfl

theorem exists_webUrl_fault_iff :
    (∃ fault, webUrl env name default = .error fault) ↔ Misaddressed env name := by
  simp only [webUrl_eq_error_iff, Misaddressed, ← @exists_addressFault_iff name]
  constructor
  · rintro ⟨fault, text, henv, hne, hfault⟩
    exact ⟨text, henv, hne, fault, hfault⟩
  · rintro ⟨text, henv, hne, fault, hfault⟩
    exact ⟨fault, text, henv, hne, hfault⟩

theorem not_misaddressed_of_webUrl (h : webUrl env name default = .ok text) :
    ¬Misaddressed env name := by
  rw [← @exists_webUrl_fault_iff env name default, h]
  rintro ⟨_, hfault⟩
  cases hfault

theorem webUrl_eq_of_ok {given url : String} (hset : (env name).bind nonEmpty = some given)
    (h : webUrl env name default = .ok url) : url = given := by
  simp only [webUrl, hset] at h
  split at h
  · cases h
  · split at h
    · cases h
      rfl
    · cases h

/-- An address that is not empty stays so. -/
theorem webUrl_ne_empty (hdefault : default ≠ "") (h : webUrl env name default = .ok text) :
    text ≠ "" := by
  unfold webUrl at h
  split at h
  · cases h
    exact hdefault
  · rename_i hset
    split at h
    · cases h
    · split at h
      · cases h
        exact (bind_nonEmpty_eq_some.mp hset).2
      · cases h

theorem getLast?_withSlash (text : String) : (withSlash text).toList.getLast? = some '/' := by
  unfold withSlash
  split
  · assumption
  · simp

theorem withSlash_of_getLast? (h : text.toList.getLast? = some '/') : withSlash text = text :=
  if_pos h

/-! ### Strategies -/

/-- Whether the strategy is set to one that there is not. -/
def Misplanned (env : Environment) : Prop :=
  ∃ text, env .strategy = some text ∧ text ≠ "periodic" ∧ text ≠ "full-bus"

theorem strategy_eq_error_iff : strategy env = .error fault ↔
    ∃ text, env .strategy = some text ∧ text ≠ "periodic" ∧ text ≠ "full-bus" ∧
      fault = .unknownStrategy text := by
  unfold strategy
  cases henv : env .strategy with
  | none => simp
  | some text =>
    dsimp only
    split
    · rename_i h
      simp [h]
    · split
      · rename_i h
        simp [h]
      · rename_i hperiodic hfull
        simp [hperiodic, hfull, eq_comm]

/-! ### Settings -/

/-- `IsFirst env fault`: this is the fault of the account service's address; or, if that can be used,
of the session server's address; or, if both can be used, of the strategy. -/
inductive IsFirst (env : Environment) : Fault → Prop where
  | accounts {text : String} {fault : Fault} (given : env .accountsUrl = some text)
    (nonempty : text ≠ "") (h : AddressFault .accountsUrl text fault) : IsFirst env fault
  | profiles {text : String} {fault : Fault} (before : ¬Misaddressed env .accountsUrl)
    (given : env .profilesUrl = some text) (nonempty : text ≠ "")
    (h : AddressFault .profilesUrl text fault) : IsFirst env fault
  | strategy {text : String} (before : ¬Misaddressed env .accountsUrl)
    (before' : ¬Misaddressed env .profilesUrl) (given : env .strategy = some text)
    (periodic : text ≠ "periodic") (fullBus : text ≠ "full-bus") :
    IsFirst env (.unknownStrategy text)

/-- The settings of an environment, once its addresses and its strategy could be used. -/
def assemble (env : Environment) (accountsUrl profilesUrl : String) (fireOnFull : Bool) : Settings where
  port := ((env .port).bind (number? (Nat.pow 2 16))).getD 3005
  databaseUrl := (env .databaseUrl).bind nonEmpty
  texturesEnabled := ((env .texturesEnabled).bind switch?).getD true
  accountsUrl
  profilesUrl := withSlash profilesUrl
  batch :=
    { batchSize := (((env .batchSize).bind (number? (Nat.pow 2 64))).filter (0 < ·)).getD 10
      delay := (((env .loopDelay).bind (number? (Nat.pow 2 64))).filter (0 < ·)).getD 2500
      fireOnFull }
  httpTimeout := ((env .httpTimeout).bind (number? (Nat.pow 2 64))).getD 30

/-- What an environment comes to: an address or the strategy is at fault, or all three are there. -/
inductive Outcome (env : Environment) : Except Fault Settings → Prop where
  | fault {fault : Fault} (h : IsFirst env fault) : Outcome env (.error fault)
  | settings {accountsUrl profilesUrl : String} {fireOnFull : Bool}
    (accounts : webUrl env .accountsUrl accountsAddress = .ok accountsUrl)
    (profiles : webUrl env .profilesUrl profilesAddress = .ok profilesUrl)
    (strategy : strategy env = .ok fireOnFull) :
    Outcome env (.ok (assemble env accountsUrl profilesUrl fireOnFull))

theorem outcome_ofEnvironment (env : Environment) : Outcome env (ofEnvironment env) := by
  unfold ofEnvironment
  split
  · rename_i haccounts
    obtain ⟨text, henv, hne, hfault⟩ := webUrl_eq_error_iff.mp haccounts
    exact .fault (.accounts henv hne hfault)
  · rename_i haccounts
    have before := not_misaddressed_of_webUrl haccounts
    split
    · rename_i hprofiles
      obtain ⟨text, henv, hne, hfault⟩ := webUrl_eq_error_iff.mp hprofiles
      exact .fault (.profiles before henv hne hfault)
    · rename_i hprofiles
      have before' := not_misaddressed_of_webUrl hprofiles
      split
      · rename_i hstrategy
        obtain ⟨text, henv, hperiodic, hfull, rfl⟩ := strategy_eq_error_iff.mp hstrategy
        exact .fault (.strategy before before' henv hperiodic hfull)
      · rename_i hstrategy
        exact .settings haccounts hprofiles hstrategy

/-- A fault that is the first one keeps every settings from being there. -/
theorem IsFirst.eq_error (first : IsFirst env fault) : ofEnvironment env = .error fault := by
  have usable : ∀ name default, ¬Misaddressed env name → ∃ url, webUrl env name default = .ok url := by
    intro name default h
    cases hurl : webUrl env name default with
    | error fault => exact absurd (exists_webUrl_fault_iff.mp ⟨fault, hurl⟩) h
    | ok url => exact ⟨url, rfl⟩
  cases first with
  | accounts given nonempty h =>
    have hurl : webUrl env .accountsUrl accountsAddress = .error fault :=
      webUrl_eq_error_iff.mpr ⟨_, given, nonempty, h⟩
    simp only [ofEnvironment, hurl]
  | profiles before given nonempty h =>
    obtain ⟨accountsUrl, haccounts⟩ := usable _ accountsAddress before
    have hurl : webUrl env .profilesUrl profilesAddress = .error fault :=
      webUrl_eq_error_iff.mpr ⟨_, given, nonempty, h⟩
    simp only [ofEnvironment, haccounts, hurl]
  | strategy before before' given periodic fullBus =>
    obtain ⟨accountsUrl, haccounts⟩ := usable _ accountsAddress before
    obtain ⟨profilesUrl, hprofiles⟩ := usable _ profilesAddress before'
    have hstrategy := strategy_eq_error_iff.mpr ⟨_, given, periodic, fullBus, rfl⟩
    simp only [ofEnvironment, haccounts, hprofiles, hstrategy]

theorem ofEnvironment_eq_error_iff : ofEnvironment env = .error fault ↔ IsFirst env fault := by
  refine ⟨fun h => ?_, IsFirst.eq_error⟩
  have outcome := outcome_ofEnvironment env
  rw [h] at outcome
  cases outcome with
  | fault first => exact first

/-- Whether some fault is the first one. -/
theorem exists_isFirst_iff : (∃ fault, IsFirst env fault) ↔
    Misaddressed env .accountsUrl ∨ Misaddressed env .profilesUrl ∨ Misplanned env := by
  constructor
  · rintro ⟨_, first⟩
    cases first with
    | accounts given nonempty h =>
      exact .inl ⟨_, given, nonempty, exists_addressFault_iff.mp ⟨_, h⟩⟩
    | profiles before given nonempty h =>
      exact .inr (.inl ⟨_, given, nonempty, exists_addressFault_iff.mp ⟨_, h⟩⟩)
    | strategy before before' given periodic fullBus =>
      exact .inr (.inr ⟨_, given, periodic, fullBus⟩)
  · intro h
    by_cases before : Misaddressed env .accountsUrl
    · obtain ⟨text, given, nonempty, hweb⟩ := before
      obtain ⟨fault, hfault⟩ := (@exists_addressFault_iff .accountsUrl text).mpr hweb
      exact ⟨fault, .accounts given nonempty hfault⟩
    · by_cases before' : Misaddressed env .profilesUrl
      · obtain ⟨text, given, nonempty, hweb⟩ := before'
        obtain ⟨fault, hfault⟩ := (@exists_addressFault_iff .profilesUrl text).mpr hweb
        exact ⟨fault, .profiles before given nonempty hfault⟩
      · obtain ⟨text, given, periodic, fullBus⟩ := (h.resolve_left before).resolve_left before'
        exact ⟨_, .strategy before before' given periodic fullBus⟩

/-- What can be relied on in the settings of an environment. -/
structure WellFormed (env : Environment) (s : Settings) : Prop where
  port : Takes (· < Nat.pow 2 16) (env .port) 3005 s.port
  batchSize : Takes (fun n => 0 < n ∧ n < Nat.pow 2 64) (env .batchSize) 10 s.batch.batchSize
  delay : Takes (fun n => 0 < n ∧ n < Nat.pow 2 64) (env .loopDelay) 2500 s.batch.delay
  httpTimeout : Takes (· < Nat.pow 2 64) (env .httpTimeout) 30 s.httpTimeout
  batchSize_pos : 0 < s.batch.batchSize
  delay_pos : 0 < s.batch.delay
  accountsUrl : s.accountsUrl ≠ ""
  profilesUrl : s.profilesUrl.toList.getLast? = some '/'
  /-- A client takes the addresses as they stand. -/
  client : Client.ofAddresses s.accountsUrl s.profilesUrl = ⟨s.accountsUrl, s.profilesUrl⟩

theorem ofAddresses_of_settled {accountsUrl profilesUrl : String} (nonempty : accountsUrl ≠ "")
    (slash : profilesUrl.toList.getLast? = some '/') :
    Client.ofAddresses accountsUrl profilesUrl = ⟨accountsUrl, profilesUrl⟩ := by
  have nonempty' : profilesUrl ≠ "" := by
    rintro rfl
    cases slash
  simp only [Client.ofAddresses, nonEmpty_of_ne nonempty, nonEmpty_of_ne nonempty',
    Option.getD_some, withSlash_of_getLast? slash]

theorem wellFormed_of_eq_ok {s : Settings} (h : ofEnvironment env = .ok s) : WellFormed env s := by
  have outcome := outcome_ofEnvironment env
  rw [h] at outcome
  cases outcome with
  | @settings accountsUrl profilesUrl _ accounts _ _ =>
    have nonempty := webUrl_ne_empty (by decide) accounts
    have slash := getLast?_withSlash profilesUrl
    exact {
      port := takes_number _ _ _
      batchSize := takes_positive _ _ _
      delay := takes_positive _ _ _
      httpTimeout := takes_number _ _ _
      batchSize_pos := getD_filter_pos (by decide)
      delay_pos := getD_filter_pos (by decide)
      accountsUrl := nonempty
      profilesUrl := slash
      client := ofAddresses_of_settled nonempty slash }

/-- When the settings of an environment can be used, and what they then are. -/
structure Checked (env : Environment) : Prop where
  fails : (∃ fault, ofEnvironment env = .error fault) ↔
    Misaddressed env .accountsUrl ∨ Misaddressed env .profilesUrl ∨ Misplanned env
  first : ∀ fault, ofEnvironment env = .error fault ↔ IsFirst env fault
  /-- No other variable has a part in it. -/
  others : ∀ env', (∀ name, name = .accountsUrl ∨ name = .profilesUrl ∨ name = .strategy →
    env' name = env name) →
    ∀ fault, ofEnvironment env' = .error fault ↔ ofEnvironment env = .error fault
  wellFormed : ∀ s, ofEnvironment env = .ok s → WellFormed env s

theorem IsFirst.congr {env' : Environment} (accounts : env' .accountsUrl = env .accountsUrl)
    (profiles : env' .profilesUrl = env .profilesUrl) (strategy : env' .strategy = env .strategy)
    (h : IsFirst env fault) : IsFirst env' fault := by
  have same : ∀ name, env' name = env name → ¬Misaddressed env name → ¬Misaddressed env' name := by
    intro name hname h
    unfold Misaddressed
    rwa [hname]
  cases h with
  | accounts given nonempty h => exact .accounts (accounts.trans given) nonempty h
  | profiles before given nonempty h =>
    exact .profiles (same _ accounts before) (profiles.trans given) nonempty h
  | strategy before before' given periodic fullBus =>
    exact .strategy (same _ accounts before) (same _ profiles before') (strategy.trans given)
      periodic fullBus

/-- The settings are refused exactly for an address or a strategy that cannot be used, the first of
which is told, and else they are well formed. -/
theorem settings_are_checked (env : Environment) : Checked env where
  fails := by
    rw [← exists_isFirst_iff]
    exact exists_congr fun _ => ofEnvironment_eq_error_iff
  first _ := ofEnvironment_eq_error_iff
  others env' same fault := by
    have accounts := same .accountsUrl (.inl rfl)
    have profiles := same .profilesUrl (.inr (.inl rfl))
    have strategy := same .strategy (.inr (.inr rfl))
    rw [ofEnvironment_eq_error_iff, ofEnvironment_eq_error_iff]
    exact ⟨.congr accounts.symm profiles.symm strategy.symm, .congr accounts profiles strategy⟩
  wellFormed _ h := wellFormed_of_eq_ok h

end SkinRelay.Settings
