import Mathlib.Logic.Function.Basic
import SkinRelay.Proofs.Settings

/-!
Empty variables. Every reader of a variable but that of the strategy takes an empty text as none, so
that an empty variable counts as one that is not set. An empty strategy is refused instead. The main
result is `empty_counts_as_unset`.
-/

namespace SkinRelay.Settings

variable {env env' : Environment} {α : Type}

/-- What is set, if an empty text counts as none. -/
def Environment.filled (env : Environment) (name : Variable) : Option String := (env name).bind nonEmpty

/-- The environment with one variable set to the empty text. -/
def Environment.emptied (env : Environment) (name : Variable) : Environment :=
  Function.update env name (some "")

/-- The environment with one variable not set. -/
def Environment.without (env : Environment) (name : Variable) : Environment :=
  Function.update env name none

/-! ### Readers -/

/-- A reader that rejects the empty text does not tell an empty variable from one that is not
set. -/
theorem bind_filled {read : String → Option α} (rejects : read "" = none) (env : Environment)
    (name : Variable) : (env name).bind read = (env.filled name).bind read := by
  unfold Environment.filled
  cases env name with
  | none => rfl
  | some text =>
    by_cases h : text = ""
    · subst h
      exact rejects
    · simp only [Option.bind_some, nonEmpty_of_ne h]

theorem webUrl_congr {name : Variable} (same : env.filled name = env'.filled name)
    (default : String) : webUrl env name default = webUrl env' name default := by
  have given : (env name).bind nonEmpty = (env' name).bind nonEmpty := same
  simp only [webUrl, given]

theorem strategy_congr (same : env .strategy = env' .strategy) : strategy env = strategy env' := by
  simp only [strategy, same]

/-- The strategy apart, only what is not empty counts. -/
theorem ofEnvironment_congr (same : ∀ name, env.filled name = env'.filled name)
    (planned : env .strategy = env' .strategy) : ofEnvironment env = ofEnvironment env' := by
  have reads : ∀ {α : Type} {read : String → Option α}, read "" = none →
      ∀ name, (env name).bind read = (env' name).bind read := by
    intro α read rejects name
    rw [bind_filled rejects env, bind_filled rejects env', same name]
  have numbers : ∀ limit name,
      (env name).bind (number? limit) = (env' name).bind (number? limit) :=
    fun limit => reads rfl
  have accounts := webUrl_congr (same .accountsUrl) accountsAddress
  have profiles := webUrl_congr (same .profilesUrl) profilesAddress
  have switches : (env .texturesEnabled).bind switch? = (env' .texturesEnabled).bind switch? :=
    reads (by decide) _
  have databases : (env .databaseUrl).bind nonEmpty = (env' .databaseUrl).bind nonEmpty :=
    same .databaseUrl
  simp only [ofEnvironment, accounts, profiles, strategy_congr planned, numbers, switches, databases]

/-! ### One variable -/

theorem filled_emptied (env : Environment) (name other : Variable) :
    (env.emptied name).filled other = (env.without name).filled other := by
  unfold Environment.filled Environment.emptied Environment.without
  by_cases h : other = name
  · subst h
    simp [nonEmpty]
  · simp only [Function.update_of_ne h]

/-- An empty strategy is no strategy that there is. -/
theorem strategy_emptied (env : Environment) :
    strategy (env.emptied .strategy) = .error (.unknownStrategy "") := by
  rw [strategy_eq_error_iff]
  exact ⟨"", Function.update_self .., by decide, by decide, rfl⟩

theorem strategy_without (env : Environment) : strategy (env.without .strategy) = .ok false := by
  simp only [strategy, Environment.without, Function.update_self]

/-- An empty strategy leaves faults of the addresses the first ones, and takes the place of the
settings otherwise. -/
theorem ofEnvironment_emptied_strategy (env : Environment) :
    ofEnvironment (env.emptied .strategy) =
      (ofEnvironment (env.without .strategy)).bind fun _ => .error (.unknownStrategy "") := by
  have accounts := webUrl_congr (filled_emptied env .strategy .accountsUrl) accountsAddress
  have profiles := webUrl_congr (filled_emptied env .strategy .profilesUrl) profilesAddress
  simp only [ofEnvironment, accounts, profiles, strategy_emptied, strategy_without]
  cases webUrl (env.without .strategy) .accountsUrl accountsAddress with
  | error fault => rfl
  | ok accountsUrl =>
    cases webUrl (env.without .strategy) .profilesUrl profilesAddress with
    | error fault => rfl
    | ok profilesUrl => rfl

/-- What comes of an empty variable in an environment. -/
structure EmptyCounts (env : Environment) : Prop where
  unset : ∀ name, name ≠ .strategy →
    ofEnvironment (env.emptied name) = ofEnvironment (env.without name)
  /-- An empty strategy is at fault, unless an address is and so comes first. -/
  strategy : ofEnvironment (env.emptied .strategy) =
    (ofEnvironment (env.without .strategy)).bind fun _ => .error (.unknownStrategy "")

/-- An empty variable counts as one that is not set, whatever the others are, except for the
strategy. -/
theorem empty_counts_as_unset (env : Environment) : EmptyCounts env where
  unset name other := by
    refine ofEnvironment_congr (filled_emptied env name) ?_
    simp only [Environment.emptied, Environment.without, Function.update_of_ne other.symm]
  strategy := ofEnvironment_emptied_strategy env

/-- With nothing set there are the default settings, and with nothing set but an empty strategy there
are none. -/
theorem empty_strategy_is_refused :
    ofEnvironment (Environment.emptied (fun _ => none) .strategy) = .error (.unknownStrategy "") ∧
      ofEnvironment (Environment.without (fun _ => none) .strategy) = .ok {} := by
  constructor
  · rfl
  · rfl

end SkinRelay.Settings
