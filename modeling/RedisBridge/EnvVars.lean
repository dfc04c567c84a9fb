import RedisBridge.Fallible
import RedisBridge.RustText
import Mathlib.Data.Finset.Dedup
import Mathlib.Data.String.Basic

/-!
Reading the environment. A variable is a text, absent, or not Unicode; the three
are told apart by the parsers that must not fall back to a default silently, and
run together by the readers that only look for a value.
-/
namespace RedisBridge.EnvVars

open Fallible RustText

inductive VarError
  | notPresent
  | notUnicode
  deriving DecidableEq

/-- Startup errors: a variable with its unusable value, an unreadable variable,
a failure of another part under its context, or a finished text. -/
inductive ConfigError
  | invalidValue (key value : String)
  | unreadable (key : String) (error : VarError)
  | context (text : String) (cause : ConfigError)
  | message (text : String)
  deriving DecidableEq

/-- What the process reads from outside: its variables and its files. -/
structure Env where
  var : String → Except VarError String
  readToString : String → Except String String

/-- An environment of listed variables, without readable files. -/
def Env.ofVars (vars : List (String × String)) : Env where
  var := fun key => match vars.lookup key with
    | some value => .ok value
    | none => .error .notPresent
  readToString := fun _ => .error "No such file or directory (os error 2)"

def asConfigError {α : Type} (x : Except String α) : Except ConfigError α :=
  x.mapError .message

def parseEnvOrDefault (env : Env) (key : String) {bound : ℕ} (default : Fin bound) :
    Except ConfigError (Fin bound) :=
  match env.var key with
  | .ok value => okOr (parseUnsigned bound value) (.invalidValue key value)
  | .error .notPresent => .ok default
  | .error error => .error (.unreadable key error)

def parseEnvFirst (env : Env) {bound : ℕ} (default : Fin bound) :
    List String → Except ConfigError (Fin bound)
  | [] => .ok default
  | key :: keys =>
      match env.var key with
      | .ok value => okOr (parseUnsigned bound value) (.invalidValue key value)
      | .error .notPresent => parseEnvFirst env default keys
      | .error error => .error (.unreadable key error)

/-- The non-empty normal forms of a list of command names. -/
def parseCommandList (commands : List String) : Finset String :=
  ((commands.map normalise).filter (· ≠ "")).toFinset

def parseCsv (value : String) : Finset String := parseCommandList (split ',' value)

def parseCsvEnvFirst (env : Env) : List String → Except ConfigError (Option (Finset String))
  | [] => .ok none
  | key :: keys =>
      match env.var key with
      | .ok value => .ok (some (parseCsv value))
      | .error .notPresent => parseCsvEnvFirst env keys
      | .error error => .error (.unreadable key error)

def parseBoolEnv (env : Env) (key : String) (default : Bool) : Except ConfigError Bool :=
  match env.var key with
  | .ok value =>
      let other := toAsciiLowercase (trim value)
      if other ∈ ["1", "true", "yes", "on"] then .ok true
      else if other ∈ ["0", "false", "no", "off"] then .ok false
      else .error (.message s!"{key} must be a boolean value, got: {other}")
  | .error .notPresent => .ok default
  | .error error => .error (.unreadable key error)

def envFirst (env : Env) (keys : List String) : Option String :=
  keys.findSome? (fun key => (env.var key).toOption)

def envOr (env : Env) (key fallback : String) : String :=
  ((env.var key).toOption).getD fallback

/-- A trimmed value, dropped when nothing is left. -/
def trimmed (value : Option String) : Option String :=
  (value.map trim).filter (· ≠ "")

theorem mem_parseCommandList (commands : List String) (name : String) :
    name ∈ parseCommandList commands ↔ name ≠ "" ∧ ∃ item ∈ commands, normalise item = name := by
  simp only [parseCommandList, List.mem_toFinset, List.mem_filter, List.mem_map,
    decide_eq_true_eq]
  exact and_comm

theorem mem_parseCsv (value name : String) :
    name ∈ parseCsv value ↔ name ≠ "" ∧ ∃ item ∈ split ',' value, normalise item = name :=
  mem_parseCommandList _ _

/-- One variable read as a command list: its items when it is set, nothing when
it is absent. -/
theorem parseCsvEnvFirst_eq_ok (env : Env) (key : String) (items : Option (Finset String)) :
    parseCsvEnvFirst env [key] = .ok items ↔
      (∃ value, env.var key = .ok value ∧ items = some (parseCsv value)) ∨
        (env.var key = .error .notPresent ∧ items = none) := by
  unfold parseCsvEnvFirst parseCsvEnvFirst
  rcases env.var key with (_ | _) | value
  · simp [eq_comm]
  · simp
  · simp [eq_comm]

end RedisBridge.EnvVars
