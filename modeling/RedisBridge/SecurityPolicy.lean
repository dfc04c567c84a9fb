import RedisBridge.Commands
import RedisBridge.Fallible
import RedisBridge.TokenType
import Mathlib.Data.Finset.Sort
import Mathlib.Data.String.Basic

/-!
The command policy: which command arrays a token may send, and with which name
and argument bytes they are forwarded. The allowlist and the block list are
sets of normalised names; the hard deny list has one exception for each scoped
profile. `SCRIPT` under a ratelimit token is checked by its subcommand instead
of by the deny list.
-/
namespace RedisBridge.Security

open Commands Fallible RustText TokenType

/-- A JSON number as serde_json keeps it, with the text it prints for a float. -/
inductive Number
  | posInt (value : U64)
  | negInt (magnitude : U64)
  | float (printed : String)
  deriving DecidableEq

inductive CommandArg
  | string (value : String)
  | number (value : Number)
  | bool (value : Bool)
  | null
  deriving DecidableEq

structure RedisCommand where
  name : String
  args : List (List UInt8)
  deriving DecidableEq

def Number.toText : Number → String
  | .posInt value => toString value.val
  | .negInt magnitude => s!"-{magnitude.val}"
  | .float printed => printed

namespace CommandArg

def asCommandName : CommandArg → Option String
  | .string value => some value
  | _ => none

def toArgBytes (maxArgBytes : ℕ) (arg : CommandArg) : Except String (List UInt8) := do
  let bytes ← match arg with
    | .string value => .ok (asBytes value)
    | .number value => .ok (asBytes value.toText)
    | .bool value => .ok (asBytes (if value then "true" else "false"))
    | .null => .error "Invalid Redis argument. Null values are not supported."
  bailIf (maxArgBytes < bytes.length) (s!"Redis argument is too large. " ++
    s!"Maximum allowed bytes per argument: {maxArgBytes}.")
  pure bytes

end CommandArg

/-! The deny list, `security/deny.rs`. -/

def isDeniedCommand (commandName : String) (allowRatelimit allowRealtime : Bool) : Bool :=
  if allowRatelimit && commandName ∈ ratelimitCommands then false
  else if allowRealtime && commandName ∈ realtimeCommands then false
  else commandName ∈ deniedCommands

def rejectCommand (commandName : String) (allowRatelimit allowRealtime : Bool) :
    Except String Unit :=
  bailIf (isDeniedCommand commandName allowRatelimit allowRealtime = true)
    s!"Redis command is hard-denied by bridge policy: {commandName}"

/-! The subcommands of `SCRIPT`, `security/script.rs`. -/

def validateFlushMode (array : List CommandArg) : Except String Unit := do
  bailIf (3 < array.length) "SCRIPT FLUSH accepts at most one optional mode argument."
  match array[2]? with
  | none => pure ()
  | some arg =>
      let mode ← okOr (arg.asCommandName.map normalise) "SCRIPT FLUSH mode must be a string."
      bailIf (mode ≠ "SYNC" ∧ mode ≠ "ASYNC") "SCRIPT FLUSH mode must be SYNC or ASYNC."

def validateSubcommand (array : List CommandArg) : Except String Unit := do
  let subcommand ← okOr ((array[1]?.bind CommandArg.asCommandName).map normalise)
    "SCRIPT requires a subcommand."
  if subcommand = "LOAD" then
    bailIf (array.length ≠ 3) "SCRIPT LOAD requires exactly one script argument."
  else if subcommand = "EXISTS" then
    bailIf (array.length < 3) "SCRIPT EXISTS requires at least one SHA argument."
  else if subcommand = "FLUSH" then validateFlushMode array
  else if subcommand = "KILL" ∨ subcommand = "DEBUG" then
    .error s!"SCRIPT {subcommand} is blocked by bridge policy."
  else .error s!"SCRIPT subcommand is not allowed by bridge policy: {subcommand}"

/-! The policy itself, `security/policy.rs`. -/

structure SecurityPolicy where
  allowedCommands : Finset String
  blockedCommands : Finset String
  maxPipelineCommands : Usize
  maxCommandArgs : Usize
  maxArgBytes : Usize

namespace SecurityPolicy

/-- The allowlist entries that `validate` refuses. -/
def hardDeniedAllowed (policy : SecurityPolicy) : Finset String :=
  policy.allowedCommands.filter (fun command => isDeniedCommand command false false = true)

/-- The refused names are listed in alphabetical order; the source lists them in
the order of its hash set, which is unspecified. -/
def validate (policy : SecurityPolicy) : Except String Unit := do
  bailIf (policy.allowedCommands = ∅)
    "RRB_ALLOWED_COMMANDS must not be empty. The bridge fails closed by default."
  bailIf (policy.hardDeniedAllowed ≠ ∅) ("hard-denied Redis commands cannot be allowed: " ++
    ",".intercalate (policy.hardDeniedAllowed.sort (· ≤ ·)))

/-- The normalised name of a command array of admissible length. -/
def commandName (policy : SecurityPolicy) (array : List CommandArg) : Except String String := do
  bailIf (array = []) "Invalid command array. Command cannot be empty."
  bailIf (saturatingAdd policy.maxCommandArgs.val 1 < array.length)
    (s!"Command has too many arguments. " ++
      s!"Maximum allowed arguments: {policy.maxCommandArgs.val}.")
  let raw ← okOr (array.head?.bind CommandArg.asCommandName)
    "Invalid command array. First item must be a Redis command string."
  bailIf (normalise raw = "") "Invalid command array. Command cannot be empty."
  pure (normalise raw)

/-- `SCRIPT` under a ratelimit token is judged by its subcommand, every other
command by the deny list. -/
def denyCheck (array : List CommandArg) (tokenType : TokenCaps) (name : String) :
    Except String Unit :=
  if name = "SCRIPT" ∧ tokenType.allowsRatelimit = true then validateSubcommand array
  else rejectCommand name tokenType.allowsRatelimit tokenType.allowsRealtime

/-- The deny, allow and block checks of a named command. -/
def accessCheck (policy : SecurityPolicy) (array : List CommandArg) (tokenType : TokenCaps)
    (name : String) : Except String Unit := do
  denyCheck array tokenType name
  let standardAllowed := tokenType.allowsCommand && name ∈ policy.allowedCommands
  let ratelimitAllowed := tokenType.allowsRatelimit && name ∈ ratelimitCommands
  let realtimeAllowed := tokenType.allowsRealtime && name ∈ realtimeCommands
  bailIf ((!standardAllowed && !ratelimitAllowed && !realtimeAllowed) = true)
    s!"Redis command is not allowed for this token type: {name}"
  bailIf (name ∈ policy.blockedCommands) s!"Redis command is blocked by policy: {name}"

def parseCommandArray (policy : SecurityPolicy) (array : List CommandArg)
    (tokenType : TokenCaps) : Except String RedisCommand := do
  let name ← policy.commandName array
  policy.accessCheck array tokenType name
  let args ← (array.drop 1).mapM (CommandArg.toArgBytes policy.maxArgBytes.val)
  pure ⟨name, args⟩

def parseCommand (policy : SecurityPolicy) (array : List CommandArg) (tokenType : TokenCaps) :
    Except String RedisCommand :=
  policy.parseCommandArray array tokenType

def parseCommandList (policy : SecurityPolicy) (commands : List (List CommandArg))
    (tokenType : TokenCaps) : Except String (List RedisCommand) := do
  bailIf (policy.maxPipelineCommands.val < commands.length)
    (s!"Pipeline is too large. " ++
      s!"Maximum allowed commands: {policy.maxPipelineCommands.val}.")
  commands.mapM (fun command => policy.parseCommandArray command tokenType)

/-! What an accepted array says about each check. -/

theorem parseCommandArray_eq_ok (policy : SecurityPolicy) (array : List CommandArg)
    (tokenType : TokenCaps) (command : RedisCommand) :
    policy.parseCommandArray array tokenType = .ok command ↔
      policy.commandName array = .ok command.name ∧
      policy.accessCheck array tokenType command.name = .ok () ∧
      (array.drop 1).mapM (CommandArg.toArgBytes policy.maxArgBytes.val) = .ok command.args := by
  simp only [parseCommandArray, bind_eq_ok, pure_eq_ok]
  constructor
  · rintro ⟨name, hname, _, haccess, args, hargs, rfl⟩
    exact ⟨hname, haccess, hargs⟩
  · rintro ⟨hname, haccess, hargs⟩
    exact ⟨command.name, hname, (), haccess, command.args, hargs, rfl⟩

theorem isDeniedCommand_eq_false (name : String) (allowRatelimit allowRealtime : Bool) :
    isDeniedCommand name allowRatelimit allowRealtime = false ↔
      name ∉ deniedCommands ∨ (allowRatelimit = true ∧ name ∈ ratelimitCommands) ∨
        (allowRealtime = true ∧ name ∈ realtimeCommands) := by
  unfold isDeniedCommand
  split_ifs with hratelimit hrealtime
  · simp only [Bool.and_eq_true, decide_eq_true_eq] at hratelimit
    simp [hratelimit]
  · simp only [Bool.and_eq_true, decide_eq_true_eq] at hrealtime
    simp [hrealtime]
  · simp only [Bool.and_eq_true, decide_eq_true_eq] at hratelimit hrealtime
    simp [hratelimit, hrealtime]

theorem denyCheck_eq_ok (array : List CommandArg) (tokenType : TokenCaps) (name : String) :
    denyCheck array tokenType name = .ok () ↔
      (name = "SCRIPT" ∧ tokenType.ratelimit = true → validateSubcommand array = .ok ()) ∧
      (name ∉ deniedCommands ∨ (tokenType.ratelimit = true ∧ name ∈ ratelimitCommands) ∨
        (tokenType.realtime = true ∧ name ∈ realtimeCommands)) := by
  unfold denyCheck TokenCaps.allowsRatelimit TokenCaps.allowsRealtime
  split_ifs with hscript
  · have hmem : name ∈ ratelimitCommands := hscript.1 ▸ script_mem_ratelimit
    constructor
    · intro hvalid
      exact ⟨fun _ => hvalid, Or.inr (Or.inl ⟨hscript.2, hmem⟩)⟩
    · rintro ⟨hvalid, _⟩
      exact hvalid hscript
  · rw [rejectCommand, bailIf_eq_ok, Bool.not_eq_true, isDeniedCommand_eq_false]
    simp only [hscript, false_implies, true_and]

/-- The profiles that admit a command, each capability on its own: the
allowlist outside the deny list, the ratelimit profile, the realtime profile. -/
theorem accessCheck_eq_ok (policy : SecurityPolicy) (array : List CommandArg) (tokenType : TokenCaps)
    (name : String) :
    policy.accessCheck array tokenType name = .ok () ↔
      name ∉ policy.blockedCommands ∧
      ((tokenType.command = true ∧ name ∈ policy.allowedCommands ∧ name ∉ deniedCommands) ∨
        (tokenType.ratelimit = true ∧ name ∈ ratelimitCommands) ∨
        (tokenType.realtime = true ∧ name ∈ realtimeCommands)) ∧
      (name = "SCRIPT" ∧ tokenType.ratelimit = true → validateSubcommand array = .ok ()) := by
  have haccess : policy.accessCheck array tokenType name = .ok () ↔
      denyCheck array tokenType name = .ok () ∧
      ((tokenType.command = true ∧ name ∈ policy.allowedCommands) ∨
        (tokenType.ratelimit = true ∧ name ∈ ratelimitCommands) ∨
        (tokenType.realtime = true ∧ name ∈ realtimeCommands)) ∧
      name ∉ policy.blockedCommands := by
    simp only [accessCheck, check_eq_ok, bailIf_eq_ok, TokenCaps.allowsCommand,
      TokenCaps.allowsRatelimit, TokenCaps.allowsRealtime, Bool.and_eq_true, Bool.not_eq_true',
      Bool.and_eq_false_iff, decide_eq_false_iff_not, not_and_or, not_or, Bool.not_eq_false,
      not_not, or_assoc]
  rw [haccess, denyCheck_eq_ok]
  constructor
  · rintro ⟨⟨hscript, hdeny⟩, hgrant, hblock⟩
    refine ⟨hblock, ?_, hscript⟩
    rcases hdeny with hfree | hratelimit | hrealtime
    · rcases hgrant with hstandard | hscoped
      · exact Or.inl ⟨hstandard.1, hstandard.2, hfree⟩
      · exact Or.inr hscoped
    · exact Or.inr (Or.inl hratelimit)
    · exact Or.inr (Or.inr hrealtime)
  · rintro ⟨hblock, hgrant, hscript⟩
    rcases hgrant with ⟨hcommand, hallowed, hfree⟩ | hratelimit | hrealtime
    · exact ⟨⟨hscript, Or.inl hfree⟩, Or.inl ⟨hcommand, hallowed⟩, hblock⟩
    · exact ⟨⟨hscript, Or.inr (Or.inl hratelimit)⟩, Or.inr (Or.inl hratelimit), hblock⟩
    · exact ⟨⟨hscript, Or.inr (Or.inr hrealtime)⟩, Or.inr (Or.inr hrealtime), hblock⟩

end SecurityPolicy

end RedisBridge.Security
