import RedisBridge.BridgeConfig
import RedisBridge.CapabilityLaws
import RedisBridge.TrimmedText

/-!
The policy that an environment puts into effect. The environment names two sets
of commands; validation keeps the first clear of the deny list, and the default
block list stays clear of both scoped profiles, so that the commands a token
reaches are the allowed names and its profiles, less the names blocked by the
environment.
-/
namespace RedisBridge.EffectivePolicy

open BridgeConfig Commands EnvVars Fallible RustText Security Targets TokenType TrimmedText

/-- The normalised items of a comma-separated variable; another set when it is
not set. -/
def namesOf (env : Env) (key : String) (otherwise : Set String) : Set String :=
  match env.var key with
  | .ok value => {name | name ≠ "" ∧ ∃ item ∈ split ',' value, normalise item = name}
  | .error _ => otherwise

def allowedNames (env : Env) : Set String :=
  namesOf env "RRB_ALLOWED_COMMANDS" {name | name ∈ allowedCommands}

def blockedNames (env : Env) : Set String := namesOf env "RRB_BLOCKED_COMMANDS" ∅

/-- The bytes an argument stands for; a null stands for none. -/
def sentBytes : CommandArg → Option (List UInt8)
  | .string value => some (asBytes value)
  | .number value => some (asBytes value.toText)
  | .bool value => some (asBytes (if value then "true" else "false"))
  | .null => none

theorem toArgBytes_eq_ok (maxArgBytes : ℕ) (arg : CommandArg) (bytes : List UInt8) :
    arg.toArgBytes maxArgBytes = .ok bytes ↔
      sentBytes arg = some bytes ∧ bytes.length ≤ maxArgBytes := by
  have hbounded : ∀ (text : List UInt8) (error : String),
      ((Except.ok text : Except String (List UInt8)) >>= fun sent => do
        bailIf (maxArgBytes < sent.length) error
        pure sent) = .ok bytes ↔ some text = some bytes ∧ bytes.length ≤ maxArgBytes := by
    intro text error
    simp only [bind_eq_ok, bailIf_eq_ok, pure_eq_ok, not_lt, Except.ok.injEq, Option.some.injEq]
    constructor
    · rintro ⟨_, rfl, _, hlength, rfl⟩
      exact ⟨rfl, hlength⟩
    · rintro ⟨rfl, hlength⟩
      exact ⟨text, rfl, (), hlength, rfl⟩
  cases arg with
  | string value => exact hbounded _ _
  | number value => exact hbounded _ _
  | bool value => exact hbounded _ _
  | null => simp [CommandArg.toArgBytes, sentBytes, bind_eq_ok]

/-- The character is neither blank nor a small letter. -/
def isCapital (c : Char) : Bool := 33 ≤ c.toNat && c.toNat ≤ 96

theorem toUpper_of_isCapital (c : Char) (h : isCapital c = true) : c.toUpper = c := by
  rw [isCapital, Bool.and_eq_true, decide_eq_true_iff, decide_eq_true_iff] at h
  unfold Char.toUpper
  rw [dif_neg]
  intro hlower
  have hletter : 97 ≤ c.toNat := UInt32.le_iff_toNat_le.mp hlower.1
  omega

theorem isWhitespace_of_isCapital (c : Char) (h : isCapital c = true) : isWhitespace c = false := by
  rw [isCapital, Bool.and_eq_true, decide_eq_true_iff, decide_eq_true_iff] at h
  exact isWhitespace_of_visible c (by omega)

/-- A name of capitals is its own normal form. -/
theorem normalise_capitals (s : String) (h : s.toList.all isCapital = true) : normalise s = s := by
  rw [List.all_eq_true] at h
  have hupper : s.toList.map Char.toUpper = s.toList := by
    have hsame := List.map_congr_left (g := id) (fun c hc => toUpper_of_isCapital c (h c hc))
    rw [hsame, List.map_id]
  have htrim : trim s = s := trimMatches_of_clear isWhitespace s
    (clear_of_forall isWhitespace s.toList (fun c hc => isWhitespace_of_isCapital c (h c hc)))
  rw [normalise, toAsciiUppercase, htrim, hupper, String.ofList_toList]

/-- A table of capitals holds normal names. -/
theorem table_normal (table : List String)
    (h : table.all (fun name => name.toList.all isCapital && name != "") = true) :
    ∀ name ∈ table, normalise name = name ∧ name ≠ "" := by
  intro name hname
  have hplain := List.all_eq_true.mp h name hname
  rw [Bool.and_eq_true, bne_iff_ne] at hplain
  exact ⟨normalise_capitals name hplain.1, hplain.2⟩

theorem allowed_normal : ∀ name ∈ allowedCommands, normalise name = name ∧ name ≠ "" :=
  table_normal allowedCommands (by decide +kernel)

theorem denied_normal : ∀ name ∈ deniedCommands, normalise name = name ∧ name ≠ "" :=
  table_normal deniedCommands (by decide +kernel)

/-- A table of normal names is read as it stands. -/
theorem mem_parseCommandList_table (table : List String) (name : String)
    (hnormal : ∀ c ∈ table, normalise c = c ∧ c ≠ "") :
    name ∈ parseCommandList table ↔ name ∈ table := by
  rw [mem_parseCommandList]
  constructor
  · rintro ⟨_, item, hitem, rfl⟩
    rwa [(hnormal item hitem).1]
  · intro hname
    exact ⟨(hnormal name hname).2, name, hname, (hnormal name hname).1⟩

theorem mem_defaultBlockedCommands (name : String) :
    name ∈ defaultBlockedCommands ↔
      name ∈ deniedCommands ∧ name ∉ ratelimitCommands ∧ name ∉ realtimeCommands := by
  unfold defaultBlockedCommands
  rw [Finset.mem_filter, mem_parseCommandList_table _ _ denied_normal, List.mem_append, not_or]

/-- The two sets of an accepted environment, in the terms of its variables. -/
theorem readCommandSets_names (env : Env) (allowed blocked : Finset String)
    (h : readCommandSets env = .ok (allowed, blocked)) (name : String) :
    (name ∈ allowed ↔ name ∈ allowedNames env) ∧
      (name ∈ blocked ↔ name ∈ defaultBlockedCommands ∨ name ∈ blockedNames env) := by
  simp only [readCommandSets, bind_eq_ok, pure_eq_ok, Prod.mk.injEq] at h
  obtain ⟨first, hfirst, second, hsecond, rfl, rfl⟩ := h
  rw [parseCsvEnvFirst_eq_ok] at hfirst hsecond
  constructor
  · rcases hfirst with ⟨value, hvar, rfl⟩ | ⟨hvar, rfl⟩
    · simp [allowedNames, namesOf, hvar, mem_parseCsv]
    · simp [allowedNames, namesOf, hvar, mem_parseCommandList_table _ _ allowed_normal]
  · rw [Finset.mem_union]
    rcases hsecond with ⟨value, hvar, rfl⟩ | ⟨hvar, rfl⟩
    · simp [blockedNames, namesOf, hvar, mem_parseCsv]
    · simp [blockedNames, namesOf, hvar]

theorem validate_eq_ok (policy : SecurityPolicy) :
    policy.validate = .ok () ↔
      policy.allowedCommands ≠ ∅ ∧ ∀ name ∈ policy.allowedCommands, name ∉ deniedCommands := by
  unfold SecurityPolicy.validate SecurityPolicy.hardDeniedAllowed
  rw [check_eq_ok, bailIf_eq_ok, bailIf_eq_ok, not_not, Finset.filter_eq_empty_iff]
  simp [SecurityPolicy.isDeniedCommand_eq_false]

/-- What a token reaches under the policy of an accepted environment. -/
theorem mem_reach_of_env (crates : Crates) (env : Env) (bridge : Bridge)
    (henv : Bridge.fromEnv crates env = .ok bridge) (tokenType : TokenCaps) (name : String) :
    name ∈ bridge.security.reach tokenType ↔ name ∉ blockedNames env ∧
      ((tokenType.command = true ∧ name ∈ allowedNames env) ∨
        (tokenType.ratelimit = true ∧ name ∈ ratelimitCommands) ∨
        (tokenType.realtime = true ∧ name ∈ realtimeCommands)) := by
  obtain ⟨_, _, allowed, blocked, _, _, hsets, _, hvalid, _, hsecurity, _⟩ :=
    Bridge.fromEnv_cases crates env bridge henv
  obtain ⟨hallowed, hblocked⟩ := readCommandSets_names env allowed blocked hsets name
  have hfree : name ∈ allowedNames env → name ∉ deniedCommands := by
    intro hname
    have hmem : name ∈ bridge.security.allowedCommands := by
      rw [hsecurity]
      exact hallowed.mpr hname
    exact ((validate_eq_ok _).mp hvalid).2 name hmem
  rw [SecurityPolicy.mem_reach, hsecurity, hallowed, hblocked, mem_defaultBlockedCommands]
  constructor
  · rintro ⟨hnot, hgrant⟩
    refine ⟨fun h => hnot (Or.inr h), ?_⟩
    rcases hgrant with ⟨hcap, hname, _⟩ | hscoped
    · exact Or.inl ⟨hcap, hname⟩
    · exact Or.inr hscoped
  · rintro ⟨hnot, hgrant⟩
    rcases hgrant with ⟨hcap, hname⟩ | ⟨hcap, hname⟩ | ⟨hcap, hname⟩
    · have hdenied := hfree hname
      exact ⟨fun h => h.elim (fun h => hdenied h.1) hnot, Or.inl ⟨hcap, hname, hdenied⟩⟩
    · exact ⟨fun h => h.elim (fun h => h.2.1 hname) hnot, Or.inr (Or.inl ⟨hcap, hname⟩)⟩
    · exact ⟨fun h => h.elim (fun h => h.2.2 hname) hnot, Or.inr (Or.inr ⟨hcap, hname⟩)⟩

theorem empty_not_mem_reach (crates : Crates) (env : Env) (bridge : Bridge)
    (henv : Bridge.fromEnv crates env = .ok bridge) (tokenType : TokenCaps) :
    "" ∉ bridge.security.reach tokenType := by
  intro hreach
  obtain ⟨_, hgrant⟩ := (mem_reach_of_env crates env bridge henv tokenType "").mp hreach
  have hallowed : "" ∉ allowedNames env := by
    unfold allowedNames namesOf
    cases env.var "RRB_ALLOWED_COMMANDS" with
    | ok value => exact fun h => h.1 rfl
    | error error => exact fun h => (allowed_normal "" h).2 rfl
  rcases hgrant with ⟨_, hname⟩ | ⟨_, hname⟩ | ⟨_, hname⟩
  · exact hallowed hname
  · exact absurd hname (by decide)
  · exact absurd hname (by decide)

/-- The name of an accepted array is reached, whatever its size. -/
theorem reach_of_accepted (policy : SecurityPolicy) (tokenType : TokenCaps) (raw : String)
    (args : List CommandArg) (command : RedisCommand)
    (haccept : policy.parseCommand (.string raw :: args) tokenType = .ok command) :
    normalise raw ∈ policy.reach tokenType := by
  obtain ⟨hcommand, hreach, _⟩ := (policy.parseCommand_eq_ok _ _ _).mp haccept
  obtain ⟨_, _, raw', rest, harray, hnormal⟩ := (policy.commandName_eq_ok _ _).mp hcommand
  obtain ⟨rfl, _⟩ : raw = raw' ∧ args = rest := by simpa using harray
  rwa [hnormal]

/-- An array within the limits is accepted when its name is reached. -/
theorem accepts_iff_reach (policy : SecurityPolicy) (tokenType : TokenCaps) (raw : String)
    (args : List CommandArg) (hslice : args.length < usizeMax)
    (hcount : args.length ≤ policy.maxCommandArgs.val)
    (hargs : ∀ arg ∈ args, ∃ bytes, sentBytes arg = some bytes ∧
      bytes.length ≤ policy.maxArgBytes.val)
    (hscript : normalise raw = "SCRIPT" → validateSubcommand (.string raw :: args) = .ok ())
    (hname : "" ∉ policy.reach tokenType) :
    (∃ command, policy.parseCommand (.string raw :: args) tokenType = .ok command) ↔
      normalise raw ∈ policy.reach tokenType := by
  have hlength : (CommandArg.string raw :: args).length ≤
      saturatingAdd policy.maxCommandArgs.val 1 := by
    unfold saturatingAdd
    rw [List.length_cons]
    omega
  constructor
  · rintro ⟨command, haccept⟩
    exact reach_of_accepted policy tokenType raw args command haccept
  · intro hreach
    have hnonempty : normalise raw ≠ "" := fun h => hname (h ▸ hreach)
    have hconvert : ∀ arg ∈ args, ∃ bytes,
        arg.toArgBytes policy.maxArgBytes.val = .ok bytes := by
      intro arg harg
      obtain ⟨bytes, hbytes, hbound⟩ := hargs arg harg
      exact ⟨bytes, (toArgBytes_eq_ok _ _ _).mpr ⟨hbytes, hbound⟩⟩
    obtain ⟨sent, hsent⟩ := mapM_ok_of_forall _ args hconvert
    refine ⟨⟨normalise raw, sent⟩, (policy.parseCommand_eq_ok _ _ _).mpr ?_⟩
    refine ⟨?_, hreach, hscript, hsent⟩
    exact (policy.commandName_eq_ok _ _).mpr ⟨hlength, hnonempty, raw, args, rfl, rfl⟩

/-- The policy of an accepted environment: a command array within the limits is
accepted exactly when its normalised name is not blocked by the environment and
either allowed by it or in a scoped profile that the token has. Within the limits or
not, blocking holds for every spelling and every token, and a denied command is
accepted through its scoped profile only. -/
theorem effective_policy (crates : Crates) (env : Env) (bridge : Bridge)
    (henv : Bridge.fromEnv crates env = .ok bridge) (tokenType : TokenCaps) (raw : String)
    (args : List CommandArg) :
    (args.length < usizeMax → args.length ≤ bridge.security.maxCommandArgs.val →
      (∀ arg ∈ args, ∃ bytes, sentBytes arg = some bytes ∧
        bytes.length ≤ bridge.security.maxArgBytes.val) →
      (normalise raw = "SCRIPT" → validateSubcommand (.string raw :: args) = .ok ()) →
      ((∃ command, bridge.security.parseCommand (.string raw :: args) tokenType = .ok command) ↔
        normalise raw ∉ blockedNames env ∧
          ((tokenType.command = true ∧ normalise raw ∈ allowedNames env) ∨
            (tokenType.ratelimit = true ∧ normalise raw ∈ ratelimitCommands) ∨
            (tokenType.realtime = true ∧ normalise raw ∈ realtimeCommands)))) ∧
    (∀ value item, env.var "RRB_BLOCKED_COMMANDS" = .ok value → item ∈ split ',' value →
      normalise item = normalise raw → ∀ command,
        bridge.security.parseCommand (.string raw :: args) tokenType ≠ .ok command) ∧
    (∀ command, bridge.security.parseCommand (.string raw :: args) tokenType = .ok command →
      normalise raw ∈ deniedCommands →
        (normalise raw ∈ ratelimitCommands ∧ tokenType.ratelimit = true) ∨
          (normalise raw ∈ realtimeCommands ∧ tokenType.realtime = true)) := by
  have hmem := mem_reach_of_env crates env bridge henv tokenType
  have hempty : "" ∉ bridge.security.reach tokenType :=
    empty_not_mem_reach crates env bridge henv tokenType
  refine ⟨?_, ?_, ?_⟩
  · intro hslice hcount hargs hscript
    have haccepts := accepts_iff_reach bridge.security tokenType raw args hslice hcount hargs
      hscript hempty
    exact haccepts.trans (hmem _)
  · intro value item hvar hitem hnormal command haccept
    have hreach := reach_of_accepted bridge.security tokenType raw args command haccept
    have hne : normalise raw ≠ "" := fun h => hempty (h ▸ hreach)
    apply ((hmem _).mp hreach).1
    unfold blockedNames namesOf
    rw [hvar]
    exact ⟨hne, item, hitem, hnormal⟩
  · intro command haccept hdenied
    have hreach := reach_of_accepted bridge.security tokenType raw args command haccept
    exact bridge.security.scoped_of_mem_reach tokenType _ hreach hdenied

def getOnly : Env := Env.ofVars
  (envMode ++ [("RRB_ALLOWED_COMMANDS", " get ,Set"), ("RRB_BLOCKED_COMMANDS", "set ")])

/-- With `get` and `Set` allowed and `set` blocked, `Get` is accepted. -/
theorem effective_policy_get : ∃ bridge command,
    Bridge.fromEnv abcCrates getOnly = .ok bridge ∧
      bridge.security.parseCommand [.string "Get", .string "key"] TokenCaps.commandOnly =
        .ok command := by
  obtain ⟨bridge, hbridge, hcount, hbytes⟩ : ∃ bridge,
      Bridge.fromEnv abcCrates getOnly = .ok bridge ∧
        bridge.security.maxCommandArgs = 256 ∧ bridge.security.maxArgBytes = 262144 :=
    ⟨_, rfl, rfl, rfl⟩
  have hpolicy := effective_policy abcCrates getOnly bridge hbridge TokenCaps.commandOnly "Get"
    [.string "key"]
  have haccepts := hpolicy.1 (by decide) (by rw [hcount]; decide)
    (by
      intro arg harg
      rw [List.mem_singleton] at harg
      exact ⟨_, by rw [harg]; rfl, by rw [hbytes]; decide⟩)
    (fun h => absurd h (by decide))
  have hname : normalise "Get" = "GET" := by decide
  have hget : normalise "Get" ∉ blockedNames getOnly ∧
      normalise "Get" ∈ allowedNames getOnly := by
    rw [hname]
    constructor
    · rintro ⟨_, item, hitem, hnormal⟩
      have hsplit : split ',' "set " = ["set "] := by decide
      rw [hsplit, List.mem_singleton] at hitem
      rw [hitem] at hnormal
      exact absurd hnormal (by decide)
    · exact ⟨by decide, " get ", by decide, by decide⟩
  obtain ⟨command, haccept⟩ := haccepts.mpr ⟨hget.1, Or.inl ⟨rfl, hget.2⟩⟩
  exact ⟨bridge, command, hbridge, haccept⟩

end RedisBridge.EffectivePolicy
