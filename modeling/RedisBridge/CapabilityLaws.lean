import RedisBridge.SecurityPolicy
import Mathlib.Data.Set.Lattice

/-!
What a token can reach, as a set of command names: the union of the profiles
its capabilities open, less the blocked names. The deny, allow and block checks
of the policy compute membership in this set, so that accepting a command array
distributes over the union of capabilities.
-/
namespace RedisBridge.Security

open Commands Fallible RustText TokenType

/-- The three capabilities a token may carry. -/
inductive Capability
  | command
  | ratelimit
  | realtime
  deriving DecidableEq

/-- The capabilities a token carries, as a set. -/
def capabilities (tokenType : TokenCaps) : Set Capability :=
  {k | match k with
    | .command => tokenType.command = true
    | .ratelimit => tokenType.ratelimit = true
    | .realtime => tokenType.realtime = true}

theorem capabilities_union (a b : TokenCaps) :
    capabilities (a.union b) = capabilities a ∪ capabilities b := by
  ext k
  cases k with
  | command => simp [capabilities, TokenCaps.union]
  | ratelimit => simp [capabilities, TokenCaps.union]
  | realtime => simp [capabilities, TokenCaps.union]

namespace SecurityPolicy

/-- The names one capability opens under a policy. -/
def profile (policy : SecurityPolicy) : Capability → Set String
  | .command => {name | name ∈ policy.allowedCommands ∧ name ∉ deniedCommands}
  | .ratelimit => {name | name ∈ ratelimitCommands}
  | .realtime => {name | name ∈ realtimeCommands}

/-- The names a token can reach under a policy. -/
def reach (policy : SecurityPolicy) (tokenType : TokenCaps) : Set String :=
  (⋃ k ∈ capabilities tokenType, policy.profile k) \ policy.blockedCommands

theorem mem_reach (policy : SecurityPolicy) (tokenType : TokenCaps) (name : String) :
    name ∈ policy.reach tokenType ↔ name ∉ policy.blockedCommands ∧
      ((tokenType.command = true ∧ name ∈ policy.allowedCommands ∧ name ∉ deniedCommands) ∨
        (tokenType.ratelimit = true ∧ name ∈ ratelimitCommands) ∨
        (tokenType.realtime = true ∧ name ∈ realtimeCommands)) := by
  unfold reach
  rw [Set.mem_sdiff, Set.mem_iUnion₂, Finset.mem_coe, and_comm]
  refine and_congr_right fun _ => ?_
  constructor
  · rintro ⟨k, hk, hname⟩
    cases k with
    | command => exact Or.inl ⟨hk, hname⟩
    | ratelimit => exact Or.inr (Or.inl ⟨hk, hname⟩)
    | realtime => exact Or.inr (Or.inr ⟨hk, hname⟩)
  · rintro (⟨hk, hname⟩ | ⟨hk, hname⟩ | ⟨hk, hname⟩)
    · exact ⟨.command, hk, hname⟩
    · exact ⟨.ratelimit, hk, hname⟩
    · exact ⟨.realtime, hk, hname⟩

/-- Reaching a name distributes over the union of two tokens' capabilities. -/
theorem reach_union (policy : SecurityPolicy) (a b : TokenCaps) :
    policy.reach (a.union b) = policy.reach a ∪ policy.reach b := by
  unfold reach
  rw [capabilities_union, Set.biUnion_union, Set.union_sdiff_distrib]

/-- A hard-denied name is reached only through the profile that scopes it. -/
theorem scoped_of_mem_reach (policy : SecurityPolicy) (tokenType : TokenCaps) (name : String)
    (hreach : name ∈ policy.reach tokenType) (hdenied : name ∈ deniedCommands) :
    (name ∈ ratelimitCommands ∧ tokenType.ratelimit = true) ∨
      (name ∈ realtimeCommands ∧ tokenType.realtime = true) := by
  obtain ⟨_, hgrant⟩ := (policy.mem_reach tokenType name).mp hreach
  rcases hgrant with ⟨_, _, hfree⟩ | ⟨hcap, hname⟩ | ⟨hcap, hname⟩
  · exact absurd hdenied hfree
  · exact Or.inl ⟨hname, hcap⟩
  · exact Or.inr ⟨hname, hcap⟩

theorem ratelimit_of_script (policy : SecurityPolicy) (tokenType : TokenCaps)
    (hreach : "SCRIPT" ∈ policy.reach tokenType) : tokenType.ratelimit = true := by
  have hdenied := ratelimit_subset_denied _ script_mem_ratelimit
  rcases policy.scoped_of_mem_reach tokenType _ hreach hdenied with ⟨_, hcap⟩ | ⟨hname, _⟩
  · exact hcap
  · exact absurd hname (ratelimit_disjoint_realtime _ script_mem_ratelimit)

/-- The checks of the policy compute reachability; `SCRIPT` is also judged by
its subcommand, whatever other capabilities the token has. -/
theorem accessCheck_iff_reach (policy : SecurityPolicy) (array : List CommandArg)
    (tokenType : TokenCaps) (name : String) :
    policy.accessCheck array tokenType name = .ok () ↔
      name ∈ policy.reach tokenType ∧
        (name = "SCRIPT" → validateSubcommand array = .ok ()) := by
  rw [accessCheck_eq_ok, mem_reach, ← and_assoc, and_congr_right_iff]
  intro hgrant
  constructor
  · rintro hscript rfl
    exact hscript ⟨rfl, policy.ratelimit_of_script tokenType ((policy.mem_reach _ _).mpr hgrant)⟩
  · rintro hscript ⟨hname, _⟩
    exact hscript hname

/-- An accepted array, with the capabilities in one place only. -/
theorem parseCommand_eq_ok (policy : SecurityPolicy) (array : List CommandArg)
    (tokenType : TokenCaps) (command : RedisCommand) :
    policy.parseCommand array tokenType = .ok command ↔
      policy.commandName array = .ok command.name ∧
      command.name ∈ policy.reach tokenType ∧
      (command.name = "SCRIPT" → validateSubcommand array = .ok ()) ∧
      (array.drop 1).mapM (CommandArg.toArgBytes policy.maxArgBytes.val) = .ok command.args := by
  rw [parseCommand, parseCommandArray_eq_ok, accessCheck_iff_reach, and_assoc]

theorem commandName_eq_ok (policy : SecurityPolicy) (array : List CommandArg) (name : String) :
    policy.commandName array = .ok name ↔
      array.length ≤ saturatingAdd policy.maxCommandArgs.val 1 ∧ name ≠ "" ∧
      ∃ raw rest, array = .string raw :: rest ∧ normalise raw = name := by
  simp only [commandName, bind_eq_ok, bailIf_eq_ok, okOr_eq_ok, pure_eq_ok, not_lt]
  constructor
  · rintro ⟨_, _, _, hlength, raw, hraw, _, hname, rfl⟩
    refine ⟨hlength, hname, raw, ?_⟩
    cases array with
    | nil => cases hraw
    | cons first rest =>
      cases first with
      | string value =>
        obtain rfl : value = raw := Option.some.inj hraw
        exact ⟨rest, rfl, rfl⟩
      | number value => cases hraw
      | bool value => cases hraw
      | null => cases hraw
  · rintro ⟨hlength, hname, raw, rest, rfl, rfl⟩
    exact ⟨(), List.cons_ne_nil _ _, (), hlength, raw, rfl, (), hname, rfl⟩

/-- A batch is accepted exactly when it fits the limit and each array is
accepted, with one command each, in order. -/
theorem parseCommandList_eq_ok (policy : SecurityPolicy) (commands : List (List CommandArg))
    (tokenType : TokenCaps) (accepted : List RedisCommand) :
    policy.parseCommandList commands tokenType = .ok accepted ↔
      commands.length ≤ policy.maxPipelineCommands.val ∧
      List.Forall₂ (fun array command => policy.parseCommand array tokenType = .ok command)
        commands accepted := by
  unfold parseCommandList parseCommand
  rw [check_eq_ok, bailIf_eq_ok, mapM_eq_ok, not_lt]

end SecurityPolicy

/-- Commands that change the state of a shared connection. -/
def connectionCommands : List String :=
  ["MULTI", "EXEC", "WATCH", "DISCARD", "SELECT", "AUTH", "HELLO", "RESET", "SUBSCRIBE"]

theorem connection_subset_denied : ∀ c ∈ connectionCommands, c ∈ deniedCommands := by decide

theorem connection_unscoped :
    ∀ c ∈ connectionCommands, c ∉ ratelimitCommands ∧ c ∉ realtimeCommands := by decide

namespace SecurityPolicy

theorem connection_unreachable (policy : SecurityPolicy) (tokenType : TokenCaps) (name : String)
    (hname : name ∈ connectionCommands) : name ∉ policy.reach tokenType := by
  intro hreach
  have hscoped := policy.scoped_of_mem_reach tokenType name hreach
    (connection_subset_denied name hname)
  obtain ⟨hratelimit, hrealtime⟩ := connection_unscoped name hname
  rcases hscoped with ⟨h, _⟩ | ⟨h, _⟩
  · exact hratelimit h
  · exact hrealtime h

theorem connection_rejected (policy : SecurityPolicy) (raw : String) (rest : List CommandArg)
    (tokenType : TokenCaps) (command : RedisCommand)
    (hname : normalise raw ∈ connectionCommands) :
    policy.parseCommand (.string raw :: rest) tokenType ≠ .ok command := by
  intro haccept
  obtain ⟨hcommand, hreach, _⟩ := (policy.parseCommand_eq_ok _ _ _).mp haccept
  obtain ⟨_, _, raw', rest', harray, hnormal⟩ := (policy.commandName_eq_ok _ _).mp hcommand
  obtain ⟨rfl, rfl⟩ : raw = raw' ∧ rest = rest' := by simpa using harray
  exact policy.connection_unreachable tokenType _ hname (hnormal ▸ hreach)

/-- Capabilities compose without escalation: acceptance under a union is
acceptance under one of the parts, with the same command; a hard-denied command
is only accepted through its scoped profile; and a command that would change
the state of a shared connection is accepted neither alone nor in a batch. -/
theorem capabilities_compose (policy : SecurityPolicy) (c₁ c₂ : TokenCaps)
    (array : List CommandArg) :
    (∀ command, policy.parseCommand array (c₁.union c₂) = .ok command ↔
      policy.parseCommand array c₁ = .ok command ∨
        policy.parseCommand array c₂ = .ok command) ∧
    (∀ tokenType command, policy.parseCommand array tokenType = .ok command →
      command.name ∈ deniedCommands →
        (command.name ∈ ratelimitCommands ∧ tokenType.ratelimit = true) ∨
          (command.name ∈ realtimeCommands ∧ tokenType.realtime = true)) ∧
    (∀ raw rest tokenType command, normalise raw ∈ connectionCommands →
      policy.parseCommand (.string raw :: rest) tokenType ≠ .ok command) ∧
    (∀ commands tokenType accepted, policy.parseCommandList commands tokenType = .ok accepted →
      (∀ command ∈ accepted, command.name ∈ deniedCommands →
        (command.name ∈ ratelimitCommands ∧ tokenType.ratelimit = true) ∨
          (command.name ∈ realtimeCommands ∧ tokenType.realtime = true)) ∧
      ∀ raw rest, .string raw :: rest ∈ commands → normalise raw ∉ connectionCommands) := by
  have hscoped : ∀ array tokenType command,
      policy.parseCommand array tokenType = .ok command → command.name ∈ deniedCommands →
        (command.name ∈ ratelimitCommands ∧ tokenType.ratelimit = true) ∨
          (command.name ∈ realtimeCommands ∧ tokenType.realtime = true) := by
    intro array tokenType command haccept
    obtain ⟨_, hreach, _⟩ := (policy.parseCommand_eq_ok _ _ _).mp haccept
    exact policy.scoped_of_mem_reach tokenType _ hreach
  refine ⟨?_, hscoped array, ?_, ?_⟩
  · intro command
    simp only [parseCommand_eq_ok, reach_union, Set.mem_union]
    tauto
  · intro raw rest tokenType command hname
    exact policy.connection_rejected raw rest tokenType command hname
  · intro commands tokenType accepted haccept
    obtain ⟨_, hall⟩ := (policy.parseCommandList_eq_ok _ _ _).mp haccept
    constructor
    · intro command hcommand
      obtain ⟨array, _, harray⟩ := exists_left_of_mem hall command hcommand
      exact hscoped array tokenType command harray
    · intro raw rest hmem hname
      obtain ⟨command, _, harray⟩ := exists_right_of_mem hall _ hmem
      exact policy.connection_rejected raw rest tokenType command hname harray

end SecurityPolicy

end RedisBridge.Security
