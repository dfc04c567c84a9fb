import Mathlib.Order.Fin.Basic
import RedisBridge.Instants
import RedisBridge.RustText
import RedisBridge.WatchChannels

/-!
The connection shards of a target. Every shard has a slot for its connection,
which one supervisor fills and clears. A change of a slot is followed by three
separate steps: the gauge, the counter of available shards, and the revision
that callers wait on. What a connection is, and what a probe finds out, is left
open.
-/
namespace RedisBridge.Shards

open Instants RustText WatchChannels

variable {κ : Type}

structure ConnectionSlot (κ : Type) where
  generation : U64
  connection : Option κ

namespace ConnectionSlot

def empty : ConnectionSlot κ := ⟨0, none⟩

/-- The slot is filled under its next generation, which is never zero. -/
def connected (slot : ConnectionSlot κ) (connection : κ) : ConnectionSlot κ :=
  ⟨max (slot.generation + 1) 1, some connection⟩

/-- The slot is cleared if it still holds a connection of this generation. -/
def disconnected (slot : ConnectionSlot κ) (generation : U64) : Option (ConnectionSlot κ) :=
  if slot.generation ≠ generation ∨ slot.connection.isNone then none
  else some { slot with connection := none }

end ConnectionSlot

inductive Change
  | connected
  | disconnected
  deriving DecidableEq

/-- Where a supervisor is in `maintain_connection`. The three places that follow
a change of the slot lie within `connected` and `disconnected`. -/
inductive Place (κ : Type)
  | starting
  | loopHead
  | watching (slot : ConnectionSlot κ) (seen : ℕ)
  | probing (slot : ConnectionSlot κ)
  | connecting
  | gauging (change : Change)
  | counting (change : Change)
  | announcing (change : Change)
  | backingOff

/-- The local variables of a supervisor. -/
structure Supervisor (κ : Type) where
  place : Place κ
  backoff : Duration
  failures : ℕ
  failedProbes : ℕ

/-- A slot and its only supervisor. -/
structure Shard (κ : Type) where
  channel : Watch (ConnectionSlot κ)
  supervisor : Supervisor κ

/-- What happens to a supervisor, or what it does. -/
inductive Tick (κ : Type)
  | started
  | looked
  | changed
  | elapsed
  | probed (pong : Bool)
  | connected (connection : κ)
  | refused
  | gauged
  | counted
  | announced
  | slept

/-- What a step of a supervisor does to the target. -/
inductive Effect
  | none
  | attempted (result : String)
  | gauged (change : Change)
  | counted (change : Change)
  | announced
  deriving DecidableEq

def initialBackoff : Duration := Duration.fromMillis 250

def maxBackoff : Duration := Duration.fromSecs 5

def maxFailedProbes : ℕ := 2

namespace Shard

/-- The supervisors start one after the other, the first at once. -/
def start (index : ℕ) : Shard κ :=
  ⟨Watch.channel ConnectionSlot.empty,
    ⟨if 0 < index then .starting else .loopHead, initialBackoff, 0, 0⟩⟩

def goTo (shard : Shard κ) (place : Place κ) : Shard κ :=
  { shard with supervisor := { shard.supervisor with place := place } }

def setFailedProbes (shard : Shard κ) (failedProbes : ℕ) : Shard κ :=
  { shard with supervisor := { shard.supervisor with failedProbes := failedProbes } }

/-- The first step of `connected`. -/
def connected (shard : Shard κ) (connection : κ) : Shard κ :=
  { shard with
    channel := shard.channel.sendModify (·.connected connection) }.goTo (.gauging .connected)

/-- The first step of `disconnected`; a slot that does not match ends the call. -/
def disconnected (shard : Shard κ) (generation : U64) : Shard κ :=
  match shard.channel.sendIfModified (·.disconnected generation) with
  | (channel, true) => { shard with channel := channel }.goTo (.gauging .disconnected)
  | (channel, false) => { shard with channel := channel }.goTo .loopHead |>.setFailedProbes 0

/-- The end of `connected` or `disconnected`, and the assignments after it. -/
def finish (shard : Shard κ) : Change → Shard κ
  | .connected => { shard with supervisor := ⟨.loopHead, initialBackoff, 0, 0⟩ }
  | .disconnected => (shard.goTo .loopHead).setFailedProbes 0

/-- A probe that fails for the second time in a row gives the connection up. -/
def probeFailed (shard : Shard κ) (slot : ConnectionSlot κ) : Shard κ :=
  let failedProbes := min (shard.supervisor.failedProbes + 1) 255
  if maxFailedProbes ≤ failedProbes then
    (shard.setFailedProbes failedProbes).disconnected slot.generation
  else (shard.goTo .loopHead).setFailedProbes failedProbes

def refused (shard : Shard κ) : Shard κ :=
  { shard with supervisor := { shard.supervisor with
      place := .backingOff
      failures := saturatingAdd shard.supervisor.failures 1 } }

def slept (shard : Shard κ) : Shard κ :=
  { shard with supervisor := { shard.supervisor with
      place := .loopHead
      backoff := min (shard.supervisor.backoff.saturatingMul 2) maxBackoff } }

def looked (shard : Shard κ) : Shard κ :=
  if shard.channel.value.connection.isSome then
    shard.goTo (.watching shard.channel.value shard.channel.version)
  else shard.goTo .connecting

/-- The steps of `maintain_connection`. -/
def tick (shard : Shard κ) (tick : Tick κ) : Option (Shard κ × Effect) :=
  match shard.supervisor.place, tick with
  | .starting, .started => some (shard.goTo .loopHead, .none)
  | .loopHead, .looked => some (shard.looked, .none)
  | .watching _ seen, .changed =>
      if shard.channel.hasChanged seen then some (shard.goTo .loopHead, .none) else none
  | .watching slot _, .elapsed => some (shard.goTo (.probing slot), .none)
  | .probing _, .probed true => some ((shard.goTo .loopHead).setFailedProbes 0, .none)
  | .probing slot, .probed false => some (shard.probeFailed slot, .none)
  | .connecting, .connected connection => some (shard.connected connection, .attempted "success")
  | .connecting, .refused => some (shard.refused, .attempted "error")
  | .gauging change, .gauged => some (shard.goTo (.counting change), .gauged change)
  | .counting change, .counted => some (shard.goTo (.announcing change), .counted change)
  | .announcing change, .announced => some (shard.finish change, .announced)
  | .backingOff, .slept => some (shard.slept, .none)
  | _, _ => none

def isReady (shard : Shard κ) : Bool := shard.channel.value.connection.isSome

/-- The slot was changed and the revision is not raised yet. -/
def isMidway (shard : Shard κ) : Bool :=
  match shard.supervisor.place with
  | .gauging _ => true
  | .counting _ => true
  | .announcing _ => true
  | _ => false

theorem place_of_not_midway (shard : Shard κ) (h : shard.isMidway = false) (change : Change) :
    shard.supervisor.place ≠ .gauging change ∧ shard.supervisor.place ≠ .counting change ∧
      shard.supervisor.place ≠ .announcing change := by
  refine ⟨?_, ?_, ?_⟩
  all_goals
    intro hplace
    rw [isMidway, hplace] at h
    cases h

/-- The kinds of steps that a supervisor takes, each with its place before and
after, what becomes of the slot, and its effect. -/
inductive Move (shard shard' : Shard κ) (effect : Effect) : Prop
  | idle (before : shard.isMidway = false) (after : shard'.isMidway = false)
      (channel : shard'.channel = shard.channel)
      (effect_eq : effect = .none ∨ ∃ result, effect = .attempted result)
      (empty : shard'.supervisor.place = .connecting → shard.isReady = false)
  | filled (before : shard.supervisor.place = .connecting)
      (after : shard'.supervisor.place = .gauging .connected) (ready : shard'.isReady = true)
      (effect_eq : effect = .attempted "success")
  | cleared (slot : ConnectionSlot κ) (before : shard.supervisor.place = .probing slot)
      (after : shard'.supervisor.place = .gauging .disconnected) (ready : shard.isReady = true)
      (gone : shard'.isReady = false) (effect_eq : effect = .none)
  | gauged (change : Change) (before : shard.supervisor.place = .gauging change)
      (after : shard'.supervisor.place = .counting change)
      (channel : shard'.channel = shard.channel) (effect_eq : effect = .gauged change)
  | counted (change : Change) (before : shard.supervisor.place = .counting change)
      (after : shard'.supervisor.place = .announcing change)
      (channel : shard'.channel = shard.channel) (effect_eq : effect = .counted change)
  | announced (change : Change) (before : shard.supervisor.place = .announcing change)
      (after : shard'.supervisor.place = .loopHead)
      (channel : shard'.channel = shard.channel) (effect_eq : effect = .announced)

/-- A matching slot is cleared, and any other is left as it is. -/
theorem disconnected_move (shard : Shard κ) (slot : ConnectionSlot κ) (failedProbes : ℕ)
    (hplace : shard.supervisor.place = .probing slot) :
    Move shard ((shard.setFailedProbes failedProbes).disconnected slot.generation) .none := by
  rcases hslot : shard.channel.value.disconnected slot.generation with _ | slot'
  · have hcall : (shard.setFailedProbes failedProbes).disconnected slot.generation =
        ((shard.setFailedProbes failedProbes).goTo .loopHead).setFailedProbes 0 := by
      simp only [disconnected, setFailedProbes, Watch.sendIfModified, hslot]
    rw [hcall]
    exact .idle (by simp [isMidway, hplace]) rfl rfl (Or.inl rfl) (fun h => by cases h)
  · have hmatch : slot' = { shard.channel.value with connection := none } ∧
        shard.channel.value.connection.isSome = true := by
      unfold ConnectionSlot.disconnected at hslot
      split at hslot
      · cases hslot
      · rename_i hnot
        rw [not_or, Bool.not_eq_true, Option.isNone_eq_false_iff] at hnot
        exact ⟨(Option.some.inj hslot).symm, hnot.2⟩
    have hcall : (shard.setFailedProbes failedProbes).disconnected slot.generation =
        { shard.setFailedProbes failedProbes with
          channel := ⟨slot', shard.channel.version + 1⟩ }.goTo (.gauging .disconnected) := by
      simp only [disconnected, setFailedProbes, Watch.sendIfModified, hslot]
    rw [hcall]
    refine .cleared slot hplace rfl hmatch.2 ?_ rfl
    rw [hmatch.1]
    rfl

theorem probeFailed_move (shard : Shard κ) (slot : ConnectionSlot κ)
    (hplace : shard.supervisor.place = .probing slot) :
    Move shard (shard.probeFailed slot) .none := by
  by_cases hlimit : maxFailedProbes ≤ min (shard.supervisor.failedProbes + 1) 255
  · simp only [probeFailed, if_pos hlimit]
    exact shard.disconnected_move slot _ hplace
  · simp only [probeFailed, if_neg hlimit]
    exact .idle (by simp [isMidway, hplace]) rfl rfl (Or.inl rfl) (fun h => by cases h)

theorem looked_move (shard : Shard κ) (hplace : shard.supervisor.place = .loopHead) :
    Move shard shard.looked .none := by
  have hbefore : shard.isMidway = false := by simp [isMidway, hplace]
  unfold looked
  by_cases hready : shard.channel.value.connection.isSome = true
  · rw [if_pos hready]
    exact .idle hbefore rfl rfl (Or.inl rfl) (fun h => by cases h)
  · rw [if_neg hready]
    exact .idle hbefore rfl rfl (Or.inl rfl) (fun _ => Bool.eq_false_iff.mpr hready)

/-- Every step of a supervisor is of one of these kinds. -/
theorem tick_move (shard shard' : Shard κ) (label : Tick κ) (effect : Effect)
    (h : shard.tick label = some (shard', effect)) : Move shard shard' effect := by
  unfold tick at h
  split at h
  case h_1 hplace =>
    cases h
    exact .idle (by simp [isMidway, hplace]) rfl rfl (Or.inl rfl) (fun h => by cases h)
  case h_2 hplace =>
    cases h
    exact shard.looked_move hplace
  case h_3 hplace =>
    split at h
    · cases h
      exact .idle (by simp [isMidway, hplace]) rfl rfl (Or.inl rfl) (fun h => by cases h)
    · cases h
  case h_4 hplace =>
    cases h
    exact .idle (by simp [isMidway, hplace]) rfl rfl (Or.inl rfl) (fun h => by cases h)
  case h_5 hplace =>
    cases h
    exact .idle (by simp [isMidway, hplace]) rfl rfl (Or.inl rfl) (fun h => by cases h)
  case h_6 slot hplace =>
    cases h
    exact shard.probeFailed_move slot hplace
  case h_7 hplace =>
    cases h
    exact .filled hplace rfl rfl rfl
  case h_8 hplace =>
    cases h
    exact .idle (by simp [isMidway, hplace]) rfl rfl (Or.inr ⟨_, rfl⟩) (fun h => by cases h)
  case h_9 change hplace =>
    cases h
    exact .gauged change hplace rfl rfl rfl
  case h_10 change hplace =>
    cases h
    exact .counted change hplace rfl rfl rfl
  case h_11 change hplace =>
    cases h
    cases change
    · exact .announced .connected hplace rfl rfl rfl
    · exact .announced .disconnected hplace rfl rfl rfl
  case h_12 hplace =>
    cases h
    exact .idle (by simp [isMidway, hplace]) rfl rfl (Or.inl rfl) (fun h => by cases h)
  case h_13 => cases h

/-- A step announces a change, is within one, or leaves the slot as it is. -/
theorem tick_cases (shard shard' : Shard κ) (label : Tick κ) (effect : Effect)
    (h : shard.tick label = some (shard', effect)) :
    effect = .announced ∨ shard'.isMidway = true ∨
      (shard.isMidway = false ∧ shard'.isMidway = false ∧ shard'.isReady = shard.isReady) := by
  cases tick_move shard shard' label effect h with
  | idle before after channel _ _ =>
    exact Or.inr (Or.inr ⟨before, after, by unfold isReady; rw [channel]⟩)
  | filled _ after _ _ => exact Or.inr (Or.inl (by simp [isMidway, after]))
  | cleared _ _ after _ _ _ => exact Or.inr (Or.inl (by simp [isMidway, after]))
  | gauged _ _ after _ _ => exact Or.inr (Or.inl (by simp [isMidway, after]))
  | counted _ _ after _ _ => exact Or.inr (Or.inl (by simp [isMidway, after]))
  | announced _ _ _ _ effect_eq => exact Or.inl effect_eq

end Shard

/-- What a target's callers and supervisors share. -/
structure RedisTarget (κ : Type) where
  shards : List (Shard κ)
  connectionChanged : Watch U64
  availableShards : Usize
  redisConnectedShards : ℤ
  redisConnectionAttempts : String → ℕ
  nextConnection : Usize

namespace RedisTarget

def start (connectionShards : ℕ) : RedisTarget κ :=
  ⟨(List.range connectionShards).map Shard.start, Watch.channel 0, 0, 0, fun _ => 0, 0⟩

def apply (target : RedisTarget κ) : Effect → RedisTarget κ
  | .none => target
  | .attempted result =>
      { target with redisConnectionAttempts := fun label =>
          if label = result then target.redisConnectionAttempts label + 1
          else target.redisConnectionAttempts label }
  | .gauged .connected => { target with redisConnectedShards := target.redisConnectedShards + 1 }
  | .gauged .disconnected =>
      { target with redisConnectedShards := target.redisConnectedShards - 1 }
  | .counted .connected => { target with availableShards := target.availableShards + 1 }
  | .counted .disconnected => { target with availableShards := target.availableShards - 1 }
  | .announced => { target with connectionChanged := target.connectionChanged.sendModify (· + 1) }

/-- One step of the supervisor of a shard. -/
def supervise (target : RedisTarget κ) (index : ℕ) (tick : Tick κ) : Option (RedisTarget κ) :=
  match target.shards[index]? with
  | none => none
  | some shard =>
      match shard.tick tick with
      | none => none
      | some (shard', effect) =>
          some ({ target with shards := target.shards.set index shard' }.apply effect)

def isReady (target : RedisTarget κ) (index : ℕ) : Bool :=
  match target.shards[index]? with
  | some shard => shard.isReady
  | none => false

/-- No supervisor is between the change of its slot and the revision. -/
def Quiet (target : RedisTarget κ) : Prop := ∀ shard ∈ target.shards, shard.isMidway = false

@[simp] theorem apply_shards (target : RedisTarget κ) (effect : Effect) :
    (target.apply effect).shards = target.shards := by
  cases effect with
  | gauged change => cases change <;> rfl
  | counted change => cases change <;> rfl
  | _ => rfl

/-- Only an announcement raises the revision. -/
theorem apply_version (target : RedisTarget κ) (effect : Effect) :
    (target.apply effect).connectionChanged.version =
      target.connectionChanged.version + (decide (effect = .announced)).toNat := by
  cases effect with
  | gauged change => cases change <;> rfl
  | counted change => cases change <;> rfl
  | _ => rfl

theorem supervise_eq_some (target target' : RedisTarget κ) (index : ℕ) (tick : Tick κ)
    (h : target.supervise index tick = some target') : ∃ shard shard' effect,
    target.shards[index]? = some shard ∧ shard.tick tick = some (shard', effect) ∧
      target' = { target with shards := target.shards.set index shard' }.apply effect := by
  unfold supervise at h
  split at h
  · cases h
  · rename_i shard hshard
    split at h
    · cases h
    · rename_i shard' effect htick
      exact ⟨shard, shard', effect, hshard, htick, (Option.some.inj h).symm⟩

/-- Supervisors leave the counter of calls alone. -/
theorem supervise_nextConnection (target target' : RedisTarget κ) (index : ℕ) (tick : Tick κ)
    (h : target.supervise index tick = some target') :
    target'.nextConnection = target.nextConnection := by
  obtain ⟨shard, shard', effect, -, -, rfl⟩ := supervise_eq_some target target' index tick h
  cases effect with
  | gauged change => cases change <;> rfl
  | counted change => cases change <;> rfl
  | _ => rfl

/-- Replacing a shard by one that is as ready keeps the readiness of all. -/
theorem isReady_set (target : RedisTarget κ) (index : ℕ) (shard shard' : Shard κ)
    (hshard : target.shards[index]? = some shard) (hready : shard'.isReady = shard.isReady)
    (i : ℕ) : ({ target with shards := target.shards.set index shard' }).isReady i =
      target.isReady i := by
  have hlt : index < target.shards.length := (List.getElem?_eq_some_iff.mp hshard).1
  unfold isReady
  by_cases heq : index = i
  · subst heq
    rw [List.getElem?_set_self hlt, hshard]
    exact hready
  · rw [List.getElem?_set_ne heq]

/-- A supervisor raises the revision, leaves a change to be announced, or leaves
every slot as it is. -/
theorem supervise_cases (target target' : RedisTarget κ) (index : ℕ) (tick : Tick κ)
    (h : target.supervise index tick = some target') :
    target'.shards.length = target.shards.length ∧
      (target'.connectionChanged.version = target.connectionChanged.version + 1 ∨
        (target'.connectionChanged.version = target.connectionChanged.version ∧
          (¬target'.Quiet ∨
            ((target'.Quiet → target.Quiet) ∧ ∀ i, target'.isReady i = target.isReady i)))) := by
  obtain ⟨shard, shard', effect, hshard, htick, rfl⟩ :=
    supervise_eq_some target target' index tick h
  have hlt : index < target.shards.length := (List.getElem?_eq_some_iff.mp hshard).1
  have hversion :=
    apply_version { target with shards := target.shards.set index shard' } effect
  refine ⟨by simp only [apply_shards, List.length_set], ?_⟩
  by_cases heffect : effect = .announced
  · left
    rw [hversion, decide_eq_true heffect, Bool.toNat_true]
  · right
    rw [hversion, decide_eq_false heffect, Bool.toNat_false]
    refine ⟨rfl, ?_⟩
    rcases shard.tick_cases shard' tick effect htick with hannounced | hmidway | hkept
    · exact absurd hannounced heffect
    · left
      intro hquiet
      have hnot := hquiet shard' (by rw [apply_shards]; exact List.mem_set hlt shard')
      rw [hmidway] at hnot
      cases hnot
    · right
      obtain ⟨hbefore, -, hready⟩ := hkept
      constructor
      · intro hquiet other hother
        obtain ⟨i, hi⟩ := List.mem_iff_getElem?.mp hother
        by_cases heq : index = i
        · subst heq
          rw [hshard] at hi
          cases hi
          exact hbefore
        · apply hquiet other
          rw [apply_shards]
          apply List.mem_of_getElem? (i := i)
          rw [List.getElem?_set_ne heq, hi]
      · intro i
        have hset := target.isReady_set index shard shard' hshard hready i
        unfold isReady at hset ⊢
        rw [apply_shards]
        exact hset

end RedisTarget

end RedisBridge.Shards
