import RedisBridge.ShardSelection
import RedisBridge.ShardSupervisor
import RedisBridge.TransitionRuns

/-!
Callers that ask a target for a connection. A caller marks the revision, reads
the shards one by one, reads the chosen one again, and waits for a newer
revision where it comes out empty. Callers and supervisors take turns in any
order. What a caller found since its mark holds until the next revision, unless
a supervisor is midway, so no caller waits while a shard is ready.
-/
namespace RedisBridge.Shards

open RustText ShardSelection TransitionRuns WatchChannels

variable {κ : Type}

/-- Where a caller is in `connection`. -/
inductive Caller (κ : Type)
  | subscribing
  | numbering (seen : ℕ)
  | marking (start : Usize) (seen : ℕ)
  | scanning (start : Usize) (seen offset : ℕ)
  | cloning (start : Usize) (seen index : ℕ)
  | waiting (start : Usize) (seen : ℕ)
  | returned (index : ℕ) (generation : U64) (connection : κ)
  | dropped

namespace Caller

/-- The second read of the chosen shard. -/
def cloned (target : RedisTarget κ) (start : Usize) (seen index : ℕ) : Caller κ :=
  match target.shards[index]? with
  | none => .waiting start seen
  | some shard =>
      match shard.channel.value.connection with
      | some connection => .returned index shard.channel.value.generation connection
      | none => .waiting start seen

/-- The steps of `connection`; a caller that waits is blocked while the revision
is the one that it has seen. -/
def step (target : RedisTarget κ) : Caller κ → Option (RedisTarget κ × Caller κ)
  | .subscribing => some (target, .numbering target.connectionChanged.version)
  | .numbering seen =>
      some ({ target with nextConnection := target.nextConnection + 1 },
        .marking target.nextConnection seen)
  | .marking start _ => some (target, .scanning start target.connectionChanged.version 0)
  | .scanning start seen offset =>
      if offset < target.shards.length then
        if target.isReady (shardAt start target.shards.length offset) then
          some (target, .cloning start seen (shardAt start target.shards.length offset))
        else some (target, .scanning start seen (offset + 1))
      else some (target, .waiting start seen)
  | .cloning start seen index => some (target, cloned target start seen index)
  | .waiting start seen =>
      if target.connectionChanged.hasChanged seen then
        some (target, .marking start target.connectionChanged.version)
      else none
  | .returned _ _ _ => none
  | .dropped => none

/-- A scan finds a shard, goes on, or ends with nothing found. -/
theorem step_scanning (target target' : RedisTarget κ) (start : Usize) (seen offset : ℕ)
    (caller' : Caller κ)
    (h : (Caller.scanning start seen offset).step target = some (target', caller')) :
    target' = target ∧
      ((target.isReady (shardAt start target.shards.length offset) = true ∧
          caller' = .cloning start seen (shardAt start target.shards.length offset)) ∨
        (target.isReady (shardAt start target.shards.length offset) = false ∧
          caller' = .scanning start seen (offset + 1)) ∨
        (target.shards.length ≤ offset ∧ caller' = .waiting start seen)) := by
  simp only [step] at h
  split_ifs at h with hlt hready
  · cases h
    exact ⟨rfl, Or.inl ⟨hready, rfl⟩⟩
  · cases h
    exact ⟨rfl, Or.inr (Or.inl ⟨Bool.eq_false_iff.mpr hready, rfl⟩)⟩
  · cases h
    exact ⟨rfl, Or.inr (Or.inr ⟨Nat.le_of_not_lt hlt, rfl⟩)⟩

theorem step_waiting (target target' : RedisTarget κ) (start : Usize) (seen : ℕ)
    (caller' : Caller κ) (h : (Caller.waiting start seen).step target = some (target', caller')) :
    target' = target ∧ caller' = .marking start target.connectionChanged.version := by
  simp only [step] at h
  split_ifs at h
  cases h
  exact ⟨rfl, rfl⟩

/-- What becomes of a caller that selected a shard, or none. -/
def selected (start : Usize) (seen : ℕ) : Option ℕ → Caller κ
  | some index => .cloning start seen index
  | none => .waiting start seen

theorem scan_rest (target : RedisTarget κ) (start : Usize) (seen count offset : ℕ)
    (h : offset + count = target.shards.length) : ∃ labels,
    run (fun (state : RedisTarget κ × Caller κ) (_ : Unit) => state.2.step state.1)
      (target, .scanning start seen offset) labels =
    some (target, selected start seen
      (((List.range' offset count).map (shardAt start target.shards.length)).find?
        target.isReady)) := by
  induction count generalizing offset with
  | zero =>
    refine ⟨[()], ?_⟩
    have hend : ¬offset < target.shards.length := by omega
    simp only [run, step, if_neg hend, Option.bind_some]
    rfl
  | succ count ih =>
    have hlt : offset < target.shards.length := by omega
    rw [List.range'_succ, List.map_cons, List.find?_cons]
    rcases hready : target.isReady (shardAt start target.shards.length offset) with _ | _
    · obtain ⟨labels, hrest⟩ := ih (offset + 1) (by omega)
      refine ⟨() :: labels, ?_⟩
      simp only [run, step, if_pos hlt, hready, Bool.false_eq_true, if_false, Option.bind_some]
      exact hrest
    · refine ⟨[()], ?_⟩
      simp only [run, step, if_pos hlt, hready, if_true, Option.bind_some]
      rfl

/-- A scan that nothing interrupts selects as `select_ready_shard` does. -/
theorem scan_alone (target : RedisTarget κ) (start : Usize) (seen : ℕ) : ∃ labels,
    run (fun (state : RedisTarget κ × Caller κ) (_ : Unit) => state.2.step state.1)
      (target, .scanning start seen 0) labels =
    some (target, selected start seen
      (selectReadyShard start target.shards.length target.isReady)) := by
  unfold selectReadyShard
  rw [List.range_eq_range']
  exact scan_rest target start seen target.shards.length 0 (Nat.zero_add _)

/-- What a caller may rely on. -/
def Sound (target : RedisTarget κ) : Caller κ → Prop
  | .scanning start seen offset =>
      Observed seen target.connectionChanged.version target.Quiet
        (∀ k < offset, target.isReady (shardAt start target.shards.length k) = false)
  | .cloning _ seen index =>
      Observed seen target.connectionChanged.version target.Quiet (target.isReady index = true)
  | .waiting _ seen =>
      Observed seen target.connectionChanged.version target.Quiet
        (∀ index, target.isReady index = false)
  | _ => True

/-- A supervisor leaves every caller with what it may rely on. -/
theorem Sound.supervise (target target' : RedisTarget κ) (index : ℕ) (tick : Tick κ)
    (caller : Caller κ) (h : target.supervise index tick = some target')
    (hcaller : caller.Sound target) : caller.Sound target' := by
  obtain ⟨hlength, hcases⟩ := target.supervise_cases target' index tick h
  have hframe (fact : (ℕ → Bool) → Prop) (seen : ℕ)
      (hseen : Observed seen target.connectionChanged.version target.Quiet (fact target.isReady)) :
      Observed seen target'.connectionChanged.version target'.Quiet (fact target'.isReady) := by
    rcases hcases with hannounced | ⟨hsame, hwritten | ⟨hquiet, hready⟩⟩
    · rw [hannounced]
      exact hseen.announced
    · rw [hsame]
      exact hseen.written _ _ hwritten
    · rw [hsame, funext hready]
      exact hseen.imp _ _ fun hfact hquiet' => hfact (hquiet hquiet')
  cases caller with
  | scanning start seen offset =>
    unfold Sound
    rw [hlength]
    exact hframe (fun ready =>
      ∀ k < offset, ready (shardAt start target.shards.length k) = false) seen hcaller
  | cloning start seen index => exact hframe (fun ready => ready index = true) seen hcaller
  | waiting start seen => exact hframe (fun ready => ∀ index, ready index = false) seen hcaller
  | _ => trivial

/-- A caller changes nothing of its target but the number of the next caller. -/
theorem step_target (target target' : RedisTarget κ) (mover mover' : Caller κ)
    (h : mover.step target = some (target', mover')) :
    ∃ next, target' = { target with nextConnection := next } := by
  cases mover with
  | scanning start seen offset =>
    obtain ⟨rfl, -⟩ := step_scanning target target' start seen offset mover' h
    exact ⟨_, rfl⟩
  | waiting start seen =>
    obtain ⟨rfl, -⟩ := step_waiting target target' start seen mover' h
    exact ⟨_, rfl⟩
  | returned index generation connection => cases h
  | dropped => cases h
  | _ =>
    cases h
    exact ⟨_, rfl⟩

/-- A step of a caller changes nothing that another one relies on. -/
theorem Sound.step_other (target target' : RedisTarget κ) (mover mover' caller : Caller κ)
    (h : mover.step target = some (target', mover')) (hcaller : caller.Sound target) :
    caller.Sound target' := by
  obtain ⟨next, rfl⟩ := step_target target target' mover mover' h
  cases caller <;> exact hcaller

/-- A full scan that found nothing has tried every shard. -/
theorem not_ready_of_scan (target : RedisTarget κ) (start : ℕ)
    (h : ∀ k < target.shards.length,
      target.isReady (shardAt start target.shards.length k) = false) (index : ℕ) :
    target.isReady index = false := by
  by_cases hlt : index < target.shards.length
  · obtain ⟨k, hk, rfl⟩ := exists_offset start target.shards.length index hlt
    exact h k hk
  · unfold RedisTarget.isReady
    rw [List.getElem?_eq_none (by omega)]

/-- The second read comes out empty only if the slot was cleared since. -/
theorem cloned_sound (target : RedisTarget κ) (start : Usize) (seen index : ℕ)
    (h : (Caller.cloning (κ := κ) start seen index).Sound target) :
    (cloned target start seen index).Sound target := by
  have hready : Observed seen target.connectionChanged.version target.Quiet
      (target.isReady index = true) := h
  have hempty (hnone : target.isReady index = false) :
      (Caller.waiting (κ := κ) start seen).Sound target := by
    apply hready.imp
    intro hfact hquiet
    rw [hfact hquiet] at hnone
    cases hnone
  unfold cloned
  split
  · rename_i hshard
    exact hempty (by unfold RedisTarget.isReady; rw [hshard])
  · rename_i shard hshard
    split
    · trivial
    · rename_i hslot
      apply hempty
      unfold RedisTarget.isReady Shard.isReady
      simp only [hshard, hslot, Option.isSome_none]

/-- A step of a caller leaves it with what it may rely on. -/
theorem Sound.step_self (target target' : RedisTarget κ) (caller caller' : Caller κ)
    (h : caller.step target = some (target', caller')) (hcaller : caller.Sound target) :
    caller'.Sound target' := by
  cases caller with
  | subscribing =>
    cases h
    trivial
  | numbering seen =>
    cases h
    trivial
  | marking start seen =>
    cases h
    apply Observed.intro
    intro _ k hk
    omega
  | scanning start seen offset =>
    have hscan : Observed seen target.connectionChanged.version target.Quiet
      (∀ k < offset, target.isReady (shardAt start target.shards.length k) = false) := hcaller
    obtain ⟨rfl, ⟨hready, rfl⟩ | ⟨hnot, rfl⟩ | ⟨hend, rfl⟩⟩ :=
      step_scanning target target' start seen offset caller' h
    · exact hscan.imp _ _ fun _ _ => hready
    · apply hscan.imp
      intro hfact hquiet k hk
      rcases Nat.lt_succ_iff_lt_or_eq.mp hk with hlt | rfl
      · exact hfact hquiet k hlt
      · exact hnot
    · apply hscan.imp
      intro hfact hquiet
      apply not_ready_of_scan target' start
      intro k hk
      exact hfact hquiet k (by omega)
  | cloning start seen index =>
    cases h
    exact cloned_sound target start seen index hcaller
  | waiting start seen =>
    obtain ⟨rfl, rfl⟩ := step_waiting target target' start seen caller' h
    trivial
  | returned index generation connection => cases h
  | dropped => cases h

end Caller

/-- A target with its callers. -/
structure System (κ : Type) where
  target : RedisTarget κ
  callers : List (Caller κ)

inductive Event (κ : Type)
  | supervised (index : ℕ) (tick : Tick κ)
  | called
  | moved (caller : ℕ)
  | gaveUp (caller : ℕ)

namespace System

def start (connectionShards : ℕ) : System κ := ⟨RedisTarget.start connectionShards, []⟩

def step (s : System κ) : Event κ → Option (System κ)
  | .supervised index tick =>
      match s.target.supervise index tick with
      | none => none
      | some target => some { s with target := target }
  | .called => some { s with callers := s.callers ++ [.subscribing] }
  | .moved i =>
      match s.callers[i]? with
      | none => none
      | some caller =>
          match caller.step s.target with
          | none => none
          | some (target, caller') => some ⟨target, s.callers.set i caller'⟩
  | .gaveUp i => some { s with callers := s.callers.set i .dropped }

/-- Every caller may rely on what it found. -/
def Sound (s : System κ) : Prop := ∀ caller ∈ s.callers, caller.Sound s.target

theorem step_supervised (s s' : System κ) (index : ℕ) (tick : Tick κ)
    (h : s.step (.supervised index tick) = some s') :
    ∃ target', s.target.supervise index tick = some target' ∧ s' = { s with target := target' } := by
  simp only [step] at h
  split at h
  · cases h
  · rename_i target' htarget
    exact ⟨target', htarget, (Option.some.inj h).symm⟩

theorem step_moved (s s' : System κ) (i : ℕ) (h : s.step (.moved i) = some s') :
    ∃ caller target' caller', s.callers[i]? = some caller ∧
      caller.step s.target = some (target', caller') ∧
      s' = ⟨target', s.callers.set i caller'⟩ := by
  simp only [step] at h
  split at h
  · cases h
  · rename_i caller hcaller
    split at h
    · cases h
    · rename_i target' caller' hstep
      exact ⟨caller, target', caller', hcaller, hstep, (Option.some.inj h).symm⟩

/-- A step changes a target as a supervisor does, or only the number of the next caller. -/
theorem step_target_cases (s s' : System κ) (event : Event κ) (h : s.step event = some s') :
    (∃ index tick, s.target.supervise index tick = some s'.target) ∨
      ∃ next, s'.target = { s.target with nextConnection := next } := by
  cases event with
  | supervised index tick =>
    obtain ⟨target', htarget, rfl⟩ := step_supervised s s' index tick h
    exact Or.inl ⟨index, tick, htarget⟩
  | called =>
    cases h
    exact Or.inr ⟨_, rfl⟩
  | moved i =>
    obtain ⟨mover, target', mover', _, hstep, rfl⟩ := step_moved s s' i h
    exact Or.inr (Caller.step_target s.target target' mover mover' hstep)
  | gaveUp i =>
    cases h
    exact Or.inr ⟨_, rfl⟩

theorem Sound.step (s : System κ) (event : Event κ) (s' : System κ) (hs : s.Sound)
    (h : s.step event = some s') : s'.Sound := by
  cases event with
  | supervised index tick =>
    obtain ⟨target', htarget, rfl⟩ := step_supervised s s' index tick h
    intro caller hcaller
    exact (hs caller hcaller).supervise _ _ index tick caller htarget
  | called =>
    cases h
    intro caller hcaller
    rcases List.mem_append.mp hcaller with hold | hnew
    · exact hs caller hold
    · obtain rfl := List.mem_singleton.mp hnew
      trivial
  | moved i =>
    obtain ⟨mover, target', mover', hmover, hstep, rfl⟩ := step_moved s s' i h
    intro caller hcaller
    rcases List.mem_or_eq_of_mem_set hcaller with hold | rfl
    · exact (hs caller hold).step_other _ _ mover mover' caller hstep
    · exact (hs mover (List.mem_of_getElem? hmover)).step_self _ _ mover caller hstep
  | gaveUp i =>
    cases h
    intro caller hcaller
    rcases List.mem_or_eq_of_mem_set hcaller with hold | rfl
    · exact hs caller hold
    · trivial

theorem start_sound (connectionShards : ℕ) : (start connectionShards : System κ).Sound := by
  intro caller hcaller
  cases hcaller

theorem sound_of_reachable (connectionShards : ℕ) (s : System κ)
    (h : Reachable step (start connectionShards) s) : s.Sound :=
  reachable_invariant step (System.start connectionShards) Sound (start_sound connectionShards)
    Sound.step s h

/-- A caller in `changed` is blocked exactly while it has seen the current
revision, and then no shard holds a connection or a supervisor is midway. -/
theorem no_lost_wakeup (connectionShards : ℕ) (s : System κ)
    (h : Reachable step (start connectionShards) s) (i seen : ℕ) (start : Usize)
    (hwaiting : s.callers[i]? = some (.waiting start seen)) :
    (s.step (.moved i) = none ↔ seen = s.target.connectionChanged.version) ∧
      (seen = s.target.connectionChanged.version →
        (∀ shard ∈ s.target.shards, shard.channel.value.connection = none) ∨
          ∃ shard ∈ s.target.shards, shard.isMidway = true) := by
  constructor
  · have hchanged := s.target.connectionChanged.hasChanged_eq_true seen
    simp only [step, hwaiting, Caller.step]
    split_ifs with hnew
    · constructor
      · intro hnone
        cases hnone
      · intro hseen
        exact absurd hseen (hchanged.mp hnew)
    · constructor
      · intro _
        by_contra hne
        exact hnew (hchanged.mpr hne)
      · intro _
        rfl
  · intro hseen
    have hsound : s.Sound := reachable_invariant step (System.start connectionShards) Sound
      (start_sound connectionShards) Sound.step s h
    have hobserved : Observed seen s.target.connectionChanged.version s.target.Quiet
      (∀ index, s.target.isReady index = false) := hsound _ (List.mem_of_getElem? hwaiting)
    by_cases hquiet : s.target.Quiet
    · left
      intro shard hshard
      obtain ⟨index, hindex⟩ := List.mem_iff_getElem?.mp hshard
      have hready := hobserved.2 hseen hquiet index
      unfold RedisTarget.isReady Shard.isReady at hready
      rw [hindex] at hready
      exact Option.isNone_iff_eq_none.mp (Option.isSome_eq_false_iff.mp hready)
    · right
      simp only [RedisTarget.Quiet, not_forall] at hquiet
      obtain ⟨shard, hshard, hmidway⟩ := hquiet
      exact ⟨shard, hshard, Bool.eq_true_of_not_eq_false hmidway⟩

/-- Two of three shards connect, and the first fails a probe. A caller chooses the
first, and its supervisor clears it before the caller reads it again. -/
def clearedBeforeClone : List (Event Unit) :=
  [.looked, .connected (), .gauged, .counted, .announced, .looked, .elapsed, .probed false,
    .looked, .elapsed].map (.supervised 0) ++
  [.started, .looked, .connected (), .gauged, .counted, .announced].map (.supervised 1) ++
  [.called, .moved 0, .moved 0, .moved 0, .moved 0, .supervised 0 (.probed false), .moved 0]

/-- The supervisor finishes its `disconnected`. -/
def clearAnnounced : List (Event Unit) :=
  [.supervised 0 .gauged, .supervised 0 .counted, .supervised 0 .announced]

/-- The caller waits while the second shard is ready, because the supervisor of the
first has not raised the revision yet; once it has, the caller goes on. -/
theorem no_lost_wakeup_cleared : ∃ s s' : System Unit,
    run step (start 3) clearedBeforeClone = some s ∧ run step s clearAnnounced = some s' ∧
      s.callers[0]? = some (.waiting 0 2) ∧ s.step (.moved 0) = none ∧
      (∃ shard ∈ s.target.shards, shard.isReady = true) ∧
      (∃ shard ∈ s.target.shards, shard.isMidway = true) ∧
      s'.callers[0]? = some (.waiting 0 2) ∧ s'.step (.moved 0) ≠ none := by
  obtain ⟨s, s', hrun, hlater, hall, hwaiting, hversion, ready, hready, hheld, hwaiting',
      hversion'⟩ : ∃ s s' : System Unit,
      run step (start 3) clearedBeforeClone = some s ∧ run step s clearAnnounced = some s' ∧
      run step (start 3) (clearedBeforeClone ++ clearAnnounced) = some s' ∧
      s.callers[0]? = some (.waiting 0 2) ∧ 2 = s.target.connectionChanged.version ∧
      ∃ shard, s.target.shards[1]? = some shard ∧ shard.isReady = true ∧
        s'.callers[0]? = some (.waiting 0 2) ∧ 2 ≠ s'.target.connectionChanged.version :=
    ⟨_, _, rfl, rfl, rfl, rfl, rfl, _, rfl, rfl, rfl, by decide⟩
  obtain ⟨hblocked, hnone⟩ := no_lost_wakeup 3 s ⟨_, hrun⟩ 0 2 0 hwaiting
  have hmem := List.mem_of_getElem? hready
  have hmidway : ∃ shard ∈ s.target.shards, shard.isMidway = true := by
    rcases hnone hversion with hempty | hmidway
    · unfold Shard.isReady at hheld
      rw [hempty ready hmem] at hheld
      cases hheld
    · exact hmidway
  refine ⟨s, s', hrun, hlater, hwaiting, hblocked.mpr hversion, ⟨ready, hmem, hheld⟩, hmidway,
    hwaiting', ?_⟩
  intro hstuck
  exact hversion' ((no_lost_wakeup 3 s' ⟨_, hall⟩ 0 2 0 hwaiting').1.mp hstuck)

end System

end RedisBridge.Shards
