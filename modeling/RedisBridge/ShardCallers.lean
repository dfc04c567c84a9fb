import RedisBridge.ShardWakeup
import RedisBridge.SupervisorRuns

/-!
What callers of a target get, and how soon. Between two revisions a caller takes
a bounded number of steps, whatever supervisors and other callers do, so it does
not spin; and it is not left waiting where a shard is ready. The connection it
gets is the one that its shard's supervisor established under the generation
that it gets with it.
-/
namespace RedisBridge.Shards

open RustText ShardSelection TransitionRuns WatchChannels

variable {κ : Type}

/-- A move of one caller. -/
def Event.moves (i : ℕ) : Event κ → Bool
  | .moved j => j == i
  | _ => false

/-- What the supervisor of one shard does in an event. -/
def Event.tick (index : ℕ) : Event κ → Option (Tick κ)
  | .supervised i tick => if i = index then some tick else none
  | _ => none

/-- What the supervisor of one shard does in a run. -/
def ticks (index : ℕ) (events : List (Event κ)) : List (Tick κ) :=
  events.filterMap (Event.tick index)

namespace Caller

/-- How many steps a caller has left at most while the revision stays. A caller
that marked an older one scans once more. -/
def stepsLeft (shards version : ℕ) : Caller κ → ℕ
  | .subscribing => shards + 5
  | .numbering _ => shards + 4
  | .marking _ _ => shards + 3
  | .scanning _ seen offset =>
      if seen = version then shards - offset + 2 else shards - offset + (shards + 6)
  | .cloning _ seen _ => if seen = version then 1 else shards + 5
  | .waiting _ seen => if seen = version then 0 else shards + 4
  | .returned _ _ _ => 0
  | .dropped => 0

theorem stepsLeft_cloned (target : RedisTarget κ) (start : Usize) (seen index : ℕ) :
    (cloned target start seen index).stepsLeft target.shards.length
        target.connectionChanged.version <
      (Caller.cloning (κ := κ) start seen index).stepsLeft target.shards.length
        target.connectionChanged.version := by
  unfold cloned
  split
  · simp only [stepsLeft]
    split_ifs <;> omega
  · split
    · simp only [stepsLeft]
      split_ifs <;> omega
    · simp only [stepsLeft]
      split_ifs <;> omega

/-- Every step of a caller leaves it fewer. -/
theorem stepsLeft_step (target target' : RedisTarget κ) (caller caller' : Caller κ)
    (h : caller.step target = some (target', caller')) :
    caller'.stepsLeft target'.shards.length target'.connectionChanged.version <
      caller.stepsLeft target.shards.length target.connectionChanged.version := by
  obtain ⟨next, htarget⟩ := step_target target target' caller caller' h
  rw [htarget]
  dsimp only
  cases caller with
  | subscribing =>
    cases h
    simp only [stepsLeft]
    omega
  | numbering seen =>
    cases h
    simp only [stepsLeft]
    omega
  | marking start seen =>
    cases h
    simp only [stepsLeft, if_true]
    omega
  | scanning start seen offset =>
    simp only [step] at h
    split_ifs at h with hlt hready
    · cases h
      simp only [stepsLeft]
      split_ifs <;> omega
    · cases h
      simp only [stepsLeft]
      split_ifs <;> omega
    · cases h
      simp only [stepsLeft]
      split_ifs <;> omega
  | cloning start seen index =>
    cases h
    exact stepsLeft_cloned target start seen index
  | waiting start seen =>
    simp only [step] at h
    split_ifs at h with hchanged
    cases h
    rw [Watch.hasChanged_eq_true] at hchanged
    simp only [stepsLeft, if_neg hchanged]
    omega
  | returned index generation connection => cases h
  | dropped => cases h

theorem stepsLeft_le (shards version : ℕ) (caller : Caller κ) :
    caller.stepsLeft shards version ≤ 2 * shards + 6 := by
  cases caller with
  | scanning start seen offset =>
    simp only [stepsLeft]
    split_ifs <;> omega
  | cloning start seen index =>
    simp only [stepsLeft]
    split_ifs <;> omega
  | waiting start seen =>
    simp only [stepsLeft]
    split_ifs <;> omega
  | _ =>
    simp only [stepsLeft]
    omega

end Caller

namespace System

/-- The revision of the target. -/
def version (s : System κ) : ℕ := s.target.connectionChanged.version

/-- The moves since a revision, with those that are left. -/
structure Paced (shards revision : ℕ) (past : List (Event κ)) (s : System κ) : Prop where
  shards_eq : s.target.shards.length = shards
  later : revision ≤ s.version
  each : s.version = revision → ∀ i caller, s.callers[i]? = some caller →
    past.countP (Event.moves i) + caller.stepsLeft shards revision ≤ 2 * shards + 6
  outside : ∀ i, s.callers.length ≤ i → past.countP (Event.moves i) = 0

theorem countP_moves_concat (past : List (Event κ)) (event : Event κ) (i : ℕ) :
    (past ++ [event]).countP (Event.moves i) =
      past.countP (Event.moves i) + (event.moves i).toNat := by
  rw [List.countP_append, List.countP_singleton]
  cases event.moves i <;> rfl

/-- A pace is kept where the revision does not go back and no caller that moves
has as much left as before; a caller who is new has not moved yet. -/
theorem Paced.kept (shards revision : ℕ) (past : List (Event κ)) (s : System κ)
    (event : Event κ) (s' : System κ) (hs : s.Paced shards revision past)
    (hlength : s'.target.shards.length = s.target.shards.length)
    (hversion : s.version ≤ s'.version) (hstay : s.callers.length ≤ s'.callers.length)
    (houtside : ∀ i, s.callers.length ≤ i → event.moves i = false)
    (heach : s'.version = revision → s.version = revision → ∀ i caller,
      s'.callers[i]? = some caller → i < s.callers.length → ∃ old, s.callers[i]? = some old ∧
        caller.stepsLeft shards revision + (event.moves i).toNat ≤
          old.stepsLeft shards revision) :
    s'.Paced shards revision (past ++ [event]) := by
  have hnew (i : ℕ) (hi : s.callers.length ≤ i) :
      (past ++ [event]).countP (Event.moves i) = 0 := by
    rw [countP_moves_concat, hs.outside i hi, houtside i hi]
    rfl
  refine ⟨hlength.trans hs.shards_eq, le_trans hs.later hversion, ?_, ?_⟩
  · intro hrevision i caller hcaller
    have hbefore : s.version = revision := le_antisymm (hrevision ▸ hversion) hs.later
    rcases Nat.lt_or_ge i s.callers.length with hlt | hge
    · obtain ⟨old, hold, hless⟩ := heach hrevision hbefore i caller hcaller hlt
      have hpast := hs.each hbefore i old hold
      rw [countP_moves_concat]
      omega
    · rw [hnew i hge, Nat.zero_add]
      exact caller.stepsLeft_le shards revision
  · intro i hi
    exact hnew i (le_trans hstay hi)

theorem Paced.step (shards revision : ℕ) (past : List (Event κ)) (s : System κ)
    (event : Event κ) (s' : System κ) (hs : s.Paced shards revision past)
    (h : s.step event = some s') : s'.Paced shards revision (past ++ [event]) := by
  cases event with
  | supervised index tick =>
    obtain ⟨target', htarget, rfl⟩ := step_supervised s s' index tick h
    obtain ⟨hlength, hcases⟩ := s.target.supervise_cases target' index tick htarget
    have hversion : s.version ≤ target'.connectionChanged.version := by
      unfold version
      omega
    refine hs.kept shards revision past s _ _ hlength hversion le_rfl (fun _ _ => rfl) ?_
    intro _ _ i caller hcaller _
    exact ⟨caller, hcaller, le_rfl⟩
  | called =>
    cases h
    refine hs.kept shards revision past s _ _ rfl le_rfl
      (List.prefix_append _ _).length_le (fun _ _ => rfl) ?_
    intro _ _ i caller hcaller hlt
    dsimp only at hcaller
    rw [List.getElem?_append_left hlt] at hcaller
    exact ⟨caller, hcaller, le_rfl⟩
  | moved j =>
    obtain ⟨mover, target', mover', hmover, hstep, rfl⟩ := step_moved s s' j h
    have hlength := (List.getElem?_eq_some_iff.mp hmover).1
    have hless := mover.stepsLeft_step s.target target' mover' hstep
    obtain ⟨next, rfl⟩ := Caller.step_target s.target target' mover mover' hstep
    refine hs.kept shards revision past s _ _ rfl le_rfl (List.length_set ..).ge ?_ ?_
    · intro i hi
      exact beq_eq_false_iff_ne.mpr (by omega)
    · intro _ hbefore i caller hcaller _
      by_cases hij : j = i
      · subst hij
        rw [List.getElem?_set_self hlength] at hcaller
        cases hcaller
        refine ⟨mover, hmover, ?_⟩
        rw [Event.moves, beq_self_eq_true]
        dsimp only at hless
        rw [hs.shards_eq] at hless
        unfold version at hbefore
        rw [hbefore] at hless
        exact hless
      · rw [List.getElem?_set_ne hij] at hcaller
        refine ⟨caller, hcaller, ?_⟩
        rw [Event.moves, beq_eq_false_iff_ne.mpr hij]
        exact le_rfl
  | gaveUp j =>
    cases h
    refine hs.kept shards revision past s _ _ rfl le_rfl (List.length_set ..).ge
      (fun _ _ => rfl) ?_
    intro _ _ i caller hcaller _
    by_cases hij : j = i
    · subst hij
      rw [List.getElem?_set_self'] at hcaller
      obtain ⟨mover, hmover, rfl⟩ := Option.map_eq_some_iff.mp hcaller
      exact ⟨mover, hmover, Nat.zero_le _⟩
    · rw [List.getElem?_set_ne hij] at hcaller
      exact ⟨caller, hcaller, le_rfl⟩

/-- While a shard is ready and no supervisor is midway, only a caller that is
through is blocked. -/
theorem through_of_blocked (s : System κ) (hsound : s.Sound) (hquiet : s.target.Quiet)
    (hready : ∃ index, s.target.isReady index = true) (i : ℕ) (caller : Caller κ)
    (hcaller : s.callers[i]? = some caller) (hblocked : s.step (.moved i) = none) :
    (∃ index generation connection, caller = .returned index generation connection) ∨
      caller = .dropped := by
  simp only [step, hcaller] at hblocked
  cases caller with
  | waiting start seen =>
    have hobserved : Observed seen s.target.connectionChanged.version s.target.Quiet
      (∀ index, s.target.isReady index = false) := hsound _ (List.mem_of_getElem? hcaller)
    simp only [Caller.step] at hblocked
    split_ifs at hblocked with hchanged
    rw [Watch.hasChanged_eq_true, not_not] at hchanged
    obtain ⟨index, hindex⟩ := hready
    rw [hobserved.2 hchanged hquiet index] at hindex
    cases hindex
  | scanning start seen offset =>
    simp only [Caller.step] at hblocked
    split_ifs at hblocked
  | returned index generation connection => exact Or.inl ⟨index, generation, connection, rfl⟩
  | dropped => exact Or.inr rfl
  | _ => cases hblocked

/-- Between two revisions no caller takes more than two scans' worth of steps,
whatever supervisors and other callers do; and in a state in which no supervisor
is midway and some shard is ready, every caller that has neither its connection
nor given up can take its next step. -/
theorem callers_progress (connectionShards : ℕ) (s : System κ)
    (hreach : Reachable step (start connectionShards) s) :
    (∀ events s', run step s events = some s' → s'.version = s.version →
      ∀ i, i < s'.callers.length →
        events.countP (Event.moves i) ≤ 2 * connectionShards + 6) ∧
    (s.target.Quiet → (∃ index, s.target.isReady index = true) →
      ∀ i caller, s.callers[i]? = some caller → s.step (.moved i) = none →
        (∃ index generation connection, caller = .returned index generation connection) ∨
          caller = .dropped) := by
  have hshards : s.target.shards.length = connectionShards := by
    apply reachable_invariant step (System.start connectionShards)
      (fun s => s.target.shards.length = connectionShards) ?_ ?_ s hreach
    · exact (List.length_map _).trans List.length_range
    · intro mid event next hmid hstep
      rcases mid.step_target_cases next event hstep with ⟨index, tick, htarget⟩ | ⟨number, htarget⟩
      · exact (mid.target.supervise_cases next.target index tick htarget).1.trans hmid
      · rw [htarget]
        exact hmid
  constructor
  · intro events s' hrun hversion i hi
    have hstart : s.Paced connectionShards s.version ([] : List (Event κ)) := by
      refine ⟨hshards, le_refl _, ?_, fun _ _ => rfl⟩
      intro _ i caller _
      rw [List.countP_nil, Nat.zero_add]
      exact caller.stepsLeft_le connectionShards s.version
    have hpaced := run_history step (Paced connectionShards s.version)
      (Paced.step connectionShards s.version) events [] s s' hstart hrun
    have hmoves := hpaced.each hversion i _ (List.getElem?_eq_getElem hi)
    rw [List.nil_append] at hmoves
    omega
  · intro hquiet hready i caller hcaller hblocked
    exact s.through_of_blocked (sound_of_reachable connectionShards s hreach) hquiet hready i caller
      hcaller hblocked

/-- A caller of the only shard, once that has connected. -/
def connectedCaller : List (Event Unit) :=
  [.supervised 0 .looked, .supervised 0 (.connected ()), .supervised 0 .gauged,
    .supervised 0 .counted, .supervised 0 .announced, .called]

/-- The caller is through after five of its at most eight steps. -/
theorem callers_progress_connected : ∃ s s' : System Unit,
    run step (start 1) connectedCaller = some s ∧
      run step s (List.replicate 5 (.moved 0)) = some s' ∧
      (List.replicate 5 (.moved 0)).countP (Event.moves 0 : Event Unit → Bool) ≤ 8 ∧
      ∀ caller, s'.callers[0]? = some caller →
        (∃ index generation connection, caller = .returned index generation connection) ∨
          caller = .dropped := by
  obtain ⟨s, s', hrun, hmoves, hrun', hversion, hready, hmidway, hlength, hblocked⟩ :
      ∃ s s' : System Unit, run step (start 1) connectedCaller = some s ∧
        run step s (List.replicate 5 (.moved 0)) = some s' ∧
        run step (start 1) (connectedCaller ++ List.replicate 5 (.moved 0)) = some s' ∧
        s'.version = s.version ∧ s'.target.isReady 0 = true ∧
        s'.target.shards.map Shard.isMidway = [false] ∧ 0 < s'.callers.length ∧
        s'.step (.moved 0) = none :=
    ⟨_, _, rfl, rfl, rfl, rfl, rfl, rfl, Nat.zero_lt_one, rfl⟩
  have hquiet : s'.target.Quiet := by
    intro shard hshard
    have hmem := List.mem_map_of_mem (f := Shard.isMidway) hshard
    rw [hmidway] at hmem
    exact List.mem_singleton.mp hmem
  refine ⟨s, s', hrun, hmoves,
    (callers_progress 1 s ⟨_, hrun⟩).1 _ s' hmoves hversion 0 hlength, ?_⟩
  intro caller hcaller
  exact (callers_progress 1 s' ⟨_, hrun'⟩).2 hquiet ⟨0, hready⟩ 0 caller hcaller hblocked

end System

/-! Where a connection comes from. -/

namespace Shard

/-- The connections that a supervisor has established, in order. -/
def established (past : List (Tick κ)) : List κ :=
  past.filterMap fun
    | .connected connection => some connection
    | _ => none

theorem established_concat (past : List (Tick κ)) (label : Tick κ) :
    established (past ++ [label]) = established past ++ established [label] :=
  List.filterMap_append

theorem length_established (past : List (Tick κ)) :
    (established past).length = installs past := by
  unfold established installs
  rw [List.length_filterMap_eq_countP]
  apply List.countP_congr
  intro label _
  cases label <;> simp [Tick.installs]

theorem established_of_not_installs (label : Tick κ) (h : label.installs = false) :
    established [label] = [] := by
  cases label with
  | connected connection => cases h
  | _ => rfl

/-- A slot that is not empty holds the connection established last. -/
theorem run_holds (index : ℕ) (past : List (Tick κ)) (shard : Shard κ)
    (hrun : run next (start index) past = some shard) (connection : κ)
    (hslot : shard.channel.value.connection = some connection) :
    (established past).getLast? = some connection := by
  have hinv := run_history next (fun past shard => (shard.Standing past ∧ shard.Numbered past) ∧
    ∀ connection, shard.channel.value.connection = some connection →
      (established past).getLast? = some connection) ?_ past [] (start index) shard
    ⟨start_standing index, ?_⟩ hrun
  · exact hinv.2 connection hslot
  · intro past shard label shard' h hnext
    obtain ⟨⟨hstanding, hnumbered⟩, hlast⟩ := h
    obtain ⟨effect, htick⟩ := (shard.next_eq_some shard' label).mp hnext
    refine ⟨⟨shard.standing_tick shard' past label effect hstanding htick,
      shard.numbered_tick shard' past label effect hstanding hnumbered htick⟩, ?_⟩
    intro held hheld
    rw [established_concat]
    rcases shard.tick_slot shard' past label effect hstanding htick with
      ⟨connection, rfl, _, hslot⟩ | ⟨rfl, _, _, hslot⟩ | ⟨hlabel, _, hslot⟩
    · rw [hslot] at hheld
      cases hheld
      exact List.getLast?_concat
    · rw [hslot] at hheld
      cases hheld
    · rw [established_of_not_installs label hlabel, List.append_nil]
      rw [hslot] at hheld
      exact hlast held hheld
  · intro held hheld
    unfold start at hheld
    split_ifs at hheld
    · cases hheld
    · cases hheld

/-- A connection is the one that a generation counts. -/
def Issued (past : List (Tick κ)) (generation : U64) (connection : κ) : Prop :=
  ∃ earlier later, established past = earlier ++ connection :: later ∧
    generation.val = earlier.length + 1

theorem Issued.unique (past : List (Tick κ)) (generation : U64) (connection other : κ)
    (h : Issued past generation connection) (hother : Issued past generation other) :
    connection = other := by
  obtain ⟨earlier, later, hpast, hnumber⟩ := h
  obtain ⟨earlier', later', hpast', hnumber'⟩ := hother
  have hlength : earlier.length = earlier'.length := by omega
  have htails := List.append_inj (hpast.symm.trans hpast') hlength
  exact (List.cons.inj htails.2).1

theorem Issued.later (past labels : List (Tick κ)) (generation : U64) (connection : κ)
    (h : Issued past generation connection) : Issued (past ++ labels) generation connection := by
  obtain ⟨earlier, later, hpast, hnumber⟩ := h
  refine ⟨earlier, later ++ established labels, ?_, hnumber⟩
  unfold established at hpast ⊢
  rw [List.filterMap_append, hpast, List.append_assoc, List.cons_append]

/-- The slot holds the connection that its generation counts. -/
theorem run_generation (index : ℕ) (past : List (Tick κ)) (shard : Shard κ)
    (hrun : run next (start index) past = some shard) (hbound : installs past < 2 ^ 64)
    (connection : κ) (hslot : shard.channel.value.connection = some connection) :
    Issued past shard.channel.value.generation connection := by
  have hlast := run_holds index past shard hrun connection hslot
  have hnumbered := (run_standing index past shard hrun).2 hbound
  obtain ⟨earlier, hearlier⟩ := List.getLast?_eq_some_iff.mp hlast
  refine ⟨earlier, [], hearlier, ?_⟩
  rw [hnumbered, ← length_established, hearlier, List.length_append, List.length_singleton]

end Shard

theorem ticks_concat (index : ℕ) (past : List (Event κ)) (event : Event κ) :
    ticks index (past ++ [event]) = ticks index past ++ (event.tick index).toList := by
  unfold ticks
  rw [List.filterMap_append]
  cases htick : event.tick index <;> simp [htick]

namespace System

/-- Every shard is where its own supervisor left it, and every caller that has
its connection has the one that the generation counts. -/
structure Sourced (past : List (Event κ)) (s : System κ) : Prop where
  shard : ∀ index shard, s.target.shards[index]? = some shard →
    run Shard.next (Shard.start index) (ticks index past) = some shard
  given : ∀ caller ∈ s.callers, ∀ index generation connection,
    caller = .returned index generation connection → installs (ticks index past) < 2 ^ 64 →
    Shard.Issued (ticks index past) generation connection

theorem installs_ticks_le (index : ℕ) (past : List (Event κ)) (event : Event κ) :
    installs (ticks index past) ≤ installs (ticks index (past ++ [event])) := by
  rw [ticks_concat]
  unfold installs
  rw [List.countP_append]
  exact Nat.le_add_right _ _

/-- What a caller was given stays what it was given. -/
theorem given_later (past : List (Event κ)) (event : Event κ) (index : ℕ) (generation : U64)
    (connection : κ)
    (h : installs (ticks index past) < 2 ^ 64 →
      Shard.Issued (ticks index past) generation connection)
    (hbound : installs (ticks index (past ++ [event])) < 2 ^ 64) :
    Shard.Issued (ticks index (past ++ [event])) generation connection := by
  have hold := h (lt_of_le_of_lt (installs_ticks_le index past event) hbound)
  rw [ticks_concat]
  exact hold.later _ _ generation connection

theorem Sourced.shard_step (past : List (Event κ)) (s : System κ) (event : Event κ)
    (s' : System κ) (hs : s.Sourced past) (h : s.step event = some s') :
    ∀ index shard, s'.target.shards[index]? = some shard →
      run Shard.next (Shard.start index) (ticks index (past ++ [event])) = some shard := by
  intro index shard hshard
  rw [ticks_concat]
  have hunchanged (htick : event.tick index = none)
      (htarget : s'.target.shards = s.target.shards) :
      run Shard.next (Shard.start index) (ticks index past ++ (event.tick index).toList) =
        some shard := by
    rw [htick, Option.toList_none, List.append_nil]
    rw [htarget] at hshard
    exact hs.shard index shard hshard
  cases event with
  | supervised i tick =>
    obtain ⟨target', htarget, rfl⟩ := step_supervised s s' i tick h
    obtain ⟨old, new, effect, hold, htick, hnew⟩ :=
      RedisTarget.supervise_eq_some s.target target' i tick htarget
    have hlt : i < s.target.shards.length := (List.getElem?_eq_some_iff.mp hold).1
    rw [hnew, RedisTarget.apply_shards] at hshard
    dsimp only at hshard
    simp only [Event.tick]
    by_cases heq : i = index
    · subst heq
      rw [List.getElem?_set_self hlt] at hshard
      cases hshard
      rw [if_pos rfl, Option.toList_some]
      exact run_concat _ _ old shard _ tick (hs.shard i old hold)
        ((old.next_eq_some shard tick).mpr ⟨effect, htick⟩)
    · rw [List.getElem?_set_ne heq] at hshard
      rw [if_neg heq, Option.toList_none, List.append_nil]
      exact hs.shard index shard hshard
  | called =>
    cases h
    exact hunchanged rfl rfl
  | moved i =>
    obtain ⟨mover, target', mover', _, hstep, rfl⟩ := step_moved s s' i h
    obtain ⟨number, rfl⟩ := Caller.step_target s.target target' mover mover' hstep
    exact hunchanged rfl rfl
  | gaveUp i =>
    cases h
    exact hunchanged rfl rfl

/-- Only the second read of a shard gives a caller its connection. -/
theorem step_returned (target target' : RedisTarget κ) (mover : Caller κ) (index : ℕ)
    (generation : U64) (connection : κ)
    (h : mover.step target = some (target', .returned index generation connection)) :
    ∃ shard, target.shards[index]? = some shard ∧
      shard.channel.value.connection = some connection ∧
      shard.channel.value.generation = generation := by
  cases mover with
  | scanning start seen offset =>
    simp only [Caller.step] at h
    split_ifs at h <;> cases h
  | cloning start seen chosen =>
    simp only [Caller.step, Option.some.injEq, Prod.mk.injEq] at h
    have hcloned := h.2
    unfold Caller.cloned at hcloned
    split at hcloned
    · cases hcloned
    · rename_i shard hshard
      split at hcloned
      · rename_i held hheld
        cases hcloned
        exact ⟨shard, hshard, hheld, rfl⟩
      · cases hcloned
  | waiting start seen =>
    simp only [Caller.step] at h
    split_ifs at h
    cases h
  | _ => cases h

theorem Sourced.step (past : List (Event κ)) (s : System κ) (event : Event κ) (s' : System κ)
    (hs : s.Sourced past) (h : s.step event = some s') : s'.Sourced (past ++ [event]) := by
  refine ⟨hs.shard_step past s event s' h, ?_⟩
  intro caller hcaller index generation connection hreturned hbound
  have hkept (hmem : caller ∈ s.callers) :
      Shard.Issued (ticks index (past ++ [event])) generation connection :=
    given_later past event index generation connection
      (hs.given caller hmem index generation connection hreturned) hbound
  cases event with
  | supervised i tick =>
    obtain ⟨target', _, rfl⟩ := step_supervised s s' i tick h
    exact hkept hcaller
  | called =>
    cases h
    rcases List.mem_append.mp hcaller with hold | hnew
    · exact hkept hold
    · obtain rfl := List.mem_singleton.mp hnew
      cases hreturned
  | moved i =>
    obtain ⟨mover, target', mover', _, hstep, rfl⟩ := step_moved s s' i h
    rcases List.mem_or_eq_of_mem_set hcaller with hold | rfl
    · exact hkept hold
    · subst hreturned
      obtain ⟨shard, hshard, hslot, hgeneration⟩ :=
        step_returned s.target target' mover index generation connection hstep
      apply given_later past (.moved i) index generation connection ?_ hbound
      intro hinstalls
      rw [← hgeneration]
      exact Shard.run_generation index _ shard (hs.shard index shard hshard) hinstalls
        connection hslot
  | gaveUp i =>
    cases h
    rcases List.mem_or_eq_of_mem_set hcaller with hold | rfl
    · exact hkept hold
    · cases hreturned

theorem start_sourced (connectionShards : ℕ) :
    (start connectionShards : System κ).Sourced [] := by
  constructor
  · intro index shard hshard
    have hstart : (start connectionShards : System κ).target.shards =
        (List.range connectionShards).map Shard.start := rfl
    rw [hstart, List.getElem?_map, Option.map_eq_some_iff] at hshard
    obtain ⟨i, hi, rfl⟩ := hshard
    obtain ⟨_, hvalue⟩ := List.getElem?_eq_some_iff.mp hi
    rw [List.getElem_range] at hvalue
    exact congrArg (fun k => some (Shard.start k)) hvalue
  · intro caller hcaller
    cases hcaller

theorem sourced_of_run (connectionShards : ℕ) (events : List (Event κ)) (s : System κ)
    (hrun : run step (start connectionShards) events = some s) : Sourced events s :=
  run_history step Sourced Sourced.step events [] _ s (start_sourced connectionShards) hrun

/-- A caller that is given a connection under a generation has the connection
that the supervisor of that shard established as its generation-th, whatever has
happened to the shard since; so all callers that are given one shard's same
generation share one connection. -/
theorem callers_sourced (connectionShards : ℕ) (events : List (Event κ)) (s : System κ)
    (hrun : run step (start connectionShards) events = some s) (i index : ℕ)
    (generation : U64) (connection : κ)
    (hcaller : s.callers[i]? = some (.returned index generation connection))
    (hbound : installs (ticks index events) < 2 ^ 64) :
    Shard.Issued (ticks index events) generation connection ∧
      ∀ (j : ℕ) (other : κ), s.callers[j]? = some (.returned index generation other) →
        other = connection := by
  have hsourced := sourced_of_run connectionShards events s hrun
  have hissued := hsourced.given _ (List.mem_of_getElem? hcaller) index generation connection
    rfl hbound
  refine ⟨hissued, ?_⟩
  intro j other hother
  exact (hsourced.given _ (List.mem_of_getElem? hother) index generation other rfl hbound).unique
    _ generation other connection hissued

/-- Two callers of a shard that connected once. -/
def twoCallers : List (Event ℕ) :=
  [.supervised 0 .looked, .supervised 0 (.connected 7), .supervised 0 .gauged,
    .supervised 0 .counted, .supervised 0 .announced, .called, .called] ++
  List.replicate 5 (.moved 0) ++ List.replicate 5 (.moved 1)

theorem callers_sourced_twice : ∃ s : System ℕ, run step (start 1) twoCallers = some s ∧
    s.callers[0]? = some (.returned 0 1 7) ∧
    ∀ other : ℕ, s.callers[1]? = some (.returned 0 1 other) → other = 7 := by
  obtain ⟨s, hrun, hcaller⟩ : ∃ s : System ℕ, run step (start 1) twoCallers = some s ∧
      s.callers[0]? = some (.returned 0 1 7) := ⟨_, rfl, rfl⟩
  exact ⟨s, hrun, hcaller, (callers_sourced 1 twoCallers s hrun 0 0 1 7 hcaller (by decide)).2 1⟩

end System

end RedisBridge.Shards
