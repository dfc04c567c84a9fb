import RedisBridge.ShardWakeup

/-!
The availability of the targets. A slot, the gauge and the counter of a target
are changed one after the other, so they differ while a supervisor is between
two of these steps. Each shard is counted as soon as its supervisor has raised
the counter and until it has lowered it; the counter is the number of counted
shards, and the gauge that of the gauged ones.
-/
namespace RedisBridge.Shards

open RustText TransitionRuns WatchChannels

variable {κ : Type}

namespace Shard

/-- The supervisor is between the change of its slot and the counter. -/
def owes (shard : Shard κ) (change : Change) : Bool :=
  match shard.supervisor.place with
  | .gauging pending => pending = change
  | .counting pending => pending = change
  | _ => false

/-- The shard is among those that the counter counts. -/
def isCounted (shard : Shard κ) : Bool :=
  if shard.owes .connected then false
  else if shard.owes .disconnected then true
  else shard.isReady

/-- The shard is among those that the gauge shows. -/
def isGauged (shard : Shard κ) : Bool :=
  match shard.supervisor.place with
  | .gauging .connected => false
  | .gauging .disconnected => true
  | _ => shard.isReady

/-- What the place of the supervisor says about its slot. -/
def Coherent (shard : Shard κ) : Prop :=
  match shard.supervisor.place with
  | .connecting => shard.isReady = false
  | .gauging change | .counting change | .announcing change =>
      shard.isReady = decide (change = .connected)
  | _ => True

theorem isReady_of_channel (shard shard' : Shard κ) (h : shard'.channel = shard.channel) :
    shard'.isReady = shard.isReady := by
  unfold isReady
  rw [h]

theorem isCounted_of_not_midway (shard : Shard κ) (h : shard.isMidway = false) :
    shard.isCounted = shard.isReady ∧ shard.isGauged = shard.isReady := by
  have hnot := shard.place_of_not_midway h
  have howes (change : Change) : shard.owes change = false := by
    unfold owes
    split
    · next pending hplace => exact absurd hplace (hnot pending).1
    · next pending hplace => exact absurd hplace (hnot pending).2.1
    · rfl
  constructor
  · simp only [isCounted, howes, Bool.false_eq_true, if_false]
  · unfold isGauged
    split
    · next hplace => exact absurd hplace (hnot .connected).1
    · next hplace => exact absurd hplace (hnot .disconnected).1
    · rfl

end Shard

/-- The change of the counter, and that of the gauge, by an effect. -/
def Change.sign : Change → ℤ
  | .connected => 1
  | .disconnected => -1

def Effect.onCounter : Effect → ℤ
  | .counted change => change.sign
  | _ => 0

def Effect.onGauge : Effect → ℤ
  | .gauged change => change.sign
  | _ => 0

namespace Shard

/-- A step keeps a shard coherent, and moves what it is counted and gauged as by
its effect on the counter and the gauge. -/
theorem Coherent.tick (shard shard' : Shard κ) (label : Tick κ) (effect : Effect)
    (hcoherent : shard.Coherent) (h : shard.tick label = some (shard', effect)) :
    shard'.Coherent ∧
      ((shard'.isCounted.toNat : ℤ) = shard.isCounted.toNat + effect.onCounter) ∧
      ((shard'.isGauged.toNat : ℤ) = shard.isGauged.toNat + effect.onGauge) := by
  cases tick_move shard shard' label effect h with
  | idle before after channel effect_eq empty =>
    have hready := shard.isReady_of_channel shard' channel
    obtain ⟨hcounted, hgauged⟩ := shard.isCounted_of_not_midway before
    obtain ⟨hcounted', hgauged'⟩ := shard'.isCounted_of_not_midway after
    have hnone : effect.onCounter = 0 ∧ effect.onGauge = 0 := by
      rcases effect_eq with rfl | ⟨result, rfl⟩
      · exact ⟨rfl, rfl⟩
      · exact ⟨rfl, rfl⟩
    refine ⟨?_, ?_, ?_⟩
    · unfold Coherent
      have hnot := shard'.place_of_not_midway after
      split
      · rename_i hplace
        rw [hready]
        exact empty hplace
      · next change hplace => exact absurd hplace (hnot change).1
      · next change hplace => exact absurd hplace (hnot change).2.1
      · next change hplace => exact absurd hplace (hnot change).2.2
      · trivial
    · rw [hcounted, hcounted', hready, hnone.1, add_zero]
    · rw [hgauged, hgauged', hready, hnone.2, add_zero]
  | filled before after ready effect_eq =>
    have hempty : shard.isReady = false := by
      unfold Coherent at hcoherent
      rw [before] at hcoherent
      exact hcoherent
    refine ⟨?_, ?_, ?_⟩
    · simp only [Coherent, after, ready, decide_true]
    · simp [isCounted, owes, before, after, hempty, effect_eq, Effect.onCounter]
    · simp [isGauged, before, after, hempty, effect_eq, Effect.onGauge]
  | cleared slot before after ready gone effect_eq =>
    refine ⟨?_, ?_, ?_⟩
    · simp [Coherent, after, gone]
    · simp [isCounted, owes, before, after, ready, effect_eq, Effect.onCounter]
    · simp [isGauged, before, after, ready, effect_eq, Effect.onGauge]
  | gauged change before after channel effect_eq =>
    have hready := shard.isReady_of_channel shard' channel
    simp only [Coherent, before] at hcoherent
    refine ⟨?_, ?_, ?_⟩
    · simp only [Coherent, after, hready, hcoherent]
    · simp [isCounted, owes, before, after, effect_eq, Effect.onCounter, hready]
    · cases change <;>
        simp [isGauged, before, after, effect_eq, Effect.onGauge, Change.sign, hready, hcoherent]
  | counted change before after channel effect_eq =>
    have hready := shard.isReady_of_channel shard' channel
    simp only [Coherent, before] at hcoherent
    refine ⟨?_, ?_, ?_⟩
    · simp only [Coherent, after, hready, hcoherent]
    · cases change <;>
        simp [isCounted, owes, before, after, effect_eq, Effect.onCounter, Change.sign, hready,
          hcoherent]
    · simp [isGauged, before, after, effect_eq, Effect.onGauge, hready]
  | announced change before after channel effect_eq =>
    have hready := shard.isReady_of_channel shard' channel
    refine ⟨?_, ?_, ?_⟩
    · simp only [Coherent, after]
    · simp [isCounted, owes, before, after, effect_eq, Effect.onCounter, hready]
    · simp [isGauged, before, after, effect_eq, Effect.onGauge, hready]

theorem Coherent.ready_of_owes (shard : Shard κ) (change : Change) (h : shard.Coherent)
    (howes : shard.owes change = true) : shard.isReady = decide (change = .connected) := by
  unfold Coherent at h
  unfold owes at howes
  split at howes
  · rename_i pending hplace
    rw [hplace] at h
    obtain rfl : pending = change := of_decide_eq_true howes
    exact h
  · rename_i pending hplace
    rw [hplace] at h
    obtain rfl : pending = change := of_decide_eq_true howes
    exact h
  · cases howes

/-- A counted shard is a connected one, up to the changes not yet counted. -/
theorem Coherent.counted (shard : Shard κ) (h : shard.Coherent) :
    shard.isCounted.toNat + (shard.owes .connected).toNat =
      shard.isReady.toNat + (shard.owes .disconnected).toNat := by
  have hfilled := Coherent.ready_of_owes shard .connected h
  have hcleared := Coherent.ready_of_owes shard .disconnected h
  unfold isCounted
  cases hup : shard.owes .connected with
  | true =>
    have hready := hfilled hup
    cases hdown : shard.owes .disconnected with
    | true =>
      have hgone := hcleared hdown
      rw [hready] at hgone
      cases hgone
    | false => simp [hready]
  | false =>
    cases hdown : shard.owes .disconnected with
    | true =>
      have hgone := hcleared hdown
      simp [hgone]
    | false => simp

/-- A connection is installed from one place only, where the slot is empty. -/
theorem Coherent.not_ready_of_connected (shard shard' : Shard κ) (connection : κ)
    (effect : Effect) (h : shard.Coherent)
    (htick : shard.tick (.connected connection) = some (shard', effect)) :
    shard.isReady = false := by
  have hplace : shard.supervisor.place = .connecting := by
    unfold Shard.tick at htick
    split at htick
    case h_7 hplace _ => exact hplace
    all_goals contradiction
  unfold Coherent at h
  rw [hplace] at h
  exact h

theorem start_coherent (index : ℕ) :
    (start index : Shard κ).Coherent ∧ (start index : Shard κ).isCounted = false ∧
      (start index : Shard κ).isGauged = false := by
  unfold start
  split
  · exact ⟨trivial, rfl, rfl⟩
  · exact ⟨trivial, rfl, rfl⟩

end Shard

namespace RedisTarget

/-- The counter and the gauge show exactly the shards that are counted and gauged. -/
structure Accounted (target : RedisTarget κ) : Prop where
  size : target.shards.length < 2 ^ 64
  coherent : ∀ shard ∈ target.shards, shard.Coherent
  counter : target.availableShards.val = target.shards.countP Shard.isCounted
  gauge : target.redisConnectedShards = target.shards.countP Shard.isGauged

theorem start_accounted (connectionShards : Usize) :
    (start connectionShards.val : RedisTarget κ).Accounted := by
  have hshard (shard : Shard κ)
      (h : shard ∈ (start connectionShards.val : RedisTarget κ).shards) :
      shard.Coherent ∧ shard.isCounted = false ∧ shard.isGauged = false := by
    obtain ⟨index, _, rfl⟩ := List.mem_map.mp h
    exact Shard.start_coherent index
  refine ⟨?_, fun shard h => (hshard shard h).1, ?_, ?_⟩
  · have hlt := connectionShards.isLt
    simp [start]
  · rw [List.countP_eq_zero.mpr (fun shard h => by simp [(hshard shard h).2.1])]
    rfl
  · rw [List.countP_eq_zero.mpr (fun shard h => by simp [(hshard shard h).2.2])]
    rfl

/-- A target moves its counter and its gauge by the effect, if the counter does
not wrap. -/
theorem apply_counts (target : RedisTarget κ) (effect : Effect)
    (hnonneg : 0 ≤ (target.availableShards.val : ℤ) + effect.onCounter)
    (hlt : (target.availableShards.val : ℤ) + effect.onCounter < 2 ^ 64) :
    ((target.apply effect).availableShards.val : ℤ) =
        target.availableShards.val + effect.onCounter ∧
      (target.apply effect).redisConnectedShards =
        target.redisConnectedShards + effect.onGauge := by
  have hone : (1 : Usize).val = 1 := rfl
  cases effect with
  | gauged change => cases change <;> simp [apply, Effect.onCounter, Effect.onGauge, Change.sign,
      sub_eq_add_neg]
  | counted change =>
    cases change with
    | connected =>
      simp only [Effect.onCounter, Change.sign] at hlt ⊢
      refine ⟨?_, by simp [apply, Effect.onGauge]⟩
      have hval : (target.availableShards + 1).val = target.availableShards.val + 1 := by
        rw [Fin.val_add, hone, Nat.mod_eq_of_lt (by omega)]
      simp only [apply, hval]
      omega
    | disconnected =>
      simp only [Effect.onCounter, Change.sign] at hnonneg ⊢
      refine ⟨?_, by simp [apply, Effect.onGauge]⟩
      have hle : (1 : Usize) ≤ target.availableShards := by
        rw [Fin.le_def, hone]
        omega
      have hval : (target.availableShards - 1).val = target.availableShards.val - 1 := by
        rw [Fin.sub_val_of_le hle, hone]
      simp only [apply, hval]
      omega
  | _ => simp [apply, Effect.onCounter, Effect.onGauge]

/-- A supervisor keeps the accounts: its counter never wraps. -/
theorem Accounted.supervise (target target' : RedisTarget κ) (index : ℕ) (tick : Tick κ)
    (htarget : target.Accounted) (h : target.supervise index tick = some target') :
    target'.Accounted := by
  obtain ⟨shard, shard', effect, hshard, htick, rfl⟩ :=
    supervise_eq_some target target' index tick h
  have hmem : shard ∈ target.shards := List.mem_of_getElem? hshard
  obtain ⟨hcoherent, hcounter, hgauge⟩ :=
    Shard.Coherent.tick shard shard' tick effect (htarget.coherent shard hmem) htick
  have hcounted := countP_set_add Shard.isCounted target.shards index shard shard' hshard
  have hgauged := countP_set_add Shard.isGauged target.shards index shard shard' hshard
  have hsize := htarget.size
  have hbefore := htarget.counter
  have hgaugeBefore := htarget.gauge
  have hle : (target.shards.set index shard').countP Shard.isCounted ≤ target.shards.length := by
    have := List.countP_le_length (p := Shard.isCounted) (l := target.shards.set index shard')
    rwa [List.length_set] at this
  obtain ⟨havailable, hconnected⟩ :=
    apply_counts { target with shards := target.shards.set index shard' } effect
      (by dsimp only; omega) (by dsimp only; omega)
  refine ⟨?_, ?_, ?_, ?_⟩
  · rw [apply_shards, List.length_set]
    exact hsize
  · intro other hother
    rw [apply_shards] at hother
    rcases List.mem_or_eq_of_mem_set hother with hold | rfl
    · exact htarget.coherent other hold
    · exact hcoherent
  · rw [apply_shards]
    dsimp only at havailable ⊢
    omega
  · rw [apply_shards, hconnected]
    dsimp only
    omega

/-- The counter counts the connected shards, up to the changes not yet counted. -/
theorem Accounted.ready (target : RedisTarget κ) (h : target.Accounted) :
    target.availableShards.val + target.shards.countP (Shard.owes · .connected) =
      target.shards.countP Shard.isReady + target.shards.countP (Shard.owes · .disconnected) := by
  rw [h.counter]
  have hcoherent := h.coherent
  generalize target.shards = shards at hcoherent ⊢
  induction shards with
  | nil => rfl
  | cons shard rest ih =>
    have hrest := ih (fun other hother => hcoherent other (List.mem_cons_of_mem shard hother))
    have hshard := Shard.Coherent.counted shard (hcoherent shard List.mem_cons_self)
    have hone : ∀ b : Bool, (if b = true then 1 else 0) = b.toNat := by decide
    simp only [List.countP_cons, hone]
    omega

/-- Where no supervisor is midway, gauge and counter show the connected shards. -/
theorem Accounted.quiet (target : RedisTarget κ) (h : target.Accounted) (hquiet : target.Quiet) :
    target.availableShards.val = target.shards.countP Shard.isReady ∧
      target.redisConnectedShards = target.availableShards.val := by
  have hsame (shard : Shard κ) (hmem : shard ∈ target.shards) :=
    shard.isCounted_of_not_midway (hquiet shard hmem)
  have hcounter : target.shards.countP Shard.isCounted = target.shards.countP Shard.isReady :=
    List.countP_congr (fun shard hmem => by rw [(hsame shard hmem).1])
  have hgauge : target.shards.countP Shard.isGauged = target.shards.countP Shard.isReady :=
    List.countP_congr (fun shard hmem => by rw [(hsame shard hmem).2])
  rw [h.counter, h.gauge, hcounter, hgauge]
  exact ⟨rfl, rfl⟩

end RedisTarget

theorem System.accounted_step (s : System κ) (event : Event κ) (s' : System κ)
    (hs : s.target.Accounted) (h : s.step event = some s') : s'.target.Accounted := by
  rcases s.step_target_cases s' event h with ⟨index, tick, htarget⟩ | ⟨next, htarget⟩
  · exact hs.supervise s.target s'.target index tick htarget
  · rw [htarget]
    exact ⟨hs.size, hs.coherent, hs.counter, hs.gauge⟩

/-- All targets with their callers, `AppState` as far as its shards are concerned. -/
abbrev Fleet (κ : Type) := List (System κ)

namespace Fleet

/-- One supervisor for every shard of every target. -/
def start (connectionShards : List Usize) : Fleet κ :=
  connectionShards.map (fun count => System.start count.val)

/-- A step of one target's supervisors or callers. -/
def step (fleet : Fleet κ) (label : ℕ × Event κ) : Option (Fleet κ) :=
  match fleet[label.1]? with
  | none => none
  | some s => (s.step label.2).map (fleet.set label.1)

def targetsReady (fleet : Fleet κ) : Bool :=
  !fleet.isEmpty && fleet.all (fun s => 0 < s.target.availableShards)

/-- No supervisor of any target is midway. -/
def Quiet (fleet : Fleet κ) : Prop := ∀ s ∈ fleet, s.target.Quiet

theorem step_cases (fleet fleet' : Fleet κ) (label : ℕ × Event κ)
    (h : fleet.step label = some fleet') : ∃ s s', fleet[label.1]? = some s ∧
      s.step label.2 = some s' ∧ fleet' = fleet.set label.1 s' := by
  unfold step at h
  split at h
  · cases h
  · rename_i s hs
    obtain ⟨s', hs', rfl⟩ := Option.map_eq_some_iff.mp h
    exact ⟨s, s', hs, hs', rfl⟩

/-- Every target keeps its accounts. -/
def Accounted (fleet : Fleet κ) : Prop := ∀ s ∈ fleet, s.target.Accounted

theorem Accounted.step (fleet : Fleet κ) (label : ℕ × Event κ) (fleet' : Fleet κ)
    (hfleet : fleet.Accounted) (h : fleet.step label = some fleet') : fleet'.Accounted := by
  obtain ⟨s, s', hs, hstep, rfl⟩ := step_cases fleet fleet' label h
  have htarget := hfleet s (List.mem_of_getElem? hs)
  intro other hother
  rcases List.mem_or_eq_of_mem_set hother with hold | rfl
  · exact hfleet other hold
  · exact System.accounted_step s label.2 other htarget hstep

theorem start_accounted (connectionShards : List Usize) :
    (start connectionShards : Fleet κ).Accounted := by
  intro s hs
  obtain ⟨count, _, rfl⟩ := List.mem_map.mp hs
  exact RedisTarget.start_accounted count

/-- A target is shown as ready exactly when one of its shards is connected. -/
theorem available_pos (target : RedisTarget κ) (h : target.Accounted) (hquiet : target.Quiet) :
    0 < target.availableShards ↔
      ∃ shard ∈ target.shards, shard.channel.value.connection.isSome = true := by
  rw [Fin.lt_def, (h.quiet target hquiet).1]
  exact List.countP_pos_iff

/-- The accounts of the shards, in every reachable state of any number of
targets: the counter of a target is lowered only where it is positive and raised
only where it does not wrap; it counts the connected shards, corrected by the
supervisors that have changed their slot and not yet the counter; a connection is
installed only in an empty slot; and while no supervisor is midway, the targets
are shown as ready exactly when there are some and each has a connected shard. -/
theorem availability_accounted (connectionShards : List Usize) (fleet : Fleet κ)
    (h : Reachable step (start connectionShards) fleet) :
    (∀ s ∈ fleet, ∀ shard ∈ s.target.shards,
      (shard.supervisor.place = .counting .disconnected → 0 < s.target.availableShards.val) ∧
      (shard.supervisor.place = .counting .connected →
        s.target.availableShards.val + 1 < 2 ^ 64) ∧
      (∀ connection, (shard.tick (.connected connection)).isSome = true →
        shard.channel.value.connection = none)) ∧
    (∀ s ∈ fleet,
      s.target.availableShards.val + s.target.shards.countP (Shard.owes · .connected) =
        s.target.shards.countP (fun shard => shard.channel.value.connection.isSome) +
          s.target.shards.countP (Shard.owes · .disconnected)) ∧
    (fleet.Quiet →
      (fleet.targetsReady = true ↔ fleet ≠ [] ∧ ∀ s ∈ fleet,
        ∃ shard ∈ s.target.shards, shard.channel.value.connection.isSome = true) ∧
      ∀ s ∈ fleet, s.target.redisConnectedShards = s.target.availableShards.val) := by
  have haccounted : fleet.Accounted := reachable_invariant step (start connectionShards) Accounted
    (start_accounted connectionShards) Accounted.step fleet h
  refine ⟨?_, ?_, ?_⟩
  · intro s hs shard hshard
    have htarget := haccounted s hs
    have hcoherent := htarget.coherent shard hshard
    refine ⟨?_, ?_, ?_⟩
    · intro hplace
      rw [htarget.counter]
      exact List.countP_pos_iff.mpr ⟨shard, hshard, by simp [Shard.isCounted, Shard.owes, hplace]⟩
    · intro hplace
      have hlt : s.target.shards.countP Shard.isCounted < s.target.shards.length := by
        apply lt_of_le_of_ne List.countP_le_length
        intro hall
        have hcounted := List.countP_eq_length.mp hall shard hshard
        simp [Shard.isCounted, Shard.owes, hplace] at hcounted
      have hsize := htarget.size
      rw [htarget.counter]
      omega
    · intro connection hsome
      obtain ⟨⟨shard', effect⟩, htick⟩ := Option.isSome_iff_exists.mp hsome
      have hready :=
        Shard.Coherent.not_ready_of_connected shard shard' connection effect hcoherent htick
      exact Option.isNone_iff_eq_none.mp (Option.isSome_eq_false_iff.mp hready)
  · intro s hs
    exact RedisTarget.Accounted.ready s.target (haccounted s hs)
  · intro hquiet
    refine ⟨?_, fun s hs => ((haccounted s hs).quiet s.target (hquiet s hs)).2⟩
    unfold targetsReady
    rw [Bool.and_eq_true, List.all_eq_true]
    apply and_congr
    · simp
    · apply forall₂_congr
      intro s hs
      rw [decide_eq_true_eq]
      exact available_pos s.target (haccounted s hs) (hquiet s hs)

/-- The only shard is connected, and its supervisor has not counted it yet. -/
theorem availability_accounted_midway : ∃ (fleet : Fleet Unit) (s : System Unit),
    Reachable step (start [1]) fleet ∧ s ∈ fleet ∧ s.target.availableShards.val = 0 ∧
      s.target.shards.countP
        (fun shard => shard.channel.value.connection.isSome) = 1 := by
  obtain ⟨fleet, s, hreachable, hs, hcounter, hup, hdown⟩ : ∃ (fleet : Fleet Unit)
      (s : System Unit), Reachable step (start [1]) fleet ∧ s ∈ fleet ∧
        s.target.availableShards.val = 0 ∧
        s.target.shards.countP (Shard.owes · .connected) = 1 ∧
        s.target.shards.countP (Shard.owes · .disconnected) = 0 :=
    ⟨_, _, ⟨[(0, .supervised 0 .looked), (0, .supervised 0 (.connected ()))], rfl⟩,
      List.mem_cons_self, rfl, rfl, rfl⟩
  obtain ⟨_, hbalance, _⟩ := availability_accounted [1] fleet hreachable
  have hs' := hbalance s hs
  exact ⟨fleet, s, hreachable, hs, hcounter, by omega⟩

end Fleet

end RedisBridge.Shards
