import RedisBridge.ShardWakeup

/-!
The supervisor of one shard, over whole runs. The generation of a slot is the
number of connections installed in it. A connection is given up by the second of
two consecutive probes of it that fail, and by nothing else; its slot then still
holds it. The pauses after refused attempts double up to a bound, and begin anew
with each connection.
-/
namespace RedisBridge.Shards

open Instants RustText TransitionRuns WatchChannels

variable {κ : Type}

/-! What the steps so far say. -/

def Tick.installs : Tick κ → Bool
  | .connected _ => true
  | _ => false

/-- The connections installed so far. -/
def installs (past : List (Tick κ)) : ℕ := past.countP Tick.installs

def refusalsAfter (count : ℕ) : Tick κ → ℕ
  | .connected _ => 0
  | .refused => count + 1
  | _ => count

/-- The refused attempts since the last success. -/
def refusals (past : List (Tick κ)) : ℕ := past.foldl refusalsAfter 0

def probesAfter (outcomes : List Bool) : Tick κ → List Bool
  | .connected _ => []
  | .probed pong => outcomes ++ [pong]
  | _ => outcomes

/-- The outcomes of the probes of the last connection, in order. -/
def probes (past : List (Tick κ)) : List Bool := past.foldl probesAfter []

/-- The last probe of the last connection failed. -/
def lastFailed (past : List (Tick κ)) : Bool := (probes past).getLast? = some false

/-- The pause, in nanoseconds, after `count` earlier refusals in a row. -/
def delay (count : ℕ) : ℕ := min (250 * 10 ^ 6 * 2 ^ count) (5 * 10 ^ 9)

@[simp] theorem installs_append (past : List (Tick κ)) (label : Tick κ) :
    installs (past ++ [label]) = installs past + label.installs.toNat := by
  unfold installs
  rw [List.countP_append, List.countP_singleton]
  cases label.installs <;> rfl

@[simp] theorem refusals_append (past : List (Tick κ)) (label : Tick κ) :
    refusals (past ++ [label]) = refusalsAfter (refusals past) label := by
  unfold refusals
  rw [List.foldl_append]
  rfl

@[simp] theorem probes_append (past : List (Tick κ)) (label : Tick κ) :
    probes (past ++ [label]) = probesAfter (probes past) label := by
  unfold probes
  rw [List.foldl_append]
  rfl

theorem delay_succ (count : ℕ) : delay (count + 1) = min (delay count * 2) (5 * 10 ^ 9) := by
  unfold delay
  rw [pow_succ]
  omega

/-- The first pause. -/
theorem initialBackoff_nanos : initialBackoff.nanos = delay 0 := by
  have hnanos : initialBackoff.nanos = 250 * 10 ^ 6 := rfl
  rw [hnanos]
  exact (Nat.min_eq_left (by decide)).symm

theorem nanos_min (a b : Duration) : (min a b).nanos = min a.nanos b.nanos := by
  rw [min_def, min_def]
  split_ifs with h h'
  · rfl
  · exact absurd ((Duration.le_iff a b).mp h) h'
  · exact absurd ((Duration.le_iff a b).mpr ‹_›) h
  · rfl

/-- Doubling a pause gives the next one. -/
theorem doubled_delay (backoff : Duration) (count : ℕ) (h : backoff.nanos = delay count) :
    (min (backoff.saturatingMul 2) maxBackoff).nanos = delay (count + 1) := by
  have hcap : maxBackoff.nanos = 5 * 10 ^ 9 := rfl
  have hdouble : (backoff.saturatingMul 2).nanos =
      min (backoff.nanos * 2) (2 ^ 64 * 10 ^ 9 - 1) := rfl
  have hle : delay count ≤ 5 * 10 ^ 9 := Nat.min_le_right _ _
  rw [nanos_min, hcap, hdouble, h, delay_succ]
  omega

namespace Shard

/-- The shard after a step of its supervisor. -/
def next (shard : Shard κ) (label : Tick κ) : Option (Shard κ) := (shard.tick label).map Prod.fst

/-- The local variables agree with the steps so far. -/
structure Rested (shard : Shard κ) (past : List (Tick κ)) : Prop where
  backoff : shard.supervisor.backoff.nanos = delay (refusals past)
  failedProbes : shard.supervisor.failedProbes =
    if shard.isReady = true then (lastFailed past).toNat else 0

/-- What holds between a change of the slot and the end of the call. -/
def Changing (shard : Shard κ) (past : List (Tick κ)) : Change → Prop
  | .connected => shard.isReady = true ∧ refusals past = 0 ∧ lastFailed past = false
  | .disconnected =>
      shard.isReady = false ∧ shard.supervisor.backoff.nanos = delay (refusals past)

/-- What holds at each place of the supervisor. -/
def Standing (shard : Shard κ) (past : List (Tick κ)) : Prop :=
  match shard.supervisor.place with
  | .starting | .connecting => shard.Rested past ∧ shard.isReady = false
  | .loopHead => shard.Rested past
  | .watching slot seen => shard.Rested past ∧ shard.isReady = true ∧
      slot = shard.channel.value ∧ seen = shard.channel.version
  | .probing slot => shard.Rested past ∧ shard.isReady = true ∧ slot = shard.channel.value
  | .gauging change | .counting change | .announcing change => shard.Changing past change
  | .backingOff => shard.isReady = false ∧ shard.supervisor.failedProbes = 0 ∧
      ∃ count, refusals past = count + 1 ∧ shard.supervisor.backoff.nanos = delay count

/-- A step that is no attempt and no probe says nothing new. -/
theorem Rested.keep (shard shard' : Shard κ) (past : List (Tick κ)) (label : Tick κ)
    (h : shard.Rested past) (hchannel : shard'.channel = shard.channel)
    (hbackoff : shard'.supervisor.backoff = shard.supervisor.backoff)
    (hfailed : shard'.supervisor.failedProbes = shard.supervisor.failedProbes)
    (hrefusals : ∀ count, refusalsAfter count label = count)
    (hprobes : ∀ outcomes, probesAfter outcomes label = outcomes) :
    shard'.Rested (past ++ [label]) := by
  constructor
  · rw [hbackoff, refusals_append, hrefusals]
    exact h.backoff
  · rw [hfailed, isReady, hchannel, lastFailed, probes_append, hprobes]
    exact h.failedProbes

theorem Changing.keep (shard : Shard κ) (past : List (Tick κ)) (label : Tick κ) (place : Place κ)
    (change : Change) (h : shard.Changing past change)
    (hrefusals : ∀ count, refusalsAfter count label = count)
    (hprobes : ∀ outcomes, probesAfter outcomes label = outcomes) :
    (shard.goTo place).Changing (past ++ [label]) change := by
  cases change with
  | connected =>
    obtain ⟨hready, hcount, hlast⟩ := h
    refine ⟨hready, ?_, ?_⟩
    · rw [refusals_append, hrefusals]
      exact hcount
    · rw [lastFailed, probes_append, hprobes]
      exact hlast
  | disconnected =>
    obtain ⟨hempty, hbackoff⟩ := h
    refine ⟨hempty, ?_⟩
    rw [refusals_append, hrefusals]
    exact hbackoff

/-- After a call the local variables agree with the steps again. -/
theorem Changing.finish (shard : Shard κ) (past : List (Tick κ)) (change : Change)
    (h : shard.Changing past change) : (shard.finish change).Rested (past ++ [.announced]) := by
  have hprobes : lastFailed (past ++ [.announced]) = lastFailed past := by
    rw [lastFailed, probes_append]
    rfl
  cases change with
  | connected =>
    obtain ⟨hready, hcount, hlast⟩ := h
    constructor
    · rw [refusals_append, hcount]
      exact initialBackoff_nanos
    · rw [hprobes, hlast]
      split_ifs <;> rfl
  | disconnected =>
    obtain ⟨hempty, hbackoff⟩ := h
    constructor
    · rw [refusals_append]
      exact hbackoff
    · rw [if_neg]
      · rfl
      · exact Bool.eq_false_iff.mp hempty

/-- The connection that a supervisor probes is still in the slot. -/
theorem disconnected_matches (shard : Shard κ) (past : List (Tick κ)) (slot : ConnectionSlot κ)
    (h : shard.Standing past) (hplace : shard.supervisor.place = .probing slot) :
    shard.channel.sendIfModified (·.disconnected slot.generation) =
      (⟨{ shard.channel.value with connection := none }, shard.channel.version + 1⟩, true) := by
  simp only [Standing, hplace] at h
  obtain ⟨_, hready, rfl⟩ := h
  have hmatch : shard.channel.value.disconnected shard.channel.value.generation =
      some { shard.channel.value with connection := none } := by
    unfold ConnectionSlot.disconnected
    rw [if_neg]
    rw [isReady, ← Option.isNone_eq_false_iff] at hready
    simp [hready]
  simp only [Watch.sendIfModified, hmatch]

/-- A failed probe gives the connection up when the probe before it failed too,
and is remembered otherwise. -/
theorem probeFailed_cases (shard : Shard κ) (past : List (Tick κ)) (slot : ConnectionSlot κ)
    (h : shard.Standing past) (hplace : shard.supervisor.place = .probing slot) :
    shard.probeFailed slot = if lastFailed past = true then
      ({ shard with
        channel := ⟨{ shard.channel.value with connection := none }, shard.channel.version + 1⟩
        }.setFailedProbes 2).goTo (.gauging .disconnected)
    else (shard.goTo .loopHead).setFailedProbes 1 := by
  have hcall := shard.disconnected_matches past slot h hplace
  simp only [Standing, hplace] at h
  obtain ⟨hrested, hready, rfl⟩ := h
  have hfailed := hrested.failedProbes
  rw [if_pos hready] at hfailed
  cases hlast : lastFailed past with
  | true =>
    rw [hlast] at hfailed
    rw [if_pos rfl]
    simp only [probeFailed, hfailed, maxFailedProbes, Bool.toNat_true]
    rw [if_pos (by decide)]
    unfold disconnected
    have hchannel : (shard.setFailedProbes (min (1 + 1) 255)).channel = shard.channel := rfl
    rw [hchannel, hcall]
    rfl
  | false =>
    rw [hlast] at hfailed
    simp [probeFailed, hfailed, maxFailedProbes]

theorem standing_tick (shard shard' : Shard κ) (past : List (Tick κ)) (label : Tick κ)
    (effect : Effect) (hstanding : shard.Standing past)
    (h : shard.tick label = some (shard', effect)) : shard'.Standing (past ++ [label]) := by
  unfold tick at h
  split at h
  case h_1 hplace =>
    cases h
    simp only [Standing, hplace] at hstanding
    exact hstanding.1.keep _ _ _ _ rfl rfl rfl (fun _ => rfl) (fun _ => rfl)
  case h_2 hplace =>
    cases h
    simp only [Standing, hplace] at hstanding
    unfold looked
    split_ifs with hready
    · exact ⟨hstanding.keep _ _ _ _ rfl rfl rfl (fun _ => rfl) (fun _ => rfl), hready, rfl, rfl⟩
    · exact ⟨hstanding.keep _ _ _ _ rfl rfl rfl (fun _ => rfl) (fun _ => rfl),
        Bool.eq_false_iff.mpr hready⟩
  case h_3 hplace =>
    split at h
    · cases h
      simp only [Standing, hplace] at hstanding
      exact hstanding.1.keep _ _ _ _ rfl rfl rfl (fun _ => rfl) (fun _ => rfl)
    · cases h
  case h_4 hplace =>
    cases h
    simp only [Standing, hplace] at hstanding
    obtain ⟨hrested, hready, hslot, _⟩ := hstanding
    exact ⟨hrested.keep _ _ _ _ rfl rfl rfl (fun _ => rfl) (fun _ => rfl), hready, hslot⟩
  case h_5 hplace =>
    cases h
    simp only [Standing, hplace] at hstanding
    obtain ⟨hrested, hready, _⟩ := hstanding
    constructor
    · rw [refusals_append]
      exact hrested.backoff
    · have hpong : lastFailed (past ++ [.probed true]) = false := by
        simp [lastFailed, probesAfter]
      rw [hpong]
      split_ifs <;> rfl
  case h_6 slot hplace =>
    cases h
    rw [shard.probeFailed_cases past slot hstanding hplace]
    simp only [Standing, hplace] at hstanding
    obtain ⟨hrested, hready, _⟩ := hstanding
    split_ifs with hlast
    · refine ⟨rfl, ?_⟩
      rw [refusals_append]
      exact hrested.backoff
    · constructor
      · rw [refusals_append]
        exact hrested.backoff
      · have hfailed : lastFailed (past ++ [.probed false]) = true := by
          simp [lastFailed, probesAfter]
        rw [hfailed]
        exact (if_pos hready).symm
  case h_7 connection hplace =>
    cases h
    refine ⟨rfl, refusals_append past _, ?_⟩
    simp [lastFailed, probesAfter]
  case h_8 hplace =>
    cases h
    simp only [Standing, hplace] at hstanding
    obtain ⟨hrested, hempty⟩ := hstanding
    have hfailed := hrested.failedProbes
    rw [if_neg (by rw [hempty]; exact Bool.false_ne_true)] at hfailed
    exact ⟨hempty, hfailed, refusals past, refusals_append past _, hrested.backoff⟩
  case h_9 change hplace =>
    cases h
    simp only [Standing, hplace] at hstanding
    exact hstanding.keep _ _ _ _ _ (fun _ => rfl) (fun _ => rfl)
  case h_10 change hplace =>
    cases h
    simp only [Standing, hplace] at hstanding
    exact hstanding.keep _ _ _ _ _ (fun _ => rfl) (fun _ => rfl)
  case h_11 change hplace =>
    cases h
    simp only [Standing, hplace] at hstanding
    have hrested := hstanding.finish shard past change
    cases change
    · exact hrested
    · exact hrested
  case h_12 hplace =>
    cases h
    simp only [Standing, hplace] at hstanding
    obtain ⟨hempty, hfailed, count, hcount, hbackoff⟩ := hstanding
    constructor
    · rw [refusals_append, hcount]
      exact doubled_delay _ count hbackoff
    · exact hfailed.trans (if_neg (Bool.eq_false_iff.mp hempty)).symm
  case h_13 => cases h

/-- What a step does to the slot: it fills it, it clears it after two failed
probes, or it leaves it alone. -/
theorem tick_slot (shard shard' : Shard κ) (past : List (Tick κ)) (label : Tick κ)
    (effect : Effect) (hstanding : shard.Standing past)
    (h : shard.tick label = some (shard', effect)) :
    (∃ connection, label = .connected connection ∧ shard.isReady = false ∧
      shard'.channel.value = shard.channel.value.connected connection) ∨
    (label = .probed false ∧ lastFailed past = true ∧ shard.isReady = true ∧
      shard'.channel.value = { shard.channel.value with connection := none }) ∨
    (label.installs = false ∧ ¬(label = .probed false ∧ lastFailed past = true) ∧
      shard'.channel.value = shard.channel.value) := by
  unfold tick at h
  split at h
  case h_2 hplace =>
    cases h
    refine Or.inr (Or.inr ⟨rfl, by simp, ?_⟩)
    unfold looked
    split_ifs <;> rfl
  case h_3 hplace =>
    split at h
    · cases h
      exact Or.inr (Or.inr ⟨rfl, by simp, rfl⟩)
    · cases h
  case h_5 hplace =>
    cases h
    exact Or.inr (Or.inr ⟨rfl, by simp, rfl⟩)
  case h_6 slot hplace =>
    cases h
    rw [shard.probeFailed_cases past slot hstanding hplace]
    simp only [Standing, hplace] at hstanding
    obtain ⟨_, hready, _⟩ := hstanding
    split_ifs with hlast
    · exact Or.inr (Or.inl ⟨rfl, hlast, hready, rfl⟩)
    · exact Or.inr (Or.inr ⟨rfl, fun h => hlast h.2, rfl⟩)
  case h_7 connection hplace =>
    cases h
    simp only [Standing, hplace] at hstanding
    exact Or.inl ⟨connection, rfl, hstanding.2, rfl⟩
  case h_11 change hplace =>
    cases h
    refine Or.inr (Or.inr ⟨rfl, by simp, ?_⟩)
    cases change <;> rfl
  case h_13 => cases h
  all_goals
    cases h
    exact Or.inr (Or.inr ⟨rfl, by simp, rfl⟩)

/-- The slot's generation counts the installed connections, up to a full word. -/
def Numbered (shard : Shard κ) (past : List (Tick κ)) : Prop :=
  installs past < 2 ^ 64 → shard.channel.value.generation.val = installs past

theorem numbered_tick (shard shard' : Shard κ) (past : List (Tick κ)) (label : Tick κ)
    (effect : Effect) (hstanding : shard.Standing past) (hnumbered : shard.Numbered past)
    (h : shard.tick label = some (shard', effect)) : shard'.Numbered (past ++ [label]) := by
  intro hbound
  rw [installs_append] at hbound ⊢
  rcases shard.tick_slot shard' past label effect hstanding h with
    ⟨connection, rfl, _, hslot⟩ | ⟨rfl, _, _, hslot⟩ | ⟨hlabel, _, hslot⟩
  · have hone : (Tick.connected connection).installs.toNat = 1 := rfl
    rw [hone] at hbound ⊢
    have hval := hnumbered (by omega)
    have hnext : (shard.channel.value.generation + 1).val = installs past + 1 := by
      rw [Fin.val_add, hval]
      exact Nat.mod_eq_of_lt hbound
    have hpos : (1 : U64) ≤ shard.channel.value.generation + 1 := by
      rw [Fin.le_def, hnext]
      exact Nat.le_add_left 1 _
    rw [hslot]
    simp only [ConnectionSlot.connected, max_eq_left hpos]
    exact hnext
  · rw [hslot]
    exact hnumbered (by omega)
  · rw [hlabel, Bool.toNat_false, Nat.add_zero] at hbound ⊢
    rw [hslot]
    exact hnumbered hbound

theorem start_standing (index : ℕ) : (start index : Shard κ).Standing [] ∧
    (start index : Shard κ).Numbered [] := by
  have hrested (place : Place κ) : ((⟨Watch.channel ConnectionSlot.empty,
      ⟨place, initialBackoff, 0, 0⟩⟩ : Shard κ)).Rested [] := ⟨initialBackoff_nanos, rfl⟩
  refine ⟨?_, fun _ => rfl⟩
  unfold start
  split_ifs
  · exact ⟨hrested _, rfl⟩
  · exact hrested _

theorem next_eq_some (shard shard' : Shard κ) (label : Tick κ) :
    shard.next label = some shard' ↔ ∃ effect, shard.tick label = some (shard', effect) := by
  unfold next
  rw [Option.map_eq_some_iff]
  constructor
  · intro h
    obtain ⟨⟨_, effect⟩, htick, rfl⟩ := h
    exact ⟨effect, htick⟩
  · intro h
    obtain ⟨effect, htick⟩ := h
    exact ⟨(shard', effect), htick, rfl⟩

/-- Every run keeps both. -/
theorem run_standing (index : ℕ) (past : List (Tick κ)) (shard : Shard κ)
    (hrun : run next (start index) past = some shard) :
    shard.Standing past ∧ shard.Numbered past := by
  apply run_history next (fun past shard => shard.Standing past ∧ shard.Numbered past) ?_ past []
    (start index) shard (start_standing index) hrun
  intro past shard label shard' h hnext
  obtain ⟨effect, htick⟩ := (shard.next_eq_some shard' label).mp hnext
  exact ⟨shard.standing_tick shard' past label effect h.1 htick,
    shard.numbered_tick shard' past label effect h.1 h.2 htick⟩

/-- How often the slot is emptied along a run. -/
def emptyings (shard : Shard κ) : List (Tick κ) → ℕ
  | [] => 0
  | label :: rest =>
      match shard.next label with
      | none => 0
      | some shard' => (shard.isReady && !shard'.isReady).toNat + emptyings shard' rest

theorem ready_tick (shard shard' : Shard κ) (past : List (Tick κ)) (label : Tick κ)
    (effect : Effect) (hstanding : shard.Standing past)
    (h : shard.tick label = some (shard', effect)) :
    ((shard.isReady = true ∧ shard'.isReady = false) ↔
      label = .probed false ∧ lastFailed past = true) ∧
    (shard.isReady && !shard'.isReady).toNat + shard'.isReady.toNat =
      label.installs.toNat + shard.isReady.toNat := by
  rcases shard.tick_slot shard' past label effect hstanding h with
    ⟨connection, rfl, hempty, hslot⟩ | ⟨rfl, hlast, hready, hslot⟩ | ⟨hlabel, hnot, hslot⟩
  · have hready' : shard'.isReady = true := by
      rw [isReady, hslot]
      rfl
    simp [hempty, hready', Tick.installs]
  · have hempty' : shard'.isReady = false := by
      rw [isReady, hslot]
      rfl
    simp [hlast, hready, hempty', Tick.installs]
  · have hsame : shard'.isReady = shard.isReady := by
      rw [isReady, hslot]
      rfl
    rw [hsame, hlabel]
    constructor
    · constructor
      · intro h
        rw [h.1] at h
        cases h.2
      · intro h
        exact absurd h hnot
    · cases shard.isReady <;> rfl

theorem emptyings_add (shard shard' : Shard κ) (past labels : List (Tick κ))
    (hstanding : shard.Standing past) (hrun : run next shard labels = some shard') :
    emptyings shard labels + shard'.isReady.toNat = installs labels + shard.isReady.toNat := by
  induction labels generalizing shard past with
  | nil =>
    cases hrun
    rfl
  | cons label rest ih =>
    obtain ⟨mid, hmid, hrest⟩ := (run_cons_eq_some next shard shard' label rest).mp hrun
    obtain ⟨effect, htick⟩ := (shard.next_eq_some mid label).mp hmid
    have hlater := ih mid (past ++ [label])
      (shard.standing_tick mid past label effect hstanding htick) hrest
    have hstep := (shard.ready_tick mid past label effect hstanding htick).2
    have hinstalls : installs (label :: rest) = label.installs.toNat + installs rest := by
      unfold installs
      rw [List.countP_cons, Nat.add_comm]
      cases label.installs <;> rfl
    rw [hinstalls, emptyings, hmid]
    dsimp only
    omega

/-- Where the slot is empty, outside the call that empties it, no failed probe is
remembered; at the head of the loop at most one is. -/
theorem Standing.failedProbes (shard : Shard κ) (past : List (Tick κ)) (h : shard.Standing past) :
    (shard.supervisor.place = .loopHead → shard.supervisor.failedProbes ≤ 1) ∧
    (shard.isMidway = false → shard.isReady = false → shard.supervisor.failedProbes = 0) := by
  constructor
  · intro hplace
    simp only [Standing, hplace] at h
    rw [h.failedProbes]
    split_ifs
    · exact Bool.toNat_le _
    · exact Nat.zero_le _
  · intro hmidway hempty
    have hrested : shard.Rested past → shard.supervisor.failedProbes = 0 := by
      intro hrested
      rw [hrested.failedProbes, if_neg (Bool.eq_false_iff.mp hempty)]
    have hnot := shard.place_of_not_midway hmidway
    unfold Standing at h
    split at h
    · exact hrested h.1
    · exact hrested h.1
    · exact hrested h
    · exact hrested h.1
    · exact hrested h.1
    · next change hplace => exact absurd hplace (hnot change).1
    · next change hplace => exact absurd hplace (hnot change).2.1
    · next change hplace => exact absurd hplace (hnot change).2.2
    · exact h.2.1

/-- Over every run of a shard's supervisor: a connection is installed under a
generation of at least one, greater than those of all earlier ones; it is given
up exactly when two consecutive probes of it fail, at once, by a call that finds
it in the slot; so the slot is emptied once for each connection but the one it
holds. The counter of failed probes starts anew with the slot, and the pauses
double. -/
theorem supervisor_run (index : ℕ) (past : List (Tick κ)) (shard : Shard κ)
    (hrun : run next (start index) past = some shard) (hbound : installs past < 2 ^ 64 - 1) :
    (∀ connection shard', shard.next (.connected connection) = some shard' →
      shard'.channel.value.connection = some connection ∧
      1 ≤ shard'.channel.value.generation ∧
      ∀ pre earlier filled, pre ++ [.connected earlier] <+: past →
        run next (start index) (pre ++ [.connected earlier]) = some filled →
          filled.channel.value.generation < shard'.channel.value.generation) ∧
    (∀ label shard', shard.next label = some shard' →
      ((shard.isReady = true ∧ shard'.isReady = false) ↔
        label = .probed false ∧ (probes past).getLast? = some false)) ∧
    (∀ slot, shard.supervisor.place = .probing slot →
      shard.channel.sendIfModified (·.disconnected slot.generation) =
        (⟨{ shard.channel.value with connection := none }, shard.channel.version + 1⟩, true)) ∧
    emptyings (start index) past + shard.isReady.toNat = installs past ∧
    (shard.supervisor.place = .loopHead → shard.supervisor.failedProbes ≤ 1) ∧
    (shard.isMidway = false → shard.isReady = false → shard.supervisor.failedProbes = 0) ∧
    (shard.supervisor.place = .backingOff → 1 ≤ refusals past ∧
      shard.supervisor.backoff.nanos = delay (refusals past - 1)) := by
  obtain ⟨hstanding, hnumbered⟩ := run_standing index past shard hrun
  have hfailed := Standing.failedProbes shard past hstanding
  refine ⟨?_, ?_, ?_, ?_, hfailed.1, hfailed.2, ?_⟩
  · intro connection shard' hnext
    obtain ⟨effect, htick⟩ := (shard.next_eq_some shard' _).mp hnext
    have hgeneration : shard'.channel.value.generation.val = installs past + 1 := by
      rw [shard.numbered_tick shard' past _ effect hstanding hnumbered htick, installs_append]
      · rfl
      · rw [installs_append]
        have hone : (Tick.connected connection).installs.toNat = 1 := rfl
        omega
    refine ⟨?_, ?_, ?_⟩
    · rcases shard.tick_slot shard' past _ effect hstanding htick with
        ⟨_, hlabel, _, hslot⟩ | ⟨hlabel, _⟩ | ⟨hlabel, _⟩
      · rw [hslot]
        cases hlabel
        rfl
      · cases hlabel
      · cases hlabel
    · rw [Fin.le_def, hgeneration]
      exact Nat.le_add_left 1 _
    · intro pre earlier filled hpre hfilled
      have hle : installs (pre ++ [.connected earlier]) ≤ installs past := hpre.sublist.countP_le
      have hnumber := (run_standing index _ filled hfilled).2 (by omega)
      rw [Fin.lt_def, hnumber, hgeneration]
      omega
  · intro label shard' hnext
    obtain ⟨effect, htick⟩ := (shard.next_eq_some shard' label).mp hnext
    have hready := (shard.ready_tick shard' past label effect hstanding htick).1
    rwa [lastFailed, decide_eq_true_iff] at hready
  · intro slot hplace
    exact shard.disconnected_matches past slot hstanding hplace
  · have hadd := emptyings_add (start index) shard [] past (start_standing index).1 hrun
    have hempty : (start index : Shard κ).isReady = false := rfl
    rwa [hempty, Bool.toNat_false, Nat.add_zero] at hadd
  · intro hplace
    simp only [Standing, hplace] at hstanding
    obtain ⟨_, _, count, hcount, hbackoff⟩ := hstanding
    rw [hcount]
    exact ⟨Nat.le_add_left 1 _, hbackoff⟩

/-- A connection, and one failed probe of it. -/
def failedOnce : List (Tick Unit) :=
  [.looked, .connected (), .gauged, .counted, .announced, .looked, .elapsed, .probed false,
    .looked, .elapsed]

/-- The second failed probe gives the connection up. -/
theorem supervisor_run_twice : ∃ shard shard' : Shard Unit,
    run next (start 0) failedOnce = some shard ∧ shard.next (.probed false) = some shard' ∧
      shard.isReady = true ∧ shard'.isReady = false := by
  have hdrops (shard shard' : Shard Unit) (hrun : run next (start 0) failedOnce = some shard)
      (hnext : shard.next (.probed false) = some shard') :
      shard.isReady = true ∧ shard'.isReady = false :=
    ((supervisor_run 0 failedOnce shard hrun (by decide)).2.1 _ shard' hnext).mpr
      ⟨rfl, by decide⟩
  exact ⟨_, _, rfl, rfl, hdrops _ _ rfl rfl⟩

end Shard

/-- Whatever callers and other supervisors do, a shard of a target is where a run
of its own supervisor leaves it. -/
theorem System.shard_run (connectionShards : ℕ) (events : List (Event κ)) (s : System κ)
    (hrun : run System.step (System.start connectionShards) events = some s) :
    ∀ index shard, s.target.shards[index]? = some shard →
      Reachable Shard.next (Shard.start index) shard := by
  apply run_invariant System.step (fun s => ∀ index shard, s.target.shards[index]? = some shard →
    Reachable Shard.next (Shard.start index) shard) ?_ events _ s ?_ hrun
  · intro s event s' hs hstep i shard hshard
    rcases s.step_target_cases s' event hstep with ⟨index, tick, htarget⟩ | ⟨number, htarget⟩
    · obtain ⟨old, new, effect, hold, htick, hnew⟩ :=
        RedisTarget.supervise_eq_some s.target s'.target index tick htarget
      obtain ⟨past, hpast⟩ := hs index old hold
      have hlt : index < s.target.shards.length := (List.getElem?_eq_some_iff.mp hold).1
      rw [hnew, RedisTarget.apply_shards] at hshard
      by_cases heq : index = i
      · subst heq
        rw [List.getElem?_set_self hlt] at hshard
        cases hshard
        exact ⟨past ++ [tick], run_concat _ _ old shard past tick hpast
          ((old.next_eq_some shard tick).mpr ⟨effect, htick⟩)⟩
      · rw [List.getElem?_set_ne heq] at hshard
        exact hs i shard hshard
    · rw [htarget] at hshard
      exact hs i shard hshard
  · intro index shard hshard
    have hstart : (System.start connectionShards : System κ).target.shards =
        (List.range connectionShards).map Shard.start := rfl
    rw [hstart, List.getElem?_map, Option.map_eq_some_iff] at hshard
    obtain ⟨i, hi, rfl⟩ := hshard
    obtain ⟨_, hvalue⟩ := List.getElem?_eq_some_iff.mp hi
    rw [List.getElem_range] at hvalue
    exact ⟨[], congrArg (fun k => some (Shard.start k)) hvalue⟩

end RedisBridge.Shards
