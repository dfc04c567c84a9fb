import RedisBridge.ShardWakeup

/-!
How the callers of a target spread over its shards. Every call draws its start
from one counter, so that the starts of a run are consecutive, whatever happens
between the calls. Where every shard is ready a start leads to the shard at its
remainder, and until the counter wraps the starts use all shards equally often,
but for one time.
-/
namespace RedisBridge.Shards

open CyclicOrder RustText ShardSelection TransitionRuns

variable {κ : Type}

/-- The values that `fetch_add` returns one after the other. -/
def tickets (next : Usize) : ℕ → List Usize
  | 0 => []
  | count + 1 => next :: tickets (next + 1) count

/-- How many of the starts lead to a shard. -/
def uses (len : ℕ) (ready : ℕ → Bool) (starts : List Usize) (index : ℕ) : ℕ :=
  starts.countP (fun start : Usize => selectReadyShard start len ready = some index)

/-- Up to the wrap of the counter its values are numbers in a row. -/
theorem tickets_val (next : Usize) (count : ℕ) (h : next.val + count ≤ 2 ^ 64) :
    (tickets next count).map Fin.val = List.range' next.val count := by
  induction count generalizing next with
  | zero => rfl
  | succ count ih =>
    unfold tickets
    rw [List.map_cons, List.range'_succ]
    rcases Nat.eq_zero_or_pos count with rfl | hcount
    · rfl
    · have hnext : (next + 1).val = next.val + 1 := Fin.val_add_one_of_lt' (by omega)
      rw [ih (next + 1) (by omega), hnext]

/-- Where every shard is ready, a start is used by its remainder. -/
theorem uses_of_ready (len : ℕ) (ready : ℕ → Bool) (starts : List Usize) (index : ℕ)
    (hlen : 0 < len) (hready : ∀ index < len, ready index = true) :
    uses len ready starts index =
      (starts.map Fin.val).countP (fun start => start % len = index) := by
  unfold uses
  rw [List.countP_map]
  apply List.countP_congr
  intro start _
  rw [selectReadyShard_of_ready start len ready hlen hready]
  simp only [Option.some.injEq, Function.comp_apply]

theorem tickets_balanced (len : ℕ) (ready : ℕ → Bool)
    (hready : ∀ index < len, ready index = true) (first : Usize) (count : ℕ)
    (hwrap : first.val + count ≤ 2 ^ 64) (i j : ℕ) (hi : i < len) (hj : j < len) :
    uses len ready (tickets first count) i ≤ uses len ready (tickets first count) j + 1 := by
  have hlen : 0 < len := by omega
  rw [uses_of_ready len ready _ i hlen hready, uses_of_ready len ready _ j hlen hready,
    tickets_val first count hwrap]
  exact residues_balanced len first.val count i j hi hj

/-- Where every shard is ready, a scan that nothing interrupts ends at the remainder. -/
theorem Caller.scan_of_ready (target : RedisTarget κ) (start : Usize) (seen : ℕ)
    (hshards : 0 < target.shards.length)
    (hready : ∀ index < target.shards.length, target.isReady index = true) : ∃ labels,
    run (fun (state : RedisTarget κ × Caller κ) (_ : Unit) => state.2.step state.1)
      (target, .scanning start seen 0) labels =
    some (target, .cloning start seen (start % target.shards.length)) := by
  obtain ⟨labels, hscan⟩ := Caller.scan_alone target start seen
  rw [selectReadyShard_of_ready start _ target.isReady hshards hready] at hscan
  exact ⟨labels, hscan⟩

namespace System

/-- The start that an event draws from the counter. -/
def draw (s : System κ) : Event κ → List Usize
  | .moved i =>
      match s.callers[i]? with
      | some (.numbering _) => [s.target.nextConnection]
      | _ => []
  | _ => []

/-- The starts that are drawn along a run. -/
def draws (s : System κ) : List (Event κ) → List Usize
  | [] => []
  | event :: rest =>
      match s.step event with
      | none => []
      | some s' => s.draw event ++ s'.draws rest

theorem draws_cons (s s' : System κ) (event : Event κ) (rest : List (Event κ))
    (h : s.step event = some s') : s.draws (event :: rest) = s.draw event ++ s'.draws rest := by
  simp only [draws, h]

/-- The counter moves on by one exactly where a start is drawn. -/
theorem step_draw (s s' : System κ) (event : Event κ) (h : s.step event = some s') :
    (s.draw event = [] ∧ s'.target.nextConnection = s.target.nextConnection) ∨
      (s.draw event = [s.target.nextConnection] ∧
        s'.target.nextConnection = s.target.nextConnection + 1) := by
  cases event with
  | supervised index tick =>
    obtain ⟨target', htarget, rfl⟩ := step_supervised s s' index tick h
    exact Or.inl ⟨rfl, s.target.supervise_nextConnection target' index tick htarget⟩
  | called =>
    cases h
    exact Or.inl ⟨rfl, rfl⟩
  | gaveUp i =>
    cases h
    exact Or.inl ⟨rfl, rfl⟩
  | moved i =>
    obtain ⟨caller, target', caller', hcaller, hstep, rfl⟩ := step_moved s s' i h
    simp only [draw, hcaller]
    cases caller with
    | numbering seen =>
      cases hstep
      exact Or.inr ⟨rfl, rfl⟩
    | scanning start seen offset =>
      obtain ⟨rfl, -⟩ := Caller.step_scanning s.target target' start seen offset caller' hstep
      exact Or.inl ⟨rfl, rfl⟩
    | waiting start seen =>
      obtain ⟨rfl, -⟩ := Caller.step_waiting s.target target' start seen caller' hstep
      exact Or.inl ⟨rfl, rfl⟩
    | returned index generation connection => cases hstep
    | dropped => cases hstep
    | _ =>
      cases hstep
      exact Or.inl ⟨rfl, rfl⟩

/-- The starts of a run are consecutive values of the counter. -/
theorem draws_eq_tickets (events : List (Event κ)) (s s' : System κ)
    (h : run step s events = some s') :
    s.draws events = tickets s.target.nextConnection (s.draws events).length := by
  induction events generalizing s with
  | nil => rfl
  | cons event rest ih =>
    obtain ⟨mid, hmid, hrest⟩ := (run_cons_eq_some step s s' event rest).mp h
    obtain ⟨hdraw, hnext⟩ | ⟨hdraw, hnext⟩ := step_draw s mid event hmid
    · rw [draws_cons s mid event rest hmid, hdraw, List.nil_append, ← hnext]
      exact ih mid hrest
    · rw [draws_cons s mid event rest hmid, hdraw, List.singleton_append, List.length_cons]
      unfold tickets
      rw [← hnext, ← ih mid hrest]

/-- The starts of a run spread evenly over shards that are ready. -/
theorem draws_balanced (events : List (Event κ)) (s s' : System κ)
    (h : run step s events = some s')
    (hwrap : s.target.nextConnection.val + (s.draws events).length ≤ 2 ^ 64)
    (len : ℕ) (ready : ℕ → Bool) (hready : ∀ index < len, ready index = true)
    (i j : ℕ) (hi : i < len) (hj : j < len) :
    uses len ready (s.draws events) i ≤ uses len ready (s.draws events) j + 1 := by
  rw [draws_eq_tickets events s s' h]
  exact tickets_balanced len ready hready _ _ hwrap i j hi hj

end System

/-- `select_ready_shard` never panics and takes the ready shard of least distance
from its start, if there is one; the starts that calls draw one after the other are
consecutive numbers, and use ready shards evenly. -/
theorem ready_shards_rotate (len : Usize) (hlen : 2 * len.val ≤ 2 ^ 64) (ready : ℕ → Bool) :
    (∀ start : Usize,
      selectReadyShardChecked start len ready = .ok (selectReadyShard start len ready) ∧
      (selectReadyShard start len ready = none ↔ ∀ index < len.val, ready index = false) ∧
      ∀ index, selectReadyShard start len ready = some index ↔
        index < len.val ∧ ready index = true ∧ ∀ other < len.val, ready other = true →
          distance start len index ≤ distance start len other) ∧
    ((∀ index < len.val, ready index = true) → ∀ (first : Usize) (count : ℕ),
      first.val + count ≤ 2 ^ 64 →
        (tickets first count).map Fin.val = List.range' first.val count ∧
        ∀ i < len.val, ∀ j < len.val,
          uses len ready (tickets first count) i ≤
            uses len ready (tickets first count) j + 1) := by
  constructor
  · intro start
    exact ⟨selectReadyShardChecked_eq start len ready hlen,
      selectReadyShard_eq_none start len ready, selectReadyShard_eq_some start len ready⟩
  · intro hready first count hwrap
    refine ⟨tickets_val first count hwrap, ?_⟩
    intro i hi j hj
    exact tickets_balanced len ready hready first count hwrap i j hi hj

/-- Of four shards the one that is not ready is passed over, and six calls in a
row use ready ones evenly. -/
theorem ready_shards_rotate_four :
    selectReadyShardChecked 6 4 (fun index => index != 2) = .ok (some 3) ∧
      ∀ i < 4, ∀ j < 4, uses 4 (fun _ => true) (tickets 5 6) i ≤
        uses 4 (fun _ => true) (tickets 5 6) j + 1 := by
  constructor
  · have hrotate := ready_shards_rotate 4 (by decide) (fun index => index != 2)
    obtain ⟨hchecked, -, hsome⟩ := hrotate.1 6
    rw [hchecked, (hsome 3).mpr (by decide)]
  · have hrotate := ready_shards_rotate 4 (by decide) (fun _ => true)
    exact (hrotate.2 (fun _ _ => rfl) 5 6 (by decide)).2

end RedisBridge.Shards
