import RedisBridge.CyclicOrder
import RedisBridge.Fallible
import RedisBridge.RustText

/-!
The choice of a shard: the shards are tried in cyclic order from a starting
point, and the first ready one is taken. Machine words panic at a remainder by
zero and at a sum that leaves the word. A length of zero tries no shard, and up
to half of the machine range two numbers below the length have a sum within the
word, so neither happens.
-/
namespace RedisBridge.ShardSelection

open CyclicOrder Fallible RustText

/-- The shard that is tried after `offset` others. -/
def shardAt (start len offset : ℕ) : ℕ := (start % len + offset) % len

def selectReadyShard (start len : ℕ) (ready : ℕ → Bool) : Option ℕ :=
  ((List.range len).map (shardAt start len)).find? ready

/-- The shards are tried along the cycle. -/
theorem shardAt_eq_position (start len : ℕ) : shardAt start len = position start len := rfl

/-- Every shard is tried once a full cycle is through. -/
theorem exists_offset (start len index : ℕ) (h : index < len) :
    ∃ offset, offset < len ∧ shardAt start len offset = index := by
  rw [shardAt_eq_position]
  exact ⟨distance start len index, distance_lt start len index (by omega),
    position_distance start len index h⟩

theorem selectReadyShard_eq_none (start len : ℕ) (ready : ℕ → Bool) :
    selectReadyShard start len ready = none ↔ ∀ index < len, ready index = false := by
  unfold selectReadyShard
  rw [shardAt_eq_position]
  exact find?_position_eq_none start len ready

/-- The shard that is taken is the ready one of least distance. -/
theorem selectReadyShard_eq_some (start len : ℕ) (ready : ℕ → Bool) (index : ℕ) :
    selectReadyShard start len ready = some index ↔
      index < len ∧ ready index = true ∧ ∀ other < len, ready other = true →
        distance start len index ≤ distance start len other := by
  unfold selectReadyShard
  rw [shardAt_eq_position]
  exact find?_position_eq_some start len ready index

/-- Where every shard is ready, the first one tried is taken. -/
theorem selectReadyShard_of_ready (start len : ℕ) (ready : ℕ → Bool) (hlen : 0 < len)
    (hready : ∀ index < len, ready index = true) :
    selectReadyShard start len ready = some (start % len) := by
  have hstart : start % len < len := Nat.mod_lt start hlen
  apply (selectReadyShard_eq_some start len ready (start % len)).mpr
  refine ⟨hstart, hready _ hstart, ?_⟩
  intro other _ _
  have hdistance := distance_position start len 0 hlen
  rw [position_zero] at hdistance
  rw [hdistance]
  exact Nat.zero_le _

/-! The same choice in machine words. -/

inductive ArithmeticPanic
  | remainderByZero
  | addOverflow
  deriving DecidableEq

/-- `%` of two words. -/
def rem (a b : ℕ) : Except ArithmeticPanic ℕ :=
  if b = 0 then .error .remainderByZero else .ok (a % b)

/-- `+` of two words. -/
def add (a b : ℕ) : Except ArithmeticPanic ℕ :=
  if usizeMax < a + b then .error .addOverflow else .ok (a + b)

/-- The closure of `map`. -/
def tryShard (start len offset : ℕ) : Except ArithmeticPanic ℕ := do
  let first ← rem start len
  let sum ← add first offset
  rem sum len

/-- The iterator is lazy: no offset is computed with after the first ready shard. -/
def findShard (start len : ℕ) (ready : ℕ → Bool) :
    List ℕ → Except ArithmeticPanic (Option ℕ)
  | [] => .ok none
  | offset :: rest => do
      let index ← tryShard start len offset
      if ready index then .ok (some index) else findShard start len ready rest

def selectReadyShardChecked (start len : Usize) (ready : ℕ → Bool) :
    Except ArithmeticPanic (Option ℕ) :=
  findShard start len ready (List.range len)

theorem rem_eq (a b : ℕ) (h : 0 < b) : rem a b = .ok (a % b) := if_neg (by omega)

theorem add_eq (a b : ℕ) (h : a + b ≤ usizeMax) : add a b = .ok (a + b) := if_neg (by omega)

/-- No offset below the length panics. -/
theorem tryShard_eq (start len offset : ℕ) (hlen : 2 * len ≤ 2 ^ 64) (hoffset : offset < len) :
    tryShard start len offset = .ok (shardAt start len offset) := by
  have hpos : 0 < len := by omega
  have hstart : start % len < len := Nat.mod_lt start hpos
  have hsum : start % len + offset ≤ usizeMax := by
    unfold usizeMax
    omega
  unfold tryShard
  apply (bind_eq_ok _ _ _).mpr
  refine ⟨start % len, rem_eq start len hpos, ?_⟩
  apply (bind_eq_ok _ _ _).mpr
  exact ⟨start % len + offset, add_eq _ _ hsum, rem_eq _ len hpos⟩

theorem findShard_eq (start len : ℕ) (ready : ℕ → Bool) (hlen : 2 * len ≤ 2 ^ 64)
    (offsets : List ℕ) (hoffsets : ∀ offset ∈ offsets, offset < len) :
    findShard start len ready offsets =
      .ok ((offsets.map (shardAt start len)).find? ready) := by
  induction offsets with
  | nil => rfl
  | cons offset rest ih =>
    obtain ⟨hoffset, hrest⟩ := List.forall_mem_cons.mp hoffsets
    unfold findShard
    apply (bind_eq_ok _ _ _).mpr
    refine ⟨shardAt start len offset, tryShard_eq start len offset hlen hoffset, ?_⟩
    rw [List.map_cons, List.find?_cons]
    rcases ready (shardAt start len offset) with _ | _
    · exact ih hrest
    · rfl

/-- The words compute what the numbers do. -/
theorem selectReadyShardChecked_eq (start len : Usize) (ready : ℕ → Bool)
    (hlen : 2 * len.val ≤ 2 ^ 64) :
    selectReadyShardChecked start len ready = .ok (selectReadyShard start len ready) :=
  findShard_eq start len ready hlen (List.range len) (fun _ => List.mem_range.mp)

end RedisBridge.ShardSelection
