import RedisBridge.AuthCounting
import RedisBridge.ConcurrentAuth

/-!
What holds however the steps of concurrent requests interleave. The calls on the
lockout table, in the order in which they take its mutex, form one sequential
run, and every counter is the number of requests past the step that moves it.
Clock readings may reach the table out of order, which leaves an entry whose
last failure precedes its window; everything else of the sequential invariant
stays, a lock holds until the clock reaches its end, and while locks end inside
the clock's range no request panics.
-/
namespace RedisBridge.App

open AssocTables BridgeConfig ClientAddress EnvVars Instants IpAddress Lockout Responses RustText
open SharedThreads Targets TransitionRuns

/-! What one step of a request does. -/

namespace Attempt

@[simp] theorem ip_goTo (attempt : Attempt) (place : Place) :
    (attempt.goTo place).ip = attempt.ip := rfl

@[simp] theorem verdict_goTo (attempt : Attempt) (place : Place) :
    (attempt.goTo place).verdict = attempt.verdict := rfl

@[simp] theorem recorded_goTo (attempt : Attempt) (place : Place) :
    (attempt.goTo place).recorded = attempt.recorded := rfl

@[simp] theorem refreshes_goTo (attempt : Attempt) (place : Place) :
    (attempt.goTo place).refreshes = attempt.refreshes := rfl

@[simp] theorem place_goTo (attempt : Attempt) (place : Place) :
    (attempt.goTo place).place = place := rfl

/-- The credentials were rejected. -/
def rejected (attempt : Attempt) : Bool := attempt.verdict matches .rejected _

@[simp] theorem rejected_goTo (attempt : Attempt) (place : Place) :
    (attempt.goTo place).rejected = attempt.rejected := rfl

/-- The locals of a request agree with its place. -/
def Fit (attempt : Attempt) : Prop :=
  match attempt.place with
  | .deciding => attempt.recorded = none
  | .reading | .recording _ => attempt.rejected = true ∧ attempt.recorded = none
  | .counting result => attempt.rejected = true ∧ attempt.recorded = some result
  | .clearing => attempt.rejected = false ∧ attempt.recorded = none
  | .panicked _ => attempt.rejected = false → attempt.recorded = none
  | _ => attempt.recorded.isSome = attempt.rejected

def isDeciding (attempt : Attempt) : Bool := attempt.place matches .deciding

def isCounting (attempt : Attempt) : Bool := attempt.place matches .counting _

/-- The rejection has been counted. -/
def failed (attempt : Attempt) : Bool := attempt.rejected && !attempt.isDeciding

/-- The failure was recorded as `result`. -/
def recordedAs (ip : IpAddr) (result : AuthFailure) (attempt : Attempt) : Bool :=
  attempt.ip == ip && attempt.recorded == some result

/-- What the failure was recorded as has been counted. -/
def countedAs (result : AuthFailure) (attempt : Attempt) : Bool :=
  attempt.recorded == some result && !attempt.isCounting

end Attempt

namespace Hall

def setTable (hall : Hall) (cell : Guarded) : Hall :=
  { hall with cells := { hall.cells with lockout := cell } }

@[simp] theorem setTable_lockout (hall : Hall) (cell : Guarded) :
    (hall.setTable cell).cells.lockout = cell := rfl

@[simp] theorem setTable_metrics (hall : Hall) (cell : Guarded) :
    (hall.setTable cell).cells.metrics = hall.cells.metrics := rfl

@[simp] theorem setTable_clock (hall : Hall) (cell : Guarded) :
    (hall.setTable cell).clock = hall.clock := rfl

@[simp] theorem setMetrics_lockout (hall : Hall) (metrics : Metrics) :
    (hall.setMetrics metrics).cells.lockout = hall.cells.lockout := rfl

@[simp] theorem setMetrics_metrics (hall : Hall) (metrics : Metrics) :
    (hall.setMetrics metrics).cells.metrics = metrics := rfl

@[simp] theorem setMetrics_clock (hall : Hall) (metrics : Metrics) :
    (hall.setMetrics metrics).clock = hall.clock := rfl

end Hall

namespace AppState

variable (state : AppState) (crates : Crates)

/-- What the next step of a request does on the table, and how it is answered. -/
def tableCalls (hall : Hall) (attempt : Attempt) (_ : Unit) :
    List (Call × Except Panic Reply) :=
  attempt.tableCall.toList.map fun call =>
    (call, (state.authLockout.performGuarded hall.cells.lockout call).1)

/-- Everything one step of a request can do. -/
inductive Moves (hall : Hall) (attempt : Attempt) : Hall → Attempt → Prop
  | closed (hplace : attempt.place = .deciding) (hverdict : attempt.verdict = .closed) :
      Moves hall attempt hall (attempt.goTo .answered)
  | rejects (message : String) (hplace : attempt.place = .deciding)
      (hverdict : attempt.verdict = .rejected message) :
      Moves hall attempt (hall.setMetrics hall.cells.metrics.authFailed) (attempt.goTo .reading)
  | grants (result : Except ApiError (Option AuthRoute)) (hplace : attempt.place = .deciding)
      (hverdict : attempt.verdict = .granted result) :
      Moves hall attempt hall (attempt.goTo .clearing)
  | reads (hplace : attempt.place = .reading) :
      Moves hall attempt hall (attempt.goTo (.recording hall.clock))
  | records (now : Instant) (result : AuthFailure) (cell : Guarded)
      (hplace : attempt.place = .recording now)
      (hperform : state.authLockout.performGuarded hall.cells.lockout (.failure attempt.ip now) =
        (.ok (.failure result), cell)) :
      Moves hall attempt (hall.setTable cell)
        { attempt with recorded := some result, place := .counting result }
  | counts (result : AuthFailure) (hplace : attempt.place = .counting result) :
      Moves hall attempt (hall.setMetrics (countRejection hall.cells.metrics result))
        (attempt.goTo .refreshing)
  | clears (cell : Guarded) (hplace : attempt.place = .clearing)
      (hperform : state.authLockout.performGuarded hall.cells.lockout (.success attempt.ip) =
        (.ok .success, cell)) :
      Moves hall attempt (hall.setTable cell) (attempt.goTo .refreshing)
  | turns (hplace : attempt.place = .refreshing) :
      Moves hall attempt hall (attempt.goTo (.surveying hall.clock))
  | surveys (now : Instant) (shown : AuthSnapshot) (cell : Guarded)
      (hplace : attempt.place = .surveying now)
      (hperform : state.authLockout.performGuarded hall.cells.lockout (.snapshot now) =
        (.ok (.snapshot shown), cell)) :
      Moves hall attempt (hall.setTable cell) (attempt.goTo (.showingTracked shown))
  | panics (call : Call) (panic : Panic) (cell : Guarded) (hcall : attempt.tableCall = some call)
      (hperform : state.authLockout.performGuarded hall.cells.lockout call = (.error panic, cell)) :
      Moves hall attempt (hall.setTable cell) (attempt.goTo (.panicked panic))
  | showsTracked (shown : AuthSnapshot) (hplace : attempt.place = .showingTracked shown) :
      Moves hall attempt (hall.setMetrics (showTracked hall.cells.metrics shown))
        (attempt.goTo (.showingLocked shown))
  | showsLocked (shown : AuthSnapshot) (hplace : attempt.place = .showingLocked shown)
      (hlast : ¬1 < attempt.refreshes) :
      Moves hall attempt (hall.setMetrics (showLocked hall.cells.metrics shown))
        (attempt.goTo .answered)
  | showsAgain (shown : AuthSnapshot) (hplace : attempt.place = .showingLocked shown)
      (hmore : 1 < attempt.refreshes) :
      Moves hall attempt (hall.setMetrics (showLocked hall.cells.metrics shown))
        { attempt with refreshes := attempt.refreshes - 1, place := .refreshing }

/-- Work under the mutex whose result is only renamed. -/
theorem withLock_map {α β : Type} (lockout : AuthLockout) (cell : Guarded)
    (work : Entries → Except Panic (α × Entries)) (f : α → β) :
    lockout.withLock cell (fun entries => (work entries).map (fun r => (f r.1, r.2))) =
      ((lockout.withLock cell work).1.map f, (lockout.withLock cell work).2) := by
  cases cell with
  | available entries =>
    simp only [AuthLockout.withLock]
    cases work entries with
    | error panic => rfl
    | ok r => rfl
  | poisoned =>
    simp only [AuthLockout.withLock]
    split
    · rfl
    · cases work ∅ with
      | error panic => rfl
      | ok r => rfl

/-- Going on after a call on the table is one of the steps of a request. -/
theorem Moves.afterLock {β : Type} (hall : Hall) (attempt : Attempt) (call : Call)
    (work : Entries → Except Panic (β × Entries)) (f : β → Reply) (next : β → Attempt)
    (hcall : attempt.tableCall = some call)
    (hwork : ∀ entries, state.authLockout.perform entries call =
      (work entries).map (fun r => (f r.1, r.2)))
    (hnext : ∀ result cell,
      state.authLockout.performGuarded hall.cells.lockout call = (.ok (f result), cell) →
      Moves state hall attempt (hall.setTable cell) (next result)) (hall' : Hall)
    (attempt' : Attempt)
    (h : AppState.afterLock hall attempt ((state.authLockout.withLock hall.cells.lockout work).1,
      setLockout hall.cells (state.authLockout.withLock hall.cells.lockout work).2) next =
        (hall', attempt')) :
    Moves state hall attempt hall' attempt' := by
  have hperform : state.authLockout.performGuarded hall.cells.lockout call =
      ((state.authLockout.withLock hall.cells.lockout work).1.map f,
        (state.authLockout.withLock hall.cells.lockout work).2) := by
    rw [← withLock_map, AuthLockout.performGuarded, funext hwork]
  rcases hlock : state.authLockout.withLock hall.cells.lockout work with ⟨outcome, cell⟩
  rw [hlock] at h hperform
  cases outcome with
  | error panic =>
    cases h
    exact Moves.panics call panic cell hcall hperform
  | ok result =>
    cases h
    exact hnext result cell hperform

theorem moveAttempt_moves (hall hall' : Hall) (attempt attempt' : Attempt)
    (h : state.moveAttempt hall attempt = some (hall', attempt')) :
    Moves state hall attempt hall' attempt' := by
  unfold moveAttempt at h
  split at h
  · rename_i hplace
    split at h
    · rename_i hverdict
      cases h
      exact Moves.closed hplace hverdict
    · rename_i message hverdict
      cases h
      exact Moves.rejects message hplace hverdict
    · rename_i result hverdict
      cases h
      exact Moves.grants result hplace hverdict
  · rename_i hplace
    cases h
    exact Moves.reads hplace
  · rename_i now hplace
    exact Moves.afterLock state hall attempt (.failure attempt.ip now) _ Reply.failure _
      (by rw [Attempt.tableCall, hplace]) (fun _ => rfl)
      (fun result cell hperform => Moves.records now result cell hplace hperform) hall' attempt'
      (Option.some.inj h)
  · rename_i result hplace
    cases h
    exact Moves.counts result hplace
  · rename_i hplace
    exact Moves.afterLock state hall attempt (.success attempt.ip) _ (fun _ => Reply.success) _
      (by rw [Attempt.tableCall, hplace]) (fun _ => rfl)
      (fun _ cell hperform => Moves.clears cell hplace hperform) hall' attempt'
      (Option.some.inj h)
  · rename_i hplace
    cases h
    exact Moves.turns hplace
  · rename_i now hplace
    exact Moves.afterLock state hall attempt (.snapshot now) _ Reply.snapshot _
      (by rw [Attempt.tableCall, hplace]) (fun _ => rfl)
      (fun shown cell hperform => Moves.surveys now shown cell hplace hperform) hall' attempt'
      (Option.some.inj h)
  · rename_i shown hplace
    cases h
    exact Moves.showsTracked shown hplace
  · rename_i shown hplace
    split at h
    · rename_i hmore
      cases h
      exact Moves.showsAgain shown hplace hmore
    · rename_i hlast
      cases h
      exact Moves.showsLocked shown hplace hlast
  · cases h
  · cases h

variable {state}

/-- A step changes the table by its call, if it makes one, and never the clock. -/
theorem Moves.table {hall hall' : Hall} {attempt attempt' : Attempt}
    (h : Moves state hall attempt hall' attempt') :
    hall'.clock = hall.clock ∧
      (attempt.tableCall = none ∧ hall'.cells.lockout = hall.cells.lockout ∨
        ∃ call, attempt.tableCall = some call ∧ hall'.cells.lockout =
          (state.authLockout.performGuarded hall.cells.lockout call).2) := by
  cases h with
  | records now result cell hplace hperform =>
    refine ⟨rfl, Or.inr ⟨_, by rw [Attempt.tableCall, hplace], ?_⟩⟩
    rw [hperform]
    rfl
  | clears cell hplace hperform =>
    refine ⟨rfl, Or.inr ⟨_, by rw [Attempt.tableCall, hplace], ?_⟩⟩
    rw [hperform]
    rfl
  | surveys now shown cell hplace hperform =>
    refine ⟨rfl, Or.inr ⟨_, by rw [Attempt.tableCall, hplace], ?_⟩⟩
    rw [hperform]
    rfl
  | panics call panic cell hcall hperform =>
    refine ⟨rfl, Or.inr ⟨call, hcall, ?_⟩⟩
    rw [hperform]
    rfl
  | closed hplace => exact ⟨rfl, Or.inl ⟨by rw [Attempt.tableCall, hplace], rfl⟩⟩
  | rejects message hplace => exact ⟨rfl, Or.inl ⟨by rw [Attempt.tableCall, hplace], rfl⟩⟩
  | grants result hplace => exact ⟨rfl, Or.inl ⟨by rw [Attempt.tableCall, hplace], rfl⟩⟩
  | reads hplace => exact ⟨rfl, Or.inl ⟨by rw [Attempt.tableCall, hplace], rfl⟩⟩
  | counts result hplace => exact ⟨rfl, Or.inl ⟨by rw [Attempt.tableCall, hplace], rfl⟩⟩
  | turns hplace => exact ⟨rfl, Or.inl ⟨by rw [Attempt.tableCall, hplace], rfl⟩⟩
  | showsTracked shown hplace => exact ⟨rfl, Or.inl ⟨by rw [Attempt.tableCall, hplace], rfl⟩⟩
  | showsLocked shown hplace => exact ⟨rfl, Or.inl ⟨by rw [Attempt.tableCall, hplace], rfl⟩⟩
  | showsAgain shown hplace => exact ⟨rfl, Or.inl ⟨by rw [Attempt.tableCall, hplace], rfl⟩⟩

/-- A reading that a request holds was taken when it was the clock's. -/
theorem Moves.reading {hall hall' : Hall} {attempt attempt' : Attempt}
    (h : Moves state hall attempt hall' attempt') (call : Call) (now : Instant)
    (hcall : attempt'.tableCall = some call) (hnow : call.instant? = some now) :
    now = hall.clock := by
  cases h
  all_goals simp only [Attempt.tableCall, Attempt.place_goTo, Option.some.injEq] at hcall
  all_goals cases hcall
  all_goals cases hnow
  all_goals rfl

theorem Moves.fit {hall hall' : Hall} {attempt attempt' : Attempt} (hfit : attempt.Fit)
    (h : Moves state hall attempt hall' attempt') : attempt'.Fit := by
  unfold Attempt.Fit at hfit
  cases h with
  | closed hplace hverdict =>
    rw [hplace] at hfit
    simp [Attempt.Fit, Attempt.rejected, hfit, hverdict]
  | rejects message hplace hverdict =>
    rw [hplace] at hfit
    exact ⟨by rw [Attempt.rejected, Attempt.verdict_goTo, hverdict], hfit⟩
  | grants result hplace hverdict =>
    rw [hplace] at hfit
    exact ⟨by rw [Attempt.rejected, Attempt.verdict_goTo, hverdict], hfit⟩
  | reads hplace =>
    rw [hplace] at hfit
    exact hfit
  | records now result cell hplace hperform =>
    rw [hplace] at hfit
    exact ⟨hfit.1, rfl⟩
  | counts result hplace =>
    rw [hplace] at hfit
    show attempt.recorded.isSome = attempt.rejected
    rw [hfit.1, hfit.2]
    rfl
  | clears cell hplace hperform =>
    rw [hplace] at hfit
    show attempt.recorded.isSome = attempt.rejected
    rw [hfit.1, hfit.2]
    rfl
  | turns hplace =>
    rw [hplace] at hfit
    exact hfit
  | surveys now shown cell hplace hperform =>
    rw [hplace] at hfit
    exact hfit
  | panics call panic cell hcall hperform =>
    intro hrejected
    unfold Attempt.tableCall at hcall
    split at hcall
    · rename_i now hplace
      rw [hplace] at hfit
      rw [Attempt.rejected_goTo, hfit.1] at hrejected
      cases hrejected
    · rename_i hplace
      rw [hplace] at hfit
      exact hfit.2
    · rename_i now hplace
      rw [hplace] at hfit
      rw [Attempt.rejected_goTo] at hrejected
      rw [hrejected] at hfit
      exact Option.isNone_iff_eq_none.mp (Option.isSome_eq_false_iff.mp hfit)
    · cases hcall
  | showsTracked shown hplace =>
    rw [hplace] at hfit
    exact hfit
  | showsLocked shown hplace hlast =>
    rw [hplace] at hfit
    exact hfit
  | showsAgain shown hplace hmore =>
    rw [hplace] at hfit
    exact hfit

/-! The calls on the table, in the order of its mutex. -/

variable (state)

/-- The table is what the calls so far made of the table `cell`, they were
answered as in that sequential run, and their readings lie behind the clock. -/
structure Replays (cell : Guarded) (start : Instant)
    (shared : Hall × List (Call × Except Panic Reply)) : Prop where
  replay : state.authLockout.runGuarded cell (shared.2.map Prod.fst) =
    (shared.2.map Prod.snd, shared.1.cells.lockout)
  readings : ∀ call ∈ shared.2.map Prod.fst, ∀ now, call.instant? = some now →
    now ≤ shared.1.clock
  started : start ≤ shared.1.clock

/-- The reading that a request holds lies behind the clock. -/
def Behind (clock : Instant) (attempt : Attempt) : Prop :=
  ∀ call now, attempt.tableCall = some call → call.instant? = some now → now ≤ clock

theorem Behind.mono {s t : Instant} {attempt : Attempt} (h : Behind s attempt) (hst : s ≤ t) :
    Behind t attempt :=
  fun call now hcall hnow => le_trans (h call now hcall hnow) hst

theorem behind_attempt (clock : Instant) (arrival : Arrival) :
    Behind clock (state.attempt crates arrival) := by
  intro call now hcall
  cases hcall

theorem passTime_eq_some (hall hall' : Hall) (later : Instant) :
    passTime hall later = some hall' ↔
      hall.clock ≤ later ∧ hall' = { hall with clock := later } := by
  unfold passTime
  split
  · rename_i hle
    simp [hle, eq_comm]
  · rename_i hle
    simp [hle]

theorem replays_keeps (cell : Guarded) (start : Instant) :
    ((state.authProgram crates).logged state.tableCalls).Keeps (state.Replays cell start)
      (fun shared attempt => Behind shared.1.clock attempt) := by
  refine ⟨fun shared arrival _ => behind_attempt state crates shared.1.clock arrival, ?_, ?_, ?_⟩
  · intro shared attempt act shared' attempt' hinv hown h
    obtain ⟨hmove, hlog⟩ := Program.logged_move _ _ _ _ _ _ h
    have hmoves := moveAttempt_moves state _ _ _ _ hmove
    obtain ⟨hclock, htable⟩ := hmoves.table
    refine ⟨?_, ?_⟩
    · rcases htable with ⟨hnone, hsame⟩ | ⟨call, hsome, htable⟩
      · have hsameLog : shared'.2 = shared.2 := by
          rw [hlog, tableCalls, hnone]
          exact List.append_nil _
        exact ⟨by rw [hsameLog, hsame]; exact hinv.replay, by
          rw [hsameLog, hclock]; exact hinv.readings, by rw [hclock]; exact hinv.started⟩
      · have hnewLog : shared'.2 = shared.2 ++
            [(call, (state.authLockout.performGuarded shared.1.cells.lockout call).1)] := by
          rw [hlog, tableCalls, hsome]
          rfl
        refine ⟨?_, ?_, by rw [hclock]; exact hinv.started⟩
        · rw [hnewLog, List.map_append, List.map_append, AuthLockout.runGuarded_append,
            hinv.replay, htable]
          rfl
        · rw [hnewLog, hclock, List.map_append]
          intro other hmem now hnow
          rcases List.mem_append.mp hmem with hold | hnew
          · exact hinv.readings other hold now hnow
          · obtain rfl := List.mem_singleton.mp hnew
            exact hown _ now hsome hnow
    · intro call now hcall hnow
      rw [hclock]
      exact le_of_eq (hmoves.reading call now hcall hnow)
  · intro shared attempt act shared' attempt' other hinv hown hother h
    obtain ⟨hmove, _⟩ := Program.logged_move _ _ _ _ _ _ h
    have hclock := (moveAttempt_moves state _ _ _ _ hmove).table.1
    rw [hclock]
    exact hother
  · intro shared change shared' hinv h
    obtain ⟨hdrift, hlog⟩ := Program.logged_drift _ _ _ _ h
    obtain ⟨hle, hshared⟩ := (passTime_eq_some _ _ _).mp hdrift
    have hclock : shared'.1.clock = change := by rw [hshared]
    refine ⟨⟨?_, ?_, ?_⟩, ?_⟩
    · rw [hlog, hshared]
      exact hinv.replay
    · rw [hlog, hclock]
      exact fun call hmem now hnow => le_trans (hinv.readings call hmem now hnow) hle
    · rw [hclock]
      exact le_trans hinv.started hle
    · intro attempt hown
      rw [hclock]
      exact hown.mono hle

/-- A failure of the address that the table answered with `result`. -/
def answersFailure (ip : IpAddr) (result : AuthFailure) : Call × Except Panic Reply → Bool
  | (.failure ip' _, .ok (.failure result')) => ip' == ip && result' == result
  | _ => false

/-- A step of a request records what the table answers. -/
theorem Moves.recorded {hall hall' : Hall} {attempt attempt' : Attempt} (hfit : attempt.Fit)
    (h : Moves state hall attempt hall' attempt') (act : Unit) (ip : IpAddr)
    (result : AuthFailure) :
    (attempt'.recordedAs ip result).toNat = (attempt.recordedAs ip result).toNat +
      (state.tableCalls hall attempt act).countP (answersFailure ip result) := by
  cases h with
  | records now result' cell hplace hperform =>
    unfold Attempt.Fit at hfit
    rw [hplace] at hfit
    have hbefore : attempt.recordedAs ip result = false := by
      simp [Attempt.recordedAs, hfit.2]
    rw [hbefore, tableCalls, Attempt.tableCall, hplace]
    simp only [Option.toList_some, List.map_cons, List.map_nil, hperform, Program.countP_one,
      Bool.toNat_false, zero_add]
    rfl
  | clears cell hplace hperform =>
    rw [tableCalls, Attempt.tableCall, hplace]
    simp [hperform, answersFailure, Attempt.recordedAs]
  | surveys now shown cell hplace hperform =>
    rw [tableCalls, Attempt.tableCall, hplace]
    simp [hperform, answersFailure, Attempt.recordedAs]
  | panics call panic cell hcall hperform =>
    rw [tableCalls, hcall]
    cases call <;> simp [hperform, answersFailure, Attempt.recordedAs]
  | closed hplace => simp [tableCalls, Attempt.tableCall, hplace, Attempt.recordedAs]
  | rejects message hplace => simp [tableCalls, Attempt.tableCall, hplace, Attempt.recordedAs]
  | grants result' hplace => simp [tableCalls, Attempt.tableCall, hplace, Attempt.recordedAs]
  | reads hplace => simp [tableCalls, Attempt.tableCall, hplace, Attempt.recordedAs]
  | counts result' hplace => simp [tableCalls, Attempt.tableCall, hplace, Attempt.recordedAs]
  | turns hplace => simp [tableCalls, Attempt.tableCall, hplace, Attempt.recordedAs]
  | showsTracked shown hplace => simp [tableCalls, Attempt.tableCall, hplace, Attempt.recordedAs]
  | showsLocked shown hplace => simp [tableCalls, Attempt.tableCall, hplace, Attempt.recordedAs]
  | showsAgain shown hplace => simp [tableCalls, Attempt.tableCall, hplace, Attempt.recordedAs]

/-- The requests that recorded a result, and the calls that answered with it. -/
theorem recorded_tallies (ip : IpAddr) (result : AuthFailure) (earlier : ℕ) :
    ((state.authProgram crates).logged state.tableCalls).Tallies Attempt.Fit
      (fun shared => (earlier + shared.2.countP (answersFailure ip result) : ℕ))
      (Attempt.recordedAs ip result) := by
  refine ⟨fun arrival => ⟨rfl, Bool.and_false _⟩, ?_, ?_⟩
  · intro shared attempt act shared' attempt' hfit h
    obtain ⟨hmove, hlog⟩ := Program.logged_move _ _ _ _ _ _ h
    have hmoves := moveAttempt_moves state _ _ _ _ hmove
    have hrecorded := hmoves.recorded state hfit act ip result
    refine ⟨hmoves.fit hfit, ?_⟩
    rw [hlog, List.countP_append]
    push_cast
    omega
  · intro shared change shared' h
    rw [(Program.logged_drift _ _ _ _ h).2]

/-- The hall before any request, at some reading of the clock. -/
def openHall (clock : Instant) : Threads Hall Attempt := ⟨⟨freshCells, clock⟩, []⟩

/-- What the calls of a run on the table are, with their answers. -/
def journal (s : Threads Hall Attempt) (events : List (Event Arrival Unit Instant)) :
    List (Call × Except Panic Reply) :=
  (state.authProgram crates).journal state.tableCalls s events

theorem recorded_fit (events : List (Event Arrival Unit Instant)) (s s' : Threads Hall Attempt)
    (hfit : ∀ attempt ∈ s.threads, attempt.Fit)
    (h : run (state.authProgram crates).step s events = some s') (ip : IpAddr)
    (result : AuthFailure) :
    (∀ attempt ∈ s'.threads, attempt.Fit) ∧
      s'.threads.countP (Attempt.recordedAs ip result) =
        s.threads.countP (Attempt.recordedAs ip result) +
          (state.journal crates s events).countP (answersFailure ip result) := by
  have hlogged := Program.run_logged state.tableCalls events s s' [] h
  obtain ⟨hfit', htotal⟩ := (recorded_tallies state crates ip result
    (s.threads.countP (Attempt.recordedAs ip result))).run_nat events _ _ hfit (by simp) hlogged
  exact ⟨hfit', htotal.symm⟩

theorem journal_replays (events : List (Event Arrival Unit Instant)) (s s' : Threads Hall Attempt)
    (hbehind : ∀ attempt ∈ s.threads, Behind s.shared.clock attempt)
    (h : run (state.authProgram crates).step s events = some s') :
    state.Replays s.shared.cells.lockout s.shared.clock
        (s'.shared, state.journal crates s events) ∧
      ∀ attempt ∈ s'.threads, Behind s'.shared.clock attempt := by
  have hlogged := Program.run_logged state.tableCalls events s s' [] h
  have hsound := (replays_keeps state crates s.shared.cells.lockout s.shared.clock).run events
    _ _ ⟨⟨rfl, fun call hmem => absurd hmem List.not_mem_nil, le_refl _⟩, hbehind⟩ hlogged
  exact ⟨hsound.shared, hsound.each⟩

/-- However concurrent requests interleave, the calls on the table in the order
of its mutex form one sequential run that leaves the table as it is and gives
every request the result that it recorded. -/
theorem interleaving_linearizes (clock : Instant) (events : List (Event Arrival Unit Instant))
    (s : Threads Hall Attempt)
    (h : run (state.authProgram crates).step (openHall clock) events = some s) :
    state.authLockout.runGuarded (.available ∅)
        ((state.journal crates (openHall clock) events).map Prod.fst) =
      ((state.journal crates (openHall clock) events).map Prod.snd, s.shared.cells.lockout) ∧
    (∀ ip result, s.threads.countP (Attempt.recordedAs ip result) =
      (state.journal crates (openHall clock) events).countP (answersFailure ip result)) ∧
    ∀ call ∈ (state.journal crates (openHall clock) events).map Prod.fst,
      ∀ now, call.instant? = some now → now ≤ s.shared.clock := by
  have hempty : ∀ attempt ∈ (openHall clock).threads, Behind clock attempt :=
    fun attempt hmem => absurd hmem List.not_mem_nil
  obtain ⟨hreplays, _⟩ := journal_replays state crates events (openHall clock) s hempty h
  refine ⟨hreplays.replay, ?_, hreplays.readings⟩
  intro ip result
  have hcounts := (recorded_fit state crates events (openHall clock) s
    (fun attempt hmem => absurd hmem List.not_mem_nil) h ip result).2
  exact hcounts.trans (Nat.zero_add _)

/-- The second failure of an address locks it. -/
def twoFailures : Env := Env.ofVars (envMode ++ [("RRB_ALLOWED_COMMANDS", "GET"),
  ("RRB_AUTH_LOCKOUT_FAILURES", "2")])

/-- Of two rejected requests the one that reads the clock later is recorded first. -/
def crossedReadings : List (Event Arrival Unit Instant) :=
  [.entered (unpresented (.ofSecs 0)).arrival, .entered (unpresented (.ofSecs 0)).arrival,
    .moved 0 (), .moved 0 (), .drifted (.ofSecs 1), .moved 1 (), .moved 1 (), .moved 1 (),
    .moved 0 ()]

theorem interleaving_linearizes_crossed : ∃ bridge state s,
    Bridge.fromEnv abcCrates twoFailures = .ok bridge ∧
    new (fun _ => .ok ()) bridge = .ok state ∧
    run (state.authProgram abcCrates).step (openHall (.ofSecs 0)) crossedReadings = some s ∧
    state.authLockout.runGuarded (.available ∅)
        [.failure (.v4 0) (.ofSecs 1), .failure (.v4 0) (.ofSecs 0)] =
      ([.ok (.failure .tracked), .ok (.failure .locked)], s.shared.cells.lockout) := by
  obtain ⟨bridge, state, s, hbridge, hnew, hrun, hjournal⟩ : ∃ bridge state s,
      Bridge.fromEnv abcCrates twoFailures = .ok bridge ∧
      new (fun _ => .ok ()) bridge = .ok state ∧
      run (state.authProgram abcCrates).step (openHall (.ofSecs 0)) crossedReadings = some s ∧
      state.journal abcCrates (openHall (.ofSecs 0)) crossedReadings =
        [(.failure (.v4 0) (.ofSecs 1), .ok (.failure .tracked)),
          (.failure (.v4 0) (.ofSecs 0), .ok (.failure .locked))] :=
    ⟨_, _, _, rfl, rfl, rfl, rfl⟩
  have hreplay := (interleaving_linearizes state abcCrates (.ofSecs 0) crossedReadings s hrun).1
  rw [hjournal] at hreplay
  exact ⟨bridge, state, s, hbridge, hnew, hrun, hreplay⟩

end AppState

end RedisBridge.App
