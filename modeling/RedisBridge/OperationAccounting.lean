import RedisBridge.MetricsGuard
import RedisBridge.OperationPermits

/-!
The metrics of operations, over every interleaving. Each call of
`execute_operation` owns a guard until its future ends. What a call recorded in
the end is one status, one fall of the gauge and one duration, and the metrics
are the sum over all calls. The system with guards is followed by the system of
the permits, so the bounds proved there hold for it as well.
-/
namespace RedisBridge.OperationPermits

open App Targets TransitionRuns

theorem Outcome.name_inj (first second : Outcome) : first.name = second.name ↔ first = second := by
  cases first <;> cases second <;> decide

namespace Operation

theorem isFinished_eq_true (op : Operation) :
    op.isFinished = true ↔ ∃ outcome, op.phase = .finished outcome := by
  unfold isFinished
  cases op.phase <;> simp

theorem phase_ne_finished (op : Operation) (h : op.isFinished = false) (outcome : Outcome) :
    op.phase ≠ .finished outcome := by
  intro hphase
  rw [(op.isFinished_eq_true).mpr ⟨outcome, hphase⟩] at h
  cases h

/-- The operation is counted under these labels. -/
def isLabelled (targets : List Redis) (target kind : String) (op : Operation) : Bool :=
  labelOf targets op.target = target ∧ op.kind.name = kind

end Operation

namespace Operations

variable (targets : List Redis)

/-- The operations under these labels that have begun and not finished. -/
def unfinished (s : Operations) (target kind : String) : ℕ :=
  s.ops.countP (fun op => op.isLabelled targets target kind && !op.isFinished)

def finished (s : Operations) (target kind : String) : ℕ :=
  s.ops.countP (fun op => op.isLabelled targets target kind && op.isFinished)

/-- The operations under these labels that finished with an outcome. -/
def ended (s : Operations) (target kind : String) (outcome : Outcome) : ℕ :=
  s.ops.countP (fun op => op.isLabelled targets target kind && op.phase = .finished outcome)

/-- A finished operation has one of the four outcomes. -/
theorem finished_eq_sum (s : Operations) (target kind : String) :
    s.finished targets target kind =
      s.ended targets target kind .ok + s.ended targets target kind .error +
        s.ended targets target kind .timeout + s.ended targets target kind .cancelled := by
  unfold finished ended
  generalize s.ops = ops
  induction ops with
  | nil => rfl
  | cons op rest ih =>
    simp only [List.countP_cons, ih]
    cases hlabel : op.isLabelled targets target kind with
    | false => simp
    | true =>
      cases hphase : op.phase with
      | finished outcome =>
        cases outcome <;> simp [Operation.isFinished, hphase] <;> omega
      | _ => simp [Operation.isFinished, hphase]

/-- The metrics of operations are the counts of operations. -/
structure Balanced (s : Operations) : Prop where
  inflight : ∀ target kind,
    s.metrics.redisOperationsInflight target kind = s.unfinished targets target kind
  counted : ∀ target kind outcome,
    s.metrics.redisOperationsTotal target kind outcome.name = s.ended targets target kind outcome
  observed : ∀ target kind,
    s.metrics.redisOperationDuration target kind = s.finished targets target kind

theorem start_balanced : (start targets).Balanced targets where
  inflight _ _ := rfl
  counted _ _ _ := rfl
  observed _ _ := rfl

theorem moveMetrics_finished (metrics : Metrics) (op op' : Operation) (outcome : Outcome)
    (hop : op.isFinished = false) (hop' : op'.phase = .finished outcome) :
    moveMetrics targets metrics op op' =
      metrics.endOperation (labelOf targets op.target) op.kind.name outcome.name := by
  unfold moveMetrics
  rw [hop, hop']

theorem moveMetrics_unfinished (metrics : Metrics) (op op' : Operation)
    (hop' : op'.isFinished = false) : moveMetrics targets metrics op op' = metrics := by
  unfold moveMetrics
  split
  · next hphase => exact absurd hphase (op'.phase_ne_finished hop' _)
  · rfl

theorem moveMetrics_of_phase_eq (metrics : Metrics) (op op' : Operation)
    (hphase : op'.phase = op.phase) : moveMetrics targets metrics op op' = metrics := by
  unfold moveMetrics
  split
  · next hop hop' => exact absurd (hphase.symm.trans hop') (op.phase_ne_finished hop _)
  · rfl

/-- A begun operation raises the gauge under its labels. -/
theorem Balanced.began (s : Operations) (hs : s.Balanced targets) (target : ℕ)
    (kind : PacketKind) :
    Balanced targets { s with
      ops := s.ops ++ [⟨target, kind, .acquiring, .unsent⟩]
      metrics := s.metrics.beginOperation (labelOf targets target) kind.name } where
  inflight a b := by
    have hbefore := hs.inflight a b
    simp only [Metrics.beginOperation, Metrics.moveInflight, unfinished, List.countP_append,
      List.countP_singleton, Operation.isLabelled, Operation.isFinished] at hbefore ⊢
    by_cases hlabel : labelOf targets target = a ∧ kind.name = b
    · obtain ⟨rfl, rfl⟩ := hlabel
      simp [hbefore]
    · have hother : ¬(a = labelOf targets target ∧ b = kind.name) :=
        fun heq => hlabel ⟨heq.1.symm, heq.2.symm⟩
      simp [hlabel, hother, hbefore]
  counted a b outcome := by
    have hbefore := hs.counted a b outcome
    simp only [Metrics.beginOperation, Metrics.moveInflight, ended, List.countP_append,
      List.countP_singleton] at hbefore ⊢
    simp [hbefore]
  observed a b := by
    have hbefore := hs.observed a b
    simp only [Metrics.beginOperation, Metrics.moveInflight, finished, List.countP_append,
      List.countP_singleton, Operation.isFinished] at hbefore ⊢
    simp [hbefore]

/-- An operation that keeps its labels and its outcome, or has none yet, changes
no count. -/
theorem Balanced.kept (s : Operations) (hs : s.Balanced targets) (available : ℕ → ℕ) (i : ℕ)
    (op op' : Operation) (hop : s.ops[i]? = some op)
    (hlabel : ∀ a b, op'.isLabelled targets a b = op.isLabelled targets a b)
    (hfinished : op'.isFinished = op.isFinished)
    (houtcome : ∀ outcome, op'.phase = .finished outcome ↔ op.phase = .finished outcome) :
    Balanced targets ⟨s.ops.set i op', available, s.metrics⟩ where
  inflight a b := by
    rw [unfinished, countP_set_of_eq _ _ i op op' hop (by rw [hlabel, hfinished])]
    exact hs.inflight a b
  counted a b outcome := by
    have hsame : (op'.isLabelled targets a b && decide (op'.phase = .finished outcome)) =
        (op.isLabelled targets a b && decide (op.phase = .finished outcome)) := by
      rw [hlabel, decide_eq_decide.mpr (houtcome outcome)]
    rw [ended, countP_set_of_eq _ _ i op op' hop hsame]
    exact hs.counted a b outcome
  observed a b := by
    rw [finished, countP_set_of_eq _ _ i op op' hop (by rw [hlabel, hfinished])]
    exact hs.observed a b

/-- An operation that finishes lowers the gauge, and is counted and observed once,
all under its labels. -/
theorem Balanced.ended (s : Operations) (hs : s.Balanced targets) (available : ℕ → ℕ) (i : ℕ)
    (op op' : Operation) (outcome : Outcome) (hop : s.ops[i]? = some op)
    (hlabel : ∀ a b, op'.isLabelled targets a b = op.isLabelled targets a b)
    (hunfinished : op.isFinished = false) (hphase : op'.phase = .finished outcome) :
    Balanced targets ⟨s.ops.set i op', available,
      s.metrics.endOperation (labelOf targets op.target) op.kind.name outcome.name⟩ := by
  have hfinished : op'.isFinished = true := (op'.isFinished_eq_true).mpr ⟨outcome, hphase⟩
  have hnone : ∀ other, op.phase ≠ .finished other := op.phase_ne_finished hunfinished
  have hmatch : ∀ a b, (a = labelOf targets op.target ∧ b = op.kind.name) ↔
      op.isLabelled targets a b = true := by
    intro a b
    rw [Operation.isLabelled, decide_eq_true_iff, eq_comm, eq_comm (a := b)]
  constructor
  · intro a b
    have hbefore := hs.inflight a b
    have hmoved := countP_set_add
      (fun op => op.isLabelled targets a b && !op.isFinished) s.ops i op op' hop
    simp only [unfinished, Metrics.endOperation, Metrics.moveInflight, hmatch, hlabel, hfinished,
      hunfinished] at hbefore hmoved ⊢
    cases hmine : op.isLabelled targets a b <;> simp [hmine] at hmoved ⊢ <;> omega
  · intro a b other
    have hbefore := hs.counted a b other
    have hmoved := countP_set_add
      (fun op => op.isLabelled targets a b && op.phase = .finished other) s.ops i op op' hop
    have hraised : (a = labelOf targets op.target ∧ b = op.kind.name ∧ other.name = outcome.name) ↔
        op.isLabelled targets a b = true ∧ outcome = other := by
      rw [Outcome.name_inj, ← and_assoc, hmatch, eq_comm (a := other)]
    simp only [Operations.ended, Metrics.endOperation, Metrics.moveInflight, hraised, hlabel,
      hphase, hnone other, Phase.finished.injEq] at hbefore hmoved ⊢
    cases hmine : op.isLabelled targets a b <;> by_cases heq : outcome = other <;>
      simp [hmine, heq] at hmoved ⊢ <;> omega
  · intro a b
    have hbefore := hs.observed a b
    have hmoved := countP_set_add
      (fun op => op.isLabelled targets a b && op.isFinished) s.ops i op op' hop
    simp only [finished, Metrics.endOperation, Metrics.moveInflight, Metrics.bump, hmatch, hlabel,
      hfinished, hunfinished] at hbefore hmoved ⊢
    cases hmine : op.isLabelled targets a b <;> simp [hmine] at hmoved ⊢ <;> omega

theorem Balanced.step (s : Operations) (event : Event) (s' : Operations)
    (hs : s.Balanced targets) (h : step targets s event = some s') : s'.Balanced targets := by
  rcases step_cases targets s s' event h with ⟨target, kind, rfl, -, rfl⟩ |
    ⟨i, act, op, op', rfl, hget, hadvance, -, rfl⟩
  · exact hs.began targets s target kind
  · obtain ⟨htarget, hkind, hphase⟩ := op.advance_cases op' act hadvance
    have hlabel : ∀ a b, op'.isLabelled targets a b = op.isLabelled targets a b := by
      intro a b
      unfold Operation.isLabelled
      rw [htarget, hkind]
    rcases hphase with hsame | ⟨hop, hop'⟩ | ⟨outcome, hunfinished, hfinished, -⟩
    · rw [moveMetrics_of_phase_eq targets s.metrics op op' hsame]
      apply hs.kept targets s _ i op op' hget hlabel
      · unfold Operation.isFinished
        rw [hsame]
      · intro outcome
        rw [hsame]
    · rw [moveMetrics_unfinished targets s.metrics op op' hop']
      apply hs.kept targets s _ i op op' hget hlabel (hop'.trans hop.symm)
      intro outcome
      exact iff_of_false (op'.phase_ne_finished hop' outcome) (op.phase_ne_finished hop outcome)
    · rw [moveMetrics_finished targets s.metrics op op' outcome hunfinished hfinished]
      exact hs.ended targets s _ i op op' outcome hget hlabel hunfinished hfinished

end Operations

/-- What becomes of the guard: the result of the future picks a method, and a
dropped future drops it. -/
def Outcome.consume (outcome : Outcome) (guard : Guard) : List Sample :=
  match outcome with
  | .ok => guard.success
  | .error => guard.error
  | .timeout => guard.timeout
  | .cancelled => guard.drop

/-- A call of `execute_operation`: its operation, the guard that its future owns,
and what it has recorded. -/
structure Call where
  op : Operation
  guard : Option Guard
  samples : List Sample
  deriving DecidableEq

namespace Call

variable (targets : List Redis)

def started (target : ℕ) (kind : PacketKind) : Call :=
  let begun := Guard.beginOperation (labelOf targets target) kind.name
  ⟨⟨target, kind, .acquiring, .unsent⟩, some begun.1, begun.2⟩

/-- The guard is consumed when the future ends, and only then. -/
def settled (call : Call) (op' : Operation) : List Sample :=
  match op'.phase, call.guard with
  | .finished outcome, some guard => outcome.consume guard
  | _, _ => []

def move (call : Call) (op' : Operation) : Call :=
  ⟨op', if op'.isFinished then none else call.guard, call.samples ++ call.settled op'⟩

/-- What a call recorded that ended with an outcome. -/
def record (op : Operation) (outcome : Outcome) : List Sample :=
  [.inflight (labelOf targets op.target) op.kind.name 1,
    .counted (labelOf targets op.target) op.kind.name outcome.name,
    .inflight (labelOf targets op.target) op.kind.name (-1),
    .observed (labelOf targets op.target) op.kind.name]

/-- A running call has an unused guard; a finished one has recorded its outcome. -/
structure Kept (call : Call) : Prop where
  running : call.op.isFinished = false →
    call.guard = some (Guard.new (labelOf targets call.op.target) call.op.kind.name
      ⟨labelOf targets call.op.target, call.op.kind.name⟩) ∧
    call.samples = [.inflight (labelOf targets call.op.target) call.op.kind.name 1]
  finished : ∀ outcome, call.op.phase = .finished outcome →
    call.guard = none ∧ call.samples = record targets call.op outcome

theorem started_kept (target : ℕ) (kind : PacketKind) :
    (started targets target kind).Kept targets where
  running _ := ⟨rfl, rfl⟩
  finished _ hphase := nomatch hphase

theorem consume_new (target kind : String) (outcome : Outcome) :
    outcome.consume (Guard.new target kind ⟨target, kind⟩) =
      [.counted target kind outcome.name, .inflight target kind (-1), .observed target kind] := by
  cases outcome with
  | ok => exact Guard.complete_eq target kind "ok" ⟨target, kind⟩
  | error => exact Guard.complete_eq target kind "error" ⟨target, kind⟩
  | timeout => exact Guard.complete_eq target kind "timeout" ⟨target, kind⟩
  | cancelled => exact Guard.drop_eq target kind ⟨target, kind⟩

/-- A call that is over, or is not ended by the move, settles nothing. -/
theorem settled_eq_nil (call : Call) (op' : Operation)
    (h : op'.isFinished = false ∨ call.guard = none) : call.settled op' = [] := by
  unfold settled
  split
  · next outcome guard hphase hguard =>
    rcases h with hunfinished | hnone
    · exact absurd hphase (op'.phase_ne_finished hunfinished outcome)
    · rw [hguard] at hnone
      cases hnone
  · rfl

theorem settled_finished (call : Call) (op' : Operation) (outcome : Outcome)
    (hcall : call.Kept targets) (hunfinished : call.op.isFinished = false)
    (hphase : op'.phase = .finished outcome) :
    call.settled op' = [.counted (labelOf targets call.op.target) call.op.kind.name outcome.name,
      .inflight (labelOf targets call.op.target) call.op.kind.name (-1),
      .observed (labelOf targets call.op.target) call.op.kind.name] := by
  unfold settled
  rw [hphase, (hcall.running hunfinished).1]
  exact consume_new _ _ outcome

/-- A move that does not end the call settles nothing. -/
theorem settled_of_phase_eq (call : Call) (op' : Operation) (hcall : call.Kept targets)
    (hphase : op'.phase = call.op.phase) : call.settled op' = [] := by
  apply settled_eq_nil
  cases hfinished : op'.isFinished with
  | false => exact .inl rfl
  | true =>
    obtain ⟨outcome, hended⟩ := (op'.isFinished_eq_true).mp hfinished
    exact .inr (hcall.finished outcome (hphase.symm.trans hended)).1

theorem Kept.move (call : Call) (hcall : call.Kept targets) (op' : Operation) (act : Act)
    (hadvance : call.op.advance act = some op') : (call.move op').Kept targets := by
  obtain ⟨htarget, hkind, hphase⟩ := call.op.advance_cases op' act hadvance
  rcases hphase with hsame | ⟨hop, hop'⟩ | ⟨outcome, hunfinished, hfinished, -⟩
  · have hflag : op'.isFinished = call.op.isFinished := by
      unfold Operation.isFinished
      rw [hsame]
    constructor
    · intro hrunning
      simp only [Call.move, htarget, hkind, settled_of_phase_eq targets call op' hcall hsame,
        List.append_nil] at hrunning ⊢
      rw [hrunning]
      exact hcall.running (hflag.symm.trans hrunning)
    · intro outcome hended
      simp only [Call.move, record, htarget, hkind,
        settled_of_phase_eq targets call op' hcall hsame, List.append_nil] at hended ⊢
      rw [(op'.isFinished_eq_true).mpr ⟨outcome, hended⟩]
      exact ⟨rfl, (hcall.finished outcome (hsame.symm.trans hended)).2⟩
  · constructor
    · intro _
      simp only [Call.move, htarget, hkind, settled_eq_nil call op' (.inl hop'),
        List.append_nil, hop']
      exact hcall.running hop
    · intro outcome hended
      exact absurd hended (op'.phase_ne_finished hop' outcome)
  · have hflag : op'.isFinished = true := (op'.isFinished_eq_true).mpr ⟨outcome, hfinished⟩
    constructor
    · intro hrunning
      rw [Call.move, hflag] at hrunning
      cases hrunning
    · intro other hended
      obtain rfl : outcome = other := Phase.finished.inj (hfinished.symm.trans hended)
      simp only [Call.move, record, htarget, hkind, hflag,
        settled_finished targets call op' outcome hcall hunfinished hfinished,
        (hcall.running hunfinished).2]
      exact ⟨rfl, rfl⟩

/-- The samples of a move are the metrics that the permits' model gives to it. -/
theorem recordAll_settled (call : Call) (op' : Operation) (act : Act) (metrics : Metrics)
    (hcall : call.Kept targets) (hadvance : call.op.advance act = some op') :
    metrics.recordAll (call.settled op') = Operations.moveMetrics targets metrics call.op op' := by
  obtain ⟨-, -, hphase⟩ := call.op.advance_cases op' act hadvance
  rcases hphase with hsame | ⟨-, hop'⟩ | ⟨outcome, hunfinished, hfinished, -⟩
  · rw [settled_of_phase_eq targets call op' hcall hsame,
      Operations.moveMetrics_of_phase_eq targets metrics call.op op' hsame]
    rfl
  · rw [settled_eq_nil call op' (.inl hop'),
      Operations.moveMetrics_unfinished targets metrics call.op op' hop']
    rfl
  · rw [settled_finished targets call op' outcome hcall hunfinished hfinished,
      Operations.moveMetrics_finished targets metrics call.op op' outcome hunfinished hfinished]
    rfl

end Call

/-- All calls so far, with the permits and the metrics. -/
structure Calls where
  calls : List Call
  available : ℕ → ℕ
  metrics : Metrics

namespace Calls

variable (targets : List Redis)

def start : Calls := ⟨[], limit targets, Metrics.new⟩

/-- The calls without their guards. -/
def operations (s : Calls) : Operations := ⟨s.calls.map Call.op, s.available, s.metrics⟩

def step (s : Calls) : Event → Option Calls
  | .began target kind =>
      if target < targets.length then
        let call := Call.started targets target kind
        some { s with
          calls := s.calls ++ [call]
          metrics := s.metrics.recordAll call.samples }
      else none
  | .moved i act =>
      match s.calls[i]? with
      | none => none
      | some call =>
          match call.op.advance act with
          | none => none
          | some op' =>
              if Operations.enabled s.operations call.op op' then
                some ⟨s.calls.set i (call.move op'),
                  Operations.movePermits s.available call.op op',
                  s.metrics.recordAll (call.settled op')⟩
              else none

/-- A call begins, or one call moves. -/
theorem step_cases (s s' : Calls) (event : Event) (h : step targets s event = some s') :
    (∃ target kind, event = .began target kind ∧ target < targets.length ∧
      s' = { s with
        calls := s.calls ++ [Call.started targets target kind]
        metrics := s.metrics.recordAll (Call.started targets target kind).samples }) ∨
    (∃ i act call op', event = .moved i act ∧ s.calls[i]? = some call ∧
      call.op.advance act = some op' ∧ Operations.enabled s.operations call.op op' ∧
      s' = ⟨s.calls.set i (call.move op'), Operations.movePermits s.available call.op op',
        s.metrics.recordAll (call.settled op')⟩) := by
  cases event with
  | began target kind =>
    have hlt : target < targets.length := by
      by_contra hnot
      rw [step, if_neg hnot] at h
      cases h
    rw [step, if_pos hlt] at h
    exact Or.inl ⟨target, kind, rfl, hlt, (Option.some.inj h).symm⟩
  | moved i act =>
    right
    simp only [step] at h
    split at h
    · cases h
    · next call hcall =>
      split at h
      · cases h
      · next op' hadvance =>
        split at h
        · next henabled =>
          exact ⟨i, act, call, op', rfl, hcall, hadvance, henabled, (Option.some.inj h).symm⟩
        · cases h

/-- Every call is kept. -/
def Kept (s : Calls) : Prop := ∀ call ∈ s.calls, call.Kept targets

theorem Kept.step (s : Calls) (event : Event) (s' : Calls) (hs : s.Kept targets)
    (h : step targets s event = some s') : s'.Kept targets := by
  rcases step_cases targets s s' event h with ⟨target, kind, rfl, -, rfl⟩ |
    ⟨i, act, call, op', rfl, hcall, hadvance, -, rfl⟩
  · intro other hmem
    rcases List.mem_append.mp hmem with hold | hnew
    · exact hs other hold
    · rw [List.mem_singleton.mp hnew]
      exact Call.started_kept targets target kind
  · intro other hmem
    rcases List.mem_or_eq_of_mem_set hmem with hold | rfl
    · exact hs other hold
    · exact (hs call (List.mem_of_getElem? hcall)).move targets call op' act hadvance

/-- Without the guards, a step is one of the permits' model. -/
theorem step_operations (s : Calls) (event : Event) (s' : Calls) (hs : s.Kept targets)
    (h : step targets s event = some s') :
    Operations.step targets s.operations event = some s'.operations := by
  rcases step_cases targets s s' event h with ⟨target, kind, rfl, hlt, rfl⟩ |
    ⟨i, act, call, op', rfl, hcall, hadvance, henabled, rfl⟩
  · rw [Operations.step, if_pos hlt]
    simp only [operations, List.map_append]
    rfl
  · have hop : s.operations.ops[i]? = some call.op := by
      rw [operations, List.getElem?_map, hcall]
      rfl
    have hkept := hs call (List.mem_of_getElem? hcall)
    have hmetrics := call.recordAll_settled targets op' act s.metrics hkept hadvance
    simp only [Operations.step, hop, hadvance, if_pos henabled]
    simp only [operations, List.map_set, hmetrics]
    rfl

/-- Cancelled calls are those whose future was dropped. -/
def DroppedIfCancelled (s : Calls) (past : List Event) : Prop :=
  ∀ i call, s.calls[i]? = some call → call.op.phase = .finished .cancelled →
    .moved i .dropped ∈ past

theorem DroppedIfCancelled.step (past : List Event) (s : Calls) (event : Event) (s' : Calls)
    (hs : s.DroppedIfCancelled past) (h : step targets s event = some s') :
    s'.DroppedIfCancelled (past ++ [event]) := by
  intro j other hother hcancelled
  rcases step_cases targets s s' event h with ⟨target, kind, rfl, -, rfl⟩ |
    ⟨i, act, call, op', rfl, hcall, hadvance, -, rfl⟩
  · rcases Nat.lt_or_ge j s.calls.length with hold | hnew
    · rw [List.getElem?_append_left hold] at hother
      exact List.mem_append_left _ (hs j other hother hcancelled)
    · rw [List.getElem?_append_right hnew] at hother
      have hlast := List.mem_singleton.mp (List.mem_of_getElem? hother)
      rw [hlast] at hcancelled
      cases hcancelled
  · by_cases hij : i = j
    · subst hij
      have hlt : i < s.calls.length := (List.getElem?_eq_some_iff.mp hcall).1
      rw [List.getElem?_set_self hlt] at hother
      obtain rfl := Option.some.inj hother
      obtain ⟨-, -, hphase⟩ := call.op.advance_cases op' act hadvance
      rcases hphase with hsame | ⟨-, hop'⟩ | ⟨outcome, -, hfinished, hdropped⟩
      · exact List.mem_append_left _ (hs i call hcall (hsame.symm.trans hcancelled))
      · exact absurd hcancelled (op'.phase_ne_finished hop' .cancelled)
      · obtain rfl : outcome = .cancelled := Phase.finished.inj (hfinished.symm.trans hcancelled)
        rw [hdropped rfl]
        exact List.mem_append_right _ (List.mem_singleton.mpr rfl)
    · rw [List.getElem?_set_ne hij] at hother
      exact List.mem_append_left _ (hs j other hother hcancelled)

/-- In every interleaving, the gauge is the number of unfinished operations, every
finished operation is counted under one of the four statuses, and each call that is
over recorded its outcome and its duration once. -/
theorem operations_accounted (events : List Event) (s : Calls)
    (hrun : run (step targets) (start targets) events = some s) :
    (∀ target kind,
      s.metrics.redisOperationsInflight target kind = s.operations.unfinished targets target kind ∧
      s.operations.finished targets target kind =
        s.metrics.redisOperationsTotal target kind "ok" +
          s.metrics.redisOperationsTotal target kind "error" +
          s.metrics.redisOperationsTotal target kind "timeout" +
          s.metrics.redisOperationsTotal target kind "cancelled" ∧
      s.metrics.redisOperationDuration target kind = s.operations.finished targets target kind) ∧
    ∀ i call outcome, s.calls[i]? = some call → call.op.phase = .finished outcome →
      call.samples = Call.record targets call.op outcome ∧
      (outcome = .cancelled → .moved i .dropped ∈ events) := by
  have hempty : (start targets).Kept targets := fun call hmem => absurd hmem List.not_mem_nil
  have hkept : s.Kept targets :=
    run_invariant (step targets) (Kept targets) (Kept.step targets) events _ s hempty hrun
  have hplain : run (Operations.step targets) (Operations.start targets) events =
      some s.operations :=
    run_simulates (step targets) (Operations.step targets) (Kept targets) operations
      (Kept.step targets) (step_operations targets) events _ s hempty hrun
  have hbalanced : s.operations.Balanced targets :=
    run_invariant (Operations.step targets) (Operations.Balanced targets)
      (Operations.Balanced.step targets) events _ _ (Operations.start_balanced targets) hplain
  have hnone : (start targets).DroppedIfCancelled [] := by
    intro i call hcall
    rw [start, List.getElem?_nil] at hcall
    cases hcall
  have hdropped : s.DroppedIfCancelled events :=
    run_history (step targets) (fun past s => s.DroppedIfCancelled past)
      (DroppedIfCancelled.step targets) events [] _ s hnone hrun
  constructor
  · intro target kind
    have hsum := s.operations.finished_eq_sum targets target kind
    rw [← hbalanced.counted target kind .ok, ← hbalanced.counted target kind .error,
      ← hbalanced.counted target kind .timeout, ← hbalanced.counted target kind .cancelled] at hsum
    exact ⟨hbalanced.inflight target kind, hsum, hbalanced.observed target kind⟩
  · rintro i call outcome hcall hphase
    have hended := (hkept call (List.mem_of_getElem? hcall)).finished outcome hphase
    refine ⟨hended.2, ?_⟩
    rintro rfl
    exact hdropped i call hcall hphase

def narrowEvents : List Event :=
  [.began 0 .command, .moved 0 .granted, .moved 0 .connected, .moved 0 .sent,
    .began 0 .command, .moved 1 .saturated, .began 0 .command, .moved 2 .dropped]

/-- One call waits for its answer, one found no permit, one was dropped waiting: one
operation is in flight, and of the two that have ended one counts as an error and one
as cancelled. -/
theorem operations_accounted_narrow : ∃ s : Calls,
    run (step [Operations.narrowTarget]) (start [Operations.narrowTarget]) narrowEvents = some s ∧
      s.metrics.redisOperationsInflight "cache" "command" = 1 ∧
      s.metrics.redisOperationsTotal "cache" "command" "ok" = 0 ∧
      s.metrics.redisOperationsTotal "cache" "command" "error" = 1 ∧
      s.metrics.redisOperationsTotal "cache" "command" "timeout" = 0 ∧
      s.metrics.redisOperationsTotal "cache" "command" "cancelled" = 1 ∧
      s.metrics.redisOperationDuration "cache" "command" = 2 := by
  obtain ⟨s, hs, hunfinished, hok, herror, htimeout, hfinished⟩ : ∃ s : Calls,
      run (step [Operations.narrowTarget]) (start [Operations.narrowTarget]) narrowEvents =
        some s ∧
      s.operations.unfinished [Operations.narrowTarget] "cache" "command" = 1 ∧
      s.metrics.redisOperationsTotal "cache" "command" "ok" = 0 ∧
      s.metrics.redisOperationsTotal "cache" "command" "error" = 1 ∧
      s.metrics.redisOperationsTotal "cache" "command" "timeout" = 0 ∧
      s.operations.finished [Operations.narrowTarget] "cache" "command" = 2 :=
    ⟨_, rfl, rfl, rfl, rfl, rfl, rfl⟩
  obtain ⟨hgauge, hsum, hsamples⟩ :=
    (operations_accounted [Operations.narrowTarget] _ s hs).1 "cache" "command"
  refine ⟨s, hs, ?_, hok, herror, htimeout, ?_, hsamples.trans hfinished⟩
  · rw [hgauge, hunfinished]
    rfl
  · omega

end Calls

end RedisBridge.OperationPermits
