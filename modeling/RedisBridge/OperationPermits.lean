import RedisBridge.RedisExecution
import RedisBridge.TransitionRuns

/-!
Operations under their permits. Any number of operations on any targets run side
by side; a permit is held from its grant to the end of the operation's future,
while Redis may answer later than that. The permits bound what is awaited. They
bound what is in flight as long as no operation is given up while its answer is
outstanding.
-/
namespace RedisBridge.OperationPermits

open App Targets TransitionRuns

inductive Outcome
  | ok
  | error
  | timeout
  | cancelled
  deriving DecidableEq

def Outcome.name : Outcome → String
  | .ok => "ok"
  | .error => "error"
  | .timeout => "timeout"
  | .cancelled => "cancelled"

/-- The place of an operation's future in `execute_operation`. -/
inductive Phase
  | acquiring
  | connecting
  | running
  | finished (outcome : Outcome)
  deriving DecidableEq

/-- What has become of an operation at its target. -/
inductive Sent
  | unsent
  | pending
  | answered
  deriving DecidableEq

structure Operation where
  target : ℕ
  kind : PacketKind
  phase : Phase
  sent : Sent
  deriving DecidableEq

/-- What can happen to one operation. The last three end its future at any
await point: a lost connection, the request timeout, a client that went away. -/
inductive Act
  | granted
  | saturated
  | closed
  | connected
  | unconnected
  | sent
  | answered
  | received (ok : Bool)
  | lost
  | timedOut
  | dropped
  deriving DecidableEq

/-- The future ends without waiting for an answer. -/
def Act.GivesUp (act : Act) : Prop := act = .lost ∨ act = .timedOut ∨ act = .dropped

inductive Event
  | began (target : ℕ) (kind : PacketKind)
  | moved (operation : ℕ) (act : Act)
  deriving DecidableEq

namespace Operation

def isFinished (op : Operation) : Bool :=
  match op.phase with
  | .finished _ => true
  | _ => false

/-- The permit lives in the future from its grant on. -/
def holdsPermit (op : Operation) : Bool := op.phase = .connecting ∨ op.phase = .running

def finish (op : Operation) (outcome : Outcome) : Operation :=
  { op with phase := .finished outcome }

/-- The steps of one operation; `answered` is a step of Redis, whatever the
future has come to. -/
def advance (op : Operation) : Act → Option Operation
  | .granted => if op.phase = .acquiring then some { op with phase := .connecting } else none
  | .saturated => if op.phase = .acquiring then some (op.finish .error) else none
  | .closed => if op.phase = .acquiring then some (op.finish .error) else none
  | .connected => if op.phase = .connecting then some { op with phase := .running } else none
  | .unconnected => if op.phase = .connecting then some (op.finish .error) else none
  | .sent =>
      if op.phase = .running ∧ op.sent = .unsent then some { op with sent := .pending } else none
  | .answered => if op.sent = .pending then some { op with sent := .answered } else none
  | .received ok =>
      if op.phase = .running ∧ op.sent = .answered then
        some (op.finish (if ok then .ok else .error))
      else none
  | .lost => if op.phase = .running then some (op.finish .error) else none
  | .timedOut => if op.isFinished then none else some (op.finish .timeout)
  | .dropped => if op.isFinished then none else some (op.finish .cancelled)

/-- An act leaves a finished operation finished as it is, keeps an unfinished one
going, or finishes it, as cancelled only when the future is dropped. -/
theorem advance_cases (op op' : Operation) (act : Act) (h : op.advance act = some op') :
    op'.target = op.target ∧ op'.kind = op.kind ∧
      (op'.phase = op.phase ∨ (op.isFinished = false ∧ op'.isFinished = false) ∨
        ∃ outcome, op.isFinished = false ∧ op'.phase = .finished outcome ∧
          (outcome = .cancelled → act = .dropped)) := by
  have hok : Outcome.ok ≠ .cancelled := by decide
  have herror : Outcome.error ≠ .cancelled := by decide
  have htimeout : Outcome.timeout ≠ .cancelled := by decide
  cases act with
  | granted | connected =>
    simp only [advance] at h
    split at h
    · next hphase =>
      cases h
      exact ⟨rfl, rfl, .inr (.inl ⟨by simp [isFinished, hphase], rfl⟩)⟩
    · cases h
  | sent | answered =>
    simp only [advance] at h
    split at h
    · cases h
      exact ⟨rfl, rfl, .inl rfl⟩
    · cases h
  | saturated | closed | unconnected | lost =>
    simp only [advance] at h
    split at h
    · next hphase =>
      cases h
      exact ⟨rfl, rfl, .inr (.inr ⟨.error, by simp [isFinished, hphase], rfl,
        fun heq => absurd heq herror⟩)⟩
    · cases h
  | received ok =>
    simp only [advance] at h
    split at h
    · next hphase =>
      cases h
      refine ⟨rfl, rfl, .inr (.inr ⟨_, by simp [isFinished, hphase.1], rfl, ?_⟩)⟩
      cases ok with
      | true => exact fun heq => absurd heq hok
      | false => exact fun heq => absurd heq herror
    · cases h
  | timedOut =>
    simp only [advance] at h
    split at h
    · cases h
    · next hfinished =>
      cases h
      exact ⟨rfl, rfl, .inr (.inr ⟨_, Bool.eq_false_of_not_eq_true hfinished, rfl,
        fun heq => absurd heq htimeout⟩)⟩
  | dropped =>
    simp only [advance] at h
    split at h
    · cases h
    · next hfinished =>
      cases h
      exact ⟨rfl, rfl, .inr (.inr ⟨_, Bool.eq_false_of_not_eq_true hfinished, rfl, fun _ => rfl⟩)⟩

theorem advance_target (op op' : Operation) (act : Act) (h : op.advance act = some op') :
    op'.target = op.target := (op.advance_cases op' act h).1

/-- An operation in flight that its future does not await. -/
def isOrphan (op : Operation) : Bool := op.sent = .pending ∧ op.phase ≠ .running

theorem pending_cases (op : Operation) (h : op.sent = .pending) :
    op.holdsPermit = true ∨ op.isOrphan = true := by
  by_cases hrunning : op.phase = .running
  · exact Or.inl (by simp [holdsPermit, hrunning])
  · exact Or.inr (by simp [isOrphan, h, hrunning])

theorem isOrphan_eq_false (op : Operation) :
    op.isOrphan = false ↔ (op.sent = .pending → op.phase = .running) := by
  simp [isOrphan]

/-- Only the acts that give an operation up part it from its answer. -/
theorem advance_not_orphan (op op' : Operation) (act : Act) (h : op.advance act = some op')
    (hop : op.isOrphan = false) (hkept : op.sent = .pending → ¬act.GivesUp) :
    op'.isOrphan = false := by
  rw [isOrphan_eq_false] at hop ⊢
  cases act with
  | connected =>
    simp only [advance] at h
    split at h
    · cases h
      exact fun _ => rfl
    · cases h
  | granted | saturated | closed | unconnected =>
    simp only [advance] at h
    split at h
    · next hphase =>
      cases h
      intro hpending
      have hrunning := hop hpending
      rw [hphase] at hrunning
      cases hrunning
    · cases h
  | sent =>
    simp only [advance] at h
    split at h
    · next hrunning =>
      cases h
      exact fun _ => hrunning.1
    · cases h
  | answered =>
    simp only [advance] at h
    split at h
    · cases h
      intro hpending
      cases hpending
    · cases h
  | received ok =>
    simp only [advance] at h
    split at h
    · next hanswered =>
      cases h
      intro (hpending : op.sent = .pending)
      rw [hanswered.2] at hpending
      cases hpending
    · cases h
  | lost =>
    simp only [advance] at h
    split at h
    · cases h
      exact fun hpending => absurd (Or.inl rfl) (hkept hpending)
    · cases h
  | timedOut =>
    simp only [advance] at h
    split at h
    · cases h
    · cases h
      exact fun hpending => absurd (Or.inr (Or.inl rfl)) (hkept hpending)
  | dropped =>
    simp only [advance] at h
    split at h
    · cases h
    · cases h
      exact fun hpending => absurd (Or.inr (Or.inr rfl)) (hkept hpending)

variable {ρ σ : Type}

/-- The acts that the schedule of one operation stands for. -/
def acts (schedule : Schedule ρ) : List Act :=
  match schedule.permit with
  | .timedOut => [.timedOut]
  | .dropped => [.dropped]
  | .ready .saturated => [.saturated]
  | .ready .closed => [.closed]
  | .ready .granted =>
      match schedule.connection with
      | .timedOut => [.granted, .timedOut]
      | .dropped => [.granted, .dropped]
      | .ready false => [.granted, .unconnected]
      | .ready true =>
          match schedule.reply with
          | .timedOut => [.granted, .connected, .sent, .timedOut]
          | .dropped => [.granted, .connected, .sent, .dropped]
          | .ready (.error _) => [.granted, .connected, .sent, .answered, .received false]
          | .ready (.ok _) => [.granted, .connected, .sent, .answered, .received true]

/-- An operation that runs alone takes these steps to the outcome it is counted
under, and is sent when its packet is handed over. -/
theorem acts_executeOperation (target : ℕ) (packet : Packet) (schedule : Schedule ρ)
    (convert : ρ → σ) : ∃ op outcome,
    run advance ⟨target, packet.kind, .acquiring, .unsent⟩ (acts schedule) = some op ∧
      op.phase = .finished outcome ∧
      outcome.name = (executeOperation target packet schedule convert).ended.outcome ∧
      (op.sent = .unsent ↔ (executeOperation target packet schedule convert).handed = []) := by
  obtain ⟨permit, connection, reply⟩ := schedule
  cases permit with
  | timedOut => exact ⟨_, _, rfl, rfl, rfl, by simp [finish, executeOperation]⟩
  | dropped => exact ⟨_, _, rfl, rfl, rfl, by simp [finish, executeOperation]⟩
  | ready permit =>
    cases permit with
    | saturated => exact ⟨_, _, rfl, rfl, rfl, by simp [finish, executeOperation]⟩
    | closed => exact ⟨_, _, rfl, rfl, rfl, by simp [finish, executeOperation]⟩
    | granted =>
      cases connection with
      | timedOut => exact ⟨_, _, rfl, rfl, rfl, by simp [finish, executeOperation]⟩
      | dropped => exact ⟨_, _, rfl, rfl, rfl, by simp [finish, executeOperation]⟩
      | ready obtained =>
        cases obtained with
        | false => exact ⟨_, _, rfl, rfl, rfl, by simp [finish, executeOperation]⟩
        | true =>
          cases reply with
          | timedOut => exact ⟨_, _, rfl, rfl, rfl, by simp [finish, executeOperation]⟩
          | dropped => exact ⟨_, _, rfl, rfl, rfl, by simp [finish, executeOperation]⟩
          | ready result =>
            cases result with
            | error error => exact ⟨_, _, rfl, rfl, rfl, by simp [finish, executeOperation]⟩
            | ok value => exact ⟨_, _, rfl, rfl, rfl, by simp [finish, executeOperation]⟩

end Operation

/-- All operations so far, the permits left at each target, and the metrics. -/
structure Operations where
  ops : List Operation
  available : ℕ → ℕ
  metrics : Metrics

variable (targets : List Redis)

/-- The operation limit of a target. -/
def limit (target : ℕ) : ℕ :=
  match targets[target]? with
  | some redis => redis.operationLimit.val
  | none => 0

def labelOf (target : ℕ) : String :=
  match targets[target]? with
  | some redis => redis.rrbId
  | none => ""

namespace Operations

def start : Operations := ⟨[], limit targets, Metrics.new⟩

/-- The permits of a target after one of its operations moved: a permit is taken
when the operation comes to hold one, and put back when it no longer does. -/
def movePermits (available : ℕ → ℕ) (op op' : Operation) : ℕ → ℕ := fun target =>
  if target = op.target then available target + op.holdsPermit.toNat - op'.holdsPermit.toNat
  else available target

/-- The metrics guard is dropped with the future. -/
def moveMetrics (metrics : Metrics) (op op' : Operation) : Metrics :=
  match op.isFinished, op'.phase with
  | false, .finished outcome =>
      metrics.endOperation (labelOf targets op.target) op.kind.name outcome.name
  | _, _ => metrics

/-- A grant needs a permit that is left. -/
def enabled (s : Operations) (op op' : Operation) : Prop :=
  op'.holdsPermit = true → op.holdsPermit = true ∨ 0 < s.available op.target

instance (s : Operations) (op op' : Operation) : Decidable (enabled s op op') :=
  inferInstanceAs (Decidable (_ → _))

def step (s : Operations) : Event → Option Operations
  | .began target kind =>
      if target < targets.length then
        some { s with
          ops := s.ops ++ [⟨target, kind, .acquiring, .unsent⟩]
          metrics := s.metrics.beginOperation (labelOf targets target) kind.name }
      else none
  | .moved i act =>
      match s.ops[i]? with
      | none => none
      | some op =>
          match op.advance act with
          | none => none
          | some op' =>
              if enabled s op op' then
                some ⟨s.ops.set i op', movePermits s.available op op',
                  moveMetrics targets s.metrics op op'⟩
              else none

/-- The operations of a target that Redis was sent and has not answered. -/
def inFlight (s : Operations) (target : ℕ) : ℕ :=
  s.ops.countP (fun op => op.target = target ∧ op.sent = .pending)

/-- The operations of a target that hold a permit. -/
def holding (s : Operations) (target : ℕ) : ℕ :=
  s.ops.countP (fun op => op.target = target ∧ op.holdsPermit)

/-- The operations in flight at a target that no future awaits any more. -/
def orphans (s : Operations) (target : ℕ) : ℕ :=
  s.ops.countP (fun op => op.target = target ∧ op.isOrphan)

/-- An event gives an operation up while its answer is outstanding. -/
def Abandons (s : Operations) : Event → Prop
  | .began _ _ => False
  | .moved i act => act.GivesUp ∧ ∃ op, s.ops[i]? = some op ∧ op.sent = .pending

/-- The two ways in which the system moves. -/
theorem step_cases (s s' : Operations) (event : Event) (h : step targets s event = some s') :
    (∃ target kind, event = .began target kind ∧ target < targets.length ∧
      s' = { s with
        ops := s.ops ++ [⟨target, kind, .acquiring, .unsent⟩]
        metrics := s.metrics.beginOperation (labelOf targets target) kind.name }) ∨
    (∃ i act op op', event = .moved i act ∧ s.ops[i]? = some op ∧ op.advance act = some op' ∧
      enabled s op op' ∧
      s' = ⟨s.ops.set i op', movePermits s.available op op',
        moveMetrics targets s.metrics op op'⟩) := by
  cases event with
  | began target kind =>
    have hlt : target < targets.length := by
      by_contra hnot
      rw [step, if_neg hnot] at h
      cases h
    rw [step, if_pos hlt] at h
    exact Or.inl ⟨target, kind, rfl, hlt, (Option.some.inj h).symm⟩
  | moved i act =>
    right
    obtain ⟨op, hop⟩ : ∃ op, s.ops[i]? = some op := by
      apply Option.ne_none_iff_exists'.mp
      intro hnone
      simp only [step, hnone] at h
      cases h
    obtain ⟨op', hop'⟩ : ∃ op', op.advance act = some op' := by
      apply Option.ne_none_iff_exists'.mp
      intro hnone
      simp only [step, hop, hnone] at h
      cases h
    simp only [step, hop, hop'] at h
    by_cases henabled : enabled s op op'
    · rw [if_pos henabled] at h
      exact ⟨i, act, op, op', rfl, hop, hop', henabled, (Option.some.inj h).symm⟩
    · rw [if_neg henabled] at h
      cases h

/-- Every permit is either left or held. -/
def Accounted (s : Operations) : Prop :=
  ∀ target, s.available target + s.holding target = limit targets target

theorem start_accounted : (start targets).Accounted targets := by
  intro target
  rfl

/-- A permit moves with the operation that it was granted to. -/
theorem Accounted.step (s : Operations) (event : Event) (s' : Operations)
    (hs : s.Accounted targets) (h : step targets s event = some s') : s'.Accounted targets := by
  rcases step_cases targets s s' event h with ⟨began, kind, rfl, -, rfl⟩ |
    ⟨i, act, op, op', rfl, hop, hadvance, henabled, rfl⟩
  · intro target
    have hcount : s.holding target = limit targets target - s.available target := by
      have := hs target
      omega
    have := hs target
    simp only [holding, List.countP_append] at this hcount ⊢
    simpa [Operation.holdsPermit] using this
  · intro target
    have hbefore := hs target
    have htarget := op.advance_target op' act hadvance
    have hcount := countP_set_add (fun op => op.target = target ∧ op.holdsPermit) s.ops i op op' hop
    simp only [holding] at hbefore ⊢
    by_cases heq : target = op.target
    · subst heq
      have hgrant : op'.holdsPermit = true → op.holdsPermit = true ∨ 0 < s.available op.target :=
        henabled
      simp only [movePermits, if_pos, htarget, true_and, Bool.decide_eq_true] at hcount ⊢
      cases hop : op.holdsPermit <;> cases hop' : op'.holdsPermit <;>
        simp only [hop, hop', Bool.toNat_false, Bool.toNat_true] at hcount hgrant ⊢ <;> grind
    · have hne : ¬op.target = target := fun h => heq h.symm
      simp only [movePermits, if_neg heq, htarget, hne, false_and, decide_false] at hcount ⊢
      omega

/-- What is in flight is under a permit or abandoned. -/
theorem inFlight_le (s : Operations) (hs : s.Accounted targets) (target : ℕ) :
    s.inFlight target ≤ limit targets target + s.orphans target := by
  have hsplit : s.inFlight target ≤ s.holding target + s.orphans target := by
    unfold inFlight holding orphans
    generalize s.ops = ops
    induction ops with
    | nil => exact Nat.le_refl 0
    | cons op rest ih =>
      have hop := op.pending_cases
      simp only [List.countP_cons]
      grind
  have := hs target
  omega

theorem orphans_eq_zero (s : Operations) (target : ℕ)
    (h : ∀ op ∈ s.ops, op.isOrphan = false) : s.orphans target = 0 := by
  apply List.countP_eq_zero.mpr
  intro op hop
  simp [h op hop]

/-- No operation becomes an orphan unless it is given up. -/
theorem no_orphan_step (s : Operations) (event : Event) (s' : Operations)
    (hs : ∀ op ∈ s.ops, op.isOrphan = false) (hkept : ¬s.Abandons event)
    (h : step targets s event = some s') : ∀ op ∈ s'.ops, op.isOrphan = false := by
  rcases step_cases targets s s' event h with ⟨began, kind, rfl, -, rfl⟩ |
    ⟨i, act, op, op', rfl, hop, hadvance, -, rfl⟩
  · intro op hmem
    rcases List.mem_append.mp hmem with hold | hnew
    · exact hs op hold
    · obtain rfl := List.mem_singleton.mp hnew
      rfl
  · intro other hmem
    rcases List.mem_or_eq_of_mem_set hmem with hold | rfl
    · exact hs other hold
    · apply op.advance_not_orphan other act hadvance (hs op (List.mem_of_getElem? hop))
      intro hpending hgives
      exact hkept ⟨hgives, op, hop, hpending⟩

/-- In every run that gives no operation up while its answer is outstanding, a
target has at most its operation limit in flight, whatever the interleaving. -/
theorem in_flight_within_limit (events : List Event) (s : Operations)
    (hrun : run (step targets) (start targets) events = some s)
    (hkept : ∀ pre event post mid, events = pre ++ event :: post →
      run (step targets) (start targets) pre = some mid → ¬mid.Abandons event) (target : ℕ) :
    s.inFlight target ≤ limit targets target := by
  have haccounted : s.Accounted targets :=
    run_invariant (step targets) (Accounted targets) (Accounted.step targets) events
      (start targets) s (start_accounted targets) hrun
  have hawaited : ∀ op ∈ s.ops, op.isOrphan = false := by
    apply run_invariant_of (step targets) (fun mid event => ¬mid.Abandons event)
      (fun mid => ∀ op ∈ mid.ops, op.isOrphan = false) (no_orphan_step targets) events
      (start targets) s _ hkept hrun
    intro op hop
    cases hop
  have hbound := inFlight_le targets s haccounted target
  rw [orphans_eq_zero s target hawaited] at hbound
  exact hbound

/-- A target that admits one operation at a time. -/
def narrowTarget : Redis := ⟨"cache", "redis://cache", 1, 4, []⟩

/-- The second operation waits for the permit of the first. -/
theorem in_flight_within_limit_narrow : ∃ s : Operations,
    run (step [narrowTarget]) (start [narrowTarget])
      [.began 0 .command, .moved 0 .granted, .began 0 .pipeline, .moved 0 .connected,
        .moved 0 .sent] = some s ∧
      s.inFlight 0 ≤ limit [narrowTarget] 0 := by
  obtain ⟨s, hs⟩ : ∃ s, run (step [narrowTarget]) (start [narrowTarget])
      [.began 0 .command, .moved 0 .granted, .began 0 .pipeline, .moved 0 .connected,
        .moved 0 .sent] = some s := ⟨_, rfl⟩
  refine ⟨s, hs, in_flight_within_limit [narrowTarget] _ s hs ?_ 0⟩
  intro pre event post mid heq _ hgiven
  have hmem : event ∈ pre ++ event :: post := List.mem_append_right pre List.mem_cons_self
  rw [← heq] at hmem
  simp only [List.mem_cons, List.not_mem_nil, or_false] at hmem
  rcases hmem with rfl | rfl | rfl | rfl | rfl <;> simp [Abandons, Act.GivesUp] at hgiven

/-- The request of the first operation times out while Redis is busy with it; its
permit admits a second one. -/
theorem second_operation_in_flight : ∃ s : Operations,
    run (step [narrowTarget]) (start [narrowTarget])
      [.began 0 .command, .moved 0 .granted, .moved 0 .connected, .moved 0 .sent,
        .moved 0 .timedOut, .began 0 .command, .moved 1 .granted, .moved 1 .connected,
        .moved 1 .sent] = some s ∧
      limit [narrowTarget] 0 < s.inFlight 0 :=
  ⟨_, rfl, by decide⟩

end Operations

end RedisBridge.OperationPermits
