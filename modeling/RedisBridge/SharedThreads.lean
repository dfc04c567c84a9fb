import Mathlib.Algebra.BigOperators.Group.List.Basic
import Mathlib.Algebra.GroupWithZero.Nat
import Mathlib.Data.Int.Notation
import RedisBridge.TransitionRuns

/-!
Threads over a shared state. A thread enters with a request and moves on by
itself, changing the shared state in each move; between the moves the
environment may change the shared state alone. Two rules lead from one move to
every interleaving: facts that a move keeps for its own thread and for all
others, and totals that a move changes by what it changes of its thread. A log
of what the moves do can be kept beside the shared state without changing a run,
and what one thread does alone is a run of all of them.
-/
namespace RedisBridge.SharedThreads

open TransitionRuns

/-- What a thread enters with, how it moves, and what happens between moves. -/
structure Program (σ τ ρ α ε : Type*) where
  enter : ρ → τ
  move : σ → τ → α → Option (σ × τ)
  drift : σ → ε → Option σ

structure Threads (σ τ : Type*) where
  shared : σ
  threads : List τ

inductive Event (ρ α ε : Type*)
  | entered (request : ρ)
  | moved (index : ℕ) (act : α)
  | drifted (change : ε)

/-- What the thread at an index does in an event. -/
def Event.own {ρ α ε : Type*} (i : ℕ) : Event ρ α ε → Option α
  | .moved j act => if j = i then some act else none
  | _ => none

/-- What the thread at an index does in a run. -/
def ownActs {ρ α ε : Type*} (i : ℕ) (events : List (Event ρ α ε)) : List α :=
  events.filterMap (Event.own i)

namespace Program

variable {σ τ ρ α ε : Type*} (p : Program σ τ ρ α ε)

def step (s : Threads σ τ) : Event ρ α ε → Option (Threads σ τ)
  | .entered request => some { s with threads := s.threads ++ [p.enter request] }
  | .moved i act =>
      match s.threads[i]? with
      | none => none
      | some thread =>
          match p.move s.shared thread act with
          | none => none
          | some (shared, thread') => some ⟨shared, s.threads.set i thread'⟩
  | .drifted change =>
      match p.drift s.shared change with
      | none => none
      | some shared => some { s with shared := shared }

/-- The three ways in which the threads go on. -/
theorem step_cases (s s' : Threads σ τ) (event : Event ρ α ε) (h : p.step s event = some s') :
    (∃ request, event = .entered request ∧
      s' = { s with threads := s.threads ++ [p.enter request] }) ∨
    (∃ i act thread shared thread', event = .moved i act ∧ s.threads[i]? = some thread ∧
      p.move s.shared thread act = some (shared, thread') ∧
      s' = ⟨shared, s.threads.set i thread'⟩) ∨
    (∃ change shared, event = .drifted change ∧ p.drift s.shared change = some shared ∧
      s' = { s with shared := shared }) := by
  cases event with
  | entered request => exact Or.inl ⟨request, rfl, (Option.some.inj h).symm⟩
  | moved i act =>
    simp only [step] at h
    split at h
    · cases h
    · rename_i thread hthread
      split at h
      · cases h
      · rename_i shared thread' hmove
        exact Or.inr (Or.inl ⟨i, act, thread, shared, thread', rfl, hthread, hmove,
          (Option.some.inj h).symm⟩)
  | drifted change =>
    simp only [step] at h
    split at h
    · cases h
    · rename_i shared hdrift
      exact Or.inr (Or.inr ⟨change, shared, rfl, hdrift, (Option.some.inj h).symm⟩)

/-! Facts that hold of the shared state and of every thread. -/

/-- The shared state is sound, and so is every thread beside it. -/
structure Sound (inv : σ → Prop) (own : σ → τ → Prop) (s : Threads σ τ) : Prop where
  shared : inv s.shared
  each : ∀ thread ∈ s.threads, own s.shared thread

/-- What every move must leave sound: its own thread, and any other. -/
structure Keeps (inv : σ → Prop) (own : σ → τ → Prop) : Prop where
  enters : ∀ s request, inv s → own s (p.enter request)
  moves : ∀ s thread act s' thread', inv s → own s thread →
    p.move s thread act = some (s', thread') → inv s' ∧ own s' thread'
  others : ∀ s thread act s' thread' other, inv s → own s thread → own s other →
    p.move s thread act = some (s', thread') → own s' other
  drifts : ∀ s change s', inv s → p.drift s change = some s' →
    inv s' ∧ ∀ thread, own s thread → own s' thread

variable {p}

theorem Keeps.step {inv : σ → Prop} {own : σ → τ → Prop} (hkeeps : p.Keeps inv own)
    (s : Threads σ τ) (event : Event ρ α ε) (s' : Threads σ τ) (hs : Sound inv own s)
    (h : p.step s event = some s') : Sound inv own s' := by
  rcases p.step_cases s s' event h with ⟨request, -, rfl⟩ |
    ⟨i, act, thread, shared, thread', -, hthread, hmove, rfl⟩ | ⟨change, shared, -, hdrift, rfl⟩
  · refine ⟨hs.shared, ?_⟩
    intro thread hmem
    rcases List.mem_append.mp hmem with hold | hnew
    · exact hs.each thread hold
    · obtain rfl := List.mem_singleton.mp hnew
      exact hkeeps.enters s.shared request hs.shared
  · have hown := hs.each thread (List.mem_of_getElem? hthread)
    obtain ⟨hinv, hown'⟩ := hkeeps.moves s.shared thread act shared thread' hs.shared hown hmove
    refine ⟨hinv, ?_⟩
    intro other hmem
    rcases List.mem_or_eq_of_mem_set hmem with hold | rfl
    · exact hkeeps.others s.shared thread act shared thread' other hs.shared hown
        (hs.each other hold) hmove
    · exact hown'
  · obtain ⟨hinv, hown⟩ := hkeeps.drifts s.shared change shared hs.shared hdrift
    exact ⟨hinv, fun thread hmem => hown thread (hs.each thread hmem)⟩

/-- What every move keeps sound is sound in every state that a run reaches. -/
theorem Keeps.run {inv : σ → Prop} {own : σ → τ → Prop} (hkeeps : p.Keeps inv own)
    (events : List (Event ρ α ε)) (s s' : Threads σ τ) (hs : Sound inv own s)
    (h : TransitionRuns.run p.step s events = some s') : Sound inv own s' :=
  run_invariant p.step (Sound inv own) hkeeps.step events s s' hs h

variable (p)

/-! Totals. -/

theorem countP_one {β : Type*} (q : β → Bool) (b : β) : [b].countP q = (q b).toNat := by
  rw [List.countP_singleton]
  cases q b <;> rfl

/-- What is counted in several ways, and never in two of them, is counted in sum. -/
theorem countP_eq_sum {β : Type*} (q : β → Bool) (parts : List (β → Bool)) (l : List β)
    (h : ∀ b ∈ l, (q b).toNat = (parts.map fun part => (part b).toNat).sum) :
    l.countP q = (parts.map fun part => l.countP part).sum := by
  induction l with
  | nil => simp
  | cons b rest ih =>
    have hhere := h b List.mem_cons_self
    have hrest := ih (fun b hb => h b (List.mem_cons_of_mem _ hb))
    have hcons (part : β → Bool) :
        (b :: rest).countP part = (part b).toNat + rest.countP part := by
      rw [← List.singleton_append, List.countP_append, countP_one]
    simp only [hcons, List.sum_map_add]
    rw [hhere, hrest]

/-- What is counted in two ways, and never in both, is counted in sum. -/
theorem countP_eq_add {β : Type*} (q first second : β → Bool) (l : List β)
    (h : ∀ b ∈ l, (q b).toNat = (first b).toNat + (second b).toNat) :
    l.countP q = l.countP first + l.countP second :=
  countP_eq_sum q [first, second] l h

/-- A total follows the number of threads that are counted, as long as the
threads are fit. -/
structure Tallies (fit : τ → Prop) (total : σ → ℤ) (counted : τ → Bool) : Prop where
  enters : ∀ request, fit (p.enter request) ∧ counted (p.enter request) = false
  moves : ∀ s thread act s' thread', fit thread → p.move s thread act = some (s', thread') →
    fit thread' ∧ total s' + (counted thread).toNat = total s + (counted thread').toNat
  drifts : ∀ s change s', p.drift s change = some s' → total s' = total s

/-- The threads are fit, and the total is the number of them that are counted. -/
def Tallied (fit : τ → Prop) (total : σ → ℤ) (counted : τ → Bool) (s : Threads σ τ) : Prop :=
  (∀ thread ∈ s.threads, fit thread) ∧ total s.shared = s.threads.countP counted

variable {p}

theorem Tallies.step {fit : τ → Prop} {total : σ → ℤ} {counted : τ → Bool}
    (htallies : p.Tallies fit total counted) (s : Threads σ τ) (event : Event ρ α ε)
    (s' : Threads σ τ) (hs : Tallied fit total counted s) (h : p.step s event = some s') :
    Tallied fit total counted s' := by
  obtain ⟨hfit, htotal⟩ := hs
  rcases p.step_cases s s' event h with ⟨request, -, rfl⟩ |
    ⟨i, act, thread, shared, thread', -, hthread, hmove, rfl⟩ | ⟨change, shared, -, hdrift, rfl⟩
  · obtain ⟨hnewFit, hnew⟩ := htallies.enters request
    refine ⟨?_, ?_⟩
    · intro thread hmem
      rcases List.mem_append.mp hmem with hold | hadded
      · exact hfit thread hold
      · rwa [List.mem_singleton.mp hadded]
    · have hzero : [p.enter request].countP counted = 0 :=
        List.countP_eq_zero.mpr (by simp [hnew])
      simp only [List.countP_append, hzero, Nat.add_zero]
      exact htotal
  · obtain ⟨hfit', hmoved⟩ := htallies.moves s.shared thread act shared thread'
      (hfit thread (List.mem_of_getElem? hthread)) hmove
    refine ⟨?_, ?_⟩
    · intro other hmem
      rcases List.mem_or_eq_of_mem_set hmem with hold | rfl
      · exact hfit other hold
      · exact hfit'
    · have hcount := countP_set_add counted s.threads i thread thread' hthread
      dsimp only
      omega
  · exact ⟨hfit, (htallies.drifts s.shared change shared hdrift).trans htotal⟩

/-- Along every run the total is the number of counted threads, if it was. -/
theorem Tallies.run {fit : τ → Prop} {total : σ → ℤ} {counted : τ → Bool}
    (htallies : p.Tallies fit total counted) (events : List (Event ρ α ε)) (s s' : Threads σ τ)
    (hs : Tallied fit total counted s) (h : TransitionRuns.run p.step s events = some s') :
    Tallied fit total counted s' :=
  run_invariant p.step (Tallied fit total counted) htallies.step events s s' hs h

theorem Tallies.run_nat {fit : τ → Prop} {total : σ → ℕ} {counted : τ → Bool}
    (htallies : p.Tallies fit (fun s => total s) counted) (events : List (Event ρ α ε))
    (s s' : Threads σ τ) (hfit : ∀ thread ∈ s.threads, fit thread)
    (hs : total s.shared = s.threads.countP counted)
    (h : TransitionRuns.run p.step s events = some s') :
    (∀ thread ∈ s'.threads, fit thread) ∧ total s'.shared = s'.threads.countP counted := by
  obtain ⟨hfit', htotal⟩ := htallies.run events s s' ⟨hfit, congrArg Nat.cast hs⟩ h
  exact ⟨hfit', Int.ofNat_inj.mp htotal⟩

/-! What a thread has done itself. -/

/-- Every thread is related to its own acts, and what has not entered has not
acted. -/
structure Records (inv : List α → τ → Prop) (past : List (Event ρ α ε)) (s : Threads σ τ) :
    Prop where
  each : ∀ i thread, s.threads[i]? = some thread → inv (ownActs i past) thread
  outside : ∀ i, s.threads.length ≤ i → ownActs i past = []

theorem ownActs_concat (i : ℕ) (past : List (Event ρ α ε)) (event : Event ρ α ε) :
    ownActs i (past ++ [event]) = ownActs i past ++ (event.own i).toList := by
  unfold ownActs
  rw [List.filterMap_append]
  cases hown : event.own i <;> simp [hown]

theorem Records.step {inv : List α → τ → Prop} (henter : ∀ request, inv [] (p.enter request))
    (hmove : ∀ acts s thread act s' thread', inv acts thread →
      p.move s thread act = some (s', thread') → inv (acts ++ [act]) thread')
    (past : List (Event ρ α ε)) (s : Threads σ τ) (event : Event ρ α ε) (s' : Threads σ τ)
    (hs : Records inv past s) (h : p.step s event = some s') :
    Records inv (past ++ [event]) s' := by
  rcases p.step_cases s s' event h with ⟨request, rfl, rfl⟩ |
    ⟨i, act, thread, shared, thread', rfl, hthread, hmoved, rfl⟩ | ⟨change, shared, rfl, -, rfl⟩
  · have hsame (j : ℕ) : ownActs j (past ++ [Event.entered request]) = ownActs j past := by
      rw [ownActs_concat]
      exact List.append_nil _
    refine ⟨?_, ?_⟩
    · intro j thread hj
      rw [hsame]
      by_cases hlt : j < s.threads.length
      · rw [List.getElem?_append_left hlt] at hj
        exact hs.each j thread hj
      · have hge : s.threads.length ≤ j := Nat.le_of_not_lt hlt
        rw [List.getElem?_append_right hge, List.getElem?_singleton] at hj
        split at hj
        · cases hj
          rw [hs.outside j hge]
          exact henter request
        · cases hj
    · intro j hj
      rw [List.length_append] at hj
      rw [hsame]
      exact hs.outside j (by omega)
  · have hlength := (List.getElem?_eq_some_iff.mp hthread).1
    have hother (j : ℕ) (hij : i ≠ j) :
        ownActs j (past ++ [Event.moved i act]) = ownActs j past := by
      rw [ownActs_concat, Event.own, if_neg hij]
      exact List.append_nil _
    refine ⟨?_, ?_⟩
    · intro j other hj
      by_cases hij : i = j
      · subst hij
        rw [List.getElem?_set_self hlength] at hj
        cases hj
        rw [ownActs_concat, Event.own, if_pos rfl]
        exact hmove _ s.shared thread act shared thread' (hs.each i thread hthread) hmoved
      · rw [List.getElem?_set_ne hij] at hj
        rw [hother j hij]
        exact hs.each j other hj
    · intro j hj
      dsimp only at hj
      rw [List.length_set] at hj
      rw [hother j (by omega)]
      exact hs.outside j hj
  · have hsame (j : ℕ) : ownActs j (past ++ [Event.drifted change]) = ownActs j past := by
      rw [ownActs_concat]
      exact List.append_nil _
    refine ⟨?_, ?_⟩
    · intro j thread hj
      rw [hsame]
      exact hs.each j thread hj
    · intro j hj
      rw [hsame]
      exact hs.outside j hj

/-- What each act keeps between a thread and its own acts holds in every state
that a run reaches, whatever the others do. -/
theorem own_history (inv : List α → τ → Prop) (henter : ∀ request, inv [] (p.enter request))
    (hmove : ∀ acts s thread act s' thread', inv acts thread →
      p.move s thread act = some (s', thread') → inv (acts ++ [act]) thread')
    (events : List (Event ρ α ε)) (shared : σ) (s' : Threads σ τ)
    (h : TransitionRuns.run p.step ⟨shared, []⟩ events = some s') (i : ℕ) (thread : τ)
    (hthread : s'.threads[i]? = some thread) : inv (ownActs i events) thread := by
  have hstart : Records inv ([] : List (Event ρ α ε)) (⟨shared, []⟩ : Threads σ τ) :=
    ⟨fun j thread hj => absurd hj (Option.some_ne_none thread).symm, fun j _ => rfl⟩
  exact (run_history p.step (Records inv) (Records.step henter hmove) events [] _ s' hstart h).each
    i thread hthread

/-- A thread that gets smaller in each of its moves makes no more of them than
its size allows. -/
theorem moves_le (size : τ → ℕ) (bound : ℕ) (hbound : ∀ request, size (p.enter request) ≤ bound)
    (hless : ∀ s thread act s' thread', p.move s thread act = some (s', thread') →
      size thread' < size thread)
    (events : List (Event ρ α ε)) (shared : σ) (s' : Threads σ τ)
    (h : TransitionRuns.run p.step ⟨shared, []⟩ events = some s') (i : ℕ) (thread : τ)
    (hthread : s'.threads[i]? = some thread) :
    (ownActs i events).length + size thread ≤ bound := by
  apply own_history (fun acts thread => acts.length + size thread ≤ bound) _ _ events shared s' h
    i thread hthread
  · intro request
    exact le_of_eq_of_le (Nat.zero_add _) (hbound request)
  · intro acts s thread act s' thread' hinv hmoved
    have hsmaller := hless s thread act s' thread' hmoved
    rw [List.length_append, List.length_singleton]
    omega

/-! A log beside the shared state. -/

variable (p) {o : Type*}

/-- The program that also writes down what its moves are observed to do. -/
def logged (observe : σ → τ → α → List o) : Program (σ × List o) τ ρ α ε where
  enter := p.enter
  move := fun s thread act =>
    match p.move s.1 thread act with
    | none => none
    | some (s', thread') => some ((s', s.2 ++ observe s.1 thread act), thread')
  drift := fun s change =>
    match p.drift s.1 change with
    | none => none
    | some s' => some (s', s.2)

variable {p}

theorem logged_move (observe : σ → τ → α → List o) (s s' : σ × List o) (thread thread' : τ)
    (act : α) (h : (p.logged observe).move s thread act = some (s', thread')) :
    p.move s.1 thread act = some (s'.1, thread') ∧ s'.2 = s.2 ++ observe s.1 thread act := by
  simp only [logged] at h
  split at h
  · cases h
  · rename_i shared next hmove
    cases h
    exact ⟨hmove, rfl⟩

theorem logged_drift (observe : σ → τ → α → List o) (s s' : σ × List o) (change : ε)
    (h : (p.logged observe).drift s change = some s') :
    p.drift s.1 change = some s'.1 ∧ s'.2 = s.2 := by
  simp only [logged] at h
  split at h
  · cases h
  · rename_i shared hdrift
    cases h
    exact ⟨hdrift, rfl⟩

variable (p)

/-- What the moves of a run are observed to do, in order. -/
def journal (observe : σ → τ → α → List o) (s : Threads σ τ) : List (Event ρ α ε) → List o
  | [] => []
  | event :: rest =>
      match p.step s event with
      | none => []
      | some s' => observed event ++ journal observe s' rest
where
  observed : Event ρ α ε → List o
    | .moved i act =>
        match s.threads[i]? with
        | none => []
        | some thread => observe s.shared thread act
    | _ => []

variable {p}

theorem journal_map {o' : Type*} (observe : σ → τ → α → List o) (f : o → o')
    (events : List (Event ρ α ε)) (s : Threads σ τ) :
    p.journal (fun s thread act => (observe s thread act).map f) s events =
      (p.journal observe s events).map f := by
  induction events generalizing s with
  | nil => rfl
  | cons event rest ih =>
    have hobserved : journal.observed (fun s thread act => (observe s thread act).map f) s event =
        (journal.observed observe s event).map f := by
      cases event with
      | moved i act =>
        simp only [journal.observed]
        split <;> rfl
      | _ => rfl
    simp only [journal]
    split
    · rfl
    · rw [ih, hobserved, List.map_append]

theorem journal_concat (observe : σ → τ → α → List o) (events : List (Event ρ α ε))
    (event : Event ρ α ε) (s mid s' : Threads σ τ)
    (h : TransitionRuns.run p.step s events = some mid) (hstep : p.step mid event = some s') :
    p.journal observe s (events ++ [event]) =
      p.journal observe s events ++ journal.observed observe mid event := by
  induction events generalizing s with
  | nil =>
    cases h
    simp only [List.nil_append, journal, hstep, List.append_nil]
  | cons first rest ih =>
    obtain ⟨next, hnext, hrest⟩ := (run_cons_eq_some p.step s mid first rest).mp h
    simp only [List.cons_append, journal, hnext]
    rw [ih next hrest, List.append_assoc]

/-- What is true of everything a move is observed to do, and stays true, is true
of the journal of a run. -/
theorem journal_holds (observe : σ → τ → α → List o) (holds : List (Event ρ α ε) → o → Prop)
    (start : Threads σ τ)
    (hlater : ∀ past event noted, holds past noted → holds (past ++ [event]) noted)
    (hnow : ∀ past (s : Threads σ τ) (i : ℕ) act thread next noted,
      TransitionRuns.run p.step start past = some s → s.threads[i]? = some thread →
      p.move s.shared thread act = some next → noted ∈ observe s.shared thread act →
      holds past noted)
    (events : List (Event ρ α ε)) (s : Threads σ τ)
    (h : TransitionRuns.run p.step start events = some s) :
    ∀ noted ∈ p.journal observe start events, holds events noted := by
  refine (run_history p.step (fun past s => TransitionRuns.run p.step start past = some s ∧
    ∀ noted ∈ p.journal observe start past, holds past noted) ?_ events [] start s
    ⟨rfl, fun _ hmem => absurd hmem List.not_mem_nil⟩ h).2
  intro past mid event s' hmid hstep
  obtain ⟨hrun, hheld⟩ := hmid
  refine ⟨run_concat _ _ _ _ past event hrun hstep, ?_⟩
  rw [journal_concat observe past event start mid s' hrun hstep]
  intro noted hmem
  rcases List.mem_append.mp hmem with hold | hnew
  · exact hlater past event noted (hheld noted hold)
  · rcases p.step_cases mid s' event hstep with ⟨request, rfl, rfl⟩ |
      ⟨i, act, thread, shared, thread', rfl, hthread, hmove, rfl⟩ | ⟨change, shared, rfl, _, rfl⟩
    · exact absurd hnew List.not_mem_nil
    · simp only [journal.observed, hthread] at hnew
      exact hlater past _ noted
        (hnow past mid i act thread (shared, thread') noted hrun hthread hmove hnew)
    · exact absurd hnew List.not_mem_nil

/-- A run goes the same way with a log beside it, which takes down the journal. -/
theorem run_logged (observe : σ → τ → α → List o) (events : List (Event ρ α ε))
    (s s' : Threads σ τ) (log : List o) (h : TransitionRuns.run p.step s events = some s') :
    TransitionRuns.run (p.logged observe).step ⟨(s.shared, log), s.threads⟩ events =
      some ⟨(s'.shared, log ++ p.journal observe s events), s'.threads⟩ := by
  induction events generalizing s log with
  | nil =>
    cases h
    rw [journal, List.append_nil]
    rfl
  | cons event rest ih =>
    obtain ⟨mid, hmid, hrest⟩ := (run_cons_eq_some p.step s s' event rest).mp h
    have hnext : (p.logged observe).step ⟨(s.shared, log), s.threads⟩ event =
        some ⟨(mid.shared, log ++ journal.observed observe s event), mid.threads⟩ := by
      rcases p.step_cases s mid event hmid with ⟨request, rfl, rfl⟩ |
        ⟨i, act, thread, shared, thread', rfl, hthread, hmove, rfl⟩ |
        ⟨change, shared, rfl, hdrift, rfl⟩
      · simp only [step, logged, journal.observed, List.append_nil]
      · simp only [step, logged, hthread, hmove, journal.observed]
      · simp only [step, logged, hdrift, journal.observed, List.append_nil]
    have hlater := ih mid (log ++ journal.observed observe s event) hrest
    rw [List.append_assoc] at hlater
    rw [journal, hmid]
    exact (run_cons_eq_some _ _ _ event rest).mpr ⟨_, hnext, hlater⟩

/-- What runs with a log beside it runs without, and the log takes down the journal. -/
theorem of_run_logged (observe : σ → τ → α → List o) (events : List (Event ρ α ε))
    (s : Threads σ τ) (log : List o) (t : Threads (σ × List o) τ)
    (h : TransitionRuns.run (p.logged observe).step ⟨(s.shared, log), s.threads⟩ events = some t) :
    TransitionRuns.run p.step s events = some ⟨t.shared.1, t.threads⟩ ∧
      t.shared.2 = log ++ p.journal observe s events := by
  have hplain (next : Threads (σ × List o) τ) (event : Event ρ α ε) (r : Threads (σ × List o) τ)
      (_ : True) (hstep : (p.logged observe).step next event = some r) :
      p.step ⟨next.shared.1, next.threads⟩ event = some ⟨r.shared.1, r.threads⟩ := by
    rcases Program.step_cases _ next r event hstep with ⟨request, rfl, rfl⟩ |
      ⟨i, act, thread, shared, thread', rfl, hthread, hmove, rfl⟩ |
      ⟨change, shared, rfl, hdrift, rfl⟩
    · rfl
    · simp only [step, hthread, (logged_move observe _ _ _ _ _ hmove).1]
    · simp only [step, (logged_drift observe _ _ _ hdrift).1]
  have hrun : TransitionRuns.run p.step s events = some ⟨t.shared.1, t.threads⟩ :=
    run_simulates (p.logged observe).step p.step (fun _ => True)
      (fun next => ⟨next.shared.1, next.threads⟩) (fun _ _ _ _ _ => trivial) hplain events _ t
      trivial h
  have hlogged := run_logged observe events s _ log hrun
  rw [h] at hlogged
  exact ⟨hrun, congrArg (fun next => next.shared.2) (Option.some.inj hlogged)⟩

/-! One thread alone. -/

/-- A thread goes on while the others wait. -/
inductive Alone (p : Program σ τ ρ α ε) : σ → τ → σ → τ → Prop
  | done {s : σ} {thread : τ} : Alone p s thread s thread
  | move {s mid s' : σ} {thread between thread' : τ} (act : α)
      (hmove : p.move s thread act = some (mid, between))
      (hrest : Alone p mid between s' thread') : Alone p s thread s' thread'
  | drift {s mid s' : σ} {thread thread' : τ} (change : ε)
      (hdrift : p.drift s change = some mid)
      (hrest : Alone p mid thread s' thread') : Alone p s thread s' thread'

theorem Alone.trans {s mid s' : σ} {thread between thread' : τ}
    (hfirst : p.Alone s thread mid between) (hrest : p.Alone mid between s' thread') :
    p.Alone s thread s' thread' := by
  induction hfirst with
  | done => exact hrest
  | move act hmove _ ih => exact .move act hmove (ih hrest)
  | drift change hdrift _ ih => exact .drift change hdrift (ih hrest)

/-- What the last thread does alone is a run of all the threads. -/
theorem Alone.run {s s' : σ} {thread thread' : τ} (h : p.Alone s thread s' thread')
    (threads : List τ) : ∃ events,
      TransitionRuns.run p.step ⟨s, threads ++ [thread]⟩ events =
        some ⟨s', threads ++ [thread']⟩ := by
  induction h with
  | done => exact ⟨[], rfl⟩
  | @move s mid s' thread between thread' act hmove _ ih =>
    obtain ⟨events, hrun⟩ := ih
    refine ⟨.moved threads.length act :: events, (run_cons_eq_some _ _ _ _ _).mpr ⟨_, ?_, hrun⟩⟩
    have hlast : (threads ++ [thread])[threads.length]? = some thread :=
      List.getElem?_concat_length
    have hset : (threads ++ [thread]).set threads.length between = threads ++ [between] := by
      rw [List.set_append_right _ _ (Nat.le_refl _), Nat.sub_self]
      rfl
    simp only [step, hlast, hmove, hset]
  | @drift s mid s' thread thread' change hdrift _ ih =>
    obtain ⟨events, hrun⟩ := ih
    refine ⟨.drifted change :: events, (run_cons_eq_some _ _ _ _ _).mpr ⟨_, ?_, hrun⟩⟩
    simp only [step, hdrift]

/-- A thread that is a part of another takes the other one with it. -/
theorem Alone.lift {σ' τ' ρ' α' ε' : Type*} {q : Program σ' τ' ρ' α' ε'} (f : σ → σ')
    (g : τ → τ')
    (hmove : ∀ s thread act s' thread', p.move s thread act = some (s', thread') →
      ∃ act', q.move (f s) (g thread) act' = some (f s', g thread'))
    (hdrift : ∀ s change s', p.drift s change = some s' →
      ∃ change', q.drift (f s) change' = some (f s'))
    {s s' : σ} {thread thread' : τ} (h : p.Alone s thread s' thread') :
    q.Alone (f s) (g thread) (f s') (g thread') := by
  induction h with
  | done => exact .done
  | move act hmoved _ ih =>
    obtain ⟨act', hlifted⟩ := hmove _ _ _ _ _ hmoved
    exact .move act' hlifted ih
  | drift change hdrifted _ ih =>
    obtain ⟨change', hlifted⟩ := hdrift _ _ _ hdrifted
    exact .drift change' hlifted ih

end Program

end RedisBridge.SharedThreads
