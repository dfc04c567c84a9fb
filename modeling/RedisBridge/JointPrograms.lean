import RedisBridge.SharedThreads

/-!
Programs whose threads share one state. Each of them works on a part of it, and
their threads run in one interleaving. A total that every program keeps in step
with its own threads is in step with all threads. A program refines another one
thread by thread if each of its moves is one of the other or is not seen by it;
programs that refine the same one refine it together.
-/
namespace RedisBridge.JointPrograms

open SharedThreads TransitionRuns

/-- A part of a state, with the state in which the part is replaced. -/
structure Part (σ π : Type*) where
  get : σ → π
  set : σ → π → σ
  get_set : ∀ s part, get (set s part) = part

variable {σ π τ τ₁ τ₂ ρ ρ₁ ρ₂ α α₁ α₂ ε : Type*}

/-- A program on a part of a larger state. -/
def within (part : Part σ π) (p : Program π τ ρ α ε) : Program σ τ ρ α ε where
  enter := p.enter
  move := fun s thread act =>
    (p.move (part.get s) thread act).map fun (moved, thread') => (part.set s moved, thread')
  drift := fun s change => (p.drift (part.get s) change).map (part.set s)

/-- The threads of two programs; what happens between the moves is up to the first. -/
def beside (p : Program σ τ₁ ρ₁ α₁ ε) (q : Program σ τ₂ ρ₂ α₂ ε) :
    Program σ (τ₁ ⊕ τ₂) (ρ₁ ⊕ ρ₂) (α₁ ⊕ α₂) ε where
  enter := Sum.map p.enter q.enter
  move := fun s thread act =>
    match thread, act with
    | .inl thread, .inl act =>
        (p.move s thread act).map fun (s', thread') => (s', .inl thread')
    | .inr thread, .inr act =>
        (q.move s thread act).map fun (s', thread') => (s', .inr thread')
    | _, _ => none
  drift := p.drift

theorem within_move (part : Part σ π) (p : Program π τ ρ α ε) (s s' : σ) (thread thread' : τ)
    (act : α) (h : (within part p).move s thread act = some (s', thread')) :
    ∃ moved, p.move (part.get s) thread act = some (moved, thread') ∧ s' = part.set s moved := by
  obtain ⟨⟨moved, next⟩, hmove, heq⟩ := Option.map_eq_some_iff.mp h
  cases heq
  exact ⟨moved, hmove, rfl⟩

theorem within_drift (part : Part σ π) (p : Program π τ ρ α ε) (s s' : σ) (change : ε)
    (h : (within part p).drift s change = some s') :
    ∃ moved, p.drift (part.get s) change = some moved ∧ s' = part.set s moved := by
  obtain ⟨moved, hdrift, rfl⟩ := Option.map_eq_some_iff.mp h
  exact ⟨moved, hdrift, rfl⟩

/-- A move of one of the two. -/
theorem beside_move (p : Program σ τ₁ ρ₁ α₁ ε) (q : Program σ τ₂ ρ₂ α₂ ε) (s s' : σ)
    (thread thread' : τ₁ ⊕ τ₂) (act : α₁ ⊕ α₂)
    (h : (beside p q).move s thread act = some (s', thread')) :
    (∃ own own' ownAct, thread = .inl own ∧ thread' = .inl own' ∧ act = .inl ownAct ∧
      p.move s own ownAct = some (s', own')) ∨
    (∃ own own' ownAct, thread = .inr own ∧ thread' = .inr own' ∧ act = .inr ownAct ∧
      q.move s own ownAct = some (s', own')) := by
  cases thread with
  | inl own =>
    cases act with
    | inl ownAct =>
      obtain ⟨⟨next, own'⟩, hmove, heq⟩ := Option.map_eq_some_iff.mp h
      cases heq
      exact Or.inl ⟨own, own', ownAct, rfl, rfl, rfl, hmove⟩
    | inr ownAct => cases h
  | inr own =>
    cases act with
    | inl ownAct => cases h
    | inr ownAct =>
      obtain ⟨⟨next, own'⟩, hmove, heq⟩ := Option.map_eq_some_iff.mp h
      cases heq
      exact Or.inr ⟨own, own', ownAct, rfl, rfl, rfl, hmove⟩

/-! Totals. -/

/-- A total that every program keeps in step with its own threads. -/
theorem tallies_beside {p : Program σ τ₁ ρ₁ α₁ ε} {q : Program σ τ₂ ρ₂ α₂ ε}
    {fit₁ : τ₁ → Prop} {fit₂ : τ₂ → Prop} {total : σ → ℤ} {counted₁ : τ₁ → Bool}
    {counted₂ : τ₂ → Bool} (hp : p.Tallies fit₁ total counted₁)
    (hq : q.Tallies fit₂ total counted₂) :
    (beside p q).Tallies (Sum.elim fit₁ fit₂) total (Sum.elim counted₁ counted₂) := by
  refine ⟨?_, ?_, hp.drifts⟩
  · intro request
    cases request with
    | inl request => exact hp.enters request
    | inr request => exact hq.enters request
  · intro s thread act s' thread' hfit h
    rcases beside_move p q s s' thread thread' act h with
      ⟨own, own', ownAct, rfl, rfl, rfl, hmove⟩ | ⟨own, own', ownAct, rfl, rfl, rfl, hmove⟩
    · exact hp.moves s own ownAct s' own' hfit hmove
    · exact hq.moves s own ownAct s' own' hfit hmove

/-- What a program keeps in step with a total of its part it keeps in step with
the same total of the state. -/
theorem tallies_within (part : Part σ π) {p : Program π τ ρ α ε} {fit : τ → Prop}
    {total : π → ℤ} {counted : τ → Bool} (hp : p.Tallies fit total counted) :
    (within part p).Tallies fit (fun s => total (part.get s)) counted := by
  refine ⟨hp.enters, ?_, ?_⟩
  · intro s thread act s' thread' hfit h
    obtain ⟨moved, hmove, rfl⟩ := within_move part p s s' thread thread' act h
    rw [part.get_set]
    exact hp.moves (part.get s) thread act moved thread' hfit hmove
  · intro s change s' h
    obtain ⟨moved, hdrift, rfl⟩ := within_drift part p s s' change h
    rw [part.get_set]
    exact hp.drifts (part.get s) change moved hdrift

/-- A program counts none of its threads towards a total outside its part. -/
theorem tallies_elsewhere (part : Part σ π) {p : Program π τ ρ α ε} {fit : τ → Prop}
    {own : π → ℤ} {counted : τ → Bool} (hp : p.Tallies fit own counted) (total : σ → ℤ)
    (helsewhere : ∀ s moved, total (part.set s moved) = total s) :
    (within part p).Tallies fit total (fun _ => false) := by
  refine ⟨fun request => ⟨(hp.enters request).1, rfl⟩, ?_, ?_⟩
  · intro s thread act s' thread' hfit h
    obtain ⟨moved, hmove, rfl⟩ := within_move part p s s' thread thread' act h
    exact ⟨(hp.moves (part.get s) thread act moved thread' hfit hmove).1,
      by rw [helsewhere]⟩
  · intro s change s' h
    obtain ⟨moved, _, rfl⟩ := within_drift part p s s' change h
    exact helsewhere s moved

/-- Threads of two kinds are counted kind by kind. -/
theorem countP_elim (counted₁ : τ₁ → Bool) (counted₂ : τ₂ → Bool) (threads : List (τ₁ ⊕ τ₂)) :
    threads.countP (Sum.elim counted₁ counted₂) =
      (threads.filterMap Sum.getLeft?).countP counted₁ +
        (threads.filterMap Sum.getRight?).countP counted₂ := by
  rw [List.countP_filterMap, List.countP_filterMap]
  apply Program.countP_eq_add
  intro thread _
  cases thread with
  | inl own => exact (Nat.add_zero _).symm
  | inr own => exact (Nat.zero_add _).symm

/-! Refinement, thread by thread. -/

variable {σ' τ' ρ' α' ε' o : Type*}

/-- Each move of the one program is a move of the other that is observed to do
the same, or is not seen there and observed to do nothing. -/
structure Refines (p : Program σ τ ρ α ε) (q : Program σ' τ' ρ' α' ε') (see : σ → σ')
    (own : τ → τ') (observe : σ → τ → α → List o) (observe' : σ' → τ' → α' → List o) : Prop where
  enters : ∀ request, ∃ request', q.enter request' = own (p.enter request)
  moves : ∀ s thread act s' thread', p.move s thread act = some (s', thread') →
    (∃ act', q.move (see s) (own thread) act' = some (see s', own thread') ∧
      observe' (see s) (own thread) act' = observe s thread act) ∨
    (see s' = see s ∧ own thread' = own thread ∧ observe s thread act = [])
  drifts : ∀ s change s', p.drift s change = some s' →
    ∃ change', q.drift (see s) change' = some (see s')

/-- The threads as the other program has them. -/
def seen (see : σ → σ') (own : τ → τ') (s : Threads σ τ) : Threads σ' τ' :=
  ⟨see s.shared, s.threads.map own⟩

section

variable {p : Program σ τ ρ α ε} {q : Program σ' τ' ρ' α' ε'} {see : σ → σ'} {own : τ → τ'}
  {observe : σ → τ → α → List o} {observe' : σ' → τ' → α' → List o}

theorem Refines.step (h : Refines p q see own observe observe') (s s' : Threads σ τ)
    (event : Event ρ α ε) (hstep : p.step s event = some s') :
    (seen see own s' = seen see own s ∧ Program.journal.observed observe s event = []) ∨
      ∃ event', q.step (seen see own s) event' = some (seen see own s') ∧
        Program.journal.observed observe' (seen see own s) event' =
          Program.journal.observed observe s event := by
  rcases p.step_cases s s' event hstep with ⟨request, rfl, rfl⟩ |
    ⟨i, act, thread, shared, thread', rfl, hthread, hmove, rfl⟩ | ⟨change, shared, rfl, hdrift, rfl⟩
  · obtain ⟨request', hrequest⟩ := h.enters request
    refine Or.inr ⟨.entered request', ?_, rfl⟩
    simp only [Program.step, seen, hrequest, List.map_append, List.map_cons, List.map_nil]
  · have hmem : (s.threads.map own)[i]? = some (own thread) := by
      rw [List.getElem?_map, hthread, Option.map_some]
    rcases h.moves s.shared thread act shared thread' hmove with ⟨act', hmove', hobserved⟩ |
      ⟨hshared, hsame, hobserved⟩
    · refine Or.inr ⟨.moved i act', ?_, ?_⟩
      · simp only [Program.step, seen, hmem, hmove', List.map_set]
      · simp only [Program.journal.observed, seen, hmem, hthread, hobserved]
    · refine Or.inl ⟨?_, ?_⟩
      · obtain ⟨hlt, hget⟩ := List.getElem?_eq_some_iff.mp hmem
        simp only [seen, hshared, List.map_set, hsame]
        rw [← hget, List.set_getElem_self]
      · simp only [Program.journal.observed, hthread, hobserved]
  · obtain ⟨change', hdrift'⟩ := h.drifts s.shared change shared hdrift
    refine Or.inr ⟨.drifted change', ?_, rfl⟩
    simp only [Program.step, seen, hdrift']

/-- A run of the one program is seen by the other as one of its own, with the
same journal. -/
theorem Refines.run (h : Refines p q see own observe observe') (events : List (Event ρ α ε))
    (s s' : Threads σ τ) (hrun : TransitionRuns.run p.step s events = some s') :
    ∃ events', TransitionRuns.run q.step (seen see own s) events' = some (seen see own s') ∧
      q.journal observe' (seen see own s) events' = p.journal observe s events := by
  induction events generalizing s with
  | nil =>
    cases hrun
    exact ⟨[], rfl, rfl⟩
  | cons event rest ih =>
    obtain ⟨mid, hmid, hrest⟩ := (run_cons_eq_some p.step s s' event rest).mp hrun
    obtain ⟨later, hlater, hjournal⟩ := ih mid hrest
    rw [Program.journal, hmid]
    rcases h.step s mid event hmid with ⟨hsame, hnothing⟩ | ⟨event', hstep, hobserved⟩
    · rw [hsame] at hlater hjournal
      refine ⟨later, hlater, ?_⟩
      rw [hnothing]
      exact hjournal
    · refine ⟨event' :: later, ?_, ?_⟩
      · exact (run_cons_eq_some q.step _ _ event' later).mpr ⟨_, hstep, hlater⟩
      · rw [Program.journal, hstep]
        exact congrArg₂ _ hobserved hjournal

/-- What refines on a part refines on the state. -/
theorem Refines.within {σ₀ : Type*} (part : Part σ₀ σ)
    (h : Refines p q see own observe observe') :
    Refines (JointPrograms.within part p) q (fun s => see (part.get s)) own
      (fun s => observe (part.get s)) observe' := by
  refine ⟨h.enters, ?_, ?_⟩
  · intro s thread act s' thread' hmove
    obtain ⟨moved, hpart, rfl⟩ := within_move part p s s' thread thread' act hmove
    rw [part.get_set]
    exact h.moves (part.get s) thread act moved thread' hpart
  · intro s change s' hdrift
    obtain ⟨moved, hpart, rfl⟩ := within_drift part p s s' change hdrift
    rw [part.get_set]
    exact h.drifts (part.get s) change moved hpart

end

/-- What the moves of either program are observed to do. -/
def observeEither (observe₁ : σ → τ₁ → α₁ → List o) (observe₂ : σ → τ₂ → α₂ → List o) (s : σ)
    (thread : τ₁ ⊕ τ₂) (act : α₁ ⊕ α₂) : List o :=
  match thread, act with
  | .inl thread, .inl act => observe₁ s thread act
  | .inr thread, .inr act => observe₂ s thread act
  | _, _ => []

/-- Programs that refine the same one refine it together. -/
theorem Refines.beside {p₁ : Program σ τ₁ ρ₁ α₁ ε} {p₂ : Program σ τ₂ ρ₂ α₂ ε}
    {q : Program σ' τ' ρ' α' ε'} {see : σ → σ'} {own₁ : τ₁ → τ'} {own₂ : τ₂ → τ'}
    {observe₁ : σ → τ₁ → α₁ → List o} {observe₂ : σ → τ₂ → α₂ → List o}
    {observe' : σ' → τ' → α' → List o} (h₁ : Refines p₁ q see own₁ observe₁ observe')
    (h₂ : Refines p₂ q see own₂ observe₂ observe') :
    Refines (JointPrograms.beside p₁ p₂) q see (Sum.elim own₁ own₂)
      (observeEither observe₁ observe₂) observe' := by
  refine ⟨?_, ?_, h₁.drifts⟩
  · intro request
    cases request with
    | inl request => exact h₁.enters request
    | inr request => exact h₂.enters request
  · intro s thread act s' thread' h
    rcases beside_move p₁ p₂ s s' thread thread' act h with
      ⟨own, own', ownAct, rfl, rfl, rfl, hmove⟩ | ⟨own, own', ownAct, rfl, rfl, rfl, hmove⟩
    · exact h₁.moves s own ownAct s' own' hmove
    · exact h₂.moves s own ownAct s' own' hmove

end RedisBridge.JointPrograms
