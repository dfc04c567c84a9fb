import Mathlib.Data.List.Basic

/-!
Runs of a labelled step function. A step that is not enabled gives `none`. The
rules are the ones every invariant proof uses: a property that each step keeps
holds at the end of a run, also when it needs the label to be allowed or speaks
of the labels so far, and a step function that another one follows runs to the
states that the other one runs to. Where the parties of a system are the entries
of a list, a step of one party changes a count of parties by what that party
counted before and counts after.
-/
namespace RedisBridge.TransitionRuns

variable {σ ℓ : Type*}

/-- Perform the labels in order; `none` once a label is not enabled. -/
def run (step : σ → ℓ → Option σ) : σ → List ℓ → Option σ
  | s, [] => some s
  | s, label :: rest => (step s label).bind (fun s' => run step s' rest)

/-- A state that some run from the initial state ends in. -/
def Reachable (step : σ → ℓ → Option σ) (init s : σ) : Prop :=
  ∃ labels, run step init labels = some s

theorem run_cons_eq_some (step : σ → ℓ → Option σ) (s s'' : σ) (label : ℓ) (rest : List ℓ) :
    run step s (label :: rest) = some s'' ↔
      ∃ s', step s label = some s' ∧ run step s' rest = some s'' := by
  simp only [run, Option.bind_eq_some_iff]

/-- One more step after a run. -/
theorem run_concat (step : σ → ℓ → Option σ) (s mid s' : σ) (labels : List ℓ) (label : ℓ)
    (hrun : run step s labels = some mid) (hstep : step mid label = some s') :
    run step s (labels ++ [label]) = some s' := by
  induction labels generalizing s with
  | nil =>
    cases hrun
    exact (run_cons_eq_some step _ s' label []).mpr ⟨s', hstep, rfl⟩
  | cons first rest ih =>
    obtain ⟨next, hnext, hrest⟩ := (run_cons_eq_some step s mid first rest).mp hrun
    exact (run_cons_eq_some step s s' first (rest ++ [label])).mpr ⟨next, hnext, ih next hrest⟩

/-- A step that may use what the run allowed so far keeps the invariant. -/
theorem run_invariant_of (step : σ → ℓ → Option σ) (allow : σ → ℓ → Prop) (inv : σ → Prop)
    (hstep : ∀ s label s', inv s → allow s label → step s label = some s' → inv s')
    (labels : List ℓ) (s s' : σ) (hs : inv s)
    (hallow : ∀ pre label post mid, labels = pre ++ label :: post →
      run step s pre = some mid → allow mid label)
    (hrun : run step s labels = some s') : inv s' := by
  induction labels generalizing s with
  | nil =>
    cases hrun
    exact hs
  | cons label rest ih =>
    obtain ⟨mid, hmid, hrest⟩ := (run_cons_eq_some step s s' label rest).mp hrun
    have hinv : inv mid := hstep s label mid hs (hallow [] label rest s rfl rfl) hmid
    apply ih mid hinv _ hrest
    intro pre label' post mid' heq hpre
    apply hallow (label :: pre) label' post mid' (by rw [heq]; rfl)
    exact (run_cons_eq_some step s mid' label pre).mpr ⟨mid, hmid, hpre⟩

theorem run_invariant (step : σ → ℓ → Option σ) (inv : σ → Prop)
    (hstep : ∀ s label s', inv s → step s label = some s' → inv s')
    (labels : List ℓ) (s s' : σ) (hs : inv s) (hrun : run step s labels = some s') : inv s' :=
  run_invariant_of step (fun _ _ => True) inv (fun s label s' h _ => hstep s label s' h)
    labels s s' hs (fun _ _ _ _ _ _ => trivial) hrun

/-- A property of a state and of the labels that led to it. -/
theorem run_history (step : σ → ℓ → Option σ) (inv : List ℓ → σ → Prop)
    (hstep : ∀ past s label s', inv past s → step s label = some s' → inv (past ++ [label]) s')
    (labels past : List ℓ) (s s' : σ) (hs : inv past s) (hrun : run step s labels = some s') :
    inv (past ++ labels) s' := by
  induction labels generalizing past s with
  | nil =>
    cases hrun
    rw [List.append_nil]
    exact hs
  | cons label rest ih =>
    obtain ⟨mid, hmid, hrest⟩ := (run_cons_eq_some step s s' label rest).mp hrun
    have hlater := ih (past ++ [label]) mid (hstep past s label mid hs hmid) hrest
    rwa [List.append_assoc] at hlater

/-- A simulation carries runs over, as long as an invariant keeps it going. -/
theorem run_simulates {τ : Type*} (step : σ → ℓ → Option σ) (step' : τ → ℓ → Option τ)
    (inv : σ → Prop) (view : σ → τ)
    (hinv : ∀ s label s', inv s → step s label = some s' → inv s')
    (hview : ∀ s label s', inv s → step s label = some s' →
      step' (view s) label = some (view s'))
    (labels : List ℓ) (s s' : σ) (hs : inv s) (hrun : run step s labels = some s') :
    run step' (view s) labels = some (view s') := by
  induction labels generalizing s with
  | nil =>
    cases hrun
    rfl
  | cons label rest ih =>
    obtain ⟨mid, hmid, hrest⟩ := (run_cons_eq_some step s s' label rest).mp hrun
    exact (run_cons_eq_some step' (view s) (view s') label rest).mpr
      ⟨view mid, hview s label mid hs hmid, ih mid (hinv s label mid hs hmid) hrest⟩

theorem reachable_invariant (step : σ → ℓ → Option σ) (init : σ) (inv : σ → Prop)
    (hinit : inv init) (hstep : ∀ s label s', inv s → step s label = some s' → inv s')
    (s : σ) (h : Reachable step init s) : inv s := by
  obtain ⟨labels, hrun⟩ := h
  exact run_invariant step inv hstep labels init s hinit hrun

/-- Replacing one party moves its count from the old party to the new one. -/
theorem countP_set_add {α : Type*} (p : α → Bool) (parties : List α) (i : ℕ) (old new : α)
    (h : parties[i]? = some old) :
    (parties.set i new).countP p + (p old).toNat = parties.countP p + (p new).toNat := by
  induction parties generalizing i with
  | nil => cases h
  | cons party rest ih =>
    cases i with
    | zero =>
      obtain rfl : party = old := Option.some.inj h
      rw [List.set_cons_zero, List.countP_cons, List.countP_cons]
      cases p party <;> cases p new <;> simp
    | succ i =>
      have hrest := ih i h
      rw [List.set_cons_succ, List.countP_cons, List.countP_cons]
      omega

theorem countP_set_of_eq {α : Type*} (p : α → Bool) (parties : List α) (i : ℕ) (old new : α)
    (h : parties[i]? = some old) (hsame : p new = p old) :
    (parties.set i new).countP p = parties.countP p := by
  have hmoved := countP_set_add p parties i old new h
  rw [hsame] at hmoved
  omega

end RedisBridge.TransitionRuns
